import StoryMend.Text.Line

/-!
The names of servers in their normal form: domain names in lower case, and addresses
of four or eight numbers.  Names with other characters than the first 128 take tables
of their own and are not read here.
-/

namespace StoryMend.Http

open Text

/-- What reads the name of a server as it stands in an address: the normal form of the
name, if it is one. -/
abbrev HostReader := List Char → Option (List Char)

namespace Host

/-- The value of a digit of a number with the given base. -/
def digit? (base : Nat) (c : Char) : Option Nat :=
  let value :=
    if c.isDigit then some (c.toNat - 48)
    else if c.isAlpha then some (c.toLower.toNat - 87)
    else none
  value.filter (· < base)

/-- The value of digits. -/
def number? (base : Nat) (digits : List Char) : Option Nat :=
  digits.foldlM (fun n c => (digit? base c).map (base * n + ·)) 0

/-- The digits of a number, in lower case. -/
def digits (base n : Nat) : List Char := Nat.toDigits base n

/-! ### Four numbers -/

/-- A number of an address of four: in base sixteen after `0x`, in base eight after
another zero. -/
def part? : List Char → Option Nat
  | [] => none
  | '0' :: 'x' :: rest | '0' :: 'X' :: rest => number? 16 rest
  | '0' :: c :: rest => number? 8 (c :: rest)
  | s => number? 10 s

/-- The parts of a name between points, without an empty one at the end. -/
def parts (s : List Char) : List (List Char) :=
  let all := splitWhere (· == '.') s
  if all.getLast? = some [] then all.dropLast else all

/-- Whether a name ends in a number, so that it has to be an address. -/
def endsInNumber (s : List Char) : Bool :=
  match (parts s).getLast? with
  | none => false
  | some last => (!last.isEmpty && last.all Char.isDigit) || (part? last).isSome

/-- The value of an address of up to four numbers; the last one fills all bytes that are
left. -/
def fourNumbers? (s : List Char) : Option Nat :=
  match (parts s).mapM part? with
  | none => none
  | some numbers =>
    let front := numbers.dropLast
    let last := numbers.getLast?.getD 0
    let free := 4 - front.length
    if 3 < front.length || !front.all (· < 256) || Nat.pow 256 free ≤ last then none
    else some (front.foldl (fun n b => 256 * n + b) 0 * Nat.pow 256 free + last)

/-- Four bytes as an address. -/
def writeFour (n : Nat) : List Char :=
  join ['.'] ([n / Nat.pow 256 3, n / Nat.pow 256 2 % 256, n / 256 % 256, n % 256].map (digits 10))

/-! ### Eight numbers -/

/-- A group of an address of eight: up to four digits in base sixteen. -/
def group? (s : List Char) : Option Nat := if s.isEmpty || 4 < s.length then none else number? 16 s

/-- A byte without zeros before it. -/
def byte? (s : List Char) : Option Nat :=
  if s.isEmpty || (s.head? = some '0' && 1 < s.length) then none
  else (number? 10 s).filter (· < 256)

/-- Four bytes as two groups. -/
def pair? (s : List Char) : Option (List Nat) :=
  match (splitWhere (· == '.') s).mapM byte? with
  | some [a, b, c, d] => some [256 * a + b, 256 * c + d]
  | _ => none

/-- The numbers of groups between colons; the last group may be four bytes, where
`bytesLast` allows it. -/
def groups? (bytesLast : Bool) : List (List Char) → Option (List Nat)
  | [] => some []
  | [s] => if bytesLast && s.contains '.' then pair? s else (group? s).map ([·])
  | s :: rest => (group? s).bind fun n => (groups? bytesLast rest).map (n :: ·)

/-- The numbers of a text that may be empty. -/
def numbers? (bytesLast : Bool) (s : List Char) : Option (List Nat) :=
  if s.isEmpty then some [] else groups? bytesLast (splitWhere (· == ':') s)

/-- What stands before and after the first two colons in a row. -/
def halves? : List Char → Option (List Char × List Char)
  | [] => none
  | c :: rest =>
    match c, rest with
    | ':', ':' :: rest => some ([], rest)
    | c, rest => (halves? rest).map fun (front, back) => (c :: front, back)

/-- The eight numbers of an address; two colons in a row stand for as many zeros as are
missing. -/
def eightNumbers? (s : List Char) : Option (List Nat) :=
  match halves? s with
  | none => (numbers? true s).filter (·.length = 8)
  | some (front, back) =>
    match numbers? false front, numbers? true back with
    | some front, some back =>
      if front.length + back.length < 8 then
        some (front ++ List.replicate (8 - front.length - back.length) 0 ++ back)
      else none
    | _, _ => none

/-- How many zeros a list starts with. -/
def zerosAtStart (l : List Nat) : Nat := (l.takeWhile (· == 0)).length

/-- The place and the length of the longest row of zeros, the first one of several. -/
def longestZeros (place : Nat) : List Nat → Nat × Nat
  | [] => (place, 0)
  | n :: rest =>
    let here := zerosAtStart (n :: rest)
    let (later, length) := longestZeros (place + 1) rest
    if length ≤ here then (place, here) else (later, length)

/-- Eight numbers as an address. -/
def writeEight (numbers : List Nat) : List Char :=
  let write := fun l => join [':'] (l.map (digits 16))
  let (place, length) := longestZeros 0 numbers
  if length < 2 then write numbers
  else write (numbers.take place) ++ [':', ':'] ++ write (numbers.drop (place + length))

/-! ### Names -/

/-- A name with the bytes in place of their percent codes, if it is made of the first 128
characters. -/
def decoded? : List Char → Option (List Char)
  | [] => some []
  | c :: rest =>
    if 127 < c.toNat then none
    else
      match c, rest with
      | '%', a :: b :: rest =>
        match digit? 16 a, digit? 16 b with
        | some m, some n =>
          if m < 8 then (decoded? rest).map (Char.ofNat (16 * m + n) :: ·) else none
        | _, _ => (decoded? (a :: b :: rest)).map ('%' :: ·)
      | c, rest => (decoded? rest).map (c :: ·)

/-- Whether a character may stand in a name. -/
def isNameChar (c : Char) : Bool :=
  32 < c.toNat && c.toNat < 127 && !"#/:<>?@[\\]^|%".toList.contains c

/-- The normal form of a name that has been decoded. -/
def normalName? (s : List Char) : Option (List Char) :=
  let name := s.map Char.toLower
  if name.isEmpty || !name.all isNameChar then none
  else if endsInNumber name then (fourNumbers? name).map writeFour
  else some name

end Host

/-- Reads the name of a server. -/
def readHost? : HostReader := fun s =>
  if s.any (·.toNat ≤ 32) then none
  else
    match s with
    | '[' :: rest =>
      if rest.getLast? = some ']' then
        (Host.eightNumbers? rest.dropLast).map fun numbers => '[' :: Host.writeEight numbers ++ [']']
      else none
    | s => (Host.decoded? s).bind Host.normalName?

end StoryMend.Http
