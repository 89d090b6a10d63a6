import Mathlib.Tactic.SplitIfs
import StoryMend.Json.Reading

/-!
What the readers of strings, numbers and words make of texts as they are written.  A string
is written with escapes and read back byte by byte, and the bytes it was made of decode to
it; a number is written by its digits, which are told from what follows because no digit
follows a value.
-/

namespace StoryMend.Json

/-- The bytes of some characters. -/
def utf8 (l : List Char) : List UInt8 := l.flatMap String.utf8EncodeChar

section Bytes

@[simp]
theorem utf8_nil : utf8 [] = [] := rfl

@[simp]
theorem utf8_append (l m : List Char) : utf8 (l ++ m) = utf8 l ++ utf8 m :=
  List.flatMap_append

theorem utf8_cons (x : Char) (l : List Char) : utf8 (x :: l) = String.utf8EncodeChar x ++ utf8 l :=
  List.flatMap_cons

theorem toNat_byte {x : Char} (hx : x.toNat < 128) : (byte x).toNat = x.toNat := by
  rw [byte, Nat.toUInt8, UInt8.toNat_ofNat']
  omega

/-- One of the first 128 characters is one byte. -/
theorem utf8EncodeChar_of_lt {x : Char} (hx : x.toNat < 128) :
    String.utf8EncodeChar x = [byte x] := by
  have hval : x.val.toNat ≤ 127 := Nat.lt_succ_iff.1 hx
  simp only [String.utf8EncodeChar, hval, ↓reduceIte]
  rfl

theorem utf8_cons_of_lt {x : Char} (hx : x.toNat < 128) (l : List Char) :
    utf8 (x :: l) = byte x :: utf8 l := by
  rw [utf8_cons, utf8EncodeChar_of_lt hx, List.singleton_append]

theorem utf8_of_forall_lt {l : List Char} (hl : ∀ x ∈ l, x.toNat < 128) :
    utf8 l = l.map byte := by
  induction l with
  | nil => rfl
  | cons x l ih =>
      rw [utf8_cons_of_lt (hl x (by simp)), ih fun y hy => hl y (by simp [hy]), List.map_cons]

/-- The bytes of any other character are none of the first 128. -/
theorem le_of_mem_utf8EncodeChar {x : Char} (hx : 128 ≤ x.toNat) {b : UInt8}
    (hb : b ∈ String.utf8EncodeChar x) : 128 ≤ b.toNat := by
  have hval : ¬x.val.toNat ≤ 127 := Nat.not_le.2 hx
  simp only [String.utf8EncodeChar, hval, ↓reduceIte] at hb
  split at hb
  · simp only [List.mem_cons, List.not_mem_nil, or_false] at hb
    rcases hb with rfl | rfl <;> simp only [UInt8.toNat_ofNat'] <;> omega
  · split at hb
    · simp only [List.mem_cons, List.not_mem_nil, or_false] at hb
      rcases hb with rfl | rfl | rfl <;> simp only [UInt8.toNat_ofNat'] <;> omega
    · simp only [List.mem_cons, List.not_mem_nil, or_false] at hb
      rcases hb with rfl | rfl | rfl | rfl <;> simp only [UInt8.toNat_ofNat'] <;> omega

/-- The bytes of some characters decode to them. -/
theorem fromUTF8?_utf8 (l : List Char) :
    String.fromUTF8? (utf8 l).toByteArray = some (String.ofList l) := by
  have hvalid : (utf8 l).toByteArray.IsValidUTF8 := ⟨l, rfl⟩
  rw [String.fromUTF8?, dif_pos hvalid]
  rfl

theorem toList_loop (bytes : ByteArray) (i : Nat) (read : List UInt8) :
    ByteArray.toList.loop bytes i read = read.reverse ++ bytes.data.toList.drop i := by
  fun_induction ByteArray.toList.loop bytes i read with
  | case1 i read hi ih =>
      have hlength : i < bytes.data.toList.length := hi
      have hget : bytes.get! i = bytes.data.toList[i] := by
        show bytes.data[i]! = bytes.data[i]
        exact getElem!_pos bytes.data i hi
      rw [ih, List.drop_eq_getElem_cons hlength, hget, List.reverse_cons, List.append_assoc,
        List.singleton_append]
  | case2 i read hi =>
      rw [List.drop_eq_nil_of_le (Nat.not_lt.1 hi), List.append_nil]

/-- The bytes of a value's text are those of its characters. -/
theorem toList_toUTF8_text (j : Json) : j.text.toUTF8.toList = utf8 j.write := by
  rw [ByteArray.toList, toList_loop]
  exact List.toList_data_toByteArray

end Bytes

namespace Cursor

variable (c : Cursor)

@[simp]
theorem rest_advance : c.advance.rest = c.rest.tail := by
  rw [advance]
  split
  · next h => simp [h]
  · next b rest h =>
      rw [h, List.tail_cons]
      split <;> rfl

@[simp]
theorem rest_advanceBy (n : Nat) : (c.advanceBy n).rest = c.rest.drop n := by
  induction n generalizing c with
  | zero => rfl
  | succ n ih => rw [advanceBy, ih, rest_advance, List.drop_tail]

variable {c} {b : UInt8} {rest : List UInt8}

theorem peek?_of_rest (h : c.rest = b :: rest) : c.peek? = some b := by
  rw [peek?, h, List.head?_cons]

/-- Where no blank comes next, none is skipped. -/
theorem skipBlanks_of_rest (h : c.rest = b :: rest) (hb : isBlank b = false) :
    c.skipBlanks = c := by
  rw [skipBlanks, h, List.takeWhile_cons_of_neg (by simp [hb])]
  rfl

end Cursor

section Words

/-- Reads a word that stands there. -/
theorem readWord_of_rest (word : List Char) {c : Cursor} {rest : List UInt8}
    (h : c.rest = word.map byte ++ rest) :
    ∃ after, readWord word c = .ok after ∧ after.rest = rest := by
  induction word generalizing c with
  | nil => exact ⟨c, rfl, h⟩
  | cons x word ih =>
      obtain ⟨after, hread, hafter⟩ := ih (c := c.advance) (by rw [Cursor.rest_advance, h]; rfl)
      refine ⟨after, ?_, hafter⟩
      simp only [readWord, Cursor.peek?_of_rest h, ↓reduceIte, hread]

end Words

section Strings

/-- A byte that stands for itself within a string. -/
def IsPlain (b : UInt8) : Prop := b ≠ byte '"' ∧ b ≠ byte '\\' ∧ ¬b < 32

theorem readStringFrom_plain {bytes : List UInt8} (hplain : ∀ b ∈ bytes, IsPlain b)
    (read : List UInt8) {c : Cursor} {rest : List UInt8} (h : c.rest = bytes ++ rest)
    (fuel : Nat) :
    readStringFrom read c (fuel + bytes.length) =
      readStringFrom (bytes.reverse ++ read) (c.advanceBy bytes.length) fuel := by
  induction bytes generalizing read c with
  | nil => rfl
  | cons b bytes ih =>
      obtain ⟨hquote, hslash, hcontrol⟩ := hplain b (by simp)
      have hrest : c.advance.rest = bytes ++ rest := by rw [Cursor.rest_advance, h]; rfl
      rw [List.length_cons, ← Nat.add_assoc, readStringFrom]
      simp only [Cursor.peek?_of_rest h, hquote, hslash, hcontrol, ↓reduceIte]
      rw [ih (fun b hb => hplain b (by simp [hb])) (b :: read) hrest, List.reverse_cons,
        List.append_assoc, List.singleton_append]
      rfl

/-- Whatever is written after a backslash for a character is read as that character. -/
def IsEscapeOf (e : List Char) (x : Char) : Prop :=
  ∀ c rest, Cursor.rest c = utf8 e ++ rest →
    ∃ after, readEscape c = .ok (x, after) ∧ after.rest = rest

theorem isEscapeOf_letter {x y : Char} (hx : x.toNat < 128)
    (hsimple : simpleEscape? (byte x) = some y) : IsEscapeOf [x] y := by
  intro c rest h
  rw [utf8_cons_of_lt hx] at h
  refine ⟨c.advance, ?_, by rw [Cursor.rest_advance, h]; rfl⟩
  simp only [readEscape, Cursor.peek?_of_rest h, hsimple]

/-- The digits of a control character are read as its number. -/
theorem isEscapeOf_digits {n : Nat} (hn : n < 32) :
    IsEscapeOf ['u', '0', '0', hexDigit (n / 16), hexDigit (n % 16)] (Char.ofNat n) := by
  have hbytes : utf8 ['u', '0', '0', hexDigit (n / 16), hexDigit (n % 16)] =
      [byte 'u', byte '0', byte '0', byte (hexDigit (n / 16)), byte (hexDigit (n % 16))] := by
    have hhex : ∀ m < 16, (hexDigit m).toNat < 128 := by decide
    refine utf8_of_forall_lt ?_
    simp only [List.forall_mem_cons]
    exact ⟨by decide, by decide, by decide, hhex _ (by omega), hhex _ (by omega), by simp⟩
  have hdigits : [byte '0', byte '0', byte (hexDigit (n / 16)),
      byte (hexDigit (n % 16))].mapM hexValue? = some [0, 0, n / 16, n % 16] := by
    revert n
    decide
  have hletter : simpleEscape? (byte 'u') = none := by decide
  intro c rest h
  rw [hbytes] at h
  have hrest : c.advance.rest = byte '0' :: byte '0' :: byte (hexDigit (n / 16)) ::
      byte (hexDigit (n % 16)) :: rest := by rw [Cursor.rest_advance, h]; rfl
  have hvalue : [0, 0, n / 16, n % 16].foldl (fun n d => 16 * n + d) 0 = n := by
    simp only [List.foldl_cons, List.foldl_nil]
    omega
  have hlow : ¬(0xDC00 ≤ n ∧ n ≤ 0xDFFF) := by omega
  have hpair : n < 0xD800 ∨ 0xDBFF < n := by omega
  refine ⟨c.advance.advanceBy 4, ?_, by rw [Cursor.rest_advanceBy, hrest]; rfl⟩
  simp only [readEscape, Cursor.peek?_of_rest h, hletter, ↓reduceIte, readHex, hrest, hdigits,
    hvalue, readPair, hlow, hpair]

/-- A character is written as itself, in plain bytes, or as an escape of it. -/
theorem escape_cases (x : Char) :
    (escape x = [x] ∧ ∀ b ∈ String.utf8EncodeChar x, IsPlain b) ∨
      ∃ e, escape x = '\\' :: e ∧ IsEscapeOf e x := by
  have hof : ∀ n, x.toNat = n → x = Char.ofNat n := by
    rintro n rfl
    exact (Char.ofNat_toNat x).symm
  rw [escape]
  by_cases hquote : x = '"'
  · subst hquote
    exact Or.inr ⟨_, rfl, isEscapeOf_letter (by decide) (by decide)⟩
  by_cases hslash : x = '\\'
  · subst hslash
    exact Or.inr ⟨_, rfl, isEscapeOf_letter (by decide) (by decide)⟩
  simp only [beq_iff_eq, hquote, hslash, ↓reduceIte]
  split_ifs with h₁ h₂ h₃ h₄ h₅ hcontrol
  · exact Or.inr ⟨_, rfl, hof _ h₁ ▸ isEscapeOf_letter (by decide) (by decide)⟩
  · exact Or.inr ⟨_, rfl, hof _ h₂ ▸ isEscapeOf_letter (by decide) (by decide)⟩
  · exact Or.inr ⟨_, rfl, hof _ h₃ ▸ isEscapeOf_letter (by decide) (by decide)⟩
  · exact Or.inr ⟨_, rfl, hof _ h₄ ▸ isEscapeOf_letter (by decide) (by decide)⟩
  · exact Or.inr ⟨_, rfl, hof _ h₅ ▸ isEscapeOf_letter (by decide) (by decide)⟩
  · have hdigits := isEscapeOf_digits hcontrol
    rw [Char.ofNat_toNat] at hdigits
    exact Or.inr ⟨_, rfl, hdigits⟩
  · refine Or.inl ⟨rfl, fun b hb => ?_⟩
    by_cases hx : x.toNat < 128
    · rw [utf8EncodeChar_of_lt hx, List.mem_singleton] at hb
      have hnat : b.toNat = x.toNat := hb ▸ toNat_byte hx
      refine ⟨?_, ?_, ?_⟩
      · rintro rfl
        exact hquote (hof 34 hnat.symm)
      · rintro rfl
        exact hslash (hof 92 hnat.symm)
      · rw [UInt8.lt_iff_toNat_lt, hnat]
        exact hcontrol
    · have hle := le_of_mem_utf8EncodeChar (Nat.not_lt.1 hx) hb
      refine ⟨?_, ?_, ?_⟩
      · rintro rfl
        exact absurd hle (by decide)
      · rintro rfl
        exact absurd hle (by decide)
      · rw [UInt8.lt_iff_toNat_lt]
        exact Nat.not_lt.2 (Nat.le_trans (by decide) hle)

/-- Characters that are written between quotes are read back. -/
theorem readStringFrom_escape (l : List Char) (read : List UInt8) {c : Cursor}
    {rest : List UInt8} (h : c.rest = utf8 (l.flatMap escape) ++ byte '"' :: rest) (fuel : Nat)
    (hfuel : (utf8 (l.flatMap escape)).length < fuel) :
    ∃ after, readStringFrom read c fuel = .ok (read.reverse ++ utf8 l, after) ∧
      after.rest = byte '"' :: rest := by
  induction l generalizing read c fuel with
  | nil =>
      obtain ⟨fuel, rfl⟩ : ∃ k, fuel = k + 1 := ⟨fuel - 1, by omega⟩
      refine ⟨c, ?_, h⟩
      have hpeek : c.peek? = some (byte '"') := Cursor.peek?_of_rest h
      simp only [readStringFrom, hpeek, ↓reduceIte, utf8_nil, List.append_nil]
  | cons x l ih =>
      rw [List.flatMap_cons, utf8_append] at h hfuel
      rw [List.append_assoc] at h
      rw [List.length_append] at hfuel
      rcases escape_cases x with ⟨hself, hplain⟩ | ⟨e, hescape, he⟩
      · have hbytes : utf8 [x] = String.utf8EncodeChar x := by simp [utf8]
        rw [hself, hbytes] at h hfuel
        obtain ⟨k, rfl⟩ : ∃ k, fuel = k + (String.utf8EncodeChar x).length :=
          ⟨fuel - (String.utf8EncodeChar x).length, by omega⟩
        obtain ⟨after, hread, hafter⟩ := ih ((String.utf8EncodeChar x).reverse ++ read)
          (c := c.advanceBy (String.utf8EncodeChar x).length)
          (by rw [Cursor.rest_advanceBy, h, List.drop_left]) k (by omega)
        refine ⟨after, ?_, hafter⟩
        rw [readStringFrom_plain hplain read h, hread, utf8_cons]
        simp
      · rw [hescape, utf8_cons_of_lt (by decide), List.cons_append] at h
        rw [hescape, utf8_cons_of_lt (by decide), List.length_cons] at hfuel
        obtain ⟨fuel, rfl⟩ : ∃ k, fuel = k + 1 := ⟨fuel - 1, by omega⟩
        obtain ⟨between, hread, hbetween⟩ := he c.advance _ (by rw [Cursor.rest_advance, h]; rfl)
        obtain ⟨after, hmore, hafter⟩ := ih ((String.utf8EncodeChar x).reverse ++ read) hbetween
          fuel (by omega)
        refine ⟨after, ?_, hafter⟩
        have hslash : byte '\\' ≠ byte '"' := by decide
        simp only [readStringFrom, Cursor.peek?_of_rest h, hslash, ↓reduceIte, hread, hmore,
          utf8_cons]
        simp

/-- A string that is written between quotes is read back from after the first quote. -/
theorem readString_quote (s : String) {c : Cursor} {rest : List UInt8}
    (h : c.rest = utf8 (s.toList.flatMap escape) ++ byte '"' :: rest) :
    ∃ after, readString c = .ok (s, after) ∧ after.rest = rest := by
  obtain ⟨after, hread, hafter⟩ := readStringFrom_escape s.toList [] h
    (c.rest.length + 1) (by simp only [h, List.length_append]; omega)
  refine ⟨after.advance, ?_, by rw [Cursor.rest_advance, hafter, List.tail_cons]⟩
  simp only [readString, hread, List.reverse_nil, List.nil_append, fromUTF8?_utf8,
    String.ofList_toList]

theorem utf8_quote (s : String) :
    utf8 (quote s) = byte '"' :: (utf8 (s.toList.flatMap escape) ++ [byte '"']) := by
  rw [quote, utf8_append, utf8_append]
  rfl

end Strings

/-- What can follow a value within a list or an object, or after it. -/
def CanFollow (rest : List UInt8) : Prop :=
  ∀ b ∈ rest.head?, b = byte ',' ∨ b = byte ']' ∨ b = byte '}'

section Numbers

/-- The bytes of the digits of a number. -/
def digits (n : Nat) : List UInt8 := (Nat.toDigits 10 n).map byte

theorem toNat_lt_of_mem_toDigits {n : Nat} {x : Char} (hx : x ∈ Nat.toDigits 10 n) :
    x.toNat < 128 := by
  have hdigit := Char.isDigit_iff_toNat.1
    (Nat.isDigit_of_mem_toDigits (by decide) (by decide) hx)
  have hle : x.toNat ≤ 57 := hdigit.2
  omega

theorem utf8_write_nat (n : Nat) : utf8 (nat n).write = digits n := by
  have hwrite : (nat n).write = Nat.toDigits 10 n := Nat.toList_repr
  rw [hwrite, utf8_of_forall_lt fun x hx => toNat_lt_of_mem_toDigits hx, digits]

theorem isDigit_of_mem_digits {n : Nat} {b : UInt8} (hb : b ∈ digits n) : isDigit b = true := by
  obtain ⟨x, hx, rfl⟩ := List.mem_map.1 hb
  have hdigit := Char.isDigit_iff_toNat.1
    (Nat.isDigit_of_mem_toDigits (by decide) (by decide) hx)
  simp only [isDigit, Bool.and_eq_true, decide_eq_true_eq, UInt8.le_iff_toNat_le,
    toNat_byte (toNat_lt_of_mem_toDigits hx)]
  exact hdigit

/-- More digits do not make a value smaller. -/
theorem le_ofDigitChars (l : List Char) (m : Nat) : m ≤ Nat.ofDigitChars 10 l m := by
  induction l generalizing m with
  | nil => exact Nat.le_refl m
  | cons x l ih =>
      rw [Nat.ofDigitChars_cons]
      refine Nat.le_trans ?_ (ih _)
      omega

/-- Digits are all taken if their value fits into 64 bits. -/
theorem takeDigits_map_byte {l : List Char} (hl : ∀ x ∈ l, x.toNat < 128) {m : Nat}
    (hfits : Nat.ofDigitChars 10 l m < UInt64.size) :
    takeDigits m (l.map byte) = (Nat.ofDigitChars 10 l m, []) := by
  induction l generalizing m with
  | nil => rfl
  | cons x l ih =>
      obtain ⟨hx, hrest⟩ := List.forall_mem_cons.1 hl
      have hnext : 10 * m + ((byte x).toNat - 48) = 10 * m + (x.toNat - '0'.toNat) := by
        rw [toNat_byte hx]
        rfl
      rw [Nat.ofDigitChars_cons] at hfits ⊢
      rw [List.map_cons, takeDigits, hnext,
        if_pos (Nat.lt_of_le_of_lt (le_ofDigitChars l _) hfits)]
      exact ih hrest hfits

/-- The digits of a number below 64 bits are all taken, and their value is the number. -/
theorem takeDigits_digits {n : Nat} (hn : n < UInt64.size) : takeDigits 0 (digits n) = (n, []) := by
  have hvalue : Nat.ofDigitChars 10 (Nat.toDigits 10 n) 0 = n := Nat.ofDigitChars_ten_toDigits
  have htaken := takeDigits_map_byte (l := Nat.toDigits 10 n) (m := 0)
    (fun x hx => toNat_lt_of_mem_toDigits hx) (by rwa [hvalue])
  rwa [hvalue] at htaken

/-- Only the digits of zero start with a zero. -/
theorem eq_zero_of_head?_digits {n : Nat} (h : (digits n).head? = some (byte '0')) : n = 0 := by
  induction n using Nat.strongRecOn with
  | ind n ih =>
      rw [digits, Nat.toDigits_eq_if (by decide)] at h
      split at h
      · next hn =>
          clear ih
          revert n
          decide
      · next hn =>
          have hhead : (digits (n / 10)).head? = some (byte '0') := by
            rwa [List.map_append, List.head?_append, Option.or_of_isSome] at h
            simp [Nat.toDigits_ne_nil]
          have hzero := ih (n / 10) (by omega) hhead
          omega

variable {c : Cursor} {rest : List UInt8}

theorem CanFollow.head?_ne (hrest : CanFollow rest) {b : UInt8}
    (hb : b ∉ [byte ',', byte ']', byte '}']) : rest.head? ≠ some b := by
  intro h
  rcases hrest b h with rfl | rfl | rfl <;> simp at hb

theorem CanFollow.isDigit (hrest : CanFollow rest) {b : UInt8} (hb : rest.head? = some b) :
    isDigit b = false := by
  rcases hrest b hb with rfl | rfl | rfl <;> decide

/-- No digit follows a value, so all digits of a number are read and nothing else is. -/
theorem readWhole_digits {n : Nat} (h : c.rest = digits n ++ rest) (hrest : CanFollow rest) :
    ∃ after, readWhole c = .ok (digits n, after) ∧ after.rest = rest := by
  obtain ⟨b, more, hdigits⟩ := List.exists_cons_of_ne_nil (l := digits n)
    (by simp [digits, Nat.toDigits_ne_nil])
  have hpeek : c.peek? = some b := Cursor.peek?_of_rest (h.trans (by rw [hdigits]; rfl))
  by_cases hzero : b = byte '0'
  · have hn : n = 0 := eq_zero_of_head?_digits (by rw [hdigits, hzero]; rfl)
    have hmore : more = [] := by
      subst hn
      exact (List.cons.inj hdigits).2.symm
    subst hmore
    have hafter : c.advance.rest = rest := by rw [Cursor.rest_advance, h, hdigits]; rfl
    refine ⟨c.advance, ?_, hafter⟩
    have hnone : c.advance.peek?.any isDigit = false := by
      rw [Cursor.peek?, hafter]
      cases hhead : rest.head? with
      | none => rfl
      | some x => exact hrest.isDigit hhead
    simp only [readWhole, hpeek, hzero, ↓reduceIte, hnone, Bool.false_eq_true, hdigits]
  · have hdigit : isDigit b = true := isDigit_of_mem_digits (n := n) (by simp [hdigits])
    have htake : c.rest.takeWhile isDigit = digits n := by
      have hstop : rest.takeWhile isDigit = [] := by
        cases rest with
        | nil => rfl
        | cons x rest => exact List.takeWhile_cons_of_neg (by simp [hrest.isDigit rfl])
      rw [h, List.takeWhile_append_of_pos fun x hx => isDigit_of_mem_digits hx, hstop,
        List.append_nil]
    refine ⟨c.advanceBy (digits n).length, ?_, by rw [Cursor.rest_advanceBy, h, List.drop_left]⟩
    simp only [readWhole, hpeek, hzero, hdigit, ↓reduceIte, readDigits, htake]

/-- A number of the machine's width is read back. -/
theorem readNumber_digits {n : Nat} (hn : n < UInt64.size) (h : c.rest = digits n ++ rest)
    (hrest : CanFollow rest) :
    ∃ after, readNumber false c = .ok (.natural n, after) ∧ after.rest = rest := by
  obtain ⟨after, hwhole, hafter⟩ := readWhole_digits h hrest
  refine ⟨after, ?_, hafter⟩
  have hnot : ∀ b, b ∉ [byte ',', byte ']', byte '}'] → after.peek? ≠ some b := by
    intro b hb
    rw [Cursor.peek?, hafter]
    exact hrest.head?_ne hb
  have hpoint : after.peek? ≠ some (byte '.') := hnot _ (by decide)
  have hexponent : ¬(after.peek? = some (byte 'e') ∨ after.peek? = some (byte 'E')) :=
    not_or.2 ⟨hnot _ (by decide), hnot _ (by decide)⟩
  simp only [readNumber, hwhole, readFraction, hpoint, ↓reduceIte, readExponent, hexponent,
    takeDigits_digits hn, Option.isNone_none, List.isEmpty_nil, Bool.and_self, Bool.not_false]

end Numbers

end StoryMend.Json
