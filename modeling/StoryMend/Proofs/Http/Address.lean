import Mathlib.Data.List.TakeWhile
import StoryMend.Http.Address
import StoryMend.Proofs.Http.Host
import StoryMend.Proofs.Text.Blank

/-!
Which server an address names.  The part of an address that names the server stands between the
slashes after the scheme and the next character that ends it; a slash does, so a path that is
appended changes nothing unless this part is empty (`authority_append`).  How the name itself is
read does not matter for this, so any lawful reader of names will do.
-/

namespace StoryMend.Http.Address

open Text

/-- The server that an address names: how, under which name, and at which port.  What stands
before an at sign proves a right, and names no server. -/
def server (a : Address) : String × String × Option Nat := (a.scheme, a.host, a.port)

/-- Whether a character may stand between a scheme and the name of a server. -/
def isSlash (c : Char) : Bool := c == '/' || c == '\\'

/-- Whether a character of an address counts. -/
def isKept (c : Char) : Bool := !(c == '\t' || c == '\n' || c == '\r')

/-- A text without the tabs and line breaks in it, and without controls and spaces around it. -/
def cleared (s : List Char) : List Char :=
  dropWhileEnd (·.toNat ≤ 32) ((s.dropWhile (·.toNat ≤ 32)).filter isKept)

/-- The part of an address that names the server, in what follows the scheme. -/
def authority (s : List Char) : List Char := (s.dropWhile isSlash).takeWhile (!endsAuthority ·)

/-- The scheme of an address and the part of it that names the server, as they are written. -/
def origin (text : String) : List Char × List Char :=
  let (scheme, rest) := cut (· == ':') (cleared text.toList)
  (scheme, authority (rest.drop 1))

/-- The name and the port of the server in this part, if it is well formed. -/
def server? (hosts : HostReader) (scheme : String) (authority : List Char) :
    Option (String × Option Nat) :=
  let named := cutHost false (authority.reverse.takeWhile (· != '@')).reverse
  if named.1.isEmpty then none
  else
    (hosts named.1).bind fun host =>
      (port? scheme (named.2.drop 1)).map (String.ofList host, ·)

variable (hosts : HostReader)

/-- An address names the server that stands in its part for servers. -/
theorem map_server_readFrom? (scheme : String) (s : List Char) :
    (readFrom? hosts scheme s).map server =
      (server? hosts scheme (authority s)).map (scheme, ·) := by
  rw [readFrom?, server?]
  dsimp only
  have hauthority : (cut endsAuthority (s.dropWhile fun c => c == '/' || c == '\\')).1 =
      authority s := rfl
  rw [hauthority]
  generalize cutHost false ((authority s).reverse.takeWhile (· != '@')).reverse = named
  split
  · rfl
  · cases hosts named.1 with
    | none => rfl
    | some host => cases port? scheme (named.2.drop 1) <;> rfl

/-- A text is cut after its scheme, however it is cleared before. -/
theorem cut_cleared {scheme : List Char} (hlow : scheme.all (32 < ·.toNat) = true)
    (hcolon : scheme.all (fun c => !(c == ':')) = true) (rest : List Char) :
    cut (· == ':') (cleared (scheme ++ ':' :: rest)) =
      (scheme, ':' :: dropWhileEnd (·.toNat ≤ 32) (rest.filter isKept)) := by
  rw [List.all_eq_true] at hlow hcolon
  have hstart : (scheme ++ ':' :: rest).dropWhile (·.toNat ≤ 32) = scheme ++ ':' :: rest := by
    cases scheme with
    | nil => rfl
    | cons c scheme =>
        have hc := hlow c List.mem_cons_self
        exact List.dropWhile_cons_of_neg (by simpa using hc)
  have hkept : scheme.filter isKept = scheme := by
    refine List.filter_eq_self.2 fun c hc => ?_
    have hhigh := hlow c hc
    simp only [isKept, Bool.not_eq_true', Bool.or_eq_false_iff, beq_eq_false_iff_ne]
    refine ⟨⟨?_, ?_⟩, ?_⟩ <;>
      · rintro rfl
        exact absurd hhigh (by decide)
  rw [cleared, hstart, List.filter_append, hkept, List.filter_cons_of_pos (by decide),
    dropWhileEnd_append_cons scheme (by decide), cut, List.takeWhile_append_of_pos hcolon,
    List.dropWhile_append_of_pos hcolon, List.takeWhile_cons_of_neg (by decide),
    List.dropWhile_cons_of_neg (by decide), List.append_nil]

section

variable {scheme : String} (h : scheme = "http" ∨ scheme = "https") (rest : List Char)

include h

theorem cut_cleared_of_scheme :
    cut (· == ':') (cleared (scheme.toList ++ ':' :: rest)) =
      (scheme.toList, ':' :: dropWhileEnd (·.toNat ≤ 32) (rest.filter isKept)) := by
  rcases h with rfl | rfl
  · exact cut_cleared rfl rfl rest
  · exact cut_cleared rfl rfl rest

/-- What stands before the first colon of an address is its scheme. -/
theorem origin_of_scheme :
    origin (String.ofList (scheme.toList ++ ':' :: rest)) =
      (scheme.toList, authority (dropWhileEnd (·.toNat ≤ 32) (rest.filter isKept))) := by
  rw [origin, String.toList_ofList, cut_cleared_of_scheme h]
  rfl

/-- What an address is read to name depends on where it comes from only. -/
theorem map_server_read? {text : String}
    (htext : text = String.ofList (scheme.toList ++ ':' :: rest)) :
    (read? text hosts).map server = (server? hosts scheme (origin text).2).map (scheme, ·) := by
  have hcut := cut_cleared_of_scheme h rest
  unfold cleared isKept at hcut
  rw [htext, origin_of_scheme h, ← map_server_readFrom?, read?, String.toList_ofList]
  unfold isKept
  simp only [hcut]
  rcases h with rfl | rfl <;> rfl

end

/-! ### Paths that are appended -/

/-- Elements that come after a list do not matter if the first of them does not count. -/
theorem takeWhile_append_of_head {α : Type} {p : α → Bool} (s : List α) {rest : List α}
    (hrest : ∀ c ∈ rest.head?, p c = false) : (s ++ rest).takeWhile p = s.takeWhile p := by
  induction s with
  | nil =>
      cases rest with
      | nil => rfl
      | cons c rest =>
          rw [List.nil_append, List.takeWhile_cons_of_neg (by simp [hrest c rfl]),
            List.takeWhile_nil]
  | cons c s ih =>
      rw [List.cons_append, List.takeWhile_cons, List.takeWhile_cons, ih]

/-- What comes after a slash does not name the server, if something before it does. -/
theorem authority_append {s rest : List Char} (hs : ∃ c ∈ s, isSlash c = false)
    (hrest : ∀ c ∈ rest.head?, c = '/') : authority (s ++ rest) = authority s := by
  obtain ⟨c, hc, hslash⟩ := hs
  have hsome : (s.dropWhile isSlash).isEmpty = false := by
    rw [List.isEmpty_eq_false_iff, Ne, List.dropWhile_eq_nil_iff]
    intro hall
    rw [hall c hc] at hslash
    cases hslash
  rw [authority, List.dropWhile_append, hsome, if_neg Bool.false_ne_true]
  refine takeWhile_append_of_head _ fun d hd => ?_
  rw [hrest d hd]
  rfl

/-- Where nothing names the server, the first part of the path that is appended does. -/
theorem authority_append_of_slashes {s : List Char} (hs : ∀ c ∈ s, isSlash c = true)
    (rest : List Char) : authority (s ++ rest) = authority rest := by
  rw [authority, List.dropWhile_append_of_pos hs, authority]

/-! ### Controls and spaces at the end -/

/-- A control ends no port. -/
theorem port?_concat_of_low (scheme : String) (s : List Char) {c : Char} (hc : c.toNat ≤ 32) :
    port? scheme (s ++ [c]) = none := by
  have hdigit : c.isDigit = false := by
    rw [Bool.eq_false_iff, Ne, Char.isDigit_iff_toNat]
    rintro ⟨hlow, -⟩
    have hzero : '0'.toNat = 48 := rfl
    omega
  simp [port?, hdigit]

theorem cutHost_cons (inBrackets : Bool) (c : Char) (rest : List Char) :
    cutHost inBrackets (c :: rest) =
      let later := cutHost (c == '[' || (inBrackets && c != ']')) rest
      if c == ':' && !inBrackets then ([], c :: rest) else (c :: later.1, later.2) := rfl

variable {hosts}

/-- A character other than a colon at the end belongs to the port, if there is one, and to the name
otherwise. -/
theorem cutHost_concat (inBrackets : Bool) (s : List Char) {c : Char} (hc : (c == ':') = false) :
    cutHost inBrackets (s ++ [c]) =
      if (cutHost inBrackets s).2 = [] then ((cutHost inBrackets s).1 ++ [c], [])
      else ((cutHost inBrackets s).1, (cutHost inBrackets s).2 ++ [c]) := by
  induction s generalizing inBrackets with
  | nil => simp [cutHost, hc]
  | cons d s ih =>
      rw [List.cons_append, cutHost_cons, cutHost_cons, ih]
      cases d == ':' && !inBrackets with
      | true => simp
      | false =>
          generalize cutHost (d == '[' || (inBrackets && d != ']')) s = later
          by_cases hport : later.2 = [] <;> simp [hport]

/-- A control ends no name of a server. -/
theorem server?_concat_of_low (hlawful : hosts.Lawful) (scheme : String) (s : List Char) {c : Char}
    (hc : c.toNat ≤ 32) : server? hosts scheme (s ++ [c]) = none := by
  have hat : (c != '@') = true := by
    rw [bne_iff_ne]
    rintro rfl
    exact absurd hc (by decide)
  have hnamed : ((s ++ [c]).reverse.takeWhile (· != '@')).reverse =
      (s.reverse.takeWhile (· != '@')).reverse ++ [c] := by
    rw [List.reverse_append, List.reverse_singleton, List.singleton_append, List.takeWhile_cons,
      if_pos hat, List.reverse_cons]
  have hcolon : (c == ':') = false := by
    rw [beq_eq_false_iff_ne]
    rintro rfl
    exact absurd hc (by decide)
  rw [server?, hnamed]
  generalize (s.reverse.takeWhile (· != '@')).reverse = named
  rw [cutHost_concat false named hcolon]
  by_cases hport : (cutHost false named).2 = []
  · -- The control ends the name itself.
    have hnone : hosts ((cutHost false named).1 ++ [c]) = none :=
      hlawful.none_of_low (List.mem_append_right _ (List.mem_singleton_self c)) hc
    simp [hport, hnone]
  · -- The control ends the port.
    obtain ⟨d, port, hd⟩ := List.exists_cons_of_ne_nil hport
    have hnone : port? scheme (((cutHost false named).2 ++ [c]).drop 1) = none := by
      rw [hd]
      exact port?_concat_of_low scheme port hc
    simp only [if_neg hport, hnone, Option.map_none]
    split
    · rfl
    · exact Option.bind_eq_none_iff.2 fun _ _ => rfl

theorem server?_append_of_low (hlawful : hosts.Lawful) (scheme : String) (s : List Char)
    {lows : List Char} (hlows : ∀ c ∈ lows, c.toNat ≤ 32) (hne : lows ≠ []) :
    server? hosts scheme (s ++ lows) = none := by
  obtain ⟨front, c, rfl⟩ := List.eq_nil_or_concat lows |>.resolve_left hne
  rw [List.concat_eq_append, ← List.append_assoc]
  exact server?_concat_of_low hlawful scheme (s ++ front) (hlows c (by simp))

/-- Controls at the end of an address stand in the part that names the server, or after it. -/
theorem authority_append_of_low (s : List Char) {lows : List Char}
    (hlows : ∀ c ∈ lows, c.toNat ≤ 32) :
    authority (s ++ lows) = authority s ∨ authority (s ++ lows) = authority s ++ lows := by
  have hslash : lows.dropWhile isSlash = lows := by
    cases lows with
    | nil => rfl
    | cons c lows =>
        refine List.dropWhile_cons_of_neg fun hc => ?_
        have hlow := hlows c List.mem_cons_self
        rw [isSlash, Bool.or_eq_true, beq_iff_eq, beq_iff_eq] at hc
        rcases hc with rfl | rfl
        · exact absurd hlow (by decide)
        · exact absurd hlow (by decide)
  have hends : lows.takeWhile (!endsAuthority ·) = lows := by
    refine List.takeWhile_eq_self_iff.2 fun c hc => ?_
    have hlow := hlows c hc
    rw [Bool.not_eq_true', Bool.eq_false_iff]
    intro hend
    simp only [endsAuthority, Bool.or_eq_true, beq_iff_eq] at hend
    rcases hend with ((rfl | rfl) | rfl) | rfl <;> exact absurd hlow (by decide)
  rw [authority, authority, List.dropWhile_append]
  split
  · rename_i hnil
    rw [List.isEmpty_iff.1 hnil, hslash, hends]
    exact .inr rfl
  · rw [List.takeWhile_append]
    split
    · rename_i hall
      rw [hends, (List.takeWhile_prefix _).eq_of_length hall]
      exact .inr rfl
    · exact .inl rfl

end StoryMend.Http.Address
