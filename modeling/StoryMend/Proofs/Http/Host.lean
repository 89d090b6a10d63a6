import Mathlib
import StoryMend.Http.Host
import StoryMend.Proofs.Text.Letter
import StoryMend.Proofs.Text.Runs

/-!
What every reader of names of servers has to do.  The development asks for two laws only
(`HostReader.Lawful`), and they hold for the reader that examples run with
(`lawful_readHost?`): it refuses controls and spaces before anything else, and a word of small
letters and digits goes through all of its steps unchanged.
-/

namespace StoryMend.Http

open Text

/-- Whether a character is a small letter or a digit of the first 128. -/
def isWordPart (c : Char) : Bool := c.isLower || c.isDigit

/-- What is asked of a reader of names. -/
structure HostReader.Lawful (hosts : HostReader) : Prop where
  /-- No control and no space stands in a name. -/
  none_of_low {s : List Char} {c : Char} (hc : c ∈ s) (hlow : c.toNat ≤ 32) : hosts s = none
  /-- A small letter, with small letters and digits after it, is a name in its normal form. -/
  some_of_word {c : Char} {s : List Char} (hc : c.isLower = true) (hs : s.all isWordPart = true) :
    hosts (c :: s) = some (c :: s)

namespace Host

/-- All steps of the reader leave a character as it is. -/
structure IsKept (c : Char) : Prop where
  high : 32 < c.toNat
  plain : c.toNat ≤ 127
  ne_percent : c ≠ '%'
  ne_point : c ≠ '.'
  ne_bracket : c ≠ '['
  toLower_eq : c.toLower = c
  isNameChar : isNameChar c = true

theorem isKept_of_isWordPart {c : Char} (hc : isWordPart c = true) : IsKept c := by
  have hplain : c.toNat < 128 := by
    simp only [isWordPart, Bool.or_eq_true, Char.isLower, Char.isDigit, Bool.and_eq_true,
      decide_eq_true_eq, UInt32.le_iff_toNat_le] at hc
    change (97 ≤ c.toNat ∧ c.toNat ≤ 122) ∨ (48 ≤ c.toNat ∧ c.toNat ≤ 57) at hc
    omega
  have hall := forall_plain (p := fun c => !isWordPart c ||
    (decide (32 < c.toNat) && decide (c.toNat ≤ 127) && c != '%' && c != '.' && c != '[' &&
      c.toLower == c && Host.isNameChar c)) (by decide +kernel) hplain
  obtain ⟨hhigh, hlow, hpercent, hpoint, hbracket, hlower, hname⟩ :
      32 < c.toNat ∧ c.toNat ≤ 127 ∧ c ≠ '%' ∧ c ≠ '.' ∧ c ≠ '[' ∧ c.toLower = c ∧
        Host.isNameChar c = true := by
    simpa [hc, and_assoc] using hall
  exact ⟨hhigh, hlow, hpercent, hpoint, hbracket, hlower, hname⟩

theorem decoded?_of_isKept {s : List Char} (hs : ∀ c ∈ s, IsKept c) : decoded? s = some s := by
  induction s with
  | nil => rfl
  | cons c s ih =>
      obtain ⟨hc, hs⟩ := List.forall_mem_cons.1 hs
      rw [decoded?, if_neg (Nat.not_lt.2 hc.plain), ih hs]
      · rfl
      · intro a b rest hcode
        exact absurd hcode hc.ne_percent

/-- A word that starts with a letter is no number. -/
theorem endsInNumber_of_isKept {c : Char} {s : List Char} (hc : c.isLower = true)
    (hs : ∀ d ∈ c :: s, IsKept d) : endsInNumber (c :: s) = false := by
  have hone : parts (c :: s) = [c :: s] := by
    have hpoint : ∀ d ∈ c :: s, (d == '.') = false := by
      intro d hd
      simpa using (hs d hd).ne_point
    have hnone : splitWhere (· == '.') ([] : List Char) = [[]] := rfl
    have hsplit := splitWhere_append_of_none hpoint hnone
    rw [List.append_nil] at hsplit
    rw [parts, hsplit]
    rfl
  have hdigit : c.isDigit = false ∧ digit? 10 c = none ∧ c ≠ '0' := by
    have hall := forall_plain (p := fun c => !c.isLower ||
      (!c.isDigit && (digit? 10 c).isNone && c != '0')) (by decide +kernel)
      (Nat.lt_succ_of_le (hs c List.mem_cons_self).plain)
    simpa [hc, and_assoc] using hall
  obtain ⟨hdigit, hvalue, hzero⟩ := hdigit
  have hpart : part? (c :: s) = none := by
    rw [part?]
    · rw [number?, List.foldlM_cons, hvalue]
      rfl
    all_goals simp [hzero]
  simp [endsInNumber, hone, hdigit, hpart]

end Host

/-- The reader of plain names is one of these readers. -/
theorem lawful_readHost? : HostReader.Lawful readHost? where
  none_of_low hc hlow := if_pos (List.any_eq_true.2 ⟨_, hc, decide_eq_true hlow⟩)
  some_of_word {c s} hc hs := by
    have hkept : ∀ d ∈ c :: s, Host.IsKept d := by
      have hstart : isWordPart c = true := by rw [isWordPart, hc, Bool.true_or]
      intro d hd
      rcases List.mem_cons.1 hd with rfl | hd
      · exact Host.isKept_of_isWordPart hstart
      · exact Host.isKept_of_isWordPart (List.all_eq_true.1 hs d hd)
    have hhigh : ¬((c :: s).any (·.toNat ≤ 32) = true) := by
      rw [List.any_eq_true]
      rintro ⟨d, hd, hlow⟩
      exact absurd (of_decide_eq_true hlow) (Nat.not_le.2 (hkept d hd).high)
    have hbracket : ∀ rest, c :: s ≠ '[' :: rest := fun rest heq =>
      (hkept c List.mem_cons_self).ne_bracket (List.cons.inj heq).1
    have hlower : (c :: s).map Char.toLower = c :: s := by
      conv_rhs => rw [← List.map_id (c :: s)]
      exact List.map_congr_left fun d hd => (hkept d hd).toLower_eq
    have hnames : (c :: s).all Host.isNameChar = true :=
      List.all_eq_true.2 fun d hd => (hkept d hd).isNameChar
    rw [readHost?, if_neg hhigh, Host.decoded?_of_isKept hkept]
    · simp [Host.normalName?, hlower, hnames, Host.endsInNumber_of_isKept hc hkept]
    · exact hbracket

end StoryMend.Http
