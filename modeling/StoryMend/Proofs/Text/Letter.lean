import Mathlib
import StoryMend.Proofs.Text.Blank
import StoryMend.Proofs.Text.Tables

/-!
Letters and digits of all scripts.  None of them is a blank, a quote or a backslash, and none of
these is in the upper case of one (`isDelimiter_of_mem_upperOf`).  Of the first 128 characters
this is seen one by one, of all others by the tables.
-/

namespace StoryMend.Text

/-- Whether a character is a blank, a quote of any kind or a backslash. -/
def isDelimiter (c : Char) : Bool := isBlank c || ['"', '\'', '\x60', '\\'].contains c

/-- The codes of delimiters, by the first and the last one of each stretch. -/
def delimiterCodes : List (Nat × Nat) :=
  [(9, 13), (32, 32), (34, 34), (39, 39), (92, 92), (96, 96), (0x85, 0x85), (0xA0, 0xA0),
    (0x1680, 0x1680), (0x2000, 0x200A), (0x2028, 0x2029), (0x202F, 0x202F), (0x205F, 0x205F),
    (0x3000, 0x3000)]

theorem exists_of_isDelimiter {c : Char} (hc : isDelimiter c = true) :
    ∃ codes ∈ delimiterCodes, codes.1 ≤ c.toNat ∧ c.toNat ≤ codes.2 := by
  have hcode (d : Char) : c = d ↔ c.toNat = d.toNat := Char.toNat_inj.symm
  simp only [isDelimiter, isBlank, Bool.or_eq_true, Bool.and_eq_true, beq_iff_eq,
    decide_eq_true_eq, List.contains_iff_mem, List.mem_cons, List.not_mem_nil, or_false, hcode,
    Char.reduceToNat] at hc
  simp only [delimiterCodes, List.mem_cons, List.not_mem_nil, or_false, exists_eq_or_imp,
    exists_eq_left]
  omega

/-- What is seen of each of the first 128 characters holds of all of them. -/
theorem forall_plain {p : Char → Bool}
    (h : (List.range 128).all (fun n => p (Char.ofNat n)) = true) {c : Char}
    (hc : c.toNat < 128) : p c = true := by
  have hcode := List.all_eq_true.1 h c.toNat (List.mem_range.2 hc)
  rwa [Char.ofNat_toNat] at hcode

/-- The delimiters beyond the first 128 characters are neither letters nor digits. -/
theorem not_alphanumeric_delimiterCodes :
    (delimiterCodes.all fun codes => (List.range' codes.1 (codes.2 + 1 - codes.1)).all fun n =>
      n < 128 || !CharSet.alphanumeric.contains (Char.ofNat n)) = true := by
  unfold CharSet.contains CharSet.alphanumeric
  rw [CharSet.bounds_ofPacked, Packed.spelled]
  simp only [List.flatMap_cons, List.flatMap_nil]
  repeat rw [String.toList_ofList]
  decide +kernel

theorem isDelimiter_of_isAlphanumeric {c : Char} (hc : isAlphanumeric c = true) :
    isDelimiter c = false := by
  unfold isAlphanumeric at hc
  split at hc
  next hplain =>
    have hall := forall_plain (p := fun c => !(isPlainAlphanumeric c && isDelimiter c))
      (by decide +kernel) hplain
    simpa [hc] using hall
  next hother =>
    by_contra hdelimiter
    rw [Bool.not_eq_false] at hdelimiter
    obtain ⟨codes, hcodes, hfirst, hlast⟩ := exists_of_isDelimiter hdelimiter
    have hall := List.all_eq_true.1 not_alphanumeric_delimiterCodes codes hcodes
    have hcode := List.all_eq_true.1 hall c.toNat (by rw [List.mem_range'_1]; omega)
    simp [hother, Char.ofNat_toNat, hc] at hcode

/-- Whether the counterparts of a run, other than those of the first 128 characters, all lie
before or all lie after a stretch of codes. -/
def CaseRun.avoids (run : CaseRun) (codes : Nat × Nat) : Bool :=
  run.last + run.distance < codes.1 || codes.2 < (max run.first 128 : Nat) + run.distance

theorem avoids_upper :
    (CaseMap.upper.runs.toList.all fun run => delimiterCodes.all run.avoids) = true := by
  rw [CaseMap.upper, CaseMap.ofPacked_eq, Packed.spelled]
  simp only [List.flatMap_cons, List.flatMap_nil]
  repeat rw [String.toList_ofList]
  decide +kernel

/-- The upper cases of several characters. -/
theorem not_delimiter_upperLong :
    (CaseMap.upperLong.all fun s =>
      !(s.toList.drop 1).isEmpty && (s.toList.drop 1).all (!isDelimiter ·)) = true := by
  rw [CaseMap.upperLong]
  simp only [List.all_cons, List.all_nil]
  repeat rw [String.toList_ofList]
  decide +kernel

/-- A code that is no character's stands for the first character of all. -/
theorem toNat_ofNat_cases (n : Nat) : (Char.ofNat n).toNat = n ∨ (Char.ofNat n).toNat = 0 := by
  rw [Char.toNat_ofNat]
  split
  · exact Or.inl rfl
  · exact Or.inr rfl

theorem isDelimiter_of_counterpart? {c d : Char} (hc : 128 ≤ c.toNat)
    (hd : CaseMap.upper.counterpart? c = some d) : isDelimiter d = false := by
  obtain ⟨run, hrun, hfirst, hlast, rfl⟩ := CaseMap.exists_run_of_counterpart? hd
  by_contra hdelimiter
  rw [Bool.not_eq_false] at hdelimiter
  obtain ⟨codes, hcodes, hleast, hmost⟩ := exists_of_isDelimiter hdelimiter
  have havoids := List.all_eq_true.1
    (List.all_eq_true.1 avoids_upper run (Array.mem_toList_iff.2 hrun)) codes hcodes
  simp only [CaseRun.avoids, Bool.or_eq_true, decide_eq_true_eq] at havoids
  have hpositive : 0 < codes.1 := by
    simpa using List.all_eq_true.1 (show delimiterCodes.all (0 < ·.1) = true from rfl) codes hcodes
  rcases toNat_ofNat_cases (c.toNat + run.distance).toNat with hcode | hcode
  · omega
  · omega

theorem upperOf_ne_nil (c : Char) : upperOf c ≠ [] := by
  unfold upperOf
  split
  · exact List.cons_ne_nil _ _
  · split
    next s hfind =>
      have hlong := List.all_eq_true.1 not_delimiter_upperLong s (List.mem_of_find?_eq_some hfind)
      rw [Bool.and_eq_true] at hlong
      simpa using hlong.1
    · exact List.cons_ne_nil _ _

/-- The upper case of a letter or a digit holds no blank, no quote and no backslash. -/
theorem isDelimiter_of_mem_upperOf {c d : Char} (hc : isAlphanumeric c = true)
    (hd : d ∈ upperOf c) : isDelimiter d = false := by
  unfold upperOf at hd
  split at hd
  next hplain =>
    have hall := forall_plain (p := fun c => !(isPlainAlphanumeric c && isDelimiter c.toUpper))
      (by decide +kernel) hplain
    rw [isAlphanumeric, if_pos hplain] at hc
    rw [List.mem_singleton.1 hd]
    simpa [hc] using hall
  next hother =>
    split at hd
    next s hfind =>
      have hlong := List.all_eq_true.1 not_delimiter_upperLong s (List.mem_of_find?_eq_some hfind)
      rw [Bool.and_eq_true] at hlong
      simpa using List.all_eq_true.1 hlong.2 d hd
    next =>
      rw [List.mem_singleton] at hd
      cases hupper : CaseMap.upper.counterpart? c with
      | none =>
          rw [hupper, Option.getD_none] at hd
          exact hd ▸ isDelimiter_of_isAlphanumeric hc
      | some u =>
          rw [hupper, Option.getD_some] at hd
          exact hd ▸ isDelimiter_of_counterpart? (Nat.not_lt.1 hother) hupper

end StoryMend.Text
