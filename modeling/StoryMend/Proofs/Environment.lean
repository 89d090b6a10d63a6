import StoryMend.Environment
import StoryMend.Proofs.Text.Blank

/-!
What variables of the environment are read to hold, in terms of their values as they stand
there.  Environments that agree on a variable but for blanks are read alike
(`agrees_iff_value?_eq`).
-/

namespace StoryMend

/-! ### Outcomes of reading -/

theorem exists_of_bind_eq_ok {ε α β : Type} {x : Except ε α} {f : α → Except ε β} {b : β}
    (h : x >>= f = .ok b) : ∃ a, x = .ok a ∧ f a = .ok b := by
  cases x with
  | error e => cases h
  | ok a => exact ⟨a, rfl, h⟩

theorem eq_ok_of_mapError_eq_ok {ε ε' α : Type} {x : Except ε α} {f : ε → ε'} {a : α}
    (h : x.mapError f = .ok a) : x = .ok a := by
  cases x with
  | error e => cases h
  | ok a' => exact congrArg Except.ok (Except.ok.inj h)

namespace Environment

open Text

/-! ### Variables -/

/-- Whether a variable has no value, or one of blanks. -/
def IsUnset (env : Environment) (variableName : String) : Prop :=
  ∀ raw, env variableName = some raw → ∀ c ∈ raw.toList, isBlank c = true

/-- Whether a variable has a value other than blanks that is `v` without the blanks at its
ends. -/
def Holds (env : Environment) (variableName v : String) : Prop :=
  ∃ raw, env variableName = some raw ∧ (∃ c ∈ raw.toList, isBlank c = false) ∧
    v = trimmed raw

/-- Whether two environments have the same in a variable, or nothing, if blanks at the ends of
its values do not count. -/
def Agrees (env env' : Environment) (variableName : String) : Prop :=
  env.IsUnset variableName ∧ env'.IsUnset variableName ∨
    ∃ v, env.Holds variableName v ∧ env'.Holds variableName v

theorem trimmed_eq_empty_iff {s : String} : trimmed s = "" ↔ ∀ c ∈ s.toList, isBlank c = true := by
  have hempty : trimmed s = "" ↔ trim s.toList = [] := by
    rw [← String.toList_inj, trimmed, String.toList_ofList]
    rfl
  rw [hempty]
  constructor
  · intro htrim c hc
    by_contra hblank
    have hmem := mem_trim_of_mem hc (Bool.not_eq_true _ ▸ hblank)
    rw [htrim] at hmem
    cases hmem
  · intro hblank
    have hstart : trimStart s.toList = [] := List.dropWhile_eq_nil_iff.2 hblank
    rw [trim, hstart]
    rfl

variable {env env' : Environment} {variableName : String}

/-- What a variable holds has no blanks at its ends. -/
theorem Holds.trimmed_eq {v : String} (h : env.Holds variableName v) : trimmed v = v := by
  obtain ⟨raw, -, -, rfl⟩ := h
  rw [trimmed, trimmed, String.toList_ofList, trim_trim]

theorem Holds.exists_not_blank {v : String} (h : env.Holds variableName v) :
    ∃ c ∈ v.toList, isBlank c = false := by
  obtain ⟨raw, -, ⟨c, hc, hblank⟩, rfl⟩ := h
  rw [trimmed, String.toList_ofList]
  exact ⟨c, mem_trim_of_mem hc hblank, hblank⟩

theorem value?_eq_none_iff : env.value? variableName = none ↔ env.IsUnset variableName := by
  rw [value?, IsUnset, Option.bind_eq_none_iff]
  refine forall₂_congr fun raw _ => ?_
  rw [trimmed?_eq, ← trimmed_eq_empty_iff]
  split <;> simp_all

theorem value?_eq_some_iff {v : String} :
    env.value? variableName = some v ↔ env.Holds variableName v := by
  rw [value?, Holds, Option.bind_eq_some_iff]
  refine exists_congr fun raw => and_congr_right fun _ => ?_
  have hblank : (∃ c ∈ raw.toList, isBlank c = false) ↔ ¬ trimmed raw = "" := by
    rw [trimmed_eq_empty_iff]
    simp
  rw [trimmed?_eq, hblank]
  split
  next hempty => simp [hempty]
  next hne => simp [hne, eq_comm]

theorem agrees_iff_value?_eq :
    env.Agrees env' variableName ↔ env.value? variableName = env'.value? variableName := by
  simp only [Agrees, ← value?_eq_none_iff, ← value?_eq_some_iff]
  cases env.value? variableName with
  | none => simp [eq_comm]
  | some v => simp [eq_comm]

end Environment

end StoryMend
