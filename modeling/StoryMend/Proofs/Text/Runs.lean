import StoryMend.Proofs.Text.Lines

/-!
The runs of a list: its longest stretches of elements that satisfy a predicate.  `IsRuns` tells
them by what stands between them, and they are the pieces between the other elements
(`isRuns_iff`).
-/

namespace StoryMend.Text

variable {α : Type} {p : α → Bool}

/-- The longest stretches of a list whose elements satisfy `p`, in order: what is before the
first one, between two of them and after the last one has no such elements, and two do not
touch. -/
inductive IsRuns (p : α → Bool) : List α → List (List α) → Prop
  | nil {gap : List α} (hgap : ∀ a ∈ gap, p a = false) : IsRuns p gap []
  | cons {gap run rest : List α} {runs : List (List α)} (hgap : ∀ a ∈ gap, p a = false)
      (hne : run ≠ []) (hrun : ∀ a ∈ run, p a = true) (hend : ∀ a ∈ rest.head?, p a = false)
      (hrest : IsRuns p rest runs) : IsRuns p (gap ++ (run ++ rest)) (run :: runs)

/-- A list may start with its first run. -/
theorem IsRuns.start {run rest : List α} {runs : List (List α)} (hne : run ≠ [])
    (hrun : ∀ a ∈ run, p a = true) (hend : ∀ a ∈ rest.head?, p a = false)
    (hrest : IsRuns p rest runs) : IsRuns p (run ++ rest) (run :: runs) := by
  have h : IsRuns p ([] ++ (run ++ rest)) (run :: runs) :=
    .cons (List.forall_mem_nil _) hne hrun hend hrest
  exact h

/-- The pieces between the elements that satisfy `p`, other than empty ones. -/
def piecesOf (p : α → Bool) (l : List α) : List (List α) :=
  (splitWhere p l).filter (!·.isEmpty)

theorem piecesOf_append_of_all (l : List α) {gap : List α} (hgap : ∀ a ∈ gap, p a = true) :
    piecesOf p (gap ++ l) = piecesOf p l := by
  induction gap with
  | nil => rfl
  | cons a gap ih =>
      rw [List.forall_mem_cons] at hgap
      rw [← ih hgap.2, List.cons_append, piecesOf, splitWhere, if_pos hgap.1]
      rfl

/-- A stretch that is not split is the start of the first piece. -/
theorem splitWhere_append_of_none {run rest first : List α} {more : List (List α)}
    (hrun : ∀ a ∈ run, p a = false) (hrest : splitWhere p rest = first :: more) :
    splitWhere p (run ++ rest) = (run ++ first) :: more := by
  induction run with
  | nil => exact hrest
  | cons a run ih =>
      rw [List.forall_mem_cons] at hrun
      rw [List.cons_append, splitWhere, hrun.1, ih hrun.2]
      rfl

theorem piecesOf_append {run rest : List α} (hne : run ≠ []) (hrun : ∀ a ∈ run, p a = false)
    (hend : ∀ a ∈ rest.head?, p a = true) : piecesOf p (run ++ rest) = run :: piecesOf p rest := by
  have hfirst : ∃ more, splitWhere p rest = [] :: more := by
    cases rest with
    | nil => exact ⟨[], rfl⟩
    | cons a rest => exact ⟨_, by rw [splitWhere, if_pos (hend a rfl)]⟩
  obtain ⟨more, hmore⟩ := hfirst
  rw [piecesOf, splitWhere_append_of_none hrun hmore, piecesOf, hmore]
  simp [hne]

/-- Every list has runs: an element is part of the first gap or of the first run, or it is a run
of its own. -/
theorem exists_isRuns (p : α → Bool) (l : List α) : ∃ runs, IsRuns p l runs := by
  induction l with
  | nil => exact ⟨[], .nil (by simp)⟩
  | cons a l ih =>
      obtain ⟨runs, hruns⟩ := ih
      cases ha : p a with
      | false =>
          cases hruns with
          | nil hgap => exact ⟨[], .nil (List.forall_mem_cons.2 ⟨ha, hgap⟩)⟩
          | cons hgap hne hrun hend hrest =>
              exact ⟨_, .cons (List.forall_mem_cons.2 ⟨ha, hgap⟩) hne hrun hend hrest⟩
      | true =>
          have hone : ∀ b ∈ [a], p b = true := by simpa using ha
          have halone (hend : ∀ b ∈ l.head?, p b = false) (hruns : IsRuns p l runs) :
              IsRuns p (a :: l) ([a] :: runs) :=
            .start (List.cons_ne_nil a []) hone hend hruns
          cases hruns with
          | nil hgap =>
              exact ⟨[[a]], halone (fun b hb => hgap b (List.mem_of_mem_head? hb)) (.nil hgap)⟩
          | @cons gap run rest runs hgap hne hrun hend hrest =>
              cases gap with
              | nil =>
                  exact ⟨_, .start (List.cons_ne_nil a run)
                    (List.forall_mem_cons.2 ⟨ha, hrun⟩) hend hrest⟩
              | cons b gap =>
                  have hb : p b = false := hgap b List.mem_cons_self
                  exact ⟨_, halone (by simpa using hb) (.cons hgap hne hrun hend hrest)⟩

/-- The runs of a list are the pieces between the other elements, so they are told by the
list. -/
theorem isRuns_iff {l : List α} {runs : List (List α)} :
    IsRuns p l runs ↔ runs = piecesOf (!p ·) l := by
  have hpieces {runs : List (List α)} (h : IsRuns p l runs) : runs = piecesOf (!p ·) l := by
    induction h with
    | @nil gap hgap =>
        rw [← List.append_nil gap, piecesOf_append_of_all [] (by simpa using hgap)]
        rfl
    | cons hgap hne hrun hend hrest ih =>
        rw [piecesOf_append_of_all _ (by simpa using hgap),
          piecesOf_append hne (by simpa using hrun) (by simpa using hend), ← ih]
  constructor
  · exact hpieces
  · rintro rfl
    obtain ⟨runs, hruns⟩ := exists_isRuns p l
    exact hpieces hruns ▸ hruns

/-- A list without runs has no elements that satisfy `p`. -/
theorem IsRuns.eq_nil_iff {l : List α} {runs : List (List α)} (h : IsRuns p l runs) :
    runs = [] ↔ ∀ a ∈ l, p a = false := by
  cases h with
  | nil hgap => exact iff_of_true rfl hgap
  | @cons gap run rest runs hgap hne hrun hend hrest =>
      refine iff_of_false (List.cons_ne_nil _ _) fun hnone => ?_
      obtain ⟨a, ha⟩ := List.exists_mem_of_ne_nil run hne
      have hfalse := hnone a (by simp [ha])
      rw [hrun a ha] at hfalse
      cases hfalse

theorem IsRuns.of_mem {l run : List α} {runs : List (List α)} (h : IsRuns p l runs)
    (hmem : run ∈ runs) : run ≠ [] ∧ ∀ a ∈ run, p a = true := by
  induction h with
  | nil hgap => cases hmem
  | cons hgap hne hrun hend hrest ih =>
      rcases List.mem_cons.1 hmem with rfl | hmem
      · exact ⟨hne, hrun⟩
      · exact ih hmem

end StoryMend.Text
