import StoryMend.Diagnose

/-!
The diagnostics of a source.  Those of its tree all say that they are about the structure of
the source, so the diagnostic of a missing runtime is none of them: it is there exactly if the
source has markup and does not import the runtime.
-/

namespace StoryMend.Diagnose

open Syntax

theorem mem_dropRepeats_iff {α : Type} [DecidableEq α] {a : α} {l : List α} :
    a ∈ dropRepeats l ↔ a ∈ l := by
  induction l with
  | nil => rfl
  | cons b rest ih =>
      rw [List.mem_cons, ← ih, dropRepeats]
      cases dropRepeats rest with
      | nil => simp
      | cons next more =>
          by_cases hb : b = next
          · subst hb
            simp
          · simp [hb]

/-- Whether a message is about the structure of a source. -/
def IsStructural (d : Diagnostic) : Prop := syntaxMark.toList <+: d.message.toList

instance : DecidablePred IsStructural :=
  fun d => inferInstanceAs (Decidable (syntaxMark.toList <+: d.message.toList))

theorem isStructural_of_message {d : Diagnostic} (rest : String)
    (hmessage : d.message = syntaxMark ++ rest) : IsStructural d :=
  ⟨rest.toList, by rw [hmessage, String.toList_append]⟩

theorem isStructural_ofFault (source : List Char) (n : Node) :
    IsStructural (ofFault source n) := by
  by_cases hmissing : n.isMissing = true
  · refine isStructural_of_message (": missing `" ++ n.kind ++ "`") ?_
    simp [ofFault, faultMessage, hmissing, toString, String.append_assoc]
  · refine isStructural_of_message (": unexpected " ++ describe (n.text source)) ?_
    simp [ofFault, faultMessage, hmissing, toString, String.append_assoc]

/-- What is wrong with a tree is about the structure of the source. -/
theorem isStructural_of_mem_structural {source : List Char} {t : Tree} {d : Diagnostic}
    (hd : d ∈ structural source t) : IsStructural d := by
  have hfaults : ∀ e ∈ dropRepeats ((search [t]).map (ofFault source)), IsStructural e := by
    intro e he
    obtain ⟨n, -, rfl⟩ := List.mem_map.1 (mem_dropRepeats_iff.1 he)
    exact isStructural_ofFault source n
  unfold structural at hd
  split at hd
  · split at hd
    · rw [List.mem_singleton.1 hd]
      exact isStructural_of_message (": malformed source") (by simp [toString])
    · exact hfaults d hd
  · cases hd

theorem mem_sortByPlace_iff {d : Diagnostic} {ds : List Diagnostic} :
    d ∈ Diagnostic.sortByPlace ds ↔ d ∈ ds :=
  (List.mergeSort_perm ds _).mem_iff

theorem not_isStructural_noRuntime (r : Runtime) : ¬ IsStructural (noRuntime r) := by
  intro hstructural
  have hsplit : ∀ name mark : String, s!"JSX markup found but `{name}` {mark}" =
      "JSX markup found but `" ++ (name ++ ("` " ++ mark)) := by
    intro name mark
    simp only [toString, String.append_assoc]
  have hmessage : "JSX markup found but `".toList <+: (noRuntime r).message.toList :=
    ⟨_, ((congrArg String.toList (hsplit r.moduleName runtimeMark)).trans
      String.toList_append).symm⟩
  have hshort := List.prefix_of_prefix_length_le hstructural hmessage (by decide)
  exact absurd hshort (by decide)

variable {parse : Parser} {kind : FileKind} {r : Runtime} {source : String}

/-- The runtime is reported as missing exactly if the source has markup and does not import
it. -/
theorem noRuntime_mem_syntaxErrors_iff :
    noRuntime r ∈ syntaxErrors parse kind (some r) source ↔
      lacksRuntime (parse source kind) r source = true := by
  have hown : noRuntime r ∈ (if lacksRuntime (parse source kind) r source then [noRuntime r]
      else []) ↔ lacksRuntime (parse source kind) r source = true := by
    cases lacksRuntime (parse source kind) r source <;> simp
  rw [syntaxErrors, mem_sortByPlace_iff, List.mem_append]
  refine (or_iff_right fun hmem => not_isStructural_noRuntime r ?_).trans hown
  cases htree : parse source kind with
  | some t =>
      rw [htree] at hmem
      exact isStructural_of_mem_structural hmem
  | none =>
      rw [htree] at hmem
      rw [List.mem_singleton.1 hmem]
      exact isStructural_of_message
        (": parser produced no tree for " ++ kind.name ++ " source")
        (by simp [noTree, toString, String.append_assoc])

end StoryMend.Diagnose
