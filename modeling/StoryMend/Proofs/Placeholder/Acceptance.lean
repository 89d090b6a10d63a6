import StoryMend.Proofs.Placeholder.Literal
import StoryMend.Proofs.Validator.Acceptance

/-!
The validation of placeholders.  All checks that go by the text alone are passed by every
placeholder, whatever its title and prompt are; what is left to the parser is a tree
without faults, with markup and imports as in the skeleton (`validate_story`).
-/

namespace StoryMend.Placeholder

open Text

/-- The import of the runtime, as a story with markup starts with it. -/
def runtimeLine : String := "import React from 'react';\n"

/-- The start of the import of types, as a story without markup starts with it. -/
def typesLine : String := "import type \x7b Meta, StoryObj \x7d from '"

theorem typeImport_eq (f : Framework) : typeImport f = typesLine ++ f.package ++ "';\n" := rfl

theorem runtimeLine_prefix_story (title prompt : String) :
    runtimeLine.toList <+: (story .react title prompt).toList := by
  simp only [story, String.toList_ofList, skeleton, markupSkeleton, List.flatMap_cons,
    Piece.render, String.toList_append, List.append_assoc]
  exact List.prefix_append _ _

theorem typesLine_prefix_story {f : Framework} (hmarkup : f.usesMarkup = false)
    (title prompt : String) : typesLine.toList <+: (story f title prompt).toList := by
  have hskeleton : ∃ pieces, skeleton f = plainStart f ++ pieces := by
    cases f with
    | react => cases hmarkup
    | _ => exact ⟨_, rfl⟩
  obtain ⟨pieces, hpieces⟩ := hskeleton
  simp only [story, String.toList_ofList, hpieces, plainStart, typeImport_eq, List.cons_append,
    List.flatMap_cons, Piece.render, String.toList_append, List.append_assoc]
  exact List.prefix_append _ _

/-- Every story starts with an import. -/
theorem exists_toList_story (f : Framework) (title prompt : String) :
    ∃ rest, (story f title prompt).toList = Import.keyword ++ ' ' :: rest := by
  cases hmarkup : f.usesMarkup with
  | true =>
      obtain rfl : f = .react := by simpa [Framework.usesMarkup] using hmarkup
      obtain ⟨rest, hstory⟩ := runtimeLine_prefix_story title prompt
      exact ⟨"React from 'react';\n".toList ++ rest, hstory.symm⟩
  | false =>
      obtain ⟨rest, hstory⟩ := typesLine_prefix_story hmarkup title prompt
      exact ⟨"type \x7b Meta, StoryObj \x7d from '".toList ++ rest, hstory.symm⟩

theorem hasContent_story (parse : Parser) (kind : FileKind) (f : Framework)
    (title prompt : String) :
    Diagnose.hasContent parse kind (story f title prompt) = true := by
  obtain ⟨rest, hstory⟩ := exists_toList_story f title prompt
  have hblank : isBlankText (story f title prompt).toList = false := by
    rw [hstory]
    rfl
  have himport : Import.occursIn (story f title prompt).toList = true := by
    rw [hstory]
    rfl
  simp [Diagnose.hasContent, hblank, himport]

/-- Every story with markup imports the runtime for it. -/
theorem importsModule_story (title prompt : String) :
    Import.importsModule "react".toList (story .react title prompt).toList = true := by
  obtain ⟨rest, hstory⟩ := runtimeLine_prefix_story title prompt
  rw [← hstory]
  rfl

/-- A placeholder is accepted as it stands if the parser reads it as the skeleton is meant:
without faults, with markup only where the skeleton has some, and with no names from the
module whose imports are checked. -/
theorem validate_story {parse : Parser} {f : Framework} {title prompt : String}
    {tree : Syntax.Tree} (inv : Inventory)
    (hparse : parse (story f title prompt) .tsx = some tree) (hsound : tree.hasError = false)
    (hmarkup : f.usesMarkup = false → Markup.occursInTree tree = false)
    (himports : Import.namesFrom ({} : Settings).primaryPath (story f title prompt).toList
      tree = []) :
    (Validator.withUsualNames parse {}).validate inv (story f title prompt) =
      .valid [] none := by
  have hruntime : Diagnose.lacksRuntime (some tree) .react (story f title prompt) = false := by
    cases hf : f.usesMarkup with
    | true =>
        obtain rfl : f = .react := by simpa [Framework.usesMarkup] using hf
        have himported := importsModule_story title prompt
        simp only [Diagnose.lacksRuntime, Runtime.react, Runtime.ofModule, himported,
          Bool.not_true, Bool.and_false]
    | false => simp [Diagnose.lacksRuntime, Markup.occursIn, hmarkup hf, hsound]
  apply Validator.validate_of_clean
  · exact hasContent_story _ _ f title prompt
  · simp [Validator.syntaxErrors, Validator.withUsualNames, Diagnose.syntaxErrors, hparse,
      Diagnose.structural, hsound, hruntime, Diagnostic.sortByPlace]
  · simp [Validator.importErrors, Validator.withUsualNames, Import.Rules.check,
      Import.Rules.withNames, Import.importedNames, hparse, himports]

end StoryMend.Placeholder
