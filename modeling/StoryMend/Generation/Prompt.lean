import StoryMend.Chat.Message
import StoryMend.Framework
import StoryMend.Inventory

/-!
What a language model is told: what a story has to look like, and what was wrong
with the last one.
-/

namespace StoryMend.Generation

open Chat

/-- How many components the first message names at most. -/
def maxNamed : Nat := 200

/-- What is said about the components of the design system. -/
def componentLines (primaryPath : String) (inv : Inventory) : String :=
  match inv.names.take maxNamed with
  | [] => s!"Import UI components only from `{primaryPath}`.\n"
  | names =>
    s!"Import UI components only from `{primaryPath}`. Available components: " ++
      String.intercalate ", " names ++ ".\nDo not import any other name from that path.\n"

/-- The first message: the framework, the form of the reply, and the components. -/
def systemMessage (f : Framework) (primaryPath : String) (inv : Inventory) : Message where
  role := .system
  content :=
    s!"You write Storybook stories for {f.name} using CSF 3 (`{f.package}`).\n" ++
      "Reply with exactly one ```tsx code block containing the complete story file.\n" ++
      "The file must have a default export (meta) and at least one named story export.\n" ++
      (if f.usesMarkup then "Import React from 'react'.\n" else "") ++
      componentLines primaryPath inv

/-- The message that asks for a story again, with what is wrong with the last one. -/
def correctiveMessage (errors : List String) : Message where
  role := .user
  content :=
    "The story you returned is invalid:\n" ++ String.join (errors.map fun e => s!"- {e}\n") ++
      "Fix these problems and reply with the complete corrected story in one ```tsx code block."

end StoryMend.Generation
