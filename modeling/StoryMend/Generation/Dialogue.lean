import StoryMend.Generation.Prompt
import StoryMend.Generation.Settings
import StoryMend.Generation.Story
import StoryMend.Placeholder
import StoryMend.Reply.Code
import StoryMend.Title
import StoryMend.Validator

/-!
The dialogue with a language model about a story: the first reply whose code is
valid ends it, every other one is answered with what is wrong, and when the
attempts are used up a placeholder takes the story's place.
-/

namespace StoryMend.Generation

open Chat Text

/-- A language model with the state of the world that it lives in. -/
abbrev Model (σ : Type) := List Message → Options → σ → Except Chat.Error String × σ

/-- A story that was found in a reply. -/
structure Accepted where
  code : String
  warnings : List String
deriving Repr, DecidableEq

/-- The error of a reply without code. -/
def noCode : String := "No code block found in the model reply"

/-- The story in a reply, or what is wrong with the reply. -/
def judge (v : Validator) (inv : Inventory) (reply : String) : Except (List String) Accepted :=
  match Reply.code? reply with
  | none => .error [noCode]
  | some code =>
    let verdict := v.validate inv code
    if verdict.isValid then
      .ok { code := verdict.fixedCode.getD code, warnings := verdict.warnings }
    else .error verdict.errors

/-- The turns that answer a rejected reply. -/
def correction (reply : String) (errors : List String) : List Message :=
  [⟨.assistant, reply⟩, correctiveMessage errors]

/-- How a dialogue ends. -/
inductive Ending where
  /-- A reply is accepted, the one with the given number. -/
  | accepted (attempt : Nat) (story : Accepted)
  /-- No reply was accepted; the errors are those of the last one. -/
  | exhausted (errors : List String)
deriving Repr, DecidableEq

/-- Leads a dialogue of up to `attempts` more calls after `past` ones, of which the last one
had the given errors. -/
def converse {σ : Type} (ask : Model σ) (judge : String → Except (List String) Accepted)
    (options : Options) (past : Nat) (messages : List Message) (errors : List String) :
    (attempts : Nat) → σ → Except Chat.Error Ending × σ
  | 0, state => (.ok (.exhausted errors), state)
  | attempts + 1, state =>
    match ask messages options state with
    | (.error e, state) => (.error e, state)
    | (.ok reply, state) =>
      match judge reply with
      | .ok story => (.ok (.accepted (past + 1) story), state)
      | .error errors =>
        converse ask judge options (past + 1) (messages ++ correction reply errors) errors
          attempts state

/-- The title of a story: the one that was asked for, or else one made of the prompt. -/
def titleFor (request : Request) : String :=
  (request.title.bind trimmed?).getD (Title.ofPrompt (trimmed request.prompt))

/-- The story that comes of a dialogue. -/
def storyOf (framework : Framework) (title prompt : String) (maxAttempts : Nat) : Ending → Story
  | .accepted attempt story =>
    { code := story.code, title, framework, attempts := attempt, usedFallback := false
      warnings := story.warnings, errors := [] }
  | .exhausted errors =>
    { code := Placeholder.story framework title prompt, title, framework
      attempts := maxAttempts, usedFallback := true, warnings := [], errors }

/-- Generates a story. -/
def generate {σ : Type} (ask : Model σ) (v : Validator) (inv : Inventory) (settings : Settings)
    (request : Request) (state : σ) : Except Error Story × σ :=
  match trimmed? request.prompt with
  | none => (.error .emptyPrompt, state)
  | some prompt =>
    let framework := request.framework.getD settings.framework
    let messages := [systemMessage framework v.settings.primaryPath inv, ⟨.user, prompt⟩]
    let options := { temperature := settings.temperature }
    match converse ask (judge v inv) options 0 messages [] settings.maxAttempts state with
    | (.error e, state) => (.error (.model e), state)
    | (.ok ending, state) =>
      (.ok (storyOf framework (titleFor request) prompt settings.maxAttempts ending), state)

end StoryMend.Generation
