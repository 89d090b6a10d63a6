import StoryMend.Generation.Dialogue
import StoryMend.Proofs.Validator.Acceptance

/-!
Which calls a dialogue makes, and how it ends.  As long as replies are rejected, each
call continues the messages of the one before it; the main statement is that the first
reply with a valid story ends the dialogue, that a call that fails ends it as well, and
that otherwise the dialogue uses up its attempts.
-/

namespace StoryMend.Generation

open Chat Text

/-- A call of a model, and what came of it. -/
structure Call where
  messages : List Message
  options : Options
  reply : Except Chat.Error String

/-- The same model in a world that keeps a record of the calls. -/
def Model.recorded {σ : Type} (ask : Model σ) : Model (σ × List Call) :=
  fun messages options world =>
    let (reply, state) := ask messages options world.1
    (reply, state, world.2 ++ [{ messages, options, reply }])

/-- What is wrong with a reply that is not accepted. -/
def rejection (v : Validator) (inv : Inventory) (reply : String) : List String :=
  match Reply.code? reply with
  | none => [noCode]
  | some code => (v.validate inv code).errors

/-- A reply is rejected if no valid story is found in it. -/
def Rejects (v : Validator) (inv : Inventory) (reply : String) : Prop :=
  ∀ code, Reply.code? reply = some code → (v.validate inv code).isValid = false

theorem judge_of_rejects {v : Validator} {inv : Inventory} {reply : String}
    (hrejects : Rejects v inv reply) :
    judge v inv reply = .error (rejection v inv reply) := by
  unfold judge rejection
  cases hcode : Reply.code? reply with
  | none => rfl
  | some code => simp [hrejects code hcode]

theorem judge_of_isValid {v : Validator} {inv : Inventory} {reply code : String}
    (hcode : Reply.code? reply = some code) (hvalid : (v.validate inv code).isValid = true) :
    judge v inv reply =
      .ok { code := (v.validate inv code).fixedCode.getD code
            warnings := (v.validate inv code).warnings } := by
  simp [judge, hcode, hvalid]

/-- A reply that is not rejected is accepted. -/
theorem exists_judge_of_not_rejects {v : Validator} {inv : Inventory} {reply : String}
    (haccepted : ¬Rejects v inv reply) : ∃ story, judge v inv reply = .ok story := by
  simp only [Rejects, not_forall] at haccepted
  obtain ⟨code, hcode, hvalid⟩ := haccepted
  exact ⟨_, judge_of_isValid hcode (by simpa using hvalid)⟩

/-- All that the course of a dialogue depends on, apart from the number of attempts. -/
structure Dialogue (σ : Type) where
  ask : Model σ
  validator : Validator
  inventory : Inventory
  options : Options
  /-- The messages of the first call. -/
  opening : List Message
  /-- The world before the first call. -/
  state : σ

namespace Dialogue

variable {σ : Type} (d : Dialogue σ)

/-- The turns that follow on what came of a call. -/
def answer : Except Chat.Error String → List Message
  | .ok reply => correction reply (rejection d.validator d.inventory reply)
  | .error _ => []

/-- The messages of a call and the world before it, if all calls before it are rejected;
calls count from zero. -/
def turn : Nat → List Message × σ
  | 0 => (d.opening, d.state)
  | k + 1 =>
    let (messages, state) := turn k
    let (reply, state) := d.ask messages d.options state
    (messages ++ d.answer reply, state)

/-- A call that all calls before it lead to. -/
def call (k : Nat) : Call where
  messages := (d.turn k).1
  options := d.options
  reply := (d.ask (d.turn k).1 d.options (d.turn k).2).1

/-- The first `k` calls all have replies, and none is accepted. -/
def RejectedUpTo (k : Nat) : Prop :=
  ∀ i < k, ∃ reply, (d.call i).reply = .ok reply ∧ Rejects d.validator d.inventory reply

/-- What is wrong with the last of `k` replies that are all rejected. -/
def errorsAfter : Nat → List String
  | 0 => []
  | k + 1 =>
    match (d.call k).reply with
    | .ok reply => rejection d.validator d.inventory reply
    | .error _ => []

/-- The dialogue with at most `attempts` calls, recorded from its start. -/
def run (attempts : Nat) : Except Chat.Error Ending × σ × List Call :=
  converse d.ask.recorded (judge d.validator d.inventory) d.options 0 d.opening [] attempts
    (d.state, [])

theorem ask_turn (k : Nat) :
    d.ask (d.turn k).1 d.options (d.turn k).2 = ((d.call k).reply, (d.turn (k + 1)).2) := rfl

theorem turn_succ_messages (k : Nat) :
    (d.turn (k + 1)).1 = (d.turn k).1 ++ d.answer (d.call k).reply := rfl

/-- A call sends the opening and then, for each reply before it, the reply and what was
wrong with it. -/
theorem call_messages (k : Nat) :
    (d.call k).messages =
      d.opening ++ (List.range k).flatMap fun i => d.answer (d.call i).reply := by
  change (d.turn k).1 = _
  induction k with
  | zero => simp [turn]
  | succ k ih =>
      rw [turn_succ_messages, ih, List.range_succ, List.flatMap_append, List.append_assoc]
      simp

/-- What a recorded call of the model does to the world. -/
theorem recorded_turn (k : Nat) :
    d.ask.recorded (d.turn k).1 d.options ((d.turn k).2, (List.range k).map d.call) =
      ((d.call k).reply, (d.turn (k + 1)).2, (List.range (k + 1)).map d.call) := by
  simp only [Model.recorded, ask_turn, List.range_succ, List.map_append, List.map_cons,
    List.map_nil]
  rfl

/-- After rejected replies a dialogue goes on as one that starts with the next call. -/
theorem run_of_rejectedUpTo {k : Nat} (hrejected : d.RejectedUpTo k) (attempts : Nat) :
    d.run (k + attempts) =
      converse d.ask.recorded (judge d.validator d.inventory) d.options k (d.turn k).1
        (d.errorsAfter k) attempts ((d.turn k).2, (List.range k).map d.call) := by
  induction k generalizing attempts with
  | zero => simp [run, turn, errorsAfter]
  | succ k ih =>
      obtain ⟨reply, hreply, hrejects⟩ := hrejected k (Nat.lt_succ_self k)
      have hbefore : d.RejectedUpTo k := fun i hi => hrejected i (Nat.lt_succ_of_lt hi)
      rw [Nat.succ_add_eq_add_succ, ih hbefore, converse, recorded_turn, hreply]
      simp only [judge_of_rejects hrejects, turn_succ_messages, hreply, answer, errorsAfter]

/-- The first accepted reply ends the dialogue. -/
theorem run_of_accepted {k attempts : Nat} (hk : k < attempts) (hrejected : d.RejectedUpTo k)
    {reply : String} {story : Accepted} (hreply : (d.call k).reply = .ok reply)
    (haccepts : judge d.validator d.inventory reply = .ok story) :
    d.run attempts =
      (.ok (.accepted (k + 1) story), (d.turn (k + 1)).2, (List.range (k + 1)).map d.call) := by
  obtain ⟨more, rfl⟩ := Nat.exists_eq_add_of_lt hk
  rw [Nat.add_assoc, d.run_of_rejectedUpTo hrejected, converse, recorded_turn, hreply]
  simp only [haccepts]

/-- A call that fails ends the dialogue. -/
theorem run_of_failed {k attempts : Nat} (hk : k < attempts) (hrejected : d.RejectedUpTo k)
    {e : Chat.Error} (hreply : (d.call k).reply = .error e) :
    d.run attempts = (.error e, (d.turn (k + 1)).2, (List.range (k + 1)).map d.call) := by
  obtain ⟨more, rfl⟩ := Nat.exists_eq_add_of_lt hk
  rw [Nat.add_assoc, d.run_of_rejectedUpTo hrejected, converse, recorded_turn, hreply]

/-- Without an accepted reply or a failure the dialogue uses up its attempts. -/
theorem run_of_exhausted {attempts : Nat} (hrejected : d.RejectedUpTo attempts) :
    d.run attempts =
      (.ok (.exhausted (d.errorsAfter attempts)), (d.turn attempts).2,
        (List.range attempts).map d.call) :=
  d.run_of_rejectedUpTo hrejected 0

/-- Some call fails before any reply is accepted. -/
def FailsWithin (attempts : Nat) : Prop :=
  ∃ k < attempts, d.RejectedUpTo k ∧ ∃ e, (d.call k).reply = .error e

/-- Unless all replies are rejected, there is a first call whose reply is not: it fails, or
its reply is accepted. -/
theorem rejectedUpTo_or_exists_first (attempts : Nat) :
    d.RejectedUpTo attempts ∨ ∃ k < attempts, d.RejectedUpTo k ∧
      ((∃ e, (d.call k).reply = .error e) ∨
        ∃ reply story, (d.call k).reply = .ok reply ∧
          judge d.validator d.inventory reply = .ok story) := by
  induction attempts with
  | zero => exact Or.inl fun i hi => absurd hi (Nat.not_lt_zero i)
  | succ n ih =>
      rcases ih with hrejected | ⟨k, hk, hfirst⟩
      · cases hreply : (d.call n).reply with
        | error e => exact Or.inr ⟨n, Nat.lt_succ_self n, hrejected, Or.inl ⟨e, hreply⟩⟩
        | ok reply =>
            by_cases hrejects : Rejects d.validator d.inventory reply
            · left
              intro i hi
              rcases Nat.lt_succ_iff_lt_or_eq.1 hi with hi | rfl
              · exact hrejected i hi
              · exact ⟨reply, hreply, hrejects⟩
            · obtain ⟨story, haccepts⟩ := exists_judge_of_not_rejects hrejects
              exact Or.inr ⟨n, Nat.lt_succ_self n, hrejected,
                Or.inr ⟨reply, story, hreply, haccepts⟩⟩
      · exact Or.inr ⟨k, Nat.lt_succ_of_lt hk, hfirst⟩

/-- A dialogue in which no call fails comes to an ending. -/
theorem exists_ending_of_not_failsWithin {attempts : Nat} (hnone : ¬d.FailsWithin attempts) :
    ∃ ending world, d.run attempts = (.ok ending, world) := by
  rcases d.rejectedUpTo_or_exists_first attempts with hrejected | ⟨k, hk, hrejected, hfirst⟩
  · exact ⟨_, _, d.run_of_exhausted hrejected⟩
  · rcases hfirst with hfailed | ⟨reply, story, hreply, haccepts⟩
    · exact absurd ⟨k, hk, hrejected, hfailed⟩ hnone
    · exact ⟨_, _, d.run_of_accepted hk hrejected hreply haccepts⟩

/-- The dialogue about a request with the given prompt. -/
def about (ask : Model σ) (v : Validator) (inv : Inventory) (settings : Settings)
    (request : Request) (prompt : String) (state : σ) : Dialogue σ where
  ask := ask
  validator := v
  inventory := inv
  options := { temperature := settings.temperature }
  opening :=
    [systemMessage (request.framework.getD settings.framework) v.settings.primaryPath inv,
      ⟨.user, prompt⟩]
  state := state

end Dialogue

section

/-- A model follows another one if it gives the same replies and sees its world through `f`. -/
def Model.Follows {σ τ : Type} (ask' : Model τ) (ask : Model σ) (f : σ → τ) : Prop :=
  ∀ messages options state,
    ask' messages options (f state) =
      ((ask messages options state).1, f (ask messages options state).2)

/-- The dialogue with a model that follows another one takes the same course. -/
theorem converse_of_follows {σ τ : Type} {ask' : Model τ} {ask : Model σ} {f : σ → τ}
    (hfollows : ask'.Follows ask f) (judge : String → Except (List String) Accepted)
    (options : Options) (past : Nat) (messages : List Message) (errors : List String)
    (attempts : Nat) (state : σ) :
    let ended := converse ask judge options past messages errors attempts state
    converse ask' judge options past messages errors attempts (f state) =
      (ended.1, f ended.2) := by
  induction attempts generalizing past messages errors state with
  | zero => rfl
  | succ attempts ih =>
      simp only [converse, hfollows messages options state]
      cases hask : ask messages options state with
      | mk reply after =>
          cases reply with
          | error e => rfl
          | ok reply =>
              cases hjudge : judge reply with
              | ok story => simp only [hjudge]
              | error found =>
                  simp only [hjudge]
                  exact ih _ _ _ _

/-- So does the generation of a story. -/
theorem generate_of_follows {σ τ : Type} {ask' : Model τ} {ask : Model σ} {f : σ → τ}
    (hfollows : ask'.Follows ask f) (v : Validator) (inv : Inventory) (settings : Settings)
    (request : Request) (state : σ) :
    let ended := generate ask v inv settings request state
    generate ask' v inv settings request (f state) = (ended.1, f ended.2) := by
  unfold generate
  cases trimmed? request.prompt with
  | none => rfl
  | some prompt =>
      simp only [converse_of_follows hfollows]
      generalize converse ask _ _ _ _ _ _ state = ended
      obtain ⟨outcome, world⟩ := ended
      cases outcome <;> rfl

variable {σ : Type} (ask : Model σ) (v : Validator) (inv : Inventory) (settings : Settings)
  (request : Request) (state : σ)

/-- A record of the calls changes neither the outcome of a generation nor the world. -/
theorem generate_recorded (calls : List Call) :
    let ended := generate ask.recorded v inv settings request (state, calls)
    generate ask v inv settings request state = (ended.1, ended.2.1) := by
  have hfollows : ask.Follows ask.recorded Prod.fst := fun _ _ _ => rfl
  exact generate_of_follows hfollows v inv settings request (state, calls)

/-- The outcome of a generation, told by the end of its dialogue. -/
def outcomeOf (prompt : String) : Except Chat.Error Ending → Except Error Story
  | .error e => .error (.model e)
  | .ok ending =>
    .ok (storyOf (request.framework.getD settings.framework) (titleFor request) prompt
      settings.maxAttempts ending)

theorem generate_of_run {prompt : String} (hprompt : trimmed? request.prompt = some prompt)
    {ended : Except Chat.Error Ending} {world : σ × List Call}
    (hrun : (Dialogue.about ask v inv settings request prompt state).run settings.maxAttempts =
      (ended, world)) :
    generate ask.recorded v inv settings request (state, []) =
      (outcomeOf settings request prompt ended, world) := by
  simp only [Dialogue.run, Dialogue.about] at hrun
  simp only [generate, hprompt, hrun]
  cases ended <;> rfl

end

end StoryMend.Generation

namespace StoryMend.CutOffStory

open Generation

/-- A model that gives some replies in turn and fails when they are used up. -/
def scripted : Model (List String) := fun _ _ replies =>
  match replies with
  | [] => (.error (.provider .openai .noContent), [])
  | reply :: rest => (.ok reply, rest)

/-- A reply without code, and one with the story. -/
def replies : List String := ["Sorry.", "```tsx\n" ++ raw ++ "\n```"]

/-- A request whose prompt is padded. -/
def request : Request := { prompt := " a button " }

end StoryMend.CutOffStory
