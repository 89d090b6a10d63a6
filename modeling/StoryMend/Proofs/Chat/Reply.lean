import Mathlib
import StoryMend.Chat.Service
import StoryMend.Proofs.Text.Lines

/-!
What the answers to conversations come to.  `ComesTo` sorts the answers of a provider: bad
statuses, bodies of another form, replies, and answers without content.  Each answer comes
to exactly one outcome.  The main statement is that asking a model gives that outcome
unless a blank content stands before one that says something, which only an answer with
several choices can have.
-/

namespace StoryMend.Chat

open Text

/-- Whether a content says something. -/
def speaks (content : String) : Bool := !isBlankText content.toList

/-- A snippet is no longer than messages show. -/
theorem snippet_length_le (body : String) : (snippet body).length ≤ snippetLength := by
  rw [snippet, String.length_ofList]
  exact List.length_take_le _ _

/-- A snippet is one line: its only blanks are the spaces between words. -/
theorem eq_space_of_mem_snippet {body : String} {c : Char} (hc : c ∈ (snippet body).toList)
    (hblank : isBlank c = true) : c = ' ' := by
  rw [snippet, String.toList_ofList] at hc
  rcases mem_join (List.mem_of_mem_take hc) with hspace | ⟨word, hword, hmem⟩
  · exact List.mem_singleton.1 hspace
  · have hpiece : word ∈ splitWhere isBlank body.toList := List.mem_of_mem_filter hword
    have hplain := (mem_of_mem_splitWhere hpiece hmem).2
    rw [hblank] at hplain
    cases hplain

namespace Service

/-- What the answer to a conversation has to come to. -/
inductive ComesTo (s : Settings) (answer : Http.Answer) : Except Error String → Prop
  /-- A status that is no success is reported with the address and a snippet of the body. -/
  | refusal (hstatus : Http.isSuccess answer.status = false) :
      ComesTo s answer (.error (.provider s.provider
        (.badStatus answer.status s.chatAddress (snippet answer.text))))
  /-- A body of another form cannot be decoded. -/
  | misfit (hstatus : Http.isSuccess answer.status = true) {e : Json.ReadError}
      (hbody : (answerShape s.provider).read answer.body = .error e) :
      ComesTo s answer (.error (.provider s.provider (formFault s.provider)))
  /-- The reply is the first content that says something. -/
  | reply (hstatus : Http.isSuccess answer.status = true) {j : Json}
      (hbody : (answerShape s.provider).read answer.body = .ok j) {c : String}
      (hfirst : (contents s.provider j).find? speaks = some c) : ComesTo s answer (.ok c)
  /-- No content says something. -/
  | silence (hstatus : Http.isSuccess answer.status = true) {j : Json}
      (hbody : (answerShape s.provider).read answer.body = .ok j)
      (hnone : (contents s.provider j).find? speaks = none) :
      ComesTo s answer (.error (.provider s.provider .noContent))

/-- A blank content stands before one that says something. -/
def Hides (s : Settings) (answer : Http.Answer) : Prop :=
  Http.isSuccess answer.status = true ∧
    ∃ j blank rest, (answerShape s.provider).read answer.body = .ok j ∧
      contents s.provider j = blank :: rest ∧ speaks blank = false ∧
        ∃ c ∈ rest, speaks c = true

variable (s : Settings) (answer : Http.Answer)

variable {s answer} in
/-- An answer comes to one outcome only. -/
theorem ComesTo.unique {a b : Except Error String} (ha : ComesTo s answer a)
    (hb : ComesTo s answer b) : a = b := by
  cases ha with
  | refusal hstatus => cases hb <;> grind
  | misfit hstatus hbody => cases hb <;> grind
  | reply hstatus hbody hfirst => cases hb <;> grind
  | silence hstatus hbody hnone => cases hb <;> grind

/-- Every answer comes to an outcome. -/
theorem existsUnique_comesTo : ∃! outcome, ComesTo s answer outcome := by
  suffices h : ∃ outcome, ComesTo s answer outcome by
    obtain ⟨outcome, houtcome⟩ := h
    exact ⟨outcome, houtcome, fun other hother => hother.unique houtcome⟩
  cases hstatus : Http.isSuccess answer.status with
  | false => exact ⟨_, .refusal hstatus⟩
  | true =>
      cases hbody : (answerShape s.provider).read answer.body with
      | error e => exact ⟨_, .misfit hstatus hbody⟩
      | ok j =>
          cases hfirst : (contents s.provider j).find? speaks with
          | none => exact ⟨_, .silence hstatus hbody hfirst⟩
          | some c => exact ⟨_, .reply hstatus hbody hfirst⟩

theorem replyOf_of_refusal {s : Settings} {answer : Http.Answer}
    (hstatus : Http.isSuccess answer.status = false) :
    replyOf s answer = .error (.provider s.provider
      (.badStatus answer.status s.chatAddress (snippet answer.text))) := by
  simp [replyOf, hstatus]

theorem replyOf_of_misfit {s : Settings} {answer : Http.Answer} {e : Json.ReadError}
    (hstatus : Http.isSuccess answer.status = true)
    (hbody : (answerShape s.provider).read answer.body = .error e) :
    replyOf s answer = .error (.provider s.provider (formFault s.provider)) := by
  simp [replyOf, hstatus, hbody]

/-- The reply in an answer of the right form is its first content, if that says something. -/
theorem replyOf_of_read {s : Settings} {answer : Http.Answer} {j : Json}
    (hstatus : Http.isSuccess answer.status = true)
    (hbody : (answerShape s.provider).read answer.body = .ok j) :
    replyOf s answer =
      match contents s.provider j with
      | [] => .error (.provider s.provider .noContent)
      | c :: _ => if speaks c then .ok c else .error (.provider s.provider .noContent) := by
  simp only [replyOf, hstatus, hbody, Bool.not_true, Bool.false_eq_true, ↓reduceIte]
  cases contents s.provider j with
  | nil => rfl
  | cons c rest => cases hblank : isBlankText c.toList <;> simp [speaks, hblank]

/-- Where a content is hidden, the answer counts as one without content. -/
theorem replyOf_of_hides {s : Settings} {answer : Http.Answer} (hhides : Hides s answer) :
    replyOf s answer = .error (.provider s.provider .noContent) := by
  obtain ⟨hstatus, j, blank, rest, hbody, hcontents, hblank, -⟩ := hhides
  rw [replyOf_of_read hstatus hbody, hcontents]
  simp [hblank]

/-- The reply in an answer is the one that it has to come to, unless it is hidden. -/
theorem comesTo_replyOf_iff : ComesTo s answer (replyOf s answer) ↔ ¬Hides s answer := by
  constructor
  · intro hcomes hhides
    rw [replyOf_of_hides hhides] at hcomes
    obtain ⟨hstatus, j, blank, rest, hbody, hcontents, -, c, hc, hspeaks⟩ := hhides
    cases hfirst : (contents s.provider j).find? speaks with
    | some first => cases hcomes.unique (.reply hstatus hbody hfirst)
    | none =>
        rw [hcontents] at hfirst
        exact List.find?_eq_none.1 hfirst c (List.mem_cons_of_mem blank hc) hspeaks
  · intro hshown
    cases hstatus : Http.isSuccess answer.status with
    | false =>
        rw [replyOf_of_refusal hstatus]
        exact .refusal hstatus
    | true =>
        cases hbody : (answerShape s.provider).read answer.body with
        | error e =>
            rw [replyOf_of_misfit hstatus hbody]
            exact .misfit hstatus hbody
        | ok j =>
            rw [replyOf_of_read hstatus hbody]
            cases hcontents : contents s.provider j with
            | nil => exact .silence hstatus hbody (by rw [hcontents]; rfl)
            | cons first rest =>
                by_cases hfirst : speaks first = true
                · have hfound : (contents s.provider j).find? speaks = some first := by
                    rw [hcontents, List.find?_cons_of_pos hfirst]
                  simpa [hfirst] using ComesTo.reply hstatus hbody hfound
                · -- Nothing is hidden behind the blank content, so all others are blank too.
                  have hrest : ∀ c ∈ rest, ¬speaks c = true := fun c hc hspeaks =>
                    hshown ⟨hstatus, j, first, rest, hbody, hcontents, by simpa using hfirst,
                      c, hc, hspeaks⟩
                  have hnone : (contents s.provider j).find? speaks = none := by
                    rw [hcontents, List.find?_cons_of_neg hfirst]
                    exact List.find?_eq_none.2 hrest
                  simpa [hfirst] using ComesTo.silence hstatus hbody hnone

/-- An answer with at most one content hides none. -/
theorem not_hides_of_ollama {s : Settings} (hp : s.provider = .ollama) (answer : Http.Answer) :
    ¬Hides s answer := by
  rintro ⟨-, j, blank, rest, -, hcontents, -, c, hc, -⟩
  have hlength : (contents s.provider j).length ≤ 1 := by
    rw [hp, contents]
    exact Option.length_toList_le
  rw [hcontents] at hlength
  cases rest with
  | nil => cases hc
  | cons d rest => simp at hlength

/-- What comes of a call is told by the answer, if there is one. -/
theorem ask_of_answer {σ : Type} {service : Service} {peer : Http.Peer σ}
    {messages : List Message} {o : Options} {state after : σ} {answer : Http.Answer}
    (hanswer : peer (service.post messages o) state = (.ok answer, after)) :
    service.ask peer messages o state = (replyOf service.settings answer, after) := by
  rw [ask, hanswer]

/-- What asking a model comes to when its provider answers.  Each answer has one due outcome,
the snippet in a report is one short line, and the model's reply is what is due exactly
unless a content is hidden; then it is an error, which never befalls an answer with one
content. -/
theorem ask_comesTo_iff {σ : Type} {service : Service} {peer : Http.Peer σ}
    {messages : List Message} {o : Options} {state after : σ} {answer : Http.Answer}
    (hanswer : peer (service.post messages o) state = (.ok answer, after)) :
    let outcome := (service.ask peer messages o state).1
    (∃! due, ComesTo service.settings answer due) ∧
      ((snippet answer.text).length ≤ 240 ∧
        ∀ c ∈ (snippet answer.text).toList, isBlank c = true → c = ' ') ∧
      (ComesTo service.settings answer outcome ↔ ¬Hides service.settings answer) ∧
      (Hides service.settings answer →
        outcome = .error (.provider service.settings.provider .noContent)) ∧
      (service.settings.provider = .ollama → ComesTo service.settings answer outcome) := by
  intro outcome
  have houtcome : outcome = replyOf service.settings answer :=
    congrArg Prod.fst (ask_of_answer hanswer)
  have hiff := comesTo_replyOf_iff service.settings answer
  rw [houtcome]
  refine ⟨existsUnique_comesTo _ _, ⟨snippet_length_le _, ?_⟩, hiff, replyOf_of_hides, ?_⟩
  · exact fun c hc hblank => eq_space_of_mem_snippet hc hblank
  · exact fun hp => hiff.2 (not_hides_of_ollama hp answer)

end Service

end StoryMend.Chat

namespace StoryMend.Choices

open Chat

/-- A service whose answers may have several choices. -/
def service : Service where
  settings := { provider := .openai, model := "m", endpoint := "http://llm.test", key := some "k" }
  authorization := some "Bearer k"

/-- The body of an answer with some contents, one for each choice. -/
def bodyOf (contents : List String) : Json :=
  .object [("choices", .array (contents.map fun c =>
    .object [("message", .object [("content", .string c)])]))]

/-- An answer with some contents. -/
def answerOf (contents : List String) : Http.Answer where
  status := 200
  body := (bodyOf contents).text.toUTF8.toList
  text := (bodyOf contents).text

/-- A provider that gives the same answer to all conversations. -/
def peer (answer : Http.Answer) : Http.Peer Unit := fun _ state => (.ok answer, state)

theorem read_hidden :
    (Service.answerShape .openai).read (answerOf [" ", "ok"]).body = .ok (bodyOf [" ", "ok"]) := by
  cbv

theorem read_shown :
    (Service.answerShape .openai).read (answerOf ["ok", " "]).body = .ok (bodyOf ["ok", " "]) := by
  cbv

/-- A blank content hides the one after it: the answer counts as one without content. -/
theorem ask_hidden :
    Service.ofSettings service.settings = .ok service ∧
      (service.ask (peer (answerOf [" ", "ok"])) [] {} ()).1 =
        .error (.provider .openai .noContent) ∧
      Service.ComesTo service.settings (answerOf [" ", "ok"]) (.ok "ok") := by
  have hhides : Service.Hides service.settings (answerOf [" ", "ok"]) :=
    ⟨rfl, _, " ", ["ok"], read_hidden, rfl, rfl, "ok", List.mem_singleton_self _, rfl⟩
  exact ⟨rfl, Service.replyOf_of_hides hhides, .reply rfl read_hidden rfl⟩

theorem ask_shown :
    peer (answerOf ["ok", " "]) (service.post [] {}) () = (.ok (answerOf ["ok", " "]), ()) ∧
      Service.ComesTo service.settings (answerOf ["ok", " "])
        (service.ask (peer (answerOf ["ok", " "])) [] {} ()).1 := by
  have hanswer : peer (answerOf ["ok", " "]) (service.post [] {}) () =
      (.ok (answerOf ["ok", " "]), ()) := rfl
  obtain ⟨-, -, hiff, -⟩ := Service.ask_comesTo_iff hanswer
  refine ⟨hanswer, hiff.2 ?_⟩
  rintro ⟨-, j, blank, rest, hbody, hcontents, hblank, -⟩
  have hj : bodyOf ["ok", " "] = j := Except.ok.inj (read_shown.symm.trans hbody)
  have hfirst : "ok" = blank := by
    rw [← hj] at hcontents
    exact (List.cons.inj hcontents).1
  rw [← hfirst] at hblank
  exact absurd hblank (by decide)

end StoryMend.Choices
