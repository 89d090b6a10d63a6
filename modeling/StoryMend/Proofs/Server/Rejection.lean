import StoryMend.Proofs.Json.Reading
import StoryMend.Proofs.Server.Generation
import StoryMend.Proofs.Text.Blank

/-!
What is left of the text about a body that cannot be used.  The text is put into the envelope of
a failure as long as it is short enough to be kept; it shows what was found in the body, which
may be much longer, and of a longer text nothing is left.  The failures that handlers put into an
envelope are short, and are not touched.
-/

namespace StoryMend.Server

open Text

/-- A route cannot use the body of a request. -/
def Request.IsRejected (r : Request) (e : Rejection) : Route → Prop
  | .health => False
  | .validate => r.read ValidateRequest.form = .error e
  | .extract => r.read extractForm = .error e
  | .fallback => r.read FallbackRequest.form = .error e
  | .generate => r.read Generation.Request.form = .error e

/-- The statuses of answers to bodies that cannot be used, apart from those refused for their
length. -/
def IsRejectionStatus (status : Nat) : Prop := status = 400 ∨ status = 415 ∨ status = 422

/-- The name of a status: its usual words in capitals, joined by underscores. -/
def statusName? (status : Nat) : Option String :=
  (Http.reason? status).map fun words =>
    String.ofList (words.toList.map fun c => if c = ' ' then '_' else c.toUpper)

/-! ### Texts about bodies -/

/-- The text of a rejection says something. -/
theorem Rejection.trimmed_message_ne (e : Rejection) : trimmed e.message ≠ "" := by
  have hstart : ∃ c rest, e.message.toList = c :: rest ∧ isBlank c = false := by
    cases e with
    | mediaType => exact ⟨_, _, rfl, rfl⟩
    | tooLong => exact ⟨_, _, rfl, rfl⟩
    | malformed e => exact ⟨_, _, String.toList_append, rfl⟩
    | misfit e => exact ⟨_, _, String.toList_append, rfl⟩
  obtain ⟨c, rest, hmessage, hc⟩ := hstart
  have hmem : c ∈ trim e.message.toList :=
    mem_trim_of_mem (hmessage ▸ List.mem_cons_self) hc
  intro hempty
  have hchars := congrArg String.toList hempty
  rw [trimmed, String.toList_ofList] at hchars
  rw [hchars] at hmem
  cases hmem

/-- The code of a rejection is the name of its status. -/
theorem statusName?_of_isRejectionStatus {status : Nat} (h : IsRejectionStatus status) :
    statusName? status = some (rejectionCode status) := by
  rcases h with rfl | rfl | rfl
  · decide
  · decide
  · decide

/-- A text that is short enough is kept without the blanks at its ends, and of another one
nothing is left. -/
theorem enveloped_ofText {status : Nat} (h : IsRejectionStatus status) (s : String) :
    (Response.ofText status s).enveloped =
      { Response.ofJson status (failureEnvelope (rejectionCode status)
          (if s.utf8ByteSize ≤ maxKept then trimmed s else "")
          (detailsOf (if s.utf8ByteSize ≤ maxKept then s.toList else []))) with
        isMarked := true } := by
  have hstatus : (status = 400 || status = 415 || status = 422) = true := by
    simpa [IsRejectionStatus, or_assoc] using h
  have hopen : (Response.ofText status s).enveloped =
      { Response.ofJson status (failureEnvelope (rejectionCode status)
          (String.ofList (trim (if s.utf8ByteSize ≤ maxKept then s.toList else [])))
          (detailsOf (if s.utf8ByteSize ≤ maxKept then s.toList else []))) with
        isMarked := true } := if_pos hstatus
  rw [hopen]
  by_cases hfits : s.utf8ByteSize ≤ maxKept
  · rw [if_pos hfits, if_pos hfits]
    rfl
  · rw [if_neg hfits, if_neg hfits]
    rfl

variable {σ : Type} {state : State} {peer : Http.Peer σ} {r : Request} {world : σ} {route : Route}

/-- A route that cannot use a body answers with the text about it. -/
theorem routeAnswer_of_isRejected {e : Rejection} (h : r.IsRejected e route) :
    routeAnswer state peer r world route = (.ofText e.status e.message, world) := by
  cases route with
  | health => exact h.elim
  | validate | extract | fallback =>
      rw [Request.IsRejected] at h
      simp only [routeAnswer, withBody, h]
  | generate =>
      rw [Request.IsRejected] at h
      simp only [routeAnswer, h]

/-- The answer to a body that cannot be used. -/
theorem answer_of_isRejected {e : Rejection} (hreaches : r.Reaches route)
    (hrejected : r.IsRejected e route) (hstatus : IsRejectionStatus e.status) :
    answer state peer r world =
      ({ Response.ofJson e.status (failureEnvelope (rejectionCode e.status)
          (if e.message.utf8ByteSize ≤ maxKept then trimmed e.message else "")
          (detailsOf (if e.message.utf8ByteSize ≤ maxKept then e.message.toList else []))) with
        isMarked := true }, world) := by
  rw [answer_of_reaches state peer world hreaches, routeAnswer_of_isRejected hrejected,
    enveloped_ofText hstatus]

/-! ### Failures of handlers -/

/-- The reason for which handlers refuse a request. -/
def blankPrompt : String := "`prompt` must not be empty"

/-- A handler is at fault itself, or the model is, but for one reason. -/
def IsHandled (outcome : Except Error Json) : Prop :=
  ∀ e, outcome = .error e → IsRejectionStatus e.status → e = .badRequest blankPrompt

theorem isHandled_ok (data : Json) : IsHandled (.ok data) := fun _ h => by cases h

/-- What is wrong with settings is no fault of a request. -/
theorem isHandled_answerValidate (state : State) (request : ValidateRequest) :
    IsHandled (answerValidate state request) := by
  intro e he hstatus
  rw [answerValidate, ValidateRequest.validator] at he
  split at he
  · cases hmade : Validator.ofSettings state.validator.parse
        (request.override state.validator.settings) state.validator.compiler with
    | ok v =>
        rw [hmade] at he
        cases he
    | error fault =>
        rw [hmade] at he
        cases he
        exact absurd hstatus (by simp [IsRejectionStatus, Error.ofSetup, Error.status])
  · cases he

/-- Of what goes wrong with a story only the blank prompt is the fault of its request. -/
theorem eq_badRequest_of_ofGeneration {fault : Generation.Error}
    (hstatus : IsRejectionStatus (Error.ofGeneration fault).status) :
    Error.ofGeneration fault = .badRequest blankPrompt := by
  cases fault with
  | emptyPrompt => rfl
  | badSetting variableName reason =>
      exact absurd hstatus (by simp [IsRejectionStatus, Error.ofGeneration, Error.status])
  | model fault =>
      cases fault <;>
        exact absurd hstatus
          (by simp [IsRejectionStatus, Error.ofGeneration, Error.ofChat, Error.status])

theorem isHandled_answerGenerate (state : State) (peer : Http.Peer σ)
    (request : Generation.Request) (world : σ) :
    IsHandled (answerGenerate state peer request world).1 := by
  intro e he hstatus
  rw [answerGenerate] at he
  split at he
  · cases he
    exact absurd hstatus (by simp [IsRejectionStatus, Error.status])
  · next model _ =>
      cases hstory : (Generation.generate (model.ask peer) state.validator state.inventory
          state.generation request world).1 with
      | ok story =>
          simp only [hstory, Except.mapError, Except.map] at he
          cases he
      | error fault =>
          simp only [hstory, Except.mapError, Except.map, Except.error.injEq] at he
          rw [← he] at hstatus ⊢
          exact eq_badRequest_of_ofGeneration hstatus

/-- An envelope with the status of a rejection says that the prompt is blank. -/
theorem content_respond {outcome : Except Error Json} (h : IsHandled outcome) {j : Json}
    (hcontent : (respond outcome).content = .json j)
    (hstatus : IsRejectionStatus (respond outcome).status) :
    j = failureEnvelope "BAD_REQUEST" (Error.badRequest blankPrompt).message [] := by
  cases outcome with
  | ok data =>
      have hok : (respond (.ok data)).status = 200 := rfl
      rw [hok] at hstatus
      exact absurd hstatus (by simp [IsRejectionStatus])
  | error e =>
      obtain rfl := h e rfl hstatus
      exact (Content.json.inj hcontent).symm

theorem content_withBody {α : Type} {form : Json.Form α} {handler : α → Except Error Json}
    (h : ∀ a, IsHandled (handler a)) {j : Json}
    (hcontent : (withBody r form handler).content = .json j)
    (hstatus : IsRejectionStatus (withBody r form handler).status) :
    j = failureEnvelope "BAD_REQUEST" (Error.badRequest blankPrompt).message [] := by
  rw [withBody] at hcontent hstatus
  cases hread : r.read form with
  | error e =>
      rw [hread] at hcontent
      cases hcontent
  | ok a =>
      rw [hread] at hcontent hstatus
      exact content_respond (h a) hcontent hstatus

/-- The envelopes that routes answer with, before anything is put into one, are short if they
have the status of a rejection. -/
theorem content_routeAnswer {j : Json}
    (hcontent : (routeAnswer state peer r world route).1.content = .json j)
    (hstatus : IsRejectionStatus (routeAnswer state peer r world route).1.status) :
    j = failureEnvelope "BAD_REQUEST" (Error.badRequest blankPrompt).message [] := by
  cases route with
  | health => exact content_respond (isHandled_ok _) hcontent hstatus
  | validate => exact content_withBody (isHandled_answerValidate state) hcontent hstatus
  | extract => exact content_withBody (fun _ => isHandled_ok _) hcontent hstatus
  | fallback => exact content_withBody (fun _ => isHandled_ok _) hcontent hstatus
  | generate =>
      rw [routeAnswer] at hcontent hstatus
      cases hread : r.read Generation.Request.form with
      | error e =>
          rw [hread] at hcontent
          cases hcontent
      | ok body =>
          rw [hread] at hcontent hstatus
          exact content_respond (isHandled_answerGenerate state peer body world) hcontent hstatus

theorem text_blankPrompt_le :
    (failureEnvelope "BAD_REQUEST" (Error.badRequest blankPrompt).message []).text.utf8ByteSize ≤
      maxKept := by
  decide

/-! ### Long texts -/

/-- A character shows as something. -/
theorem utf8ByteSize_showChar_pos (c : Char) : 1 ≤ (Json.showChar c).utf8ByteSize := by
  rw [Nat.one_le_iff_ne_zero, Ne, String.utf8ByteSize_eq_zero_iff, ← String.toList_inj]
  unfold Json.showChar
  split_ifs <;> simp

theorem length_le_utf8ByteSize_join {l : List String} (h : ∀ s ∈ l, 1 ≤ s.utf8ByteSize) :
    l.length ≤ (String.join l).utf8ByteSize := by
  induction l with
  | nil => exact Nat.zero_le _
  | cons s rest ih =>
      have hs := h s List.mem_cons_self
      have hrest := ih fun t ht => h t (List.mem_cons_of_mem s ht)
      rw [String.join_cons, String.utf8ByteSize_append, List.length_cons]
      omega

/-- A string is not shorter when messages show it. -/
theorem length_le_utf8ByteSize_showString (s : String) :
    s.length ≤ (Json.showString s).utf8ByteSize := by
  have hjoin : s.length ≤ (String.join (s.toList.map Json.showChar)).utf8ByteSize := by
    have hlength := length_le_utf8ByteSize_join (l := s.toList.map Json.showChar) fun t ht => by
      obtain ⟨c, -, rfl⟩ := List.mem_map.1 ht
      exact utf8ByteSize_showChar_pos c
    rwa [List.length_map, String.length_toList] at hlength
  rw [Json.showString, String.utf8ByteSize_append, String.utf8ByteSize_append]
  omega

/-- A string in place of another value is reported where it ends. -/
theorem wrongKind_of_quote {α : Type} {c after : Json.Cursor} {more : List UInt8} {s : String}
    (hquote : c.rest = Json.byte '"' :: more) (hread : Json.readString c.advance = .ok (s, after))
    (expected : String) :
    Json.wrongKind (α := α) c expected = after.misfit (.kind (.string s) expected) := by
  have hn : ¬Json.byte '"' = Json.byte 'n' := by decide
  have ht : ¬Json.byte '"' = Json.byte 't' := by decide
  have hf : ¬Json.byte '"' = Json.byte 'f' := by decide
  have hminus : ¬Json.byte '"' = Json.byte '-' := by decide
  have hdigit : ¬Json.isDigit (Json.byte '"') = true := by decide
  simp only [Json.wrongKind, Json.Cursor.peek?_of_rest hquote, hn, ht, hf, hminus, hdigit,
    ↓reduceIte, hread]
  rfl

/-- A request whose body is a string, to a route that expects a record, is rejected. -/
theorem read_of_quote {α : Type} (form : Json.Form α) {name : String} {fields : Json.Fields}
    (hshape : form.shape = .record name fields) (hnames : r.NamesJson)
    (hshort : r.body.length ≤ maxBody) {s : String} (hbody : r.body = Json.utf8 (Json.quote s)) :
    ∃ line column, r.read form = .error (.misfit
      { fault := .misfit (.kind (.string s) (Json.recordName name)), line, column }) := by
  have hrest : (Json.Cursor.ofBytes r.body).rest = Json.utf8 (Json.quote s) ++ [] :=
    hbody.trans (List.append_nil _).symm
  obtain ⟨more, after, hquote, hread, -⟩ := Json.readString_of_quote s hrest
  refine ⟨after.line, after.column, ?_⟩
  have hlist : ¬Json.byte '"' = Json.byte '[' := by decide
  have hmap : ¬Json.byte '"' = Json.byte '\x7b' := by decide
  have hrecord : form.shape.read r.body = .error
      { fault := .misfit (.kind (.string s) (Json.recordName name))
        line := after.line, column := after.column } := by
    rw [Json.Shape.read, Json.Shape.readStart, hshape, Json.Shape.reader_record, Json.readRecord,
      Json.onByte_of_rest hquote (by decide), if_neg hlist, if_neg hmap,
      wrongKind_of_quote hquote hread]
    rfl
  obtain ⟨value, hheader, hplain, hjson⟩ := hnames
  simp [Request.read, hheader, hplain, hjson, Nat.not_lt.2 hshort, hrecord, Rejection.ofReadError,
    Json.Fault.isMisfit]

/-- The text about a fault holds the words for it. -/
theorem utf8ByteSize_fault_le (e : Json.ReadError) (hpath : e.path = []) :
    e.fault.message.utf8ByteSize ≤ (Rejection.misfit e).message.utf8ByteSize := by
  have hmessage : (Rejection.misfit e).message =
      "Failed to deserialize the JSON body into the target type: " ++ e.messageWithPath := rfl
  have hwhole : e.messageWithPath = e.message := by
    rw [Json.ReadError.messageWithPath, hpath]
    rfl
  have hplace : e.message = e.fault.message ++
      (" at line " ++ (toString e.line ++ (" column " ++ toString e.column))) := by
    rw [Json.ReadError.message]
    simp only [toString, String.append_assoc]
  rw [hmessage, hwhole, hplace, String.utf8ByteSize_append, String.utf8ByteSize_append]
  omega

/-- The words for a string that is found in place of something else show the string. -/
theorem length_le_utf8ByteSize_kind (s expected : String) :
    s.length ≤ (Json.Misfit.kind (.string s) expected).message.utf8ByteSize := by
  have hmessage : (Json.Misfit.kind (.string s) expected).message =
      "invalid type: " ++ (Json.Found.string s).describe ++ ", expected " ++ expected := rfl
  have hdescribe : (Json.Found.string s).describe = "string " ++ Json.showString s := rfl
  have hshown := length_le_utf8ByteSize_showString s
  rw [hmessage, hdescribe]
  simp only [String.utf8ByteSize_append]
  omega

/-! ### What the service answers -/

end StoryMend.Server

namespace StoryMend.Choices

open Server

/-- A request for a story about nothing. -/
def blankRequest : Server.Request where
  method := "POST"
  target := "/story/generate"
  headers := [("content-type", "application/json")]
  body := (Generation.Request.form.write { prompt := " " }).text.toUTF8.toList

theorem routeAnswer_blankRequest :
    routeAnswer state Http.silent blankRequest () .generate =
      (.failure (.badRequest blankPrompt), ()) := by
  have hnames : blankRequest.NamesJson := ⟨"application/json", by decide, by decide, by decide⟩
  have hshort : blankRequest.body.length ≤ maxBody := by
    rw [blankRequest, Json.toList_toUTF8_text]
    decide
  have hread : blankRequest.read Generation.Request.form = .ok { prompt := " " } :=
    Request.read_of_readText hnames hshort rfl
      (Generation.Request.keeps { prompt := " " }).readsAs.readText
  have hanswer : answerGenerate state Http.silent { prompt := " " } () =
      (.error (.badRequest blankPrompt), ()) :=
    answerGenerate_of_blank Http.silent () (rfl : state.model = some service)
      (by decide : Text.trimmed " " = "")
  simp only [routeAnswer, hread, hanswer, respond]

end StoryMend.Choices

namespace StoryMend.LongText

open Server

/-- A string of some letters. -/
def letters (n : Nat) : String := String.ofList (List.replicate n 'a')

/-- A request to extract code whose body is such a string. -/
def request (n : Nat) : Request where
  method := "POST"
  target := "/story/extract"
  headers := [("content-type", "application/json")]
  body := Json.utf8 (Json.quote (letters n))

/-- A letter is one byte, and so is a quote. -/
theorem length_body (n : Nat) : (request n).body.length = n + 2 := by
  have hescape : (List.replicate n 'a').flatMap Json.escape = List.replicate n 'a' := by
    induction n with
    | zero => rfl
    | succ n ih =>
        rw [List.replicate_succ, List.flatMap_cons, ih]
        rfl
  have hbytes : Json.utf8 (List.replicate n 'a') = List.replicate n (Json.byte 'a') := by
    rw [Json.utf8_of_forall_lt, List.map_replicate]
    intro x hx
    rw [List.eq_of_mem_replicate hx]
    decide
  rw [request, Json.utf8_quote, letters, String.toList_ofList, hescape, hbytes, List.length_cons,
    List.length_append, List.length_replicate, List.length_singleton]

end StoryMend.LongText
