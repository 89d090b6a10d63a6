import StoryMend.Proofs.Environment
import StoryMend.Proofs.Json.RoundTrip
import StoryMend.Proofs.Server.Envelope

/-!
What requests to validate come to.  A validator is told by its settings, so a request that
brings settings of its own gets the validator of the settings in which they are replaced,
and no pattern can be at fault.  Nothing is kept from one request to the next; the main
statement is that the library and the service give one verdict, whichever way they are
asked.
-/

namespace StoryMend

/-- A validator is the one that its own settings make. -/
def Validator.IsMade (v : Validator) : Prop := ofSettings v.parse v.settings v.compiler = .ok v

section Making

variable {parse : Parser} {settings : Settings} {compiler : Pattern.Compiler} {v : Validator}

theorem Validator.isMade_of_ofSettings (hv : ofSettings parse settings compiler = .ok v) :
    v.IsMade := by
  obtain ⟨hparse, hsettings, hcompiler, -⟩ := ofSettings_fields hv
  rwa [IsMade, hparse, hsettings, hcompiler]

/-- Settings with the same name patterns as those of a validator make a validator too. -/
theorem Validator.IsMade.exists_ofSettings (hv : v.IsMade) {s : Settings}
    (hpatterns : s.patterns = v.settings.patterns) :
    ∃ w, ofSettings v.parse s v.compiler = .ok w := by
  obtain ⟨names, hnames, -⟩ := ofSettings_eq_ok_iff.1 hv
  exact ⟨_, ofSettings_eq_ok_iff.2 ⟨names, hpatterns ▸ hnames, rfl⟩⟩

/-- The service starts with a validator that its settings make. -/
theorem Server.State.isMade_of_ofEnvironment {files : Server.Files} {env : Environment}
    {state : Server.State}
    (hstate : Server.State.ofEnvironment parse files env compiler = .ok state) :
    state.validator.IsMade := by
  obtain ⟨inv, -, hstate⟩ := exists_of_bind_eq_ok hstate
  obtain ⟨v, hvalidator, hstate⟩ := exists_of_bind_eq_ok hstate
  obtain ⟨generation, -, hstate⟩ := exists_of_bind_eq_ok hstate
  obtain ⟨model, -, hstate⟩ := exists_of_bind_eq_ok hstate
  cases hstate
  obtain ⟨settings, -, hv⟩ := exists_of_bind_eq_ok (eq_ok_of_mapError_eq_ok hvalidator)
  exact Validator.isMade_of_ofSettings hv

end Making

namespace Server

/-- The number of cycles that a request asks for is of the machine's width. -/
def ValidateRequest.IsSized (b : ValidateRequest) : Prop :=
  ∀ n ∈ b.maxRetries, n < UInt64.size

section Bodies

theorem ValidateRequest.readsAs_write {b : ValidateRequest} (h : b.IsSized) :
    form.ReadsAs (form.write b) b := by
  obtain ⟨code, path, retries⟩ := b
  have hpath : (Json.Shape.optional .text).Keeps (Json.ofOption .string path) :=
    Json.Shape.keeps_ofOption (fun s _ => Json.Shape.keeps_text s) Json.isWritten_string
  have hretries : (Json.Shape.optional .size).Keeps (Json.ofOption .nat retries) :=
    Json.Shape.keeps_ofOption (fun n hn => Json.Shape.keeps_size (h n hn)) Json.isWritten_nat
  have htakes : form.shape.Takes (form.write ⟨code, path, retries⟩)
      (form.write ⟨code, path, retries⟩) :=
    Json.Shape.takes_record
      (by simp [Json.Fields.Keeps, Json.Fields.shape?, Json.Shape.keeps_text, hpath, hretries])
      (by simp)
      (by simp [Json.fillFields, Json.Fields.keys, Json.Fields.defaults, List.lookup_cons])
  have hread := htakes.readsAs
  have hbuild : form.build (form.write ⟨code, path, retries⟩) = ⟨code, path, retries⟩ := by
    cases path <;> cases retries <;> rfl
  rwa [hbuild] at hread

/-- A body that was written for a value is read as that value, unless it is too long. -/
theorem Request.read_of_written {α : Type} {r : Request} {form : Json.Form α} {j : Json} {a : α}
    (hnames : r.NamesJson) (hbody : r.body = j.text.toUTF8.toList) (hreads : form.ReadsAs j a) :
    r.read form = if maxBody < r.body.length then .error .tooLong else .ok a := by
  split
  · next hlong => exact Request.read_eq_tooLong_iff.2 ⟨hnames, hlong⟩
  · next hshort =>
      exact Request.read_of_readText hnames (Nat.not_lt.1 hshort) hbody hreads.readText

end Bodies

section Runs

variable {σ : Type} (state : State) (peer : Http.Peer σ)

theorem length_answerAll (requests : List Request) (world : σ) :
    (answerAll state peer requests world).1.length = requests.length := by
  induction requests generalizing world with
  | nil => rfl
  | cons r rest ih => simp only [answerAll, List.length_cons, ih]

/-- Requests are answered one after the other, whatever they are grouped by. -/
theorem answerAll_append (before after : List Request) (world : σ) :
    (answerAll state peer (before ++ after) world).1 =
      (answerAll state peer before world).1 ++
        (answerAll state peer after (answerAll state peer before world).2).1 := by
  induction before generalizing world with
  | nil => rfl
  | cons r rest ih => simp only [List.cons_append, answerAll, ih]

/-- A request is answered as it would be if it came first, in the world that those before it
have left. -/
theorem getElem?_answerAll (before after : List Request) (r : Request) (world : σ) :
    (answerAll state peer (before ++ r :: after) world).1[before.length]? =
      some (answer state peer r (answerAll state peer before world).2).1 := by
  rw [answerAll_append, List.getElem?_append_right (length_answerAll state peer before world).le,
    length_answerAll, Nat.sub_self]
  rfl

end Runs

/-- Whenever a request to validate comes with a body, it is answered with what is written for a
verdict, which reads back as that verdict. -/
def State.Gives (state : State) (b : ValidateRequest) (verdict : Verdict) : Prop :=
  Verdict.form.ReadsAs (Verdict.form.write verdict) verdict ∧
    ∀ r : Request, r.Reaches .validate → r.read ValidateRequest.form = .ok b →
      ∀ (σ : Type) (peer : Http.Peer σ) (world : σ) (before after : List Request),
        (answerAll state peer (before ++ r :: after) world).1[before.length]? =
          some (.success (Verdict.form.write verdict))

section Verdicts

variable {state : State}

theorem State.gives_of_answerValidate {b : ValidateRequest} {verdict : Verdict}
    (h : answerValidate state b = .ok (Verdict.form.write verdict)) : state.Gives b verdict := by
  refine ⟨verdict.readsAs_write, fun r hreaches hbody σ peer world before after => ?_⟩
  rw [getElem?_answerAll, answer_of_reaches _ _ _ hreaches]
  simp only [routeAnswer, withBody, hbody, h, enveloped_respond]
  rfl

/-- The validator for a request is that of the settings in which those of the request are
replaced, whether it is the one of the service or made for the request. -/
theorem ValidateRequest.validator_eq (b : ValidateRequest) {v : Validator} (hv : v.IsMade) :
    ∃ w, Validator.ofSettings v.parse (b.override v.settings) v.compiler = .ok w ∧
      b.validator v = .ok w := by
  obtain ⟨w, hw⟩ := hv.exists_ofSettings (s := b.override v.settings) rfl
  refine ⟨w, hw, ?_⟩
  rw [ValidateRequest.validator]
  split
  · rw [hw]
    rfl
  · next hnone =>
      rw [Bool.not_eq_true, Bool.or_eq_false_iff] at hnone
      have hpath : b.primaryPath = none := by simpa using hnone.1
      have hretries : b.maxRetries = none := by simpa using hnone.2
      have hsame : b.override v.settings = v.settings := by
        rw [ValidateRequest.override, hpath, hretries]
        rfl
      rw [hsame] at hw
      exact congrArg Except.ok (Except.ok.inj (hv.symm.trans hw))

theorem answerValidate_eq (hmade : state.validator.IsMade) (b : ValidateRequest) :
    ∃ w, Validator.ofSettings state.validator.parse (b.override state.validator.settings)
        state.validator.compiler = .ok w ∧
      answerValidate state b = .ok (Verdict.form.write (w.validate state.inventory b.code)) := by
  obtain ⟨w, hw, hvalidator⟩ := b.validator_eq hmade
  exact ⟨w, hw, by rw [answerValidate, hvalidator, Except.map]⟩

/-- The answer depends on the settings of a request by what they replace. -/
theorem answerValidate_congr (hmade : state.validator.IsMade) {a b : ValidateRequest}
    (hcode : a.code = b.code)
    (hsame : a.override state.validator.settings = b.override state.validator.settings) :
    answerValidate state a = answerValidate state b := by
  obtain ⟨v, hv, hanswer⟩ := answerValidate_eq hmade a
  obtain ⟨w, hw, hother⟩ := answerValidate_eq hmade b
  rw [hsame, hw] at hv
  cases hv
  rw [hanswer, hother, hcode]

end Verdicts

end Server

namespace CutOffStory

open Server

/-- A service with the usual settings. -/
def usualState : State := { state with validator := .withUsualNames parser {} }

/-- A request whose body asks for the verdict on the story. -/
def validateRequest : Request where
  method := "POST"
  target := "/story/validate"
  headers := [("Content-Type", "application/json")]
  body := (ValidateRequest.form.write ⟨raw, some "ui", some 1⟩).text.toUTF8.toList

end CutOffStory

end StoryMend
