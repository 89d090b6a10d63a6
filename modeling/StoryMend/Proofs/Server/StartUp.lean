import StoryMend.Proofs.Environment
import StoryMend.Server.State

/-!
What the service starts with.  Each part of its state is read from variables of its own
(`Server.readNames`), so environments that agree on them but for blanks give one state or one
failure, whatever else they hold.  A failure is the first one of the parts in their order
(`State.ofEnvironment_agreeOn`).
-/

namespace StoryMend

variable {env env' : Environment}

/-- Whether two environments agree on variables, if blanks at the ends of their values do not
count. -/
def Environment.AgreeOn (env env' : Environment) (variableNames : List String) : Prop :=
  ∀ variableName ∈ variableNames, env.Agrees env' variableName

theorem Environment.AgreeOn.value?_eq {variableNames : List String}
    (h : env.AgreeOn env' variableNames) {variableName : String}
    (hmem : variableName ∈ variableNames) :
    env.value? variableName = env'.value? variableName :=
  agrees_iff_value?_eq.1 (h variableName hmem)

theorem Environment.AgreeOn.mono {small large : List String} (h : env.AgreeOn env' large)
    (hsub : small ⊆ large) : env.AgreeOn env' small :=
  fun variableName hmem => h variableName (hsub hmem)

/-! ### The settings of a validator -/

namespace Settings

/-- The variables that hold the settings of a validator. -/
def readNames : List String :=
  ["STORY_PRIMARY_IMPORT", "STORY_MAX_RETRIES", "STORY_FILE_KIND", "STORY_RUNTIME_MODULE",
    "STORY_RUNTIME_STATEMENT"]

theorem ofEnvironment_congr (h : env.AgreeOn env' readNames) :
    ofEnvironment env = ofEnvironment env' := by
  have hpath : readPath env = readPath env' := by
    funext s
    rw [readPath, readPath, h.value?_eq (by decide)]
  have hretries : readRetries env = readRetries env' := by
    funext s
    rw [readRetries, readRetries, h.value?_eq (by decide)]
  have hkind : readKind env = readKind env' := by
    funext s
    rw [readKind, readKind, h.value?_eq (by decide)]
  have hruntime : readRuntime env = readRuntime env' := by
    funext s
    rw [readRuntime, readRuntime, h.value?_eq (by decide)]
  have hstatement : readStatement env = readStatement env' := by
    funext s
    rw [readStatement, readStatement, h.value?_eq (by decide)]
  rw [ofEnvironment, ofEnvironment, hpath, hretries, hkind, hruntime, hstatement]

end Settings

/-! ### The settings of generation -/

namespace Generation.Settings

/-- The variables that hold the settings of generation. -/
def readNames : List String := ["STORY_FRAMEWORK", attemptsVariable]

theorem ofEnvironment_congr (h : env.AgreeOn env' readNames) :
    ofEnvironment env = ofEnvironment env' := by
  have hframework : readFramework env = readFramework env' := by
    funext s
    rw [readFramework, readFramework, h.value?_eq (by decide)]
  have hattempts : readAttempts env = readAttempts env' := by
    funext s
    rw [readAttempts, readAttempts, h.value?_eq (by decide)]
  rw [ofEnvironment, ofEnvironment, hframework, hattempts]

end Generation.Settings

/-! ### The language model -/

namespace Chat

/-- The variables that hold the settings of a language model. -/
def Settings.readNames : List String :=
  ["LLM_KIND", "LLM_MODEL", "LLM_ENDPOINT", "LLM_API_KEY", "LLM_MAX_TOKENS", "LLM_TEMPERATURE",
    "LLM_TIMEOUT_SECS"]

theorem Settings.ofEnvironment_congr (h : env.AgreeOn env' readNames) :
    ofEnvironment env = ofEnvironment env' := by
  have hnumber {α : Type} (read : String → Option α) (reason : String) {variableName : String}
      (hmem : variableName ∈ readNames) :
      number? read reason env variableName = number? read reason env' variableName := by
    rw [number?, number?, h.value?_eq hmem]
  have hmodel : required env "LLM_MODEL" = required env' "LLM_MODEL" := by
    rw [required, required, h.value?_eq (by decide)]
  have hkind : ofKind env = ofKind env' := by
    funext kind
    rw [ofKind, ofKind, hmodel, h.value?_eq (by decide : "LLM_ENDPOINT" ∈ readNames),
      h.value?_eq (by decide : "LLM_API_KEY" ∈ readNames), hnumber _ _ (by decide),
      hnumber _ _ (by decide), hnumber _ _ (by decide)]
  rw [ofEnvironment, ofEnvironment, hkind, h.value?_eq (by decide)]

theorem Service.ofEnvironment_congr (h : env.AgreeOn env' Settings.readNames) :
    ofEnvironment env = ofEnvironment env' := by
  rw [ofEnvironment, ofEnvironment, Settings.ofEnvironment_congr h]

end Chat

/-! ### The state -/

namespace Server

variable {parse : Parser} {files files' : Files} {compiler : Pattern.Compiler}

/-- The variables that hold what the service starts with. -/
def readNames : List String :=
  "COMPONENT_INVENTORY_PATH" ::
    (StoryMend.Settings.readNames ++ (Generation.Settings.readNames ++ Chat.Settings.readNames))

theorem readInventory_congr (hagree : env.Agrees env' "COMPONENT_INVENTORY_PATH")
    (hfiles : ∀ path, env.Holds "COMPONENT_INVENTORY_PATH" path → files path = files' path) :
    readInventory files env = readInventory files' env' := by
  rw [readInventory, readInventory, ← Environment.agrees_iff_value?_eq.1 hagree]
  cases hpath : env.value? "COMPONENT_INVENTORY_PATH" with
  | none => rfl
  | some path =>
      dsimp only
      rw [hfiles path (Environment.value?_eq_some_iff.1 hpath)]

theorem readValidator_congr (hagree : env.AgreeOn env' StoryMend.Settings.readNames) :
    readValidator parse env compiler = readValidator parse env' compiler := by
  rw [readValidator, readValidator, StoryMend.Settings.ofEnvironment_congr hagree]

/-- What is wrong with a part of the state, as a failure of the service. -/
def faultsOf {ε α : Type} (asError : ε → Error) : Except ε α → List Error
  | .ok _ => []
  | .error e => [asError e]

/-- Everything that is wrong with the parts of the state, in their order. -/
def faults (parse : Parser) (files : Files) (env : Environment)
    (compiler : Pattern.Compiler := Pattern.compile) : List Error :=
  faultsOf .ofSetup (readInventory files env) ++
    (faultsOf .ofSetup (readValidator parse env compiler) ++
      (faultsOf .ofGeneration (Generation.Settings.ofEnvironment env) ++
        faultsOf .ofChat (Chat.Service.ofEnvironment env)))

namespace State

/-- A part that is read well leaves the outcome to the parts after it; otherwise its fault is
the outcome. -/
theorem bind_mapError_eq_error_iff {ε α β : Type} {asError : ε → Error} {x : Except ε α}
    {f : α → Except Error β} {later : List Error} {e : Error}
    (hlater : ∀ a, f a = .error e ↔ later.head? = some e) :
    x.mapError asError >>= f = .error e ↔ (faultsOf asError x ++ later).head? = some e := by
  cases x with
  | error fault => simp [Except.mapError, faultsOf, bind, Except.bind]
  | ok a => exact hlater a

/-- The service fails to start with the first of all faults. -/
theorem ofEnvironment_eq_error_iff {e : Error} :
    ofEnvironment parse files env compiler = .error e ↔
      (faults parse files env compiler).head? = some e := by
  refine bind_mapError_eq_error_iff fun inventory => ?_
  refine bind_mapError_eq_error_iff fun validator => ?_
  refine bind_mapError_eq_error_iff fun generation => ?_
  rw [← List.append_nil (faultsOf _ _)]
  refine bind_mapError_eq_error_iff fun model => ?_
  exact iff_of_false (fun h => by cases h) (fun h => by cases h)

theorem ofEnvironment_eq_ok_iff {s : State} :
    ofEnvironment parse files env compiler = .ok s ↔
      readInventory files env = .ok s.inventory ∧
        readValidator parse env compiler = .ok s.validator ∧
          Generation.Settings.ofEnvironment env = .ok s.generation ∧
            Chat.Service.ofEnvironment env = .ok s.model := by
  constructor
  · intro h
    obtain ⟨inventory, hinventory, h⟩ := exists_of_bind_eq_ok h
    obtain ⟨validator, hvalidator, h⟩ := exists_of_bind_eq_ok h
    obtain ⟨generation, hgeneration, h⟩ := exists_of_bind_eq_ok h
    obtain ⟨model, hmodel, h⟩ := exists_of_bind_eq_ok h
    obtain rfl := Except.ok.inj h
    exact ⟨eq_ok_of_mapError_eq_ok hinventory, eq_ok_of_mapError_eq_ok hvalidator,
      eq_ok_of_mapError_eq_ok hgeneration, eq_ok_of_mapError_eq_ok hmodel⟩
  · rintro ⟨hinventory, hvalidator, hgeneration, hmodel⟩
    unfold ofEnvironment
    rw [hinventory, hvalidator, hgeneration, hmodel]
    rfl

/-- Environments that agree on the variables that are read, but for blanks, and name the same
text as the inventory start the service alike.  It starts with what is read for each part of its
state, or fails with the first of all faults: of the inventory, the validator, generation and the
language model. -/
theorem ofEnvironment_agreeOn (hagree : env.AgreeOn env' readNames)
    (hfiles : ∀ path, env.Holds "COMPONENT_INVENTORY_PATH" path → files path = files' path) :
    ofEnvironment parse files env compiler = ofEnvironment parse files' env' compiler ∧
    (∀ s, ofEnvironment parse files env compiler = .ok s ↔
      readInventory files env = .ok s.inventory ∧
        readValidator parse env compiler = .ok s.validator ∧
          Generation.Settings.ofEnvironment env = .ok s.generation ∧
            Chat.Service.ofEnvironment env = .ok s.model) ∧
    ∀ e, ofEnvironment parse files env compiler = .error e ↔
      (faults parse files env compiler).head? = some e := by
  refine ⟨?_, fun s => ofEnvironment_eq_ok_iff, fun e => ofEnvironment_eq_error_iff⟩
  have hinventory : readInventory files env = readInventory files' env' :=
    readInventory_congr (hagree _ (by decide)) hfiles
  have hvalidator : readValidator parse env compiler = readValidator parse env' compiler :=
    readValidator_congr (hagree.mono (by decide))
  have hgeneration := Generation.Settings.ofEnvironment_congr (hagree.mono (by decide))
  have hmodel := Chat.Service.ofEnvironment_congr (hagree.mono (by decide))
  rw [ofEnvironment, ofEnvironment, hinventory, hvalidator, hgeneration, hmodel]

/-- Variables with blanks around their values, or with nothing else. -/
def padded : Environment :=
  .ofList [("COMPONENT_INVENTORY_PATH", " ui.json\n"), ("STORY_MAX_RETRIES", " many "),
    ("STORY_FRAMEWORK", "  "), ("LLM_KIND", "\tbard")]

/-- The same without blanks, in another order, and a variable that is not read here. -/
def unpadded : Environment :=
  .ofList [("LLM_KIND", "bard"), ("API_ADDRESS", " "), ("STORY_MAX_RETRIES", "many"),
    ("COMPONENT_INVENTORY_PATH", "ui.json")]

/-- A retry count and a kind of server are both at fault, and the first one counts. -/
theorem ofEnvironment_padded :
    ofEnvironment (fun _ _ => none) (fun _ => .ok "[]") padded =
        ofEnvironment (fun _ _ => none)
          (fun path => if path = "ui.json" then .ok "[]" else .error "no such file") unpadded ∧
      ofEnvironment (fun _ _ => none) (fun _ => .ok "[]") padded =
        .error (.settings "invalid number in STORY_MAX_RETRIES: expected non-negative integer") := by
  have hread : readNames.all (fun n => padded.value? n == unpadded.value? n) = true ∧
      padded.value? "COMPONENT_INVENTORY_PATH" = some "ui.json" ∧
      (faults (fun _ _ => none) (fun _ => .ok "[]") padded).head? =
        some (.settings "invalid number in STORY_MAX_RETRIES: expected non-negative integer") := by
    decide +kernel
  obtain ⟨hvalues, hpath, hfault⟩ := hread
  have hagree : padded.AgreeOn unpadded readNames := fun n hn =>
    Environment.agrees_iff_value?_eq.2 (eq_of_beq (List.all_eq_true.1 hvalues n hn))
  have hfiles : ∀ path, padded.Holds "COMPONENT_INVENTORY_PATH" path →
      (Except.ok "[]" : Except String String) =
        if path = "ui.json" then .ok "[]" else .error "no such file" := by
    intro path h
    obtain rfl := Option.some.inj (hpath.symm.trans (Environment.value?_eq_some_iff.2 h))
    rfl
  exact ⟨(ofEnvironment_agreeOn hagree hfiles).1,
    ((ofEnvironment_agreeOn hagree hfiles).2.2 _).2 hfault⟩

end State

end Server

end StoryMend
