import StoryMend.Chat.Service
import StoryMend.Generation.Settings
import StoryMend.Server.Error
import StoryMend.Settings.Environment
import StoryMend.Validator

/-!
What the service knows when it answers requests, and how the environment and a file
give it.  Of several faults in them the first one counts, in the order inventory,
validator, generation, language model.
-/

namespace StoryMend.Server

/-- The texts of files, or why they cannot be read. -/
abbrev Files := String → Except String String

/-- What the service knows. -/
structure State where
  inventory : Inventory
  validator : Validator
  /-- The language model, if there is one. -/
  model : Option Chat.Service
  generation : Generation.Settings

/-- Reads the inventory from the file that the environment names, if it names one. -/
def readInventory (files : Files) (env : Environment) : Except SetupError Inventory :=
  match env.value? "COMPONENT_INVENTORY_PATH" with
  | none => .ok .empty
  | some path =>
    match files path with
    | .error reason => .error (.unreadable reason)
    | .ok text =>
      match Inventory.form.readText text with
      | .error e => .error (.malformed e)
      | .ok inv => .ok inv

/-- The validator that the environment describes. -/
def readValidator (parse : Parser) (env : Environment)
    (compiler : Pattern.Compiler := Pattern.compile) : Except SetupError Validator :=
  (Settings.ofEnvironment env).bind fun settings => Validator.ofSettings parse settings compiler

/-- The state that files and the environment give. -/
def State.ofEnvironment (parse : Parser) (files : Files) (env : Environment)
    (compiler : Pattern.Compiler := Pattern.compile) : Except Error State := do
  let inventory ← (readInventory files env).mapError .ofSetup
  let validator ← (readValidator parse env compiler).mapError .ofSetup
  let generation ← (Generation.Settings.ofEnvironment env).mapError .ofGeneration
  let model ← (Chat.Service.ofEnvironment env).mapError .ofChat
  return { inventory, validator, model, generation }

/-- The address on which the service listens unless another one is set. -/
def usualAddress : String := "127.0.0.1:8080"

/-- Starts the service: the state and the address on which it listens.  `canListen` says
on which addresses it can. -/
def start (parse : Parser) (files : Files) (canListen : String → Bool) (env : Environment)
    (compiler : Pattern.Compiler := Pattern.compile) : Except Error (State × String) :=
  let address := (env "API_ADDRESS").getD usualAddress
  match State.ofEnvironment parse files env compiler with
  | .error e => .error e
  | .ok state => if canListen address then .ok (state, address) else .error (.address address)

end StoryMend.Server
