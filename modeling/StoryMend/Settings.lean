import StoryMend.FileKind
import StoryMend.Json.Form
import StoryMend.Runtime

/-!
The settings of a validator, with their defaults, and how they stand in JSON.  In
JSON every setting may be left out; a runtime that is null is switched off, while
one that is left out is the usual one.
-/

namespace StoryMend

/-- Patterns of names that look like components but are exports of stories. -/
structure NamePatterns where
  /-- A name that matches one of these is never a component. -/
  always : List String := ["Story$", "Stories$"]
  /-- A name that matches one of these is no component if the story exports it. -/
  whenExported : List String := ["^Default$", "Meta$", "Template$"]
deriving Repr, DecidableEq, Inhabited

/-- A name that is often taken for the name of a component. -/
structure Alias where
  /-- The name that is mistaken. -/
  name : String
  /-- The name of the component that is meant. -/
  component : String
deriving Repr, DecidableEq, Inhabited

/-- The aliases that are known from the start. -/
def Alias.usual : List Alias :=
  [⟨"Heading", "Title"⟩, ⟨"Header", "Title"⟩, ⟨"Typography", "Text"⟩, ⟨"Paragraph", "Text"⟩,
    ⟨"Link", "Anchor"⟩, ⟨"Spinner", "Loader"⟩, ⟨"Dialog", "Modal"⟩, ⟨"Toast", "Notification"⟩,
    ⟨"Dropdown", "Menu"⟩, ⟨"Input", "TextInput"⟩, ⟨"Icon", "ThemeIcon"⟩]

/-- The settings of a validator. -/
structure Settings where
  /-- The module whose imports are checked. -/
  primaryPath : String := "@mantine/core"
  /-- How many cycles of repair are tried. -/
  maxRetries : Nat := 1
  kind : FileKind := .tsx
  /-- The runtime that markup needs, if it needs one. -/
  runtime : Option Runtime := some .react
  patterns : NamePatterns := {}
  aliases : List Alias := Alias.usual
  /-- How many components a message lists. -/
  maxListed : Nat := 10
deriving Repr, DecidableEq, Inhabited

/-- How kinds of modules stand in JSON. -/
def FileKind.form : Json.Form FileKind where
  shape := .choice ["tsx", "jsx"]
  write kind := .string kind.name
  build
    | .string "jsx" => .jsx
    | _ => .tsx

/-- How runtimes stand in JSON. -/
def Runtime.form : Json.Form Runtime where
  shape := .record "RuntimeImport" <|
    .field "module" .text none <| .field "statement" .text none .done
  write r := .object [("module", .string r.moduleName), ("statement", .string r.statement)]
  build j := { moduleName := j.textAt "module", statement := j.textAt "statement" }

namespace NamePatterns

/-- Writes patterns. -/
def write (p : NamePatterns) : Json :=
  .object [("always", .strings p.always), ("whenExported", .strings p.whenExported)]

/-- How patterns stand in JSON. -/
def form : Json.Form NamePatterns where
  shape := .record "BlacklistConfig" <|
    .field "always" (.list .text) (some (.strings ({} : NamePatterns).always)) <|
    .field "whenExported" (.list .text) (some (.strings ({} : NamePatterns).whenExported)) .done
  write := write
  build j := { always := j.textsAt "always", whenExported := j.textsAt "whenExported" }

end NamePatterns

/-- How aliases stand in JSON. -/
def Alias.form : Json.Form Alias where
  shape := .record "SuggestionAlias" <| .field "from" .text none <| .field "to" .text none .done
  write a := .object [("from", .string a.name), ("to", .string a.component)]
  build j := { name := j.textAt "from", component := j.textAt "to" }

namespace Settings

/-- The settings for a module, with a number of repair cycles. -/
def forPath (primaryPath : String) (maxRetries : Nat) : Settings := { primaryPath, maxRetries }

/-- The fields of settings as they are written. -/
def writeFields (s : Settings) : List (String × Json) :=
  [("primaryImportPath", .string s.primaryPath), ("maxRetries", .nat s.maxRetries),
    ("fileKind", FileKind.form.write s.kind),
    ("runtimeImport", Runtime.form.optional.write s.runtime),
    ("blacklist", s.patterns.write), ("suggestionAliases", Alias.form.list.write s.aliases),
    ("maxListedComponents", .nat s.maxListed)]

/-- What a setting is when it is left out. -/
def default? (key : String) : Option Json := (({} : Settings).writeFields).lookup key

/-- How settings stand in JSON. -/
def form : Json.Form Settings where
  shape := .record "ValidatorConfig" <|
    .field "primaryImportPath" .text (default? "primaryImportPath") <|
    .field "maxRetries" .size (default? "maxRetries") <|
    .field "fileKind" FileKind.form.shape (default? "fileKind") <|
    .field "runtimeImport" (.optional Runtime.form.shape) (default? "runtimeImport") <|
    .field "blacklist" NamePatterns.form.shape (default? "blacklist") <|
    .field "suggestionAliases" (.list Alias.form.shape) (default? "suggestionAliases") <|
    .field "maxListedComponents" .size (default? "maxListedComponents") .done
  write s := .object s.writeFields
  build j :=
    { primaryPath := j.textAt "primaryImportPath"
      maxRetries := j.naturalAt "maxRetries"
      kind := FileKind.form.inField "fileKind" j
      runtime := Runtime.form.optional.inField "runtimeImport" j
      patterns := NamePatterns.form.inField "blacklist" j
      aliases := Alias.form.list.inField "suggestionAliases" j
      maxListed := j.naturalAt "maxListedComponents" }

end Settings

end StoryMend
