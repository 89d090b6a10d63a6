import StoryMend.Diagnostic
import StoryMend.Generation.Story
import StoryMend.Proofs.Inventory
import StoryMend.Proofs.Json.Reading
import StoryMend.Settings
import StoryMend.Verdict

/-!
Values survive being written and read.  A form keeps a value when the value is written in
its regular form and built of it again; lists and values that may be missing are kept
because their parts are, and records field by field.  The main statement says so of the
values that leave the library, and of settings from which some were left out: those have
their defaults, so that a runtime that was left out is the usual one, while one that is
null is none.
-/

namespace StoryMend.Json

variable {α : Type} {f : Form α}

/-- A JSON value stands for a value, whether it is read from its text or is there already. -/
structure Form.ReadsAs (f : Form α) (j : Json) (a : α) : Prop where
  read : f.read j = .ok a
  readText : f.readText j.text = .ok a

/-- A value is written in its regular form, and built of it again. -/
structure Form.Keeps (f : Form α) (a : α) : Prop where
  takes : f.shape.Keeps (f.write a)
  build : f.build (f.write a) = a

section Forms

/-- A text that holds a value and nothing else is read to its end. -/
theorem Shape.Takes.read {s : Shape} {j regular : Json} (h : s.Takes j regular) :
    s.read (utf8 j.write) = .ok regular := by
  have hend : CanFollow [] := by
    rintro b ⟨⟩
  obtain ⟨after, hread, hafter⟩ :=
    h.reads (c := .ofBytes (utf8 j.write)) (List.append_nil _).symm hend
  have hblanks : after.skipBlanks = after := by
    rw [Cursor.skipBlanks, hafter]
    rfl
  have hpeek : after.peek? = none := by rw [Cursor.peek?, hafter, List.head?_nil]
  simp only [Shape.read, readStart, hread, Cursor.checkEnd, hblanks, hpeek, Except.map]

theorem Shape.Takes.readsAs {j regular : Json} (h : f.shape.Takes j regular) :
    f.ReadsAs j (f.build regular) where
  read := by rw [Form.read, h.check, Except.map]
  readText := by rw [Form.readText, Shape.readText, toList_toUTF8_text, h.read, Except.map]

theorem Form.Keeps.readsAs {a : α} (h : f.Keeps a) : f.ReadsAs (f.write a) a := by
  have hread := h.takes.readsAs
  rwa [h.build] at hread

theorem Form.keeps_text (s : String) : Form.text.Keeps s := ⟨Shape.keeps_text s, rfl⟩

theorem Form.Keeps.list {l : List α} (h : ∀ a ∈ l, f.Keeps a) : f.list.Keeps l where
  takes := Shape.keeps_list fun j hj => by
    obtain ⟨a, ha, rfl⟩ := List.mem_map.1 hj
    exact (h a ha).takes
  build := by
    show (l.map f.write).map f.build = l
    rw [List.map_map]
    exact (List.map_congr_left fun a ha => (h a ha).build).trans (List.map_id l)

/-- A value that may be missing is null or as it is written if it is there. -/
theorem Shape.keeps_ofOption {s : Shape} {write : α → Json} {o : Option α}
    (h : ∀ a ∈ o, s.Keeps (write a)) (hwritten : ∀ a, IsWritten (write a)) :
    (Shape.optional s).Keeps (Json.ofOption write o) := by
  cases o with
  | none => exact Shape.keeps_null s
  | some a => exact (h a rfl).optional (hwritten a)

theorem not_isWritten_null : ¬IsWritten .null := fun h => h rfl

theorem Form.Keeps.optional {o : Option α} (h : ∀ a ∈ o, f.Keeps a)
    (hwritten : ∀ a, IsWritten (f.write a)) : f.optional.Keeps o where
  takes := Shape.keeps_ofOption (fun a ha => (h a ha).takes) hwritten
  build := by
    cases o with
    | none => rfl
    | some a =>
        have hbuild : f.optional.build (f.write a) = some (f.build (f.write a)) := by
          simp only [Form.optional]
          split
          · next hnull => exact absurd (hnull ▸ hwritten a) not_isWritten_null
          · rfl
        exact hbuild.trans (congrArg some (h a rfl).build)

theorem Shape.keeps_strings (l : List String) : (Shape.list .text).Keeps (.strings l) :=
  Shape.keeps_list fun j hj => by
    obtain ⟨s, -, rfl⟩ := List.mem_map.1 hj
    exact Shape.keeps_text s

theorem map_asText_items_strings (l : List String) : (strings l).items.map asText = l := by
  rw [strings, items, List.map_map]
  exact List.map_id l

theorem lookup_filter (kept : String → Bool) (fields : List (String × Json)) (key : String) :
    (fields.filter fun field => kept field.1).lookup key =
      if kept key then fields.lookup key else none := by
  induction fields with
  | nil => simp
  | cons field fields ih =>
      obtain ⟨k, j⟩ := field
      by_cases hkey : key = k
      · subst hkey
        cases hkept : kept key <;> simp [hkept, ih]
      · have hne : (key == k) = false := by simpa using hkey
        cases hkept : kept k <;> simp [hkept, ih, List.lookup_cons, hne]

/-- A record is filled with fields if each of them is given or is the default. -/
theorem fillFields_map (default? : String → Option Json) {given : List (String × Json)}
    (fields : List (String × Json))
    (h : ∀ field ∈ fields, (given.lookup field.1).or (default? field.1) = some field.2) :
    fillFields given (fields.map (·.1)) (fields.map fun field => default? field.1) =
      .ok fields := by
  induction fields with
  | nil => rfl
  | cons field fields ih =>
      obtain ⟨hfield, hfields⟩ := List.forall_mem_cons.1 h
      simp only [List.map_cons, fillFields, hfield, ih hfields]

end Forms

end StoryMend.Json

namespace StoryMend

open Json

section Settings

theorem FileKind.keeps (kind : FileKind) : FileKind.form.Keeps kind := by
  cases kind
  · exact ⟨Shape.keeps_choice (by decide), rfl⟩
  · exact ⟨Shape.keeps_choice (by decide), rfl⟩

theorem Runtime.keeps (r : Runtime) : Runtime.form.Keeps r where
  takes := Shape.takes_record (by simp [Fields.Keeps, Fields.shape?, Shape.keeps_text])
    (by simp) (by simp [fillFields, Fields.keys, Fields.defaults, List.lookup_cons])
  build := rfl

theorem Alias.keeps (a : Alias) : Alias.form.Keeps a where
  takes := Shape.takes_record (by simp [Fields.Keeps, Fields.shape?, Shape.keeps_text])
    (by simp) (by simp [fillFields, Fields.keys, Fields.defaults, List.lookup_cons])
  build := rfl

theorem NamePatterns.keeps (p : NamePatterns) : NamePatterns.form.Keeps p where
  takes := Shape.takes_record (by simp [Fields.Keeps, Fields.shape?, Shape.keeps_strings])
    (by simp) (by simp [fillFields, Fields.keys, Fields.defaults, List.lookup_cons])
  build := by
    simp [NamePatterns.form, NamePatterns.write, textsAt, itemsAt, field?,
      map_asText_items_strings]

/-- The numbers of settings are of the machine's width. -/
structure Settings.IsSized (s : Settings) : Prop where
  maxRetries : s.maxRetries < UInt64.size
  maxListed : s.maxListed < UInt64.size

/-- Settings of which some, told by their names in JSON, have their defaults again. -/
def Settings.reset (s : Settings) (dropped : String → Bool) : Settings where
  primaryPath := if dropped "primaryImportPath" then ({} : Settings).primaryPath else s.primaryPath
  maxRetries := if dropped "maxRetries" then ({} : Settings).maxRetries else s.maxRetries
  kind := if dropped "fileKind" then ({} : Settings).kind else s.kind
  runtime := if dropped "runtimeImport" then ({} : Settings).runtime else s.runtime
  patterns := if dropped "blacklist" then ({} : Settings).patterns else s.patterns
  aliases := if dropped "suggestionAliases" then ({} : Settings).aliases else s.aliases
  maxListed := if dropped "maxListedComponents" then ({} : Settings).maxListed else s.maxListed

/-- What is written for settings if some are left out. -/
def Settings.writeWithout (s : Settings) (dropped : String → Bool) : Json :=
  .object (s.writeFields.filter fun field => !dropped field.1)

namespace Settings

variable (s : Settings) (dropped : String → Bool)

theorem keeps_runtime (r : Option Runtime) : Runtime.form.optional.Keeps r :=
  Form.Keeps.optional (fun r _ => Runtime.keeps r) fun _ => isWritten_object _

/-- Every field of settings is written in its regular form. -/
theorem keeps_writeFields {s : Settings} (h : s.IsSized) {fields : Fields}
    (hfields : form.shape = .record "ValidatorConfig" fields) :
    ∀ field ∈ s.writeFields, fields.Keeps field := by
  cases hfields
  simp only [writeFields, List.forall_mem_cons, Fields.Keeps, Fields.shape?, ↓reduceIte,
    String.reduceEq, Option.some.injEq, exists_eq_left']
  exact ⟨Shape.keeps_text _, Shape.keeps_size h.maxRetries, (FileKind.keeps s.kind).takes,
    (keeps_runtime s.runtime).takes, (NamePatterns.keeps s.patterns).takes,
    (Form.Keeps.list fun a _ => Alias.keeps a).takes, Shape.keeps_size h.maxListed,
    List.forall_mem_nil _⟩

theorem nodup_writeFields : (s.writeFields.map (·.1)).Nodup := by
  simp [writeFields]

/-- A setting that is left out has its default, and the others are as they were. -/
theorem lookup_filter_or {α : Type} (write : α → Json) {key : String} {a d : α}
    (hwritten : s.writeFields.lookup key = some (write a))
    (hdefault : default? key = some (write d)) :
    ((s.writeFields.filter fun field => !dropped field.1).lookup key).or (default? key) =
      some (write (if dropped key then d else a)) := by
  rw [lookup_filter fun key => !dropped key, hwritten, hdefault]
  cases dropped key <;> rfl

/-- Settings from which some were left out stand for those with their defaults in place. -/
theorem takes_writeWithout {s : Settings} (h : s.IsSized) :
    form.shape.Takes (s.writeWithout dropped) (form.write (s.reset dropped)) := by
  refine Shape.takes_record (fun field hfield => ?_) ?_ ?_
  · exact keeps_writeFields h rfl field (List.mem_filter.1 hfield).1
  · exact (nodup_writeFields s).sublist (List.filter_sublist.map _)
  · refine fillFields_map default? (s.reset dropped).writeFields ?_
    simp only [writeFields, List.forall_mem_cons]
    exact ⟨lookup_filter_or s dropped .string rfl rfl, lookup_filter_or s dropped .nat rfl rfl,
      lookup_filter_or s dropped FileKind.form.write rfl rfl,
      lookup_filter_or s dropped Runtime.form.optional.write rfl rfl,
      lookup_filter_or s dropped NamePatterns.write rfl rfl,
      lookup_filter_or s dropped Alias.form.list.write rfl rfl,
      lookup_filter_or s dropped .nat rfl rfl, List.forall_mem_nil _⟩

theorem build_write : form.build (form.write s) = s := by
  have hkind : FileKind.form.inField "fileKind" (form.write s) = s.kind :=
    (FileKind.keeps s.kind).build
  have hruntime : Runtime.form.optional.inField "runtimeImport" (form.write s) = s.runtime :=
    (keeps_runtime s.runtime).build
  have hpatterns : NamePatterns.form.inField "blacklist" (form.write s) = s.patterns :=
    (NamePatterns.keeps s.patterns).build
  have haliases : Alias.form.list.inField "suggestionAliases" (form.write s) = s.aliases :=
    (Form.Keeps.list fun a (_ : a ∈ s.aliases) => Alias.keeps a).build
  show Settings.mk s.primaryPath s.maxRetries (FileKind.form.inField "fileKind" (form.write s))
    (Runtime.form.optional.inField "runtimeImport" (form.write s))
    (NamePatterns.form.inField "blacklist" (form.write s))
    (Alias.form.list.inField "suggestionAliases" (form.write s)) s.maxListed = s
  rw [hkind, hruntime, hpatterns, haliases]

theorem readsAs_writeWithout {s : Settings} (h : s.IsSized) :
    form.ReadsAs (s.writeWithout dropped) (s.reset dropped) := by
  have hread := (takes_writeWithout dropped h).readsAs
  rwa [build_write] at hread

/-- Nothing is left out of what is written. -/
theorem writeWithout_none : s.writeWithout (fun _ => false) = form.write s := by
  simp [writeWithout, form]

theorem readsAs_write {s : Settings} (h : s.IsSized) : form.ReadsAs (form.write s) s := by
  rw [← writeWithout_none]
  exact readsAs_writeWithout (fun _ => false) h

end Settings

end Settings

section Outcomes

/-- The numbers of a diagnostic are of the machine's width. -/
structure Diagnostic.IsSized (d : Diagnostic) : Prop where
  line : d.line < UInt64.size
  column : ∀ column ∈ d.column, column < UInt64.size

namespace Diagnostic

theorem keeps_severity (severity : Severity) :
    (Shape.choice [Severity.error.name, Severity.warning.name]).Keeps (.string severity.name) :=
  Shape.keeps_choice (by cases severity <;> simp)

/-- A diagnostic without a column is written without that field. -/
theorem readsAs_write {d : Diagnostic} (h : d.IsSized) : form.ReadsAs (form.write d) d := by
  obtain ⟨message, line, column, severity⟩ := d
  have hcolumn : (Shape.optional .size).Keeps (Json.ofOption .nat column) :=
    Shape.keeps_ofOption (fun n hn => Shape.keeps_size (h.column n hn)) isWritten_nat
  have htakes : form.shape.Takes (form.write ⟨message, line, column, severity⟩) (.object
      [("message", .string message), ("line", .nat line),
        ("column", Json.ofOption .nat column), ("severity", .string severity.name)]) := by
    refine Shape.takes_record ?_ ?_ ?_
    · cases column <;>
        simp_all [Json.optional, Fields.Keeps, Fields.shape?, Shape.keeps_text, keeps_severity,
          Shape.keeps_size h.line, Json.ofOption]
    · cases column <;> simp [Json.optional]
    · cases column <;>
        simp [Json.optional, fillFields, Fields.keys, Fields.defaults, List.lookup_cons,
          Json.ofOption]
  have hread := htakes.readsAs
  have hbuild : form.build (.object [("message", .string message), ("line", .nat line),
      ("column", Json.ofOption .nat column), ("severity", .string severity.name)]) =
        ⟨message, line, column, severity⟩ := by
    have hseverity : (if severity.name = Severity.warning.name then Severity.warning
        else .error) = severity := by
      cases severity <;> decide
    cases column <;>
    · show Diagnostic.mk message line _ (if severity.name = Severity.warning.name then .warning
        else .error) = _
      rw [hseverity]
      rfl
  rwa [hbuild] at hread

end Diagnostic

namespace Verdict

/-- A verdict without a repaired text is written without that field. -/
theorem readsAs_write (v : Verdict) : form.ReadsAs (form.write v) v := by
  obtain ⟨isValid, errors, warnings, fixedCode⟩ := v
  have hcode : (Shape.optional .text).Keeps (Json.ofOption .string fixedCode) :=
    Shape.keeps_ofOption (fun s _ => Shape.keeps_text s) isWritten_string
  have htakes : form.shape.Takes (form.write ⟨isValid, errors, warnings, fixedCode⟩) (.object
      [("isValid", .bool isValid), ("errors", .strings errors),
        ("warnings", .strings warnings), ("fixedCode", Json.ofOption .string fixedCode)]) := by
    refine Shape.takes_record ?_ ?_ ?_
    · cases fixedCode <;>
        simp_all [Json.optional, Fields.Keeps, Fields.shape?, Shape.keeps_flag,
          Shape.keeps_strings, Json.ofOption]
    · cases fixedCode <;> simp [Json.optional]
    · cases fixedCode <;>
        simp [Json.optional, fillFields, Fields.keys, Fields.defaults, List.lookup_cons,
          Json.ofOption]
  have hread := htakes.readsAs
  have hbuild : form.build (.object [("isValid", .bool isValid), ("errors", .strings errors),
      ("warnings", .strings warnings), ("fixedCode", Json.ofOption .string fixedCode)]) =
        ⟨isValid, errors, warnings, fixedCode⟩ := by
    cases fixedCode <;>
    · show Verdict.mk isValid ((strings errors).items.map asText)
        ((strings warnings).items.map asText) _ = _
      rw [map_asText_items_strings, map_asText_items_strings]
      rfl
  rwa [hbuild] at hread

end Verdict

end Outcomes

section Components

theorem Component.keeps (c : Component) : Component.form.Keeps c where
  takes := Shape.takes_record
    (by simp [Fields.Keeps, Fields.shape?, Shape.keeps_text, Shape.keeps_flag,
      Shape.keeps_strings])
    (by simp) (by simp [fillFields, Fields.keys, Fields.defaults, List.lookup_cons])
  build := by
    show Component.mk c.name c.importPath c.required ((strings c.propNames).items.map asText) = c
    rw [map_asText_items_strings]

namespace Inventory

/-- An inventory is written as the list of its components. -/
theorem readsAs_write (inv : Inventory) :
    form.ReadsAs (form.write inv) (ofList inv.toList) := by
  have hkeeps : Component.form.list.Keeps inv.toList :=
    Form.Keeps.list fun c _ => Component.keeps c
  have hread : form.ReadsAs (form.write inv) (form.build (form.write inv)) :=
    Shape.Takes.readsAs (f := form) hkeeps.takes
  have hbuild : form.build (form.write inv) = ofList inv.toList := congrArg ofList hkeeps.build
  rwa [hbuild] at hread

end Inventory

end Components

section Requests

theorem Framework.keeps (f : Framework) : Framework.form.Keeps f where
  takes := Shape.keeps_choice (by cases f <;> simp [Framework.all])
  build := by cases f <;> decide

theorem Generation.Request.keeps (r : Generation.Request) : Generation.Request.form.Keeps r := by
  have htitle : Form.text.optional.Keeps r.title :=
    Form.Keeps.optional (fun s _ => Form.keeps_text s) isWritten_string
  have hframework : Framework.form.optional.Keeps r.framework :=
    Form.Keeps.optional (fun f _ => Framework.keeps f) fun f => isWritten_string f.name
  refine ⟨Shape.takes_record ?_ (by simp) ?_, ?_⟩
  · simp only [List.forall_mem_cons, Fields.Keeps, Fields.shape?, ↓reduceIte,
      String.reduceEq, Option.some.injEq, exists_eq_left']
    exact ⟨Shape.keeps_text _, htitle.takes, hframework.takes, List.forall_mem_nil _⟩
  · simp [fillFields, Fields.keys, Fields.defaults, List.lookup_cons]
  · show Generation.Request.mk r.prompt
      (Form.text.optional.build (Form.text.optional.write r.title))
      (Framework.form.optional.build (Framework.form.optional.write r.framework)) = r
    rw [htitle.build, hframework.build]

end Requests

/-- Settings, diagnostics, verdicts, inventories and requests for stories read as what they
were written for; an inventory is told by its entries, and the same as before if it was made
of a list.  Of settings that were left out the defaults are read and of the others what was
written, so that a runtime that is null is none and one that is left out the usual one. -/
theorem written_values_readAs {s : Settings} (hs : s.IsSized) {d : Diagnostic} (hd : d.IsSized)
    (v : Verdict) (inv : Inventory) (components : List Component) (r : Generation.Request)
    (dropped : String → Bool) :
    Settings.form.ReadsAs (Settings.form.write s) s ∧
      Settings.form.ReadsAs (s.writeWithout dropped) (s.reset dropped) ∧
      ((Settings.form.write s).field? "runtimeImport" = some .null ↔ s.runtime = none) ∧
      (dropped "runtimeImport" = true → (s.reset dropped).runtime = some .react) ∧
      Diagnostic.form.ReadsAs (Diagnostic.form.write d) d ∧
      Verdict.form.ReadsAs (Verdict.form.write v) v ∧
      Inventory.form.ReadsAs (Inventory.form.write (.ofList components)) (.ofList components) ∧
      (∃ read, Inventory.form.ReadsAs (Inventory.form.write inv) read ∧
        read.entries = inv.entries ∧ read.positions.Equiv inv.positions) ∧
      Generation.Request.form.ReadsAs (Generation.Request.form.write r) r := by
  have hnull : (Settings.form.write s).field? "runtimeImport" = some .null ↔
      s.runtime = none := by
    have hfield : (Settings.form.write s).field? "runtimeImport" =
        some (Runtime.form.optional.write s.runtime) := rfl
    rw [hfield, Option.some.injEq]
    cases s.runtime with
    | none => simp [Json.Form.optional, Json.ofOption]
    | some r => simp [Json.Form.optional, Json.ofOption, Runtime.form]
  have hruntime : dropped "runtimeImport" = true → (s.reset dropped).runtime = some .react := by
    intro hdropped
    simp only [Settings.reset, hdropped, ↓reduceIte]
  have hmade : Inventory.form.ReadsAs (Inventory.form.write (.ofList components))
      (.ofList components) := by
    have hread := (Inventory.ofList components).readsAs_write
    rwa [Inventory.ofList_toList_ofList] at hread
  have hlist : (Inventory.ofList inv.toList).toList = inv.toList :=
    Inventory.toList_ofList inv.nodup_names
  exact ⟨Settings.readsAs_write hs, Settings.readsAs_writeWithout dropped hs, hnull, hruntime,
    Diagnostic.readsAs_write hd, v.readsAs_write, hmade,
    ⟨_, inv.readsAs_write, Array.toList_inj.1 hlist, Inventory.positions_congr hlist⟩,
    (Generation.Request.keeps r).readsAs⟩

namespace BareSettings

/-- Settings with no runtime, no patterns and no aliases. -/
def settings : Settings :=
  { runtime := none, patterns := { always := [], whenExported := [] }, aliases := [] }

/-- A problem in a line. -/
def problem : Diagnostic := { message := "Unclosed tag", line := 3 }

/-- What is empty stays empty, and the runtime is there again when it was left out. -/
theorem settings_readAs :
    settings.IsSized ∧ problem.IsSized ∧
      Settings.form.ReadsAs (Settings.form.write settings) settings ∧
      Settings.form.ReadsAs (settings.writeWithout (· == "runtimeImport"))
        { settings with runtime := some .react } ∧
      Diagnostic.form.ReadsAs (Diagnostic.form.write problem) problem := by
  have hsettings : settings.IsSized := ⟨by decide, by decide⟩
  have hproblem : problem.IsSized := ⟨by decide, by rintro _ ⟨⟩⟩
  obtain ⟨hread, hwithout, -, -, hdiagnostic, -⟩ := written_values_readAs hsettings hproblem
    (.valid [] none) .empty [] { prompt := "a card" } (· == "runtimeImport")
  exact ⟨hsettings, hproblem, hread, hwithout, hdiagnostic⟩

end BareSettings

end StoryMend
