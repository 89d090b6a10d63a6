import StoryMend.Proofs.Validator.Acceptance

/-!
What verdicts see of an inventory.  Whether a name is admitted depends on the names of the
inventory alone, and what is said about a name that is not depends on their order too; the
rest of the components is never looked at.  The main statement is that inventories with
the same names give the same verdicts, and that a story stays accepted when names are
added.
-/

namespace StoryMend

namespace Inventory

variable {inv inv₁ inv₂ : Inventory}

/-- The component of a name has that name, and there is one for each name. -/
theorem map_name_get? (inv : Inventory) (name : String) :
    (inv.get? name).map Component.name = if name ∈ inv.names then some name else none := by
  rw [get?_eq_find?]
  cases hfound : inv.toList.find? (·.name == name) with
  | none => rw [if_neg ((inv.find?_eq_none_iff name).1 hfound), Option.map_none]
  | some c =>
      have hname : c.name = name := by simpa using List.find?_some hfound
      have hpresent : name ∈ inv.names :=
        List.mem_map.2 ⟨c, List.mem_of_find?_eq_some hfound, hname⟩
      rw [if_pos hpresent, Option.map_some, hname]

theorem contains_congr (hnames : inv₁.names = inv₂.names) (name : String) :
    inv₁.contains name = inv₂.contains name := by
  rw [Bool.eq_iff_iff, contains_iff_mem_names, contains_iff_mem_names, hnames]

end Inventory

namespace Import

variable {inv₁ inv₂ : Inventory}

/-- The suggestion for a name depends on the names alone. -/
theorem suggest?_congr (hnames : inv₁.names = inv₂.names) (aliases : List Alias)
    (name : String) : suggest? aliases inv₁ name = suggest? aliases inv₂ name := by
  simp only [suggest?, aliased?, Inventory.map_name_get?, hnames]

namespace Rules

variable (r : Rules)

theorem offence?_congr (hnames : inv₁.names = inv₂.names) (exports : List String)
    (name : String) : r.offence? inv₁ exports name = r.offence? inv₂ exports name := by
  rw [offence?, offence?, Inventory.contains_congr hnames]

theorem message_congr (hnames : inv₁.names = inv₂.names) (path name : String)
    (offence : Offence) : r.message inv₁ path name offence = r.message inv₂ path name offence := by
  have hhint : r.hint inv₁ name = r.hint inv₂ name := by
    rw [hint, hint, suggest?_congr hnames]
  have hlisting : r.listing inv₁ = r.listing inv₂ := by
    rw [listing, listing, hnames]
  cases offence with
  | storyName => rw [message, message, hhint]
  | unavailable => rw [message, message, hhint, hlisting]

/-- A check finds the same, in the same words, with inventories of the same names. -/
theorem check_congr (hnames : inv₁.names = inv₂.names) (parse : Parser)
    (path source : String) :
    r.check parse inv₁ path source = r.check parse inv₂ path source := by
  have hcheck : ∀ exports s,
      r.checkName inv₁ path exports s = r.checkName inv₂ path exports s := by
    intro exports s
    simp only [checkName, r.offence?_congr hnames, r.message_congr hnames]
  simp only [check, funext (hcheck _)]

/-- Names that are added leave a faultless source faultless. -/
theorem check_eq_nil_of_subset (hnames : inv₁.names ⊆ inv₂.names) {parse : Parser}
    {path source : String} (hnone : r.check parse inv₁ path source = []) :
    r.check parse inv₂ path source = [] := by
  rw [check_eq_nil_iff] at hnone ⊢
  intro s hs
  obtain ⟨hknown, hplain⟩ := hnone s hs
  exact ⟨hnames hknown, hplain⟩

end Rules

end Import

namespace Validator

variable (v : Validator) {inv₁ inv₂ : Inventory}

theorem judgeImports_congr (hnames : inv₁.names = inv₂.names) (raw source : String)
    (warnings : List String) :
    v.judgeImports inv₁ raw source warnings = v.judgeImports inv₂ raw source warnings := by
  have himports : v.importErrors inv₁ source = v.importErrors inv₂ source :=
    v.rules.check_congr hnames v.parse v.settings.primaryPath source
  rw [judgeImports, judgeImports, himports]

theorem judgeImports_of_subset (hnames : inv₁.names ⊆ inv₂.names) {raw source : String}
    {warnings : List String}
    (hvalid : (v.judgeImports inv₁ raw source warnings).isValid = true) :
    v.judgeImports inv₂ raw source warnings = v.judgeImports inv₁ raw source warnings := by
  unfold judgeImports at hvalid ⊢
  cases hfound : v.importErrors inv₁ source with
  | nil =>
      have hnone : v.importErrors inv₂ source = [] :=
        v.rules.check_eq_nil_of_subset hnames hfound
      rw [hnone]
  | cons d rest => simp [hfound, Verdict.failed] at hvalid

/-- Verdicts depend on the names of the inventory alone, and accepted stories stay accepted,
with the same verdict, when names are added or come in another order. -/
theorem validate_of_names (raw : String) (inv₁ inv₂ : Inventory) :
    (inv₁.names = inv₂.names → v.validate inv₁ raw = v.validate inv₂ raw) ∧
      (inv₁.names ⊆ inv₂.names → (v.validate inv₁ raw).isValid = true →
        v.validate inv₂ raw = v.validate inv₁ raw) := by
  unfold validate
  cases Diagnose.contentError? v.parse v.settings.kind raw with
  | some d => exact ⟨fun _ => rfl, fun _ _ => rfl⟩
  | none =>
      -- Up to the check of the imports nothing asks for the inventory.
      cases v.repair raw (v.syntaxErrors raw) [] v.settings.maxRetries with
      | error diagnostics => exact ⟨fun _ => rfl, fun _ _ => rfl⟩
      | ok repaired =>
          obtain ⟨source, applied⟩ := repaired
          exact ⟨fun hnames => v.judgeImports_congr hnames raw source _,
            fun hnames hvalid => v.judgeImports_of_subset hnames hvalid⟩

end Validator

namespace CutOffStory

/-- The component that the story imports, described in another way. -/
def described : Inventory :=
  .ofList [{ name := "B", importPath := "elsewhere", required := true, propNames := ["size"] }]

/-- The component that the story imports, after another one. -/
def extended : Inventory := .ofNames "ui" ["A", "B"]

theorem names_described : described.names = ["B"] :=
  Inventory.names_ofList (List.nodup_singleton "B")

theorem names_extended : extended.names = ["A", "B"] :=
  Inventory.names_ofNames "ui" (by simp)

theorem validate_raw_of_names :
    inventory.names = described.names ∧ inventory.names ⊆ extended.names ∧
      validator.validate described raw = validator.validate inventory raw ∧
      validator.validate extended raw =
        .valid ["Auto-fixed syntax (truncation)"] (some importLine) := by
  have hsame : inventory.names = described.names := by rw [names_inventory, names_described]
  have hmore : inventory.names ⊆ extended.names := by
    rw [names_inventory, names_extended]
    decide
  refine ⟨hsame, hmore, ?_, ?_⟩
  · exact ((validator.validate_of_names raw inventory described).1 hsame).symm
  · rw [(validator.validate_of_names raw inventory extended).2 hmore isValid_raw, validate_raw]

end CutOffStory

end StoryMend
