import StoryMend.Proofs.Validator.Inventory

/-!
What a suggestion is worth.  The search for a component that may have been meant goes
through the inventory and never asks for the name patterns of stories, so what it finds is
always available but may itself be rejected as the name of a story.  The main statement is
that this is all that can be wrong with a suggestion.
-/

namespace StoryMend.Import

/-- What is suggested is the name of a component. -/
theorem mem_names_of_suggest? {aliases : List Alias} {inv : Inventory} {name other : String}
    (h : suggest? aliases inv name = some other) : other ∈ inv.names := by
  rw [suggest?, Option.or_eq_some_iff] at h
  rcases h with halias | ⟨-, hakin⟩
  · obtain ⟨a, -, ha⟩ := List.exists_of_findSome?_eq_some halias
    rw [Inventory.map_name_get?] at ha
    by_cases hmem : a.component ∈ inv.names
    · rw [if_pos hmem] at ha
      obtain rfl := Option.some.inj ha
      exact hmem
    · rw [if_neg hmem] at ha
      cases ha
  · exact List.mem_of_find?_eq_some hakin

/-- The sentence that says why a name is rejected. -/
def Offence.reason (path name : String) : Offence → String
  | .storyName => s!"`{name}` is not a valid component, it appears to be a story export name."
  | .unavailable => s!"`{name}` is not available from `{path}`."

/-- The question whether another component was meant. -/
def question (other : String) : String := " Did you mean `" ++ other ++ "`?"

theorem question_injective : Function.Injective question := by
  intro a b hab
  have hchars := congrArg String.toList hab
  simp only [question, String.toList_append] at hchars
  exact String.toList_inj.1 (List.append_cancel_left (List.append_cancel_right hchars))

theorem question_ne_empty (other : String) : question other ≠ "" := by
  intro hempty
  have hchars := congrArg String.toList hempty
  simp [question] at hchars

namespace Rules

variable (r : Rules) (inv : Inventory) (path : String) (exports : List String)

/-- What stands after the question in the message about a rejected name. -/
def ending : Offence → String
  | .storyName => ""
  | .unavailable => r.listing inv

/-- The message about a rejected name gives the reason and asks whether the other name was
meant. -/
def Suggests (name message other : String) : Prop :=
  ∃ offence, r.offence? inv exports name = some offence ∧
    message = offence.reason path name ++ question other ++ r.ending inv offence

theorem message_eq (name : String) (offence : Offence) :
    r.message inv path name offence =
      offence.reason path name ++ r.hint inv name ++ r.ending inv offence := by
  cases offence with
  | storyName => exact (String.append_empty).symm
  | unavailable => rfl

theorem hint_eq_question_iff {name other : String} :
    r.hint inv name = question other ↔ suggest? r.aliases inv name = some other := by
  unfold hint
  cases hfound : suggest? r.aliases inv name with
  | none =>
      refine iff_of_false ?_ nofun
      exact fun hempty => question_ne_empty other hempty.symm
  | some found =>
      show question found = question other ↔ _
      rw [question_injective.eq_iff, Option.some.injEq]

/-- A rejected name has an offence, and its message tells which. -/
theorem checkName_eq_some_iff {s : Specifier} {d : Diagnostic} :
    r.checkName inv path exports s = some d ↔
      ∃ offence, r.offence? inv exports s.name = some offence ∧
        d = { message := r.message inv path s.name offence, line := s.line
              column := some s.column } := by
  rw [checkName, Option.map_eq_some_iff]
  simp only [eq_comm]

/-- The message about a rejected name asks for what the search has found. -/
theorem suggests_iff {s : Specifier} {d : Diagnostic} {other : String}
    (hd : r.checkName inv path exports s = some d) :
    r.Suggests inv path exports s.name d.message other ↔
      suggest? r.aliases inv s.name = some other := by
  obtain ⟨offence, hoffence, rfl⟩ := (r.checkName_eq_some_iff inv path exports).1 hd
  have hquestion : r.message inv path s.name offence =
      offence.reason path s.name ++ question other ++ r.ending inv offence ↔
        r.hint inv s.name = question other := by
    rw [message_eq, String.append_left_inj, String.append_right_inj]
  rw [← hint_eq_question_iff, ← hquestion]
  constructor
  · rintro ⟨same, hsame, hmessage⟩
    rw [hoffence] at hsame
    obtain rfl := Option.some.inj hsame
    exact hmessage
  · intro hmessage
    exact ⟨offence, hoffence, hmessage⟩

variable {r inv path exports}

/-- A suggestion is the name of a component, so nothing but its likeness to the names of
stories speaks against it: it is accepted exactly if the patterns of stories do not cover it.
Only then can it be the rejected name once more. -/
theorem checkName_suggestion {s : Specifier} {d : Diagnostic} {other : String}
    (hd : r.checkName inv path exports s = some d)
    (hother : r.Suggests inv path exports s.name d.message other) :
    other ∈ inv.names ∧
      (∀ t : Specifier, t.name = other →
        (r.checkName inv path exports t = none ↔ r.storyNames.covers exports other = false)) ∧
      r.offence? inv exports other ≠ some .unavailable ∧
      (r.storyNames.covers exports other = false → other ≠ s.name) := by
  have hmem := mem_names_of_suggest? ((r.suggests_iff inv path exports hd).1 hother)
  have haccepted : ∀ t : Specifier, t.name = other →
      (r.checkName inv path exports t = none ↔ r.storyNames.covers exports other = false) := by
    rintro t rfl
    rw [checkName, Option.map_eq_none_iff, offence?_eq_none_iff]
    exact and_iff_right hmem
  refine ⟨hmem, haccepted, ?_, ?_⟩
  · have hknown := (inv.contains_iff_mem_names other).2 hmem
    unfold offence?
    rw [hknown]
    split <;> simp
  · rintro hplain rfl
    rw [(haccepted s rfl).2 hplain] at hd
    cases hd

end Rules

namespace MixedInventory

/-- An inventory with a component that is named like a story. -/
def inventory : Inventory := .ofNames "@mantine/core" ["ButtonStory", "Title"]

/-- The usual rules. -/
def rules : Rules := {}

/-- A name that is not in the inventory, and what is said about it. -/
def heading : Specifier := ⟨"Heading", 1, 10⟩

def headingError : Diagnostic where
  message := "`Heading` is not available from `@mantine/core`. Did you mean `Title`?" ++
    " Available components include: ButtonStory, Title"
  line := 1
  column := some 10

/-- The name of the component that is named like a story, and what is said about it. -/
def buttonStory : Specifier := ⟨"ButtonStory", 1, 10⟩

def buttonStoryError : Diagnostic where
  message := "`ButtonStory` is not a valid component, it appears to be a story export name." ++
    " Did you mean `ButtonStory`?"
  line := 1
  column := some 10

theorem names_inventory : inventory.names = ["ButtonStory", "Title"] :=
  Inventory.names_ofNames "@mantine/core" (by simp)

/-- The name patterns cover `ButtonStory` only.  The table has an alias for `Heading`, and
`ButtonStory` is found by its likeness to itself. -/
theorem covers_names :
    rules.storyNames.covers [] "Heading" = false ∧ rules.storyNames.covers [] "Title" = false ∧
      rules.storyNames.covers [] "ButtonStory" = true ∧
      rules.aliases.filter (fun a => Text.sameUpToCase a.name "Heading") =
        [⟨"Heading", "Title"⟩] ∧
      rules.aliases.filter (fun a => Text.sameUpToCase a.name "ButtonStory") = [] ∧
      areAkin "ButtonStory" "ButtonStory" = true := by
  decide +kernel

theorem suggest?_heading : suggest? rules.aliases inventory "Heading" = some "Title" := by
  obtain ⟨-, -, -, halias, -, -⟩ := covers_names
  rw [suggest?, aliased?, halias]
  simp [Inventory.map_name_get?, names_inventory]

theorem suggest?_buttonStory :
    suggest? rules.aliases inventory "ButtonStory" = some "ButtonStory" := by
  obtain ⟨-, -, -, -, halias, hakin⟩ := covers_names
  rw [suggest?, aliased?, halias, names_inventory, List.find?_cons_of_pos hakin]
  rfl

theorem checkName_heading :
    rules.checkName inventory "@mantine/core" [] heading = some headingError := by
  obtain ⟨hcovers, -⟩ := covers_names
  have hmissing : inventory.contains "Heading" = false := by
    rw [Bool.eq_false_iff, ne_eq, Inventory.contains_iff_mem_names, names_inventory]
    decide
  apply (rules.checkName_eq_some_iff inventory _ _).2
  refine ⟨.unavailable, ?_, ?_⟩
  · rw [Rules.offence?, heading, hcovers, hmissing]
    rfl
  · rw [Rules.message, Rules.hint, Rules.listing, heading, suggest?_heading, names_inventory]
    rfl

theorem checkName_buttonStory :
    rules.checkName inventory "@mantine/core" [] buttonStory = some buttonStoryError := by
  obtain ⟨-, -, hcovers, -⟩ := covers_names
  apply (rules.checkName_eq_some_iff inventory _ _).2
  refine ⟨.storyName, ?_, ?_⟩
  · rw [Rules.offence?, buttonStory, hcovers]
    rfl
  · rw [Rules.message, Rules.hint, buttonStory, suggest?_buttonStory]
    rfl

theorem checkName_suggestion_heading :
    rules.checkName inventory "@mantine/core" [] heading = some headingError ∧
      rules.Suggests inventory "@mantine/core" [] "Heading" headingError.message "Title" ∧
      "Title" ∈ inventory.names ∧
      rules.checkName inventory "@mantine/core" [] ⟨"Title", 1, 10⟩ = none ∧
      "Title" ≠ heading.name := by
  obtain ⟨-, hcovers, -⟩ := covers_names
  have hsuggests : rules.Suggests inventory "@mantine/core" [] "Heading" headingError.message
      "Title" := (rules.suggests_iff inventory _ _ checkName_heading).2 suggest?_heading
  obtain ⟨hmem, haccepted, -, hother⟩ := Rules.checkName_suggestion checkName_heading hsuggests
  exact ⟨checkName_heading, hsuggests, hmem, (haccepted _ rfl).2 hcovers, hother hcovers⟩

/-- A name that is rejected as the name of a story is suggested in its own place. -/
theorem not_followed_buttonStory :
    rules.checkName inventory "@mantine/core" [] buttonStory = some buttonStoryError ∧
      rules.Suggests inventory "@mantine/core" [] "ButtonStory" buttonStoryError.message
        "ButtonStory" :=
  ⟨checkName_buttonStory,
    (rules.suggests_iff inventory _ _ checkName_buttonStory).2 suggest?_buttonStory⟩

end MixedInventory

end StoryMend.Import
