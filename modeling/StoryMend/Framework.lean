import StoryMend.Json.Form
import StoryMend.Text.Blank
import StoryMend.Text.Letter

/-!
The user interface frameworks that stories are written for.
-/

namespace StoryMend

/-- A user interface framework. -/
inductive Framework where
  | react
  | vue
  | angular
  | svelte
  | webComponents
deriving Repr, DecidableEq, Inhabited

namespace Framework

/-- The name of a framework. -/
def name : Framework → String
  | react => "react"
  | vue => "vue"
  | angular => "angular"
  | svelte => "svelte"
  | webComponents => "web-components"

/-- The package whose types the stories of a framework use. -/
def package : Framework → String
  | react => "@storybook/react"
  | vue => "@storybook/vue3"
  | angular => "@storybook/angular"
  | svelte => "@storybook/svelte"
  | webComponents => "@storybook/web-components"

/-- Whether the stories of a framework are written with markup. -/
def usesMarkup (f : Framework) : Bool := f == react

/-- The framework of a name, in any letter case and with blanks around it or not; a name
that is not known stands for the first framework. -/
def ofName (name : String) : Framework :=
  match Text.plainLowercase (Text.trimmed name) with
  | "vue" | "vue3" => vue
  | "angular" => angular
  | "svelte" => svelte
  | "web-components" | "webcomponents" | "lit" => webComponents
  | _ => react

/-- All frameworks. -/
def all : List Framework := [react, vue, angular, svelte, webComponents]

/-- How frameworks stand in JSON: by their exact names. -/
def form : Json.Form Framework where
  shape := .choice (all.map name)
  write f := .string f.name
  build j := (all.find? (·.name == j.asText)).getD react

end Framework

end StoryMend
