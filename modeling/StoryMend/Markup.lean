import StoryMend.Syntax.Tree
import StoryMend.Text.Letter
import StoryMend.Text.Line

/-!
Whether a source holds markup.  A tree without faults decides; next to a tree
with faults, or without a tree, the text itself may hint at markup.
-/

namespace StoryMend.Markup

open Text

/-- Whether a tag may follow a character or the start of a text. -/
def mayPrecedeTag (before : Option Char) : Bool :=
  match before with
  | none => true
  | some c => isBlank c || "(>=\x7b\x7d,?:".toList.contains c

/-- Whether a character may continue the name of a tag. -/
def isTagNameChar (c : Char) : Bool := isWordChar c || c == '.'

/-- Whether a component tag opens here: a capital letter starts its name, and a blank,
a slash, the end of the tag or the end of the text follows it. -/
def opensComponent (before : Option Char) : List Char → Bool
  | '<' :: c :: rest =>
    mayPrecedeTag before && c.isUpper &&
      match rest.dropWhile isTagNameChar with
      | [] => true
      | d :: _ => isBlank d || d == '/' || d == '>'
  | _ => false

/-- Whether a closing tag stands here. -/
def closes : List Char → Bool
  | '<' :: '/' :: c :: rest =>
    isPlainLetter c && (trimStart (rest.dropWhile isTagNameChar)).head? == some '>'
  | _ => false

/-- Whether the text hints at markup. -/
def isHinted (s : List Char) : Bool :=
  anyPlace (fun before rest => opensComponent before rest || closes rest) none s

/-- Whether a tree holds markup. -/
def occursInTree (t : Syntax.Tree) : Bool := t.nodes.any fun n => n.kind.startsWith "jsx_"

/-- Whether a source with the given tree holds markup. -/
def occursIn (tree : Option Syntax.Tree) (source : String) : Bool :=
  match tree with
  | some t => occursInTree t || (t.hasError && isHinted source.toList)
  | none => isHinted source.toList

end StoryMend.Markup
