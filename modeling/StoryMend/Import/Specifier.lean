import StoryMend.Syntax.Source
import StoryMend.Text.Blank

/-!
The names that a source imports from a module.  Imports of types do not count, and
a name that is renamed counts under the name that the module gives it.
-/

namespace StoryMend.Import

open Syntax

/-- A name that a source imports, at its place. -/
structure Specifier where
  name : String
  line : Nat
  column : Nat
deriving Repr, DecidableEq, Inhabited

/-- Whether a keyword stands among nodes. -/
def hasKeyword (keyword : String) (nodes : List Tree) : Bool :=
  nodes.any fun t => !t.node.named && t.kind == keyword

/-- Whether a specifier imports a type. -/
def importsType (children : List Tree) : Bool :=
  hasKeyword "type" children || hasKeyword "typeof" children

/-- The specifier whose name is a node. -/
def Specifier.ofName (source : List Char) (n : Node) : Specifier where
  name := String.ofList (n.text source)
  line := n.span.row + 1
  column := n.span.column + 1

mutual

/-- The specifiers of a tree, in the order of the text. -/
def specifiers (source : List Char) : Tree → List Specifier
  | .mk n children =>
    if n.kind == "import_specifier" then
      if importsType children then []
      else (((Tree.mk n children).child? "name").map fun t => Specifier.ofName source t.node).toList
    else specifiersOf source children

/-- The specifiers of the named ones among some trees. -/
def specifiersOf (source : List Char) : List Tree → List Specifier
  | [] => []
  | t :: rest => (if t.node.named then specifiers source t else []) ++ specifiersOf source rest

end

/-- A text without the quotes at its ends. -/
def unquoted (s : List Char) : List Char :=
  let isQuote := fun c => c == '\'' || c == '"'
  Text.dropWhileEnd isQuote (s.dropWhile isQuote)

/-- Whether a node is an import of values from the given module. -/
def isImportFrom (path : String) (source : List Char) (t : Tree) : Bool :=
  t.kind == "import_statement" && !hasKeyword "type" t.children &&
    match t.child? "source" with
    | none => false
    | some s => unquoted (s.node.text source) == path.toList

/-- The names that a source with the given tree imports from a module. -/
def namesFrom (path : String) (source : List Char) (tree : Tree) : List Specifier :=
  (tree.children.filter (isImportFrom path source)).flatMap (specifiers source)

/-- The names that a source imports from a module; none without a tree. -/
def importedNames (parse : Parser) (kind : FileKind) (path : String) (source : String) :
    List Specifier :=
  match parse source kind with
  | none => []
  | some tree => namesFrom path source.toList tree

end StoryMend.Import
