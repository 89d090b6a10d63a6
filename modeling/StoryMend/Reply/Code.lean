import StoryMend.Import.Statement
import StoryMend.Reply.Block

/-!
The code of a chat reply.  A closed block with a tag of a script language is the
first choice, then a closed block without a tag, then a last block that stays
open, and finally everything from the first line that starts an import.
-/

namespace StoryMend.Reply

open Text

/-- The tags of script languages. -/
def codeTags : List String := ["typescript", "javascript", "tsx", "jsx", "ts", "js"]

/-- Whether a block is tagged as code, in any letter case. -/
def Block.isCode (b : Block) : Bool :=
  codeTags.contains (plainLowercase (String.ofList b.tag))

/-- A stretch of text without blanks at its ends and without a fence at its end. -/
def content (region : List Char) : List Char :=
  let region := trim region
  match after? fenceMark region.reverse with
  | some rest => trim rest.reverse
  | none => region

/-- The content of a block. -/
def Block.content (b : Block) : List Char := Reply.content (unlines b.body)

/-- The content of the first block that satisfies `p` and has any. -/
def firstContent? (p : Block → Bool) (bs : List Block) : Option (List Char) :=
  ((bs.filter p).map Block.content).find? (!·.isEmpty)

/-- The content of the blocks of a reply: of the first tagged one, the first bare one,
or the open one. -/
def fencedCode? (bs : List Block) : Option (List Char) :=
  (firstContent? (fun b => b.closed && b.isCode) bs).or <|
    (firstContent? (fun b => b.closed && b.tag.isEmpty) bs).or <|
      firstContent? (fun b => !b.closed && (b.tag.isEmpty || b.isCode)) bs

/-- The content of a reply from the first line that starts an import. -/
def importedCode? (s : List Char) : Option (List Char) :=
  match Import.splitAtFirst? s with
  | none => none
  | some (_, rest) =>
    match content rest with
    | [] => none
    | code => some code

/-- The code of a chat reply, if any is found. -/
def code? (reply : String) : Option String :=
  let s := reply.toList
  ((fencedCode? (blocks s)).or (importedCode? s)).map String.ofList

end StoryMend.Reply
