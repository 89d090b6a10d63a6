import StoryMend.Framework
import StoryMend.Text.Line

/-!
Stories that stand in for one that could not be generated: a fixed skeleton for
each framework, with the title and the prompt set into some of its string literals.
-/

namespace StoryMend.Placeholder

open Text

/-- A part of a string literal: fixed text, the title, or the prompt. -/
inductive Part where
  | fixed (text : String)
  | title
  | prompt
deriving Repr, DecidableEq

/-- A piece of a skeleton: code, or a string literal between single quotes. -/
inductive Piece where
  | code (text : String)
  | literal (parts : List Part)
deriving Repr, DecidableEq

/-- Splits a text into its lines, at line feeds and at carriage returns. -/
def anyLines (s : List Char) : List (List Char) := splitWhere (fun c => c == '\r' || c == '\n') s

/-- A character as it may stand between quotes: quotes become entities. -/
def escapeQuote (c : Char) : List Char :=
  if c == '"' then "&quot;".toList else if c == '\'' then "&#39;".toList else [c]

/-- A text on one line and without quotes: its lines that are not blank, each without the
blanks at its ends, with one space between them. -/
def escape (s : List Char) : List Char :=
  (join [' '] (((anyLines s).filter (!isBlankText ·)).map trim)).flatMap escapeQuote

/-- The code of a part of a literal, for an escaped title and an escaped prompt. -/
def Part.render (title prompt : List Char) : Part → List Char
  | .fixed text => text.toList
  | .title => title
  | .prompt => prompt

/-- The code of a piece of a skeleton, for an escaped title and an escaped prompt. -/
def Piece.render (title prompt : List Char) : Piece → List Char
  | .code text => text.toList
  | .literal parts => '\'' :: parts.flatMap (Part.render title prompt) ++ ['\'']

/-- The import of the types of a framework. -/
def typeImport (f : Framework) : String :=
  "import type \x7b Meta, StoryObj \x7d from '" ++ f.package ++ "';\n"

/-- The skeleton of a story with markup. -/
def markupSkeleton (f : Framework) : List Piece :=
  [.code ("import React from 'react';\n" ++ typeImport f ++
      "\nconst FallbackComponent = () => (\n" ++
      "  <div style=\x7b\x7b padding: '1rem', border: '1px dashed #999', borderRadius: 8 \x7d\x7d>\n" ++
      "    <h3>\x7b"),
    .literal [.title],
    .code "\x7d</h3>\n    <p>\x7b",
    .literal [.fixed "Generated story placeholder for: ", .prompt],
    .code ("\x7d</p>\n" ++
      "    <p>\x7b'The generated code could not be validated. Try refining the prompt.'\x7d</p>\n" ++
      "  </div>\n);\n\nconst meta: Meta<typeof FallbackComponent> = \x7b\n  title: "),
    .literal [.title],
    .code (",\n  component: FallbackComponent,\n\x7d;\n\nexport default meta;\n" ++
      "type Story = StoryObj<typeof meta>;\n\nexport const Default: Story = \x7b\x7d;\n")]

/-- The start of a skeleton without markup, up to what renders the story. -/
def plainStart (f : Framework) : List Piece :=
  [.code (typeImport f ++ "\nconst meta: Meta = \x7b\n  title: "),
    .literal [.title],
    .code (",\n\x7d;\n\nexport default meta;\ntype Story = StoryObj;\n\n" ++
      "export const Default: Story = \x7b\n  render: () => ")]

/-- The page that a skeleton without markup shows. -/
def page : Piece :=
  .literal [.fixed "<div style=\"padding: 1rem; border: 1px dashed #999;\"><h3>", .title,
    .fixed "</h3><p>Generated story placeholder for: ", .prompt, .fixed "</p></div>"]

/-- The skeleton of a story that gives a template. -/
def templateSkeleton (f : Framework) : List Piece :=
  plainStart f ++ [.code "(\x7b\n    template: ", page, .code ",\n  \x7d),\n\x7d;\n"]

/-- The skeleton of a story that gives a page. -/
def pageSkeleton (f : Framework) : List Piece := plainStart f ++ [page, .code ",\n\x7d;\n"]

/-- The skeleton for a framework. -/
def skeleton (f : Framework) : List Piece :=
  match f with
  | .react => markupSkeleton f
  | .vue | .angular => templateSkeleton f
  | .svelte | .webComponents => pageSkeleton f

/-- The story that stands in for one with the given prompt and title. -/
def story (f : Framework) (title prompt : String) : String :=
  String.ofList ((skeleton f).flatMap (Piece.render (escape title.toList) (escape prompt.toList)))

end StoryMend.Placeholder
