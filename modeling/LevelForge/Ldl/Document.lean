import LevelForge.Ldl.Lexer
import LevelForge.Ldl.Mapping

/-!
# Documents

A document is a level before it is written down: directives with their mappings and blocks of
symbol rows. It is written with one directive or one row on a line.

* `Document.render`: the text of a document.
* `Item.IsWritable`: the items whose text is read back as they are.
-/

namespace LevelForge.Ldl

/-- One item of a document. -/
inductive Item where
  | directive (directive : Directive) (mapping : Mapping)
  -- a block of rows of symbols
  | block (rows : List (List String))
  deriving DecidableEq, Repr

/-- A level before it is written down. -/
abbrev Document := List Item

/-- A symbol that is one raw lexeme: not empty, without blanks and braces, and no directive. -/
def IsSymbol (symbol : String) : Prop :=
  symbol.toList ≠ [] ∧ (∀ c ∈ symbol.toList, isSolid c = true) ∧
    Directive.ofLexeme? symbol.toList = none

instance (symbol : String) : Decidable (IsSymbol symbol) :=
  inferInstanceAs (Decidable (_ ∧ _))

namespace Item

/-- The lexeme of a directive. -/
def directiveText (d : Directive) (m : Mapping) : List Char :=
  d.opener ++ m.render.toList

/-- A row in braces, its symbols separated by spaces. -/
def rowText (row : List String) : List Char :=
  '\x7b' :: [' '].intercalate (row.map String.toList) ++ ['\x7d']

/-- The text of an item, with a line feed behind every line. -/
def text : Item → List Char
  | .directive d m => directiveText d m ++ ['\n']
  | .block rows =>
    '\x7b' :: '\n' :: rows.flatMap (fun row => ' ' :: ' ' :: rowText row ++ ['\n']) ++
      ['\x7d', '\n']

/-- An item that is read back as it is: the sides of a mapping are a key and a value, and the
rows of a block are equally long rows of symbols. -/
def IsWritable : Item → Prop
  | .directive _ m => Mapping.IsKey m.key.toList ∧ Mapping.IsValue m.value.toList
  | .block rows =>
    (∀ row ∈ rows, ∀ symbol ∈ row, IsSymbol symbol) ∧
      ∀ row ∈ rows, ∀ row' ∈ rows, row.length = row'.length

end Item

namespace Document

/-- The text of a document. -/
def render (d : Document) : String := String.ofList (d.flatMap Item.text)

end Document

end LevelForge.Ldl
