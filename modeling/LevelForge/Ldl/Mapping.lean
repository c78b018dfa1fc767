import LevelForge.Text.Alphanumeric

/-!
# Mappings

The body of a directive is `key->value`: the key consists of word characters, full stops, plus
signs and hyphens, the value of word characters and full stops. Since neither part may hold a
`>`, the arrow is at the only `>` of the body; a key may end in hyphens.

* `Mapping.render`: the body of a mapping, the other way round.
-/

namespace LevelForge.Ldl

/-- A key and a value. -/
structure Mapping where
  -- the left side of the arrow
  key : String
  -- the right side of the arrow
  value : String
  deriving DecidableEq, Repr, Inhabited

namespace Mapping

/-- Whether a character may stand in a key. -/
def isKeyChar (c : Char) : Bool :=
  Text.isWordChar c || c == '.' || c == '+' || c == '-'

/-- Whether a character may stand in a value. -/
def isValueChar (c : Char) : Bool :=
  Text.isWordChar c || c == '.'

/-- A key is not empty and consists of key characters. -/
def IsKey (key : List Char) : Prop := key ≠ [] ∧ ∀ c ∈ key, isKeyChar c = true

/-- A value is not empty and consists of value characters. -/
def IsValue (value : List Char) : Prop := value ≠ [] ∧ ∀ c ∈ value, isValueChar c = true

-- This goes through the characters of the text. An instance that goes through all characters there
-- are would do too, so the right one is named.
instance (key : List Char) : Decidable (IsKey key) :=
  @instDecidableAnd _ _ _ (List.decidableBAll (isKeyChar · = true) key)

instance (value : List Char) : Decidable (IsValue value) :=
  @instDecidableAnd _ _ _ (List.decidableBAll (isValueChar · = true) value)

/-- The two sides of the first arrow of a text: what stands before a hyphen that a `>` follows
directly, and what stands behind the two. -/
def splitArrow : List Char → Option (List Char × List Char)
  | [] => none
  | '-' :: '>' :: rest => some ([], rest)
  | c :: rest => (splitArrow rest).map fun sides => (c :: sides.1, sides.2)

/-- The mapping that a body writes. -/
def ofBody? (body : String) : Option Mapping :=
  match splitArrow body.toList with
  | none => none
  | some (key, value) =>
    if IsKey key ∧ IsValue value then some ⟨String.ofList key, String.ofList value⟩ else none

/-- The body of a mapping. -/
def render (m : Mapping) : String := m.key ++ "->" ++ m.value

end Mapping

end LevelForge.Ldl
