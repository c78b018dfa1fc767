/-!
# Texts that cannot be encoded

A text from outside, such as the name of a file, is a list of code points. Some of them may be
surrogates, which are no characters: they stand for what could not be read as one. Such a text is
as good as any other until it is encoded.

* `Points.text?`: the characters of a list of code points, if it holds no surrogate.
* `Points.encode`: its bytes in UTF-8.
-/

namespace LevelForge.Text

/-- A text as a list of code points, with or without surrogates. -/
structure Points where
  codes : List (Fin 1114112)
  deriving DecidableEq, Repr

namespace Points

/-- The code point of a character. -/
def ofChar (c : Char) : Fin 1114112 :=
  ⟨c.toNat, c.valid.elim (fun h => Nat.lt_trans h (by decide)) And.right⟩

/-- A text of characters as its code points. -/
def ofText (text : String) : Points := ⟨text.toList.map ofChar⟩

/-- The character of a code point, unless it is a surrogate. -/
def char? (code : Fin 1114112) : Option Char :=
  if code.val.isValidChar then some (Char.ofNat code) else none

/-- The characters of a list of code points, if it holds no surrogate. -/
def text? (p : Points) : Option String := (p.codes.mapM char?).map String.ofList

/-- A text that cannot be encoded, and where its first surrogate stands. -/
structure Unencodable where
  points : Points
  place : Nat
  deriving DecidableEq, Repr

/-- The bytes of a text in UTF-8. A surrogate has none. -/
def encode (p : Points) : Except Unencodable ByteArray :=
  match p.text? with
  | some text => .ok text.toUTF8
  | none => .error ⟨p, p.codes.findIdx fun code => (char? code).isNone⟩

end Points

end LevelForge.Text
