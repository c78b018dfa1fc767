import LevelForge.Ldl.Parser

/-!
# Level files

A level file holds a level text in UTF-8. Every line end, whether a carriage return, a line feed
or both in this order, is read as one line feed; bytes that are no UTF-8 are refused.
-/

namespace LevelForge.LevelFile

/-- Bytes that are not UTF-8. -/
structure BadEncoding where
  deriving DecidableEq, Repr

/-- The characters of a text with all line ends as line feeds. -/
def unifyLineEnds : List Char → List Char
  | [] => []
  | '\r' :: '\n' :: rest => '\n' :: unifyLineEnds rest
  | '\r' :: rest => '\n' :: unifyLineEnds rest
  | c :: rest => c :: unifyLineEnds rest

/-- The text of a file. -/
def decode (bytes : ByteArray) : Except BadEncoding String :=
  match String.fromUTF8? bytes with
  | none => .error {}
  | some text => .ok (String.ofList (unifyLineEnds text.toList))

/-- Why a file has no blueprint. -/
inductive Failure where
  | encoding (fault : BadEncoding)
  | text (failure : Ldl.Failure)
  deriving DecidableEq, Repr

/-- The frozen blueprint of a file. -/
def compile (bytes : ByteArray) (name : Option String) : Except Failure Blueprint := do
  let text ← (decode bytes).mapError .encoding
  (Ldl.compile text name).mapError .text

end LevelForge.LevelFile
