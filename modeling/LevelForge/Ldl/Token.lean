/-!
# Tokens of level texts

A token is a piece of a level text with its kind and the place where it starts. Lines and columns
count from one, columns count characters, and only a line feed ends a line.
-/

namespace LevelForge.Ldl

/-- A place in a text. -/
structure Position where
  line : Nat := 1
  column : Nat := 1
  deriving DecidableEq, Repr, Inhabited

namespace Position

/-- The place behind a character. -/
def after (p : Position) (c : Char) : Position :=
  if c = '\n' then ⟨p.line + 1, 1⟩ else ⟨p.line, p.column + 1⟩

/-- The place behind a run of characters. -/
def advance (p : Position) (text : List Char) : Position :=
  text.foldl after p

@[simp]
theorem advance_nil (p : Position) : p.advance [] = p := rfl

@[simp]
theorem advance_cons (p : Position) (c : Char) (text : List Char) :
    p.advance (c :: text) = (p.after c).advance text := rfl

/-- Behind two runs is behind the second, started behind the first. -/
@[simp]
theorem advance_append (p : Position) (a b : List Char) :
    p.advance (a ++ b) = (p.advance a).advance b :=
  List.foldl_append

end Position

/-- The kinds of tokens. -/
inductive TokenKind where
  | opening
  | closing
  -- the keyword of an alias directive
  | alias
  -- the keyword of a setting directive
  | setting
  -- the keyword of a boss directive
  | bossSetting
  | mapping
  | raw
  -- the two colons of a directive
  | delimiter
  | endOfText
  deriving DecidableEq, Repr, Inhabited

/-- The name of a kind of token. -/
def TokenKind.name : TokenKind → String
  | .opening => "BEGIN"
  | .closing => "END"
  | .alias => "ALIAS"
  | .setting => "SETTING"
  | .bossSetting => "BOSS_SETTING"
  | .mapping => "MAPPING"
  | .raw => "RAW"
  | .delimiter => "DELIMITER"
  | .endOfText => "EOS"

/-- A piece of a level text. -/
structure Token where
  kind : TokenKind
  -- the text, which only the end of the text lacks
  value : Option String
  position : Position := {}
  deriving DecidableEq, Repr, Inhabited

namespace Token

/-- The token of the end of a text. -/
def endOfText (position : Position) : Token := ⟨.endOfText, none, position⟩

/-- The text of a token, empty at the end of the text. -/
def text (t : Token) : String := t.value.getD ""

/-- A token as messages show it. -/
def describe (t : Token) : String :=
  "\x7bType: " ++ t.kind.name ++ " Value: " ++ t.value.getD "None" ++ "\x7d"

end Token

end LevelForge.Ldl
