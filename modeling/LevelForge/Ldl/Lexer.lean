import LevelForge.Ldl.Token
import LevelForge.Text.Blank

/-!
# Lexemes and tokens

A brace is a lexeme of its own, and so is every longest run of characters that are neither blank
nor braces. A lexeme is one token, except for a directive such as `#ALIAS::1->Inanimate`, which is
three: the keyword with the whole lexeme as its text, the two colons and the body.

No text is rejected here: a lexeme of no other kind is a raw token.

* `lexemes`: the lexemes of a text with their places.
* `Lexeme.tokens`: the tokens of a lexeme.
* `TokenStream`: the tokens of a text, the end of the text repeating for ever.
-/

namespace LevelForge.Ldl

/-- Whether a character is a brace. -/
def isBrace (c : Char) : Bool := c == '\x7b' || c == '\x7d'

/-- Whether a character belongs to runs: it is neither blank nor a brace. -/
def isSolid (c : Char) : Bool := !Text.isBlank c && !isBrace c

/-- A brace or a longest run of solid characters. -/
structure Lexeme where
  chars : List Char
  position : Position
  deriving DecidableEq, Repr

/-- The lexemes of a text that starts at a given place. -/
def lexemes (position : Position) : List Char → List Lexeme
  | [] => []
  | c :: rest =>
    if Text.isBlank c then lexemes (position.after c) rest
    else if isBrace c then ⟨[c], position⟩ :: lexemes (position.after c) rest
    else
      let run := c :: rest.takeWhile isSolid
      ⟨run, position⟩ :: lexemes (position.advance run) (rest.dropWhile isSolid)
termination_by text => text.length
decreasing_by
  · simp
  · simp
  · exact Nat.lt_succ_of_le (List.dropWhile_sublist _).length_le

/-- The three directives. -/
inductive Directive where
  | alias
  | setting
  | boss
  deriving DecidableEq, Repr, Inhabited

namespace Directive

/-- All directives. -/
def all : List Directive := [.alias, .setting, .boss]

/-- The keyword of a directive. -/
def keyword : Directive → List Char
  | .alias => "ALIAS".toList
  | .setting => "SETTING".toList
  | .boss => "BOSS_SETTING".toList

/-- What every lexeme of the directive starts with. -/
def opener (d : Directive) : List Char := '#' :: d.keyword ++ [':', ':']

/-- The kind of the keyword token. -/
def tokenKind : Directive → TokenKind
  | .alias => .alias
  | .setting => .setting
  | .boss => .bossSetting

/-- The directive that a kind of token starts. -/
def ofTokenKind? : TokenKind → Option Directive
  | .alias => some .alias
  | .setting => some .setting
  | .bossSetting => some .boss
  | _ => none

/-- The body of a lexeme of this directive: what follows the opener, which must not be nothing. -/
def body? (d : Directive) (lexeme : List Char) : Option (List Char) :=
  if d.opener.isPrefixOf lexeme && decide (d.opener.length < lexeme.length) then
    some (lexeme.drop d.opener.length)
  else none

/-- The directive and the body of a lexeme, unless it is no directive. -/
def ofLexeme? (lexeme : List Char) : Option (Directive × List Char) :=
  all.findSome? fun d => (d.body? lexeme).map (d, ·)

end Directive

namespace Lexeme

/-- The tokens of a lexeme. -/
def tokens (l : Lexeme) : List Token :=
  let whole := some (String.ofList l.chars)
  if l.chars = ['\x7b'] then [⟨.opening, whole, l.position⟩]
  else if l.chars = ['\x7d'] then [⟨.closing, whole, l.position⟩]
  else
    match Directive.ofLexeme? l.chars with
    | none => [⟨.raw, whole, l.position⟩]
    | some (d, body) =>
      let colons := l.position.advance ('#' :: d.keyword)
      [⟨d.tokenKind, whole, l.position⟩,
       ⟨.delimiter, some "::", colons⟩,
       ⟨.mapping, some (String.ofList body), colons.advance [':', ':']⟩]

end Lexeme

/-- The tokens of a text that are still to be read. -/
structure TokenStream where
  -- the tokens before the end of the text
  pending : List Token
  -- the place of the end of the text
  stop : Position
  deriving DecidableEq, Repr

namespace TokenStream

/-- All tokens of a text. -/
def ofText (text : String) : TokenStream where
  pending := (lexemes {} text.toList).flatMap Lexeme.tokens
  stop := Position.advance {} text.toList

/-- The next token. -/
def peek (s : TokenStream) : Token := s.pending.headD (.endOfText s.stop)

/-- The stream behind the next token; nothing comes behind the end of the text. -/
def advance (s : TokenStream) : TokenStream := { s with pending := s.pending.tail }

/-- The next `count` tokens. -/
def take (s : TokenStream) : Nat → List Token
  | 0 => []
  | count + 1 => s.peek :: s.advance.take count

/-- All tokens up to and including the first end of the text. -/
def toList (s : TokenStream) : List Token := s.pending ++ [.endOfText s.stop]

end TokenStream

/-- The tokens of a text, the end of the text included. -/
def tokenize (text : String) : List Token := (TokenStream.ofText text).toList

end LevelForge.Ldl
