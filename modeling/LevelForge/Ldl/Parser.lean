import LevelForge.Ldl.Construct
import LevelForge.Ldl.Mapping
import LevelForge.Blueprint

/-!
# Reading level texts

The constructs of a text act on a blueprint one after the other. The first construct that is
rejected ends the reading and leaves no trace; what came before it stays.

* `applyConstruct`: the effect of one construct.
* `Reader.fill`: the effect of constructs in order.
* `Parser.parse`: the effect of a text on a blueprint, and the parser for the next use.
* `compile`: the frozen blueprint of a text.
-/

namespace LevelForge.Ldl

/-- Why a mapping is rejected. -/
inductive MappingFault where
  -- the body is not of the form of a mapping
  | shape
  -- the key is no boss rule, or the schedule does not take it
  | boss (fault : Boss.KeyFault)
  deriving DecidableEq, Repr

/-- What is said about a rejected mapping. -/
def MappingFault.reason : MappingFault → String
  | .shape => "expected 'key->value'"
  | .boss fault => fault.message

/-- Why a text is not read to its end. -/
inductive Failure where
  | unexpected (fault : Unexpected)
  -- the body of a directive is rejected
  | mapping (body : String) (fault : MappingFault)
  -- the rows of a block differ in width
  | ragged (fault : Ragged) (line : Nat)
  | refused (refusal : Blueprint.Refusal)
  -- there is no blueprint to fill
  | noBlueprint
  deriving DecidableEq, Repr

/-- What is said about a failure. -/
def Failure.message : Failure → String
  | .unexpected fault => fault.message
  | .mapping body fault => s!"Invalid mapping {Text.quote body}: {fault.reason}"
  | .ragged fault line => s!"{fault.message} (block starting at line {line})"
  | .refused refusal => refusal.message
  | .noBlueprint => "manager cannot be None"

/-- The effect of a directive's mapping on a blueprint. A boss rule with a bad key is a fault of
the body. -/
def applyMapping (b : Blueprint) (directive : Directive) (body : String) (m : Mapping) :
    Except Failure Blueprint :=
  match directive with
  | .alias => (b.setAlias m.key m.value).mapError .refused
  | .setting => (b.setSetting m.key m.value).mapError .refused
  | .boss =>
    (b.addBoss m.key m.value).mapError fun
      | .schedule (.key fault) => .mapping body (.boss fault)
      | refusal => .refused refusal

/-- The effect of a construct on a blueprint. -/
def applyConstruct (b : Blueprint) : Construct → Except Failure Blueprint
  | .directive directive body =>
    match Mapping.ofBody? body with
    | none => .error (.mapping body .shape)
    | some m => applyMapping b directive body m
  | .block line rows =>
    match Template.ofRows? (rows.map (·.map some)) with
    | .error fault => .error (.ragged fault line)
    | .ok template => (b.addTemplate template).mapError .refused

/-- Read constructs into a blueprint, each with its effect before the next is read, until there is
no further construct or one is not finished or rejected. Behind the last construct the end of the
text has to be. -/
def Reader.fill (r : Reader) (b : Blueprint) : Reader × Blueprint × Option Failure :=
  match _h : r.construct? with
  | none =>
    match r.expect .endOfText with
    | .read _ behind => (behind, b, none)
    | .stopped fault behind => (behind, b, some (.unexpected fault))
  | some (.stopped fault behind) => (behind, b, some (.unexpected fault))
  | some (.read construct behind) =>
    match applyConstruct b construct with
    | .error failure => (behind, b, some failure)
    | .ok b' => behind.fill b'
termination_by r.left
decreasing_by exact Reader.left_construct_lt _h

/-- A parser of one text. It may be used again and again. -/
structure Parser where
  text : String
  -- the tokens that were not taken yet
  unread : TokenStream
  -- the token that was taken last and is still looked at, in the middle of a reading
  lookAhead : Option Token
  deriving DecidableEq, Repr

namespace Parser

/-- The parser of a text. -/
def ofText (text : String) : Parser := ⟨text, .ofText text, none⟩

/-- The parser at the start of its text again, looking at no token. -/
def rewind (p : Parser) : Parser := { p with unread := .ofText p.text, lookAhead := none }

/-- Read on into a blueprint. The parser is left where the reading ended. -/
def read (p : Parser) (b : Blueprint) : Parser × Blueprint × Option Failure :=
  let (reader, b', failure) := (Reader.ofStream p.unread).fill b
  ({ p with unread := reader.unread, lookAhead := some reader.lookAhead }, b', failure)

/-- What a use of a parser leaves behind. -/
structure Reading where
  parser : Parser
  -- the blueprint afterwards, if there was one
  blueprint : Option Blueprint
  -- why the text was not read to its end, if it was not
  failure : Option Failure

/-- Read the text into a blueprint. Without a blueprint nothing is read; otherwise the parser is
rewound, however the reading ended. -/
def parse (p : Parser) : Option Blueprint → Reading
  | none => ⟨p, none, some .noBlueprint⟩
  | some b =>
    let (p', b', failure) := p.read b
    ⟨p'.rewind, some b', failure⟩

end Parser

/-- The frozen blueprint of a text. -/
def compile (text : String) (name : Option String := none) : Except Failure Blueprint :=
  match (Parser.ofText text).read { name } with
  | (_, _, some failure) => .error failure
  | (_, b, none) => .ok b.freeze

end LevelForge.Ldl
