import LevelForge.Segment
import LevelForge.Warning

/-!
# Spawners

A spawner turns placements into elements. It knows a maker for every registered symbol and the
members of every group; the symbol of a group stands for one of its members, chosen by the
spawner's own random key, and a symbol it knows nothing about for the placeholder.

* `Spawner.resolve`: the registered symbol that a symbol stands for.
* `Spawner.place`, `Spawner.build`: carry out one placement, or all placements of a segment.
-/

namespace LevelForge

/-- The state of a spawner. -/
structure Spawner where
  registry : Table Maker
  groups : Table (List String)
  -- the number of rows of the world
  worldHeight : Int
  -- the random key of the group choices
  key : Random.Key
  record : Bool
  -- the elements kept since they were last cleared
  elements : Array Element
  -- all elements ever made, where somebody listens
  sink : Option (Array Element)

namespace Spawner

/-- The makers a spawner has when none are given: every known symbol is recorded. -/
def standardRegistry : Table Maker :=
  .ofList (World.elementKinds.map fun kind => (kind.1, Maker.record))

/-- The groups a spawner has when none are given: the known symbols by their group. -/
def standardGroups : Table (List String) :=
  World.elementKinds.foldl (fun groups kind =>
    match kind.2 with
    | none => groups
    | some group => groups.insert group ((groups.get? group).getD [] ++ [kind.1])) .empty

/-- Give a symbol a maker. -/
def register (s : Spawner) (symbol : String) (maker : Maker := Maker.record) : Spawner :=
  { s with registry := s.registry.insert symbol maker }

/-- Define a group. Members that are not registered yet are recorded from now on. -/
def registerGroup (s : Spawner) (group : String) (members : List String) : Spawner :=
  { s with
    registry := members.foldl (fun registry member => registry.insertNew member Maker.record)
      s.registry
    groups := s.groups.insert group members }

/-- Restart the group choices from a key. -/
def reseed (s : Spawner) (key : Random.Key) : Spawner := { s with key }

/-- Forget the elements kept so far. -/
def clear (s : Spawner) : Spawner := { s with elements := #[] }

/-- A new spawner. The placeholder always has a maker, and the groups are defined one by one. -/
def create (registry : Table Maker := standardRegistry)
    (groups : Table (List String) := standardGroups) (worldHeight : Int := World.standardHeight)
    (key : Random.Key := .ofSeed 0) (record : Bool := true) (listen : Bool := false) : Spawner :=
  groups.entries.foldl (fun s group => s.registerGroup group.1 group.2)
    { registry := registry.insertNew World.placeholderSymbol Maker.record
      groups := .empty
      worldHeight, key, record
      elements := #[]
      sink := if listen then some #[] else none }

/-- What a spawner knows about a symbol. -/
inductive Knowledge where
  | registered
  -- it names a group with these members, at least one
  | group (first : String) (others : List String)
  | unknown
  deriving DecidableEq, Repr

/-- Look a symbol up: a maker comes before a group, and a group without members is nothing. -/
def lookUp (s : Spawner) (symbol : String) : Knowledge :=
  if s.registry.contains symbol then .registered
  else
    match s.groups.get? symbol with
    | some (first :: others) => .group first others
    | _ => .unknown

/-- The member of a non-empty group that a key chooses. -/
def choose (key : Random.Key) (first : String) (others : List String) : String :=
  (first :: others).get ⟨key.below (others.length + 1), key.below_lt (Nat.succ_pos _)⟩

/-- The outcome of an operation that may report something. -/
structure Outcome (α : Type) where
  value : α
  spawner : Spawner
  warnings : List Warning := []

/-- The registered symbol that a symbol stands for. Only a group draws from the key. -/
def resolve (s : Spawner) (symbol : String) : Outcome String :=
  match s.lookUp symbol with
  | .registered => ⟨symbol, s, []⟩
  | .group first others =>
    let (rest, draw) := s.key.fork
    ⟨choose draw first others, { s with key := rest }, []⟩
  | .unknown => ⟨World.placeholderSymbol, s, [.unknownSymbol symbol]⟩

/-- Keep an element, and pass it on to whoever listens. -/
def keep (s : Spawner) (element : Element) : Spawner :=
  { s with
    elements := if s.record then s.elements.push element else s.elements
    sink := s.sink.map (·.push element) }

/-- Carry out a placement. The maker is that of the symbol the placement's symbol stands for. -/
def place (s : Spawner) (p : Placement) : Outcome (Option Element) :=
  let resolved := s.resolve p.symbol
  match (resolved.spawner.registry.get? resolved.value).bind fun maker =>
      maker { p with symbol := resolved.value } with
  | none => ⟨none, resolved.spawner, resolved.warnings⟩
  | some element => ⟨some element, resolved.spawner.keep element, resolved.warnings⟩

/-- Carry out placements in order. -/
def placeAll (s : Spawner) : List Placement → Outcome (List (Option Element))
  | [] => ⟨[], s, []⟩
  | p :: rest =>
    let first := s.place p
    let others := first.spawner.placeAll rest
    ⟨first.value :: others.value, others.spawner, first.warnings ++ others.warnings⟩

/-- Build a segment with its left column at `x`; the answer is how far it reaches. Without a key,
coins fall by the zero key. -/
def build (s : Spawner) (segment : Segment) (x : Int) (coins : Bool) (key : Option Random.Key) :
    Outcome Nat :=
  let coinKey := if coins then some (key.getD .zero) else none
  let placed := s.placeAll (segment.placements x s.worldHeight coinKey)
  ⟨segment.totalWidth, placed.spawner, placed.warnings⟩

/-- Resolve symbols in order. -/
def resolveAll (s : Spawner) : List String → Outcome (List String)
  | [] => ⟨[], s, []⟩
  | symbol :: rest =>
    let first := s.resolve symbol
    let others := first.spawner.resolveAll rest
    ⟨first.value :: others.value, others.spawner, first.warnings ++ others.warnings⟩

end Spawner

end LevelForge
