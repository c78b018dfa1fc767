import LevelForge.Segment
import LevelForge.Boss.Schedule
import LevelForge.Text.Blank

/-!
# Blueprints

A blueprint is the compiled form of a level text: its aliases, its settings, its boss rules and
its templates in the order of the text. It is filled while the text is read and then frozen; a
frozen blueprint takes no more changes, so any number of levels may share it.

* `Blueprint.setAlias`, `setSetting`, `addBoss`, `addTemplate`: the four ways to fill it.
* `Blueprint.isSet`: whether a setting is switched on.
* `Blueprint.segment?`: a segment over one of its templates.
-/

namespace LevelForge

/-- The settings the level engine reads. -/
inductive Setting where
  -- start over when the templates run out
  | infinite
  | shuffle
  -- leave a gap behind every template
  | doGaps
  | autoCoinSpawn
  -- the arcade group of the level
  | group
  | seed
  deriving DecidableEq, Repr

/-- The key of a setting in level texts. -/
def Setting.key : Setting → String
  | .infinite => "INFINITE"
  | .shuffle => "SHUFFLE"
  | .doGaps => "DO_GAPS"
  | .autoCoinSpawn => "AUTO_COIN_SPAWN"
  | .group => "GROUP"
  | .seed => "SEED"

/-- The compiled form of a level text. -/
structure Blueprint where
  name : Option String := none
  aliases : Table String := .empty
  settings : Table String := .empty
  bosses : Boss.Schedule := {}
  -- the templates in the order of the text
  templates : Array Template := #[]
  -- whether the blueprint takes no more changes
  frozen : Bool := false

namespace Blueprint

/-- Why a change is refused. -/
inductive Refusal where
  -- the blueprint of this name is frozen
  | frozen (name : Option String)
  -- its boss schedule does not take the rule
  | schedule (fault : Boss.ScheduleFault)
  deriving DecidableEq, Repr

/-- What is said about a refused change. -/
def Refusal.message : Refusal → String
  | .frozen name => s!"StructureManager {Text.quoteOption name} is frozen"
  | .schedule fault => fault.message

/-- Refuse changes of a frozen blueprint. -/
def checkOpen (b : Blueprint) : Except Refusal Unit :=
  if b.frozen then .error (.frozen b.name) else .ok ()

/-- Let a symbol stand for another one. -/
def setAlias (b : Blueprint) (key value : String) : Except Refusal Blueprint := do
  b.checkOpen
  return { b with aliases := b.aliases.insert key value }

/-- Give a setting a value. -/
def setSetting (b : Blueprint) (key value : String) : Except Refusal Blueprint := do
  b.checkOpen
  return { b with settings := b.settings.insert key value }

/-- Add the boss rule of a key and a boss symbol. -/
def addBoss (b : Blueprint) (key symbol : String) : Except Refusal Blueprint := do
  b.checkOpen
  let bosses ← (b.bosses.insert key symbol).mapError .schedule
  return { b with bosses }

/-- Add a template at the end. -/
def addTemplate (b : Blueprint) (template : Template) : Except Refusal Blueprint := do
  b.checkOpen
  return { b with templates := b.templates.push template }

/-- The blueprint that takes no more changes. -/
def freeze (b : Blueprint) : Blueprint :=
  { b with bosses := b.bosses.freeze, frozen := true }

/-- The number of templates. -/
def count (b : Blueprint) : Nat := b.templates.size

/-- The template at an index; negative indices count from the end. -/
def template? (b : Blueprint) (index : Int) : Option Template :=
  if 0 ≤ index then b.templates[index.toNat]?
  else if (-index).toNat ≤ b.count then b.templates[b.count - (-index).toNat]?
  else none

/-- A regular segment over the template at an index. -/
def segment? (b : Blueprint) (index : Int) : Option Segment :=
  (b.template? index).map fun template =>
    { template, aliases := b.aliases, index := some index }

/-- The value of a setting. -/
def setting? (b : Blueprint) (key : String) : Option String := b.settings.get? key

/-- Whether a value switches a setting on: not if it is blank, zero or `false` in any case. -/
def isOn (value : String) : Bool :=
  let core := String.ofList ((Text.trim Text.isBlank value.toList).map Char.toLower)
  !(["", "0", "false"].contains core)

/-- Whether the setting of a key is switched on. -/
def isSet (b : Blueprint) (key : String) : Bool :=
  match b.setting? key with
  | none => false
  | some value => isOn value

/-- Whether a setting of the level engine is switched on. -/
def has (b : Blueprint) (setting : Setting) : Bool := b.isSet setting.key

/-- What a symbol stands for: its alias if it has one, and otherwise itself. -/
def resolveAlias (b : Blueprint) (symbol : String) : String :=
  (b.aliases.get? symbol).getD symbol

/-- Two blueprints are alike when they hold the same, whatever their names and the order of their
aliases and settings. -/
def alike (a b : Blueprint) : Bool :=
  a.aliases.agrees b.aliases && a.settings.agrees b.settings &&
    a.bosses.rules == b.bosses.rules && a.templates == b.templates

/-- A table of texts as messages show it. -/
def describeTable (t : Table String) : String :=
  let entries := t.entries.map fun entry => s!"{Text.quote entry.1}: {Text.quote entry.2}"
  "\x7b" ++ ", ".intercalate entries ++ "\x7d"

/-- A blueprint in one line. -/
def describe (b : Blueprint) : String :=
  s!"StructureManager(name={Text.quoteOption b.name}, structures={b.count}, " ++
  s!"settings={describeTable b.settings})"

end Blueprint

end LevelForge
