import LevelForge.Proofs.Ldl.Stopping

/-!
# Sealed blueprints

A blueprint that was frozen is sealed, and its boss schedule with it. It refuses every change, and
reading a text into it stops at the first construct: whatever is tried, it stays as it is.

* `sealed_of_compile`: the blueprint of a text is sealed.
* `Reader.fill_of_sealed`: no text changes a sealed blueprint.
* `fill_of_forms_of_sealed`: a text that begins with a valid construct is refused.
-/

namespace LevelForge

namespace Blueprint

/-- A blueprint that takes no more changes, not of its boss schedule either. -/
structure Sealed (b : Blueprint) : Prop where
  blueprint : b.frozen = true
  bosses : b.bosses.frozen = true

/-- Two blueprints with the same four tables. -/
structure SameTables (a b : Blueprint) : Prop where
  aliases : a.aliases = b.aliases
  settings : a.settings = b.settings
  rules : a.bosses.rules = b.bosses.rules
  templates : a.templates = b.templates

theorem sealed_freeze (b : Blueprint) : b.freeze.Sealed := ⟨rfl, rfl⟩

theorem sameTables_freeze (b : Blueprint) : b.freeze.SameTables b := ⟨rfl, rfl, rfl, rfl⟩

/-- Freezing a sealed blueprint again changes nothing. -/
theorem Sealed.freeze_eq {b : Blueprint} (h : b.Sealed) : b.freeze = b := by
  obtain ⟨name, aliases, settings, ⟨rules, bossesFrozen⟩, templates, frozen⟩ := b
  obtain ⟨hblueprint, hbosses⟩ := h
  dsimp only at hblueprint hbosses
  rw [hblueprint, hbosses]
  rfl

/-- The boss schedule of a sealed blueprint takes no rule, though it is offered one directly. -/
theorem Sealed.insert_eq {b : Blueprint} (h : b.Sealed) (key symbol : String) :
    b.bosses.insert key symbol = .error .frozen :=
  if_pos h.bosses

end Blueprint

namespace Ldl

open Blueprint (Sealed)

variable {b : Blueprint}

/-- The blueprint of a text is sealed. -/
theorem sealed_of_compile {text : String} {name : Option String}
    (h : compile text name = .ok b) : b.Sealed := by
  obtain ⟨_, b', _, _, rfl⟩ := compile_eq_ok_iff.mp h
  exact b'.sealed_freeze

/-- A sealed blueprint accepts no construct. -/
theorem exists_applyConstruct_eq_error (h : b.Sealed) (construct : Construct) :
    ∃ failure, applyConstruct b construct = .error failure := by
  cases happly : applyConstruct b construct with
  | error failure => exact ⟨failure, rfl⟩
  | ok b' =>
    obtain ⟨item, -, htakes, -⟩ := applyConstruct_eq_ok_iff.mp happly
    have hopen := htakes.blueprint
    rw [h.blueprint] at hopen
    cases hopen

/-- Reading into a sealed blueprint leaves it as it is, wherever the reading ends. -/
theorem Reader.fill_of_sealed (h : b.Sealed) (r : Reader) : (r.fill b).2.1 = b := by
  fun_cases Reader.fill r b with
  | case1 => rfl
  | case2 => rfl
  | case3 => rfl
  | case4 => rfl
  | case5 construct behind hread b' happly =>
    obtain ⟨failure, hrejected⟩ := exists_applyConstruct_eq_error h construct
    cases happly.symm.trans hrejected

/-- A text that begins with a construct that is finished and valid is refused. -/
theorem fill_of_forms_of_sealed (h : b.Sealed) {front : List Token} {construct : Construct}
    {item : Item} (hforms : Forms front construct) (hitem : construct.IsOf item)
    (hrows : ∀ rows, item = .block rows → ∃ t, IsTemplateOf rows t) (behind : List Token)
    (stop : Position) :
    fill b ⟨front ++ behind, stop⟩ = (b, some (.refused (.frozen b.name))) := by
  have hrejects : Rejects b construct (.refused (.frozen b.name)) :=
    .frozen hitem hrows h.blueprint
  rw [fill_of_forms b hforms, applyConstruct_of_rejects hrejects]

end Ldl

end LevelForge
