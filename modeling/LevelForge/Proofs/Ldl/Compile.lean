import Mathlib.Data.List.Induction
import LevelForge.Proofs.Ldl.Derivation
import LevelForge.Proofs.Ldl.Reading

/-!
# Compiling level texts

The tokens of a text spell a document or none. A text compiles exactly if its tokens spell one,
every key of a boss directive is that of a rule and the rows of every block are equally long; and
then its blueprint holds what the document says, item for item in order.

* `applyConstruct_eq_ok_iff`: the effect of one construct.
* `compile_eq_ok_iff`: the effect of a text.
* `exists_compile_iff`: which texts compile, and to what.
-/

namespace LevelForge

/-- In a table written in order the last write to a key wins. -/
theorem Table.get?_ofList {α : Type} (pairs : List (String × α)) (key : String) :
    (ofList pairs).get? key = pairs.reverse.lookup key := by
  induction pairs using List.reverseRecOn with
  | nil => rfl
  | append_singleton pairs pair ih =>
    have hlast : ofList (pairs ++ [pair]) = (ofList pairs).insert pair.1 pair.2 :=
      List.foldl_append
    rw [hlast, get?_insert, List.reverse_append, List.reverse_singleton, List.singleton_append,
      lookup_cons_eq, ih]

namespace Ldl

/-! ## What a document says -/

namespace Document

/-- The keys and values of the directives of one kind, in order. -/
def pairs (d : Directive) (document : Document) : List (String × String) :=
  document.filterMap fun
    | .directive d' m => if d' = d then some (m.key, m.value) else none
    | .block _ => none

/-- The rows of the blocks, in order. -/
def blocks (document : Document) : List (List (List String)) :=
  document.filterMap fun
    | .directive _ _ => none
    | .block rows => some rows

/-- Every key of a boss directive is that of a rule, and the rows of every block are equally
long. -/
structure IsSound (document : Document) : Prop where
  bosses : ∀ pair ∈ document.pairs .boss, ∃ rule, Boss.Rule.ofKey pair.1 pair.2 = .ok rule
  blocks : ∀ rows ∈ document.blocks, ∀ row ∈ rows, ∀ row' ∈ rows, row.length = row'.length

end Document

/-- A template has the symbols of a block as its rows. -/
structure IsTemplateOf (rows : List (List String)) (t : Template) : Prop where
  rows_eq : t.rows = rows.map (·.map some)
  height_eq : t.height = rows.length
  width_eq : ∀ row ∈ rows, t.width = row.length
  -- an empty block
  width_zero : rows = [] → t.width = 0

/-- A template of some rows holds their symbols, line by line. -/
theorem isTemplateOf_iff {rows : List (List String)} {t : Template} :
    IsTemplateOf rows t ↔ t.rows = rows.map (·.map some) := by
  refine ⟨IsTemplateOf.rows_eq, fun hrows => ⟨hrows, ?_, fun row hrow => ?_, ?_⟩⟩
  · rw [Template.height, hrows, List.length_map]
  · have := t.rectangular (row.map some) (by rw [hrows]; exact List.mem_map_of_mem hrow)
    rw [Template.width, ← this, List.length_map]
  · rintro rfl
    rw [Template.width, hrows]
    rfl

/-- A blueprint holds what a document says. -/
structure Holds (b : Blueprint) (name : Option String) (document : Document) : Prop where
  name_eq : b.name = name
  frozen : b.frozen = true ∧ b.bosses.frozen = true
  aliases_eq : b.aliases = .ofList (document.pairs .alias)
  settings_eq : b.settings = .ofList (document.pairs .setting)
  -- the last write to a key wins
  alias_eq : ∀ key, b.aliases.get? key = (document.pairs .alias).reverse.lookup key
  setting_eq : ∀ key, b.settings.get? key = (document.pairs .setting).reverse.lookup key
  rules : List.Forall₂ (fun pair rule => Boss.Rule.ofKey pair.1 pair.2 = .ok rule)
    (document.pairs .boss) b.bosses.rules
  templates : List.Forall₂ IsTemplateOf document.blocks b.templates.toList

/-! ## One construct -/

/-- The effect of an item on a blueprint. -/
inductive Fills (b : Blueprint) : Item → Blueprint → Prop
  | setAlias (m : Mapping) :
      Fills b (.directive .alias m) { b with aliases := b.aliases.insert m.key m.value }
  | setSetting (m : Mapping) :
      Fills b (.directive .setting m) { b with settings := b.settings.insert m.key m.value }
  | addBoss {m : Mapping} {rule : Boss.Rule} :
      Boss.Rule.ofKey m.key m.value = .ok rule →
      Fills b (.directive .boss m)
        { b with bosses := { b.bosses with rules := b.bosses.rules ++ [rule] } }
  | addTemplate {rows : List (List String)} {t : Template} :
      IsTemplateOf rows t → Fills b (.block rows) { b with templates := b.templates.push t }

/-- A blueprint takes an item: it is not frozen, and neither are its boss rules if the item is one
of these. -/
structure Takes (b : Blueprint) (item : Item) : Prop where
  blueprint : b.frozen = false
  bosses : ∀ m, item = .directive .boss m → b.bosses.frozen = false

/-- A construct that a blueprint rejects, and why. -/
inductive Rejects (b : Blueprint) : Construct → Failure → Prop
  -- the body is not that of a mapping
  | mapping (d : Directive) {body : String} :
      (∀ m : Mapping, ¬ m.IsWritten body) →
      Rejects b (.directive d body) (.mapping body .shape)
  -- the key of a boss directive is not that of a rule
  | key {m : Mapping} {body : String} {fault : Boss.KeyFault} :
      m.IsWritten body → Takes b (.directive .boss m) →
      Boss.Rule.ofKey m.key m.value = .error fault →
      Rejects b (.directive .boss body) (.mapping body (.boss fault))
  -- the rows of a block are not equally long
  | ragged (line : Nat) {rows : List (List String)} :
      (¬ ∀ row ∈ rows, ∀ row' ∈ rows, row.length = row'.length) →
      Rejects b (.block line rows) (.ragged ⟨rows.map List.length⟩ line)
  | frozen {construct : Construct} {item : Item} :
      construct.IsOf item → (∀ rows, item = .block rows → ∃ t, IsTemplateOf rows t) →
      b.frozen = true → Rejects b construct (.refused (.frozen b.name))
  | schedule {m : Mapping} {body : String} :
      m.IsWritten body → b.frozen = false → b.bosses.frozen = true →
      Rejects b (.directive .boss body) (.refused (.schedule .frozen))

/-- A blueprint that takes changes, also of its boss rules. -/
structure IsOpen (b : Blueprint) : Prop where
  blueprint : b.frozen = false
  bosses : b.bosses.frozen = false

/-- Rows form the template of a block exactly if they are equally long. -/
theorem exists_isTemplateOf_iff {rows : List (List String)} :
    (∃ t, IsTemplateOf rows t) ↔ ∀ row ∈ rows, ∀ row' ∈ rows, row.length = row'.length := by
  simp only [isTemplateOf_iff, ← Template.ofRows?_eq_ok_iff, Template.ofRows?_isOk_iff]
  simp

section Effects

variable {b b' : Blueprint}

/-- An open blueprint takes every item. -/
theorem IsOpen.takes (hopen : IsOpen b) (item : Item) : Takes b item :=
  ⟨hopen.blueprint, fun _ _ => hopen.bosses⟩

/-- The effect of an item leaves a blueprint open. -/
theorem Fills.isOpen {item : Item} (h : Fills b item b') (hopen : IsOpen b) : IsOpen b' := by
  cases h <;> exact ⟨hopen.blueprint, hopen.bosses⟩

/-- A frozen blueprint is not open to changes. -/
theorem checkOpen_of_frozen (h : b.frozen = true) : b.checkOpen = .error (.frozen b.name) :=
  if_pos h

/-- A blueprint that takes an item is open to changes. -/
theorem Takes.checkOpen {item : Item} (h : Takes b item) : b.checkOpen = .ok () := by
  rw [Blueprint.checkOpen, h.blueprint]
  rfl

/-- A boss rule is taken exactly if its key is that of a rule. -/
theorem Takes.addBoss {m : Mapping} (h : Takes b (.directive .boss m)) :
    b.addBoss m.key m.value = match Boss.Rule.ofKey m.key m.value with
      | .error fault => .error (.schedule (.key fault))
      | .ok rule =>
        .ok { b with bosses := { b.bosses with rules := b.bosses.rules ++ [rule] } } := by
  have hunfrozen : ¬ b.bosses.frozen = true := by rw [h.bosses m rfl]; nofun
  rw [Blueprint.addBoss, h.checkOpen, Boss.Schedule.insert, if_neg hunfrozen]
  cases Boss.Rule.ofKey m.key m.value <;> rfl

/-- A directive has the effect of the mapping that its body writes. -/
theorem applyConstruct_directive {d : Directive} {m : Mapping} {body : String}
    (h : m.IsWritten body) :
    applyConstruct b (.directive d body) = applyMapping b d body m := by
  rw [applyConstruct, Mapping.ofBody?_eq_some_iff.mpr h]

/-- A block has the effect of the template of its rows. -/
theorem applyConstruct_block {line : Nat} {rows : List (List String)} {t : Template}
    (h : IsTemplateOf rows t) :
    applyConstruct b (.block line rows) = (b.addTemplate t).mapError .refused := by
  rw [applyConstruct, Template.ofRows?_eq_ok_iff.mpr h.rows_eq]

/-- A construct that is rejected fails for the reason that is named. -/
theorem applyConstruct_of_rejects {construct : Construct} {failure : Failure}
    (h : Rejects b construct failure) : applyConstruct b construct = .error failure := by
  cases h with
  | @mapping d body hbody =>
    have hnone : Mapping.ofBody? body = none :=
      Option.eq_none_iff_forall_ne_some.mpr fun m hm => hbody m (Mapping.ofBody?_eq_some_iff.mp hm)
    rw [applyConstruct, hnone]
  | key hwritten htakes hkey =>
    rw [applyConstruct_directive hwritten, applyMapping, htakes.addBoss, hkey]
    rfl
  | @ragged line rows hrows =>
    have hunequal :
        ¬ ∀ row ∈ rows.map (·.map some), row.length = rowWidth (rows.map (·.map some)) :=
      fun h => exists_isTemplateOf_iff.not.mpr hrows ⟨⟨_, h⟩, isTemplateOf_iff.mpr rfl⟩
    have hwidths : Template.ofRows? (rows.map (·.map some)) = .error ⟨rows.map List.length⟩ := by
      rw [Template.ofRows?, dif_neg hunequal, List.map_map]
      simp
    rw [applyConstruct, hwidths]
  | frozen hitem hrows hfrozen =>
    have hcheck := checkOpen_of_frozen hfrozen
    cases hitem with
    | directive d hwritten =>
      rw [applyConstruct_directive hwritten]
      match d with
      | .alias => rw [applyMapping, Blueprint.setAlias, hcheck]; rfl
      | .setting => rw [applyMapping, Blueprint.setSetting, hcheck]; rfl
      | .boss => rw [applyMapping, Blueprint.addBoss, hcheck]; rfl
    | block line rows =>
      obtain ⟨t, ht⟩ := hrows rows rfl
      rw [applyConstruct_block ht, Blueprint.addTemplate, hcheck]
      rfl
  | @schedule m body hwritten hopen hfrozen =>
    have hcheck : b.checkOpen = .ok () := by rw [Blueprint.checkOpen, hopen]; rfl
    rw [applyConstruct_directive hwritten, applyMapping, Blueprint.addBoss, hcheck,
      Boss.Schedule.insert, if_pos hfrozen]
    rfl

/-- A construct that is taken has the effect of its item. -/
theorem applyConstruct_of_fills {construct : Construct} {item : Item} (hitem : construct.IsOf item)
    (htakes : Takes b item) (hfills : Fills b item b') : applyConstruct b construct = .ok b' := by
  cases hitem with
  | directive d hwritten =>
    rw [applyConstruct_directive hwritten]
    cases hfills with
    | setAlias => rw [applyMapping, Blueprint.setAlias, htakes.checkOpen]; rfl
    | setSetting => rw [applyMapping, Blueprint.setSetting, htakes.checkOpen]; rfl
    | addBoss hrule => rw [applyMapping, htakes.addBoss, hrule]; rfl
  | block line rows =>
    cases hfills with
    | addTemplate ht =>
      rw [applyConstruct_block ht, Blueprint.addTemplate, htakes.checkOpen]
      rfl

/-- A construct is rejected or has an effect. -/
theorem rejects_or_fills (b : Blueprint) (construct : Construct) :
    (∃ failure, Rejects b construct failure) ∨
      ∃ item b', construct.IsOf item ∧ Takes b item ∧ Fills b item b' := by
  cases construct with
  | directive d body =>
    by_cases hbody : ∃ m : Mapping, m.IsWritten body
    · obtain ⟨m, hwritten⟩ := hbody
      by_cases hfrozen : b.frozen = true
      · exact .inl ⟨_, .frozen (.directive d hwritten) nofun hfrozen⟩
      have hopen : b.frozen = false := Bool.not_eq_true _ ▸ hfrozen
      match d with
      | .alias => exact .inr ⟨_, _, .directive _ hwritten, ⟨hopen, nofun⟩, .setAlias m⟩
      | .setting => exact .inr ⟨_, _, .directive _ hwritten, ⟨hopen, nofun⟩, .setSetting m⟩
      | .boss =>
        by_cases hbosses : b.bosses.frozen = true
        · exact .inl ⟨_, .schedule hwritten hopen hbosses⟩
        have htakes : Takes b (.directive .boss m) :=
          ⟨hopen, fun _ _ => Bool.not_eq_true _ ▸ hbosses⟩
        cases hkey : Boss.Rule.ofKey m.key m.value with
        | error fault => exact .inl ⟨_, .key hwritten htakes hkey⟩
        | ok rule => exact .inr ⟨_, _, .directive _ hwritten, htakes, .addBoss hkey⟩
    · exact .inl ⟨_, .mapping d fun m hm => hbody ⟨m, hm⟩⟩
  | block line rows =>
    by_cases hrows : ∃ t, IsTemplateOf rows t
    · obtain ⟨t, ht⟩ := hrows
      by_cases hfrozen : b.frozen = true
      · refine .inl ⟨_, .frozen (.block line rows) ?_ hfrozen⟩
        rintro _ ⟨⟩
        exact ⟨t, ht⟩
      · exact .inr ⟨_, _, .block line rows, ⟨Bool.not_eq_true _ ▸ hfrozen, nofun⟩,
          .addTemplate ht⟩
    · exact .inl ⟨_, .ragged line (exists_isTemplateOf_iff.not.mp hrows)⟩

/-- A construct is accepted exactly if it is that of an item with an effect, and has this effect. -/
theorem applyConstruct_eq_ok_iff {construct : Construct} :
    applyConstruct b construct = .ok b' ↔
      ∃ item, construct.IsOf item ∧ Takes b item ∧ Fills b item b' := by
  constructor
  · intro h
    obtain ⟨failure, hrejects⟩ | ⟨item, b₁, hitem, htakes, hfills⟩ := rejects_or_fills b construct
    · rw [applyConstruct_of_rejects hrejects] at h
      cases h
    · rw [applyConstruct_of_fills hitem htakes hfills] at h
      cases h
      exact ⟨item, hitem, htakes, hfills⟩
  · rintro ⟨item, hitem, htakes, hfills⟩
    exact applyConstruct_of_fills hitem htakes hfills

/-- A construct is rejected for exactly one reason. -/
theorem applyConstruct_eq_error_iff {construct : Construct} {failure : Failure} :
    applyConstruct b construct = .error failure ↔ Rejects b construct failure := by
  constructor
  · intro h
    obtain ⟨failure', hrejects⟩ | ⟨item, b₁, hitem, htakes, hfills⟩ := rejects_or_fills b construct
    · rw [applyConstruct_of_rejects hrejects] at h
      cases h
      exact hrejects
    · rw [applyConstruct_of_fills hitem htakes hfills] at h
      cases h
  · exact applyConstruct_of_rejects

end Effects

/-! ## All constructs -/

/-- The effect of the items of a document in order. -/
inductive FillsAll : Blueprint → Document → Blueprint → Prop
  | nil (b : Blueprint) : FillsAll b [] b
  | cons {b b₁ b' : Blueprint} {item : Item} {document : Document} :
      Fills b item b₁ → FillsAll b₁ document b' → FillsAll b (item :: document) b'

section Runs

variable {b b' : Blueprint} {document : Document}

/-- Constructs are all accepted exactly if they are those of items with an effect, and have this
effect. -/
theorem applyConstructs_eq_none_iff (hopen : IsOpen b) {constructs : List Construct} :
    applyConstructs b constructs = (b', none) ↔
      ∃ document, List.Forall₂ Construct.IsOf constructs document ∧ FillsAll b document b' := by
  induction constructs generalizing b with
  | nil =>
    constructor
    · intro h; cases h; exact ⟨[], .nil, .nil _⟩
    · rintro ⟨document, hitems, hfills⟩
      cases hitems
      cases hfills
      rfl
  | cons construct rest ih =>
    rw [applyConstructs]
    constructor
    · intro h
      split at h
      · cases h
      · next b₁ happly =>
        obtain ⟨item, hitem, -, hfills⟩ := applyConstruct_eq_ok_iff.mp happly
        obtain ⟨document, hitems, hrest⟩ := (ih (hfills.isOpen hopen)).mp h
        exact ⟨item :: document, .cons hitem hitems, .cons hfills hrest⟩
    · rintro ⟨document, hitems, hfills⟩
      cases hitems with
      | cons hitem hitems =>
        cases hfills with
        | cons hfills hrest =>
          rw [applyConstruct_of_fills hitem (hopen.takes _) hfills]
          exact (ih (hfills.isOpen hopen)).mpr ⟨_, hitems, hrest⟩

/-- A stream fills a blueprint to its end exactly if its tokens spell a document whose items have an
effect, and it has this effect. -/
theorem fill_eq_none_iff (hopen : IsOpen b) {stream : TokenStream} :
    fill b stream = (b', none) ↔
      ∃ document, Spells stream.pending document ∧ FillsAll b document b' := by
  have happly : fill b stream = (b', none) ↔ stream.constructs.2 = none ∧
      applyConstructs b stream.constructs.1 = (b', none) := by
    unfold fill
    dsimp only
    split
    · next b₁ failure heq => simp [heq]
    · next b₁ heq => simp [heq, and_comm]
  rw [happly, applyConstructs_eq_none_iff hopen]
  constructor
  · rintro ⟨hend, document, hitems, hfills⟩
    exact ⟨document, (spells_iff stream.stop).mpr ⟨hend, hitems⟩, hfills⟩
  · rintro ⟨document, hspells, hfills⟩
    obtain ⟨hend, hitems⟩ := (spells_iff stream.stop).mp hspells
    exact ⟨hend, document, hitems, hfills⟩

/-- A text compiles exactly if its tokens spell a document whose items have an effect. -/
theorem compile_eq_ok_iff {text : String} {name : Option String} :
    compile text name = .ok b ↔ ∃ document b', Spells (TokenStream.ofText text).pending document ∧
      FillsAll { name } document b' ∧ b = b'.freeze := by
  have hopen : IsOpen { name } := ⟨rfl, rfl⟩
  rw [compile_eq_fill]
  constructor
  · intro h
    split at h
    · cases h
    · next b' hfill =>
      cases h
      obtain ⟨document, hspells, hfills⟩ := (fill_eq_none_iff hopen).mp hfill
      exact ⟨document, b', hspells, hfills, rfl⟩
  · rintro ⟨document, b', hspells, hfills, rfl⟩
    rw [(fill_eq_none_iff hopen).mpr ⟨document, hspells, hfills⟩]

/-! ## Documents with an effect -/

namespace Document

/-- The pairs of a directive are those of the directives of its kind, in order. -/
@[simp]
theorem pairs_directive (d d' : Directive) (m : Mapping) (document : Document) :
    pairs d (.directive d' m :: document) =
      if d' = d then (m.key, m.value) :: pairs d document else pairs d document := by
  by_cases h : d' = d <;> simp [pairs, h]

@[simp]
theorem blocks_block (rows : List (List String)) (document : Document) :
    blocks (.block rows :: document) = rows :: blocks document := rfl

end Document

/-- What the items of a document leave behind: what was there, and behind it what they say. -/
structure Extends (b : Blueprint) (document : Document) (b' : Blueprint) : Prop where
  name_eq : b'.name = b.name
  aliases_eq : b'.aliases =
    (document.pairs .alias).foldl (fun t pair => t.insert pair.1 pair.2) b.aliases
  settings_eq : b'.settings =
    (document.pairs .setting).foldl (fun t pair => t.insert pair.1 pair.2) b.settings
  rules : ∃ rules, b'.bosses.rules = b.bosses.rules ++ rules ∧
    List.Forall₂ (fun pair rule => Boss.Rule.ofKey pair.1 pair.2 = .ok rule)
      (document.pairs .boss) rules
  templates : ∃ templates, b'.templates.toList = b.templates.toList ++ templates ∧
    List.Forall₂ IsTemplateOf document.blocks templates

/-- The effect of all items together extends the tables of a blueprint. -/
theorem FillsAll.extends (h : FillsAll b document b') : Extends b document b' := by
  induction h with
  | nil => exact ⟨rfl, rfl, rfl, ⟨[], by simp, .nil⟩, ⟨[], by simp, .nil⟩⟩
  | cons hfills _ ih =>
    obtain ⟨hname, haliases, hsettings, ⟨rules, hrules, hall⟩, templates, htemplates, hall'⟩ := ih
    cases hfills with
    | setAlias =>
      exact ⟨hname, haliases, hsettings, ⟨rules, hrules, hall⟩, templates, htemplates, hall'⟩
    | setSetting =>
      exact ⟨hname, haliases, hsettings, ⟨rules, hrules, hall⟩, templates, htemplates, hall'⟩
    | @addBoss m rule hrule =>
      refine ⟨hname, haliases, hsettings, ⟨rule :: rules, ?_, .cons hrule hall⟩, templates,
        htemplates, hall'⟩
      rw [hrules, List.append_assoc, List.singleton_append]
    | @addTemplate rows t ht =>
      refine ⟨hname, haliases, hsettings, ⟨rules, hrules, hall⟩, t :: templates, ?_,
        .cons ht hall'⟩
      rw [htemplates, Array.toList_push, List.append_assoc, List.singleton_append]

/-- Of two lists side by side each element of the first has one beside it. -/
theorem exists_of_mem_of_forall₂ {α β : Type} {R : α → β → Prop} {xs : List α} {ys : List β}
    (h : List.Forall₂ R xs ys) {x : α} (hx : x ∈ xs) : ∃ y ∈ ys, R x y := by
  induction h with
  | nil => cases hx
  | cons hhead _ ih =>
    rcases List.mem_cons.mp hx with rfl | hx
    · exact ⟨_, List.mem_cons_self, hhead⟩
    · obtain ⟨y, hy, hR⟩ := ih hx
      exact ⟨y, List.mem_cons_of_mem _ hy, hR⟩

/-- A document has an effect exactly if it is sound. -/
theorem exists_fillsAll_iff : (∃ b', FillsAll b document b') ↔ document.IsSound := by
  constructor
  · rintro ⟨b', h⟩
    obtain ⟨-, -, -, ⟨rules, -, hrules⟩, templates, -, htemplates⟩ := h.extends
    refine ⟨fun pair hpair => ?_, fun rows hrows => ?_⟩
    · obtain ⟨rule, -, hrule⟩ := exists_of_mem_of_forall₂ hrules hpair
      exact ⟨rule, hrule⟩
    · obtain ⟨t, -, ht⟩ := exists_of_mem_of_forall₂ htemplates hrows
      exact exists_isTemplateOf_iff.mp ⟨t, ht⟩
  · intro h
    induction document generalizing b with
    | nil => exact ⟨b, .nil b⟩
    | cons item document ih =>
      -- the first item has an effect, and what follows is sound
      suffices hitem : (∃ b₁, Fills b item b₁) ∧ Document.IsSound document by
        obtain ⟨⟨b₁, hfills⟩, hrest⟩ := hitem
        obtain ⟨b', hfillsAll⟩ := ih hrest
        exact ⟨b', .cons hfills hfillsAll⟩
      obtain ⟨hbosses, hblocks⟩ := h
      match item with
      | .directive .alias m => exact ⟨⟨_, .setAlias m⟩, hbosses, hblocks⟩
      | .directive .setting m => exact ⟨⟨_, .setSetting m⟩, hbosses, hblocks⟩
      | .directive .boss m =>
        obtain ⟨rule, hrule⟩ := hbosses (m.key, m.value) (by simp)
        exact ⟨⟨_, .addBoss hrule⟩, fun pair hpair => hbosses pair (by simp [hpair]), hblocks⟩
      | .block rows =>
        obtain ⟨t, ht⟩ := exists_isTemplateOf_iff.mpr (hblocks rows (by simp))
        exact ⟨⟨_, .addTemplate ht⟩, hbosses, fun rows' hrows' => hblocks rows' (by simp [hrows'])⟩

/-- The blueprint of a text holds what its document says. -/
theorem FillsAll.holds {name : Option String} (h : FillsAll { name } document b') :
    Holds b'.freeze name document := by
  obtain ⟨hname, haliases, hsettings, ⟨rules, hrules, hall⟩, templates, htemplates, hall'⟩ :=
    h.extends
  have haliases' : b'.aliases = .ofList (document.pairs .alias) := haliases
  have hsettings' : b'.settings = .ofList (document.pairs .setting) := hsettings
  refine ⟨hname, ⟨rfl, rfl⟩, haliases', hsettings', fun key => ?_, fun key => ?_, ?_, ?_⟩
  · exact haliases' ▸ Table.get?_ofList _ key
  · exact hsettings' ▸ Table.get?_ofList _ key
  · have hrules' : b'.freeze.bosses.rules = rules := hrules
    rw [hrules']
    exact hall
  · have htemplates' : b'.freeze.templates.toList = templates := htemplates
    rw [htemplates']
    exact hall'

end Runs

/-- The tokens of a text spell a document exactly if their kinds are those of one before the end of
the text and every mapping token holds a mapping. -/
theorem exists_spells_ofText_iff {text : String} :
    (∃ document, Spells (TokenStream.ofText text).pending document) ↔
      (∃ documentKinds, Grammar.Document documentKinds ∧
        (tokenize text).map Token.kind = documentKinds ++ [.endOfText]) ∧
      ∀ t ∈ tokenize text, t.kind = .mapping → ∃ m : Mapping, m.IsWritten t.text := by
  have hkinds : (tokenize text).map Token.kind =
      kinds (TokenStream.ofText text).pending ++ [.endOfText] := List.map_append
  rw [exists_spells_iff, hkinds]
  constructor
  · rintro ⟨hdocument, hmappings⟩
    refine ⟨⟨_, hdocument, rfl⟩, fun t ht hkind => ?_⟩
    rcases List.mem_append.mp ht with ht | hlast
    · exact hmappings t ht hkind
    · rw [List.mem_singleton.mp hlast] at hkind
      cases hkind
  · rintro ⟨⟨documentKinds, hdocument, heq⟩, hmappings⟩
    rw [← List.append_cancel_right heq] at hdocument
    exact ⟨hdocument, fun t ht => hmappings t (List.mem_append_left _ ht)⟩

/-- A text compiles exactly if the kinds of its tokens are those of a document and the end of the
text, every mapping token holds a mapping, every key of a boss directive is that of a rule, and the
rows of every block are equally long. Its tokens then spell one document, and the blueprint holds
what this says. -/
theorem exists_compile_iff (text : String) (name : Option String) :
    ((∃ b, compile text name = .ok b) ↔
      (∃ documentKinds, Grammar.Document documentKinds ∧
        (tokenize text).map Token.kind = documentKinds ++ [.endOfText]) ∧
      (∀ t ∈ tokenize text, t.kind = .mapping → ∃ m : Mapping, m.IsWritten t.text) ∧
      ∀ document, Spells (TokenStream.ofText text).pending document → document.IsSound) ∧
    ∀ b, compile text name = .ok b → ∃ document,
      (∀ other, Spells (TokenStream.ofText text).pending other ↔ other = document) ∧
      Holds b name document := by
  refine ⟨?_, fun b hb => ?_⟩
  · rw [← and_assoc, ← exists_spells_ofText_iff]
    constructor
    · rintro ⟨b, hb⟩
      obtain ⟨document, b', hspells, hfills, -⟩ := compile_eq_ok_iff.mp hb
      refine ⟨⟨document, hspells⟩, fun other hother => ?_⟩
      rw [hother.unique hspells]
      exact exists_fillsAll_iff.mp ⟨b', hfills⟩
    · rintro ⟨⟨document, hspells⟩, hsound⟩
      obtain ⟨b', hfills⟩ := exists_fillsAll_iff.mpr (hsound document hspells)
      exact ⟨_, compile_eq_ok_iff.mpr ⟨document, b', hspells, hfills, rfl⟩⟩
  · obtain ⟨document, b', hspells, hfills, rfl⟩ := compile_eq_ok_iff.mp hb
    refine ⟨document, fun other => ⟨fun hother => hother.unique hspells, ?_⟩, hfills.holds⟩
    rintro rfl
    exact hspells

end Ldl

end LevelForge
