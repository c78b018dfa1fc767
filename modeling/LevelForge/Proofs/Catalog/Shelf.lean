import LevelForge.Catalog
import LevelForge.Proofs.Ldl.Sealing

/-!
# Catalogs without a cache

A shelf is a catalog that keeps no blueprints: it holds the texts of levels and compiles a text
whenever the level is asked for. A catalog answers every call as a shelf does, and so its blueprints
show in nothing but the time that it takes.

* `Shelf`: a catalog without a cache.
* `Catalog.Mirrors`: a catalog keeps nothing but what the shelf with the same texts would compile.
* `Catalog.Mirrors.perform`: one call of a catalog that mirrors a shelf.
* `Catalog.Mirrors.performAll`: any calls.
-/

namespace LevelForge

/-! ## Tables and lists -/

namespace Table

variable {α : Type}

/-- A look-up after an entry was removed. -/
theorem lookup_filter_ne (key k : String) (entries : List (String × α)) :
    (entries.filter (·.1 != key)).lookup k = if k = key then none else entries.lookup k := by
  induction entries with
  | nil => simp
  | cons entry rest ih =>
    by_cases hentry : entry.1 = key
    · rw [List.filter_cons_of_neg (by simpa using hentry), ih, lookup_cons_eq, hentry]
      by_cases hk : k = key <;> simp [hk]
    · rw [List.filter_cons_of_pos (by simpa using hentry), lookup_cons_eq, lookup_cons_eq, ih]
      by_cases hk : k = entry.1
      · have hne : k ≠ key := hk ▸ hentry
        simp [hk, hentry]
      · simp [hk]

/-- A look-up after a removal finds nothing at its key and sees the old table elsewhere. -/
theorem get?_erase (t : Table α) (key k : String) :
    (t.erase key).get? k = if k = key then none else t.get? k :=
  lookup_filter_ne key k t.entries

end Table

namespace Catalog

/-- What follows a text in a list is what stands behind its first place. -/
theorem following_eq_getElem? (levelId : String) (members : List String) :
    following levelId members = members[members.idxOf levelId + 1]? := by
  induction members with
  | nil => rfl
  | cons first rest ih =>
    rw [following, List.idxOf_cons, List.getElem?_cons_succ]
    by_cases h : first = levelId
    · rw [if_pos h, h, beq_self_eq_true, cond_true, List.head?_eq_getElem?]
    · rw [if_neg h, ih, beq_false_of_ne h, cond_false]

end Catalog

/-! ## Shelves -/

/-- A catalog without a cache. -/
structure Shelf where
  texts : Table String

namespace Shelf

/-- Add or replace the text of an id. -/
def add (shelf : Shelf) (levelId text : String) : Shelf := ⟨shelf.texts.insert levelId text⟩

/-- All ids in ascending order. -/
def ids (shelf : Shelf) : List String := shelf.texts.keys.mergeSort fun a b => decide (a ≤ b)

/-- The blueprint of an id, compiled anew. -/
def blueprint (shelf : Shelf) (levelId : String) : Except Catalog.Unavailable Blueprint :=
  match shelf.texts.get? levelId with
  | none => .error ⟨levelId, .unknown⟩
  | some text =>
    (Ldl.compile text (some levelId)).mapError fun failure => ⟨levelId, .broken failure⟩

/-- The plan of an id. -/
def load (shelf : Shelf) (levelId : String) (seed : Option Int) (mode : Option PlayMode) :
    Except Catalog.Unavailable LevelPlan := do
  let blueprint ← shelf.blueprint levelId
  let seed ←
    match seed with
    | some seed => .ok seed
    | none => Catalog.configuredSeed levelId blueprint
  let usual := if blueprint.has .infinite then PlayMode.infinite else PlayMode.arcade
  return { levelId, blueprint, seed, mode := mode.getD usual }

/-- The ids whose texts compile, in ascending order. -/
def available (shelf : Shelf) : List String :=
  shelf.ids.filter fun levelId => (shelf.blueprint levelId).isOk

/-- The arcade group of an id. -/
def group? (shelf : Shelf) (levelId : String) : Option String :=
  (shelf.blueprint levelId).toOption.bind (·.setting? Setting.group.key)

/-- The groups after an id was put at the end of its group, if it has one. -/
def enlist (groups : Table (List String)) (levelId : String) : Option String → Table (List String)
  | none => groups
  | some group => groups.insert group ((groups.get? group).getD [] ++ [levelId])

/-- The arcade groups with their ids in ascending order. -/
def groups (shelf : Shelf) : Table (List String) :=
  shelf.available.foldl (fun groups levelId => enlist groups levelId (shelf.group? levelId)) .empty

/-- The id behind that of a plan in the arcade group of the plan. -/
def successor (shelf : Shelf) (plan : LevelPlan) : Option String :=
  if plan.mode ≠ .arcade then none
  else
    let members := do shelf.groups.get? (← plan.blueprint.setting? Setting.group.key)
    (members.getD [])[(members.getD []).idxOf plan.levelId + 1]?

/-- The blueprints of those of the given ids that can be had, in order. -/
def blueprints (shelf : Shelf) : List String → List (String × Blueprint)
  | [] => []
  | levelId :: rest =>
    match shelf.blueprint levelId with
    | .error _ => shelf.blueprints rest
    | .ok b => (levelId, b) :: shelf.blueprints rest

/-- The ids of the blueprints are those of the given ids that can be had. -/
theorem map_fst_blueprints (shelf : Shelf) (levelIds : List String) :
    (shelf.blueprints levelIds).map Prod.fst =
      levelIds.filter fun levelId => (shelf.blueprint levelId).isOk := by
  induction levelIds with
  | nil => rfl
  | cons levelId rest ih =>
    rw [blueprints, List.filter_cons]
    cases shelf.blueprint levelId with
    | error fault => exact ih
    | ok b => exact congrArg (levelId :: ·) ih

/-- Going through the blueprints of some ids for their groups is going through the ids that can be
had, each compiled anew. -/
theorem foldl_blueprints {β : Type} (shelf : Shelf) (f : β → String → Option String → β)
    (levelIds : List String) (start : β) :
    (shelf.blueprints levelIds).foldl
        (fun acc entry => f acc entry.1 (entry.2.setting? Setting.group.key)) start =
      (levelIds.filter fun levelId => (shelf.blueprint levelId).isOk).foldl
        (fun acc levelId => f acc levelId (shelf.group? levelId)) start := by
  induction levelIds generalizing start with
  | nil => rfl
  | cons levelId rest ih =>
    rw [blueprints, List.filter_cons]
    cases hb : shelf.blueprint levelId with
    | error fault => exact ih start
    | ok b =>
      have hgroup : shelf.group? levelId = b.setting? Setting.group.key := by rw [group?, hb]; rfl
      show (shelf.blueprints rest).foldl _ (f start levelId _) = List.foldl _ start (levelId :: _)
      rw [List.foldl_cons, hgroup]
      exact ih _

/-- The blueprint of an id depends on the text of the id alone. -/
theorem blueprint_congr {shelf other : Shelf} {levelId : String}
    (h : shelf.texts.get? levelId = other.texts.get? levelId) :
    shelf.blueprint levelId = other.blueprint levelId := by
  rw [blueprint, blueprint, h]

/-- A new text changes no other level. -/
theorem blueprint_add_of_ne (shelf : Shelf) {levelId other : String} (h : other ≠ levelId)
    (text : String) : (shelf.add levelId text).blueprint other = shelf.blueprint other :=
  blueprint_congr ((Table.get?_insert ..).trans (if_neg h))

/-- A plan depends on the blueprint of its id alone. -/
theorem load_eq_of_blueprint_eq {shelf other : Shelf} {levelId : String}
    (h : shelf.blueprint levelId = other.blueprint levelId) (seed : Option Int)
    (mode : Option PlayMode) : shelf.load levelId seed mode = other.load levelId seed mode := by
  rw [load, load, h]

/-- The blueprint of a plan is that of its id. -/
theorem blueprint_of_load {shelf : Shelf} {levelId : String} {seed : Option Int}
    {mode : Option PlayMode} {plan : LevelPlan} (h : shelf.load levelId seed mode = .ok plan) :
    shelf.blueprint levelId = .ok plan.blueprint := by
  rw [load] at h
  cases hb : shelf.blueprint levelId with
  | error fault => simp [hb, bind, Except.bind] at h
  | ok b =>
    simp only [hb, bind, Except.bind] at h
    cases seed with
    | some seed =>
      cases h
      rfl
    | none =>
      cases hseed : Catalog.configuredSeed levelId b with
      | error fault => simp [hseed] at h
      | ok seed =>
        simp only [hseed] at h
        cases h
        rfl

/-- A blueprint that can be had is that of the text of the id. -/
theorem blueprint_eq_ok_iff {shelf : Shelf} {levelId : String} {b : Blueprint} :
    shelf.blueprint levelId = .ok b ↔ ∃ text, shelf.texts.get? levelId = some text ∧
      Ldl.compile text (some levelId) = .ok b := by
  unfold blueprint
  cases shelf.texts.get? levelId with
  | none => simp
  | some text =>
    cases hcompile : Ldl.compile text (some levelId) <;> simp [hcompile, Except.mapError]

end Shelf

/-! ## Calls -/

namespace Catalog

/-- What a catalog can be called for. -/
inductive Call where
  | add (levelId text : String)
  | ids
  | blueprint (levelId : String)
  | load (levelId : String) (seed : Option Int) (mode : Option PlayMode)
  | daily (levelId : String) (day : Day)
  | available
  | groups
  | successor (plan : LevelPlan)

/-- What a catalog answers. -/
inductive Answer where
  | done
  | ids (levelIds : List String)
  | blueprint (found : Except Unavailable Blueprint)
  | plan (found : Except Unavailable LevelPlan)
  | groups (groups : Table (List String))
  | successor (levelId : Option String)

/-- The answer of a catalog to a call, and the catalog afterwards. -/
def perform (c : Catalog) : Call → Answer × Catalog
  | .add levelId text => (.done, c.add levelId text)
  | .ids => (.ids c.ids, c)
  | .blueprint levelId => (c.blueprint levelId).map .blueprint id
  | .load levelId seed mode => (c.load levelId seed mode).map .plan id
  | .daily levelId day => (c.daily levelId day).map .plan id
  | .available => c.available.map .ids id
  | .groups => c.groups.map .groups id
  | .successor plan => (c.successor plan).map .successor id

/-- The answers of a catalog to calls, and the catalog afterwards. -/
def performAll (c : Catalog) : List Call → List Answer × Catalog
  | [] => ([], c)
  | call :: rest =>
    let others := (c.perform call).2.performAll rest
    ((c.perform call).1 :: others.1, others.2)

end Catalog

namespace Shelf

/-- The answer of a shelf to a call, and the shelf afterwards. -/
def perform (shelf : Shelf) : Catalog.Call → Catalog.Answer × Shelf
  | .add levelId text => (.done, shelf.add levelId text)
  | .ids => (.ids shelf.ids, shelf)
  | .blueprint levelId => (.blueprint (shelf.blueprint levelId), shelf)
  | .load levelId seed mode => (.plan (shelf.load levelId seed mode), shelf)
  | .daily levelId day => (.plan (shelf.load levelId (some day.seed) (some .daily)), shelf)
  | .available => (.ids shelf.available, shelf)
  | .groups => (.groups shelf.groups, shelf)
  | .successor plan => (.successor (shelf.successor plan), shelf)

/-- The answers of a shelf to calls, and the shelf afterwards. -/
def performAll (shelf : Shelf) : List Catalog.Call → List Catalog.Answer × Shelf
  | [] => ([], shelf)
  | call :: rest =>
    let others := (shelf.perform call).2.performAll rest
    ((shelf.perform call).1 :: others.1, others.2)

/-- Calls that give an id no new text leave it the text that it has. -/
theorem get?_texts_performAll (shelf : Shelf) {levelId : String} {calls : List Catalog.Call}
    (h : ∀ text, .add levelId text ∉ calls) :
    (shelf.performAll calls).2.texts.get? levelId = shelf.texts.get? levelId := by
  induction calls generalizing shelf with
  | nil => rfl
  | cons call rest ih =>
    have hrest := ih (shelf.perform call).2 fun text hmem => h text (List.mem_cons_of_mem call hmem)
    refine hrest.trans ?_
    cases call with
    | add other text =>
      have hne : levelId ≠ other := by
        rintro rfl
        exact h text List.mem_cons_self
      exact (Table.get?_insert ..).trans (if_neg hne)
    | _ => rfl

end Shelf

/-! ## Mirrors -/

namespace Catalog

/-- A catalog has the texts of a shelf, and keeps nothing but what the shelf would compile. -/
structure Mirrors (c : Catalog) (shelf : Shelf) : Prop where
  texts : c.texts = shelf.texts
  compiled : ∀ levelId b, c.compiled.get? levelId = some b → shelf.blueprint levelId = .ok b

/-- What came of a call of a catalog: the answer of the shelf, and a catalog that mirrors it. -/
structure Agrees {α : Type} (result : α × Catalog) (answer : α) (shelf : Shelf) : Prop where
  answer : result.1 = answer
  mirrors : result.2.Mirrors shelf

/-- What is made of a result agrees with what is made of the answer. -/
theorem Agrees.map {α β : Type} {result : α × Catalog} {answer : α} {shelf : Shelf}
    (h : Agrees result answer shelf) (f : α → β) :
    Agrees (Prod.map f id result) (f answer) shelf :=
  ⟨congrArg f h.answer, h.mirrors⟩

section Mirrors

variable {c : Catalog} {shelf : Shelf}

/-- A new catalog mirrors the shelf of its texts. -/
theorem mirrors_ofTexts (texts : Table String) : (ofTexts texts).Mirrors ⟨texts⟩ :=
  ⟨rfl, nofun⟩

/-- What is kept of an id is forgotten when the id gets another text. -/
theorem Mirrors.add (h : c.Mirrors shelf) (levelId text : String) :
    (c.add levelId text).Mirrors (shelf.add levelId text) := by
  refine ⟨congrArg (·.insert levelId text) h.texts, ?_⟩
  intro other b hother
  have hkept : (c.compiled.erase levelId).get? other = some b := hother
  rw [Table.get?_erase] at hkept
  split at hkept
  · cases hkept
  · next hne =>
    rw [Shelf.blueprint_add_of_ne shelf hne]
    exact h.compiled other b hkept

/-- What the shelf would compile may be kept. -/
theorem Mirrors.keep (h : c.Mirrors shelf) {levelId : String} {b : Blueprint}
    (hb : shelf.blueprint levelId = .ok b) :
    Mirrors { c with compiled := c.compiled.insert levelId b } shelf := by
  refine ⟨h.texts, ?_⟩
  intro other b' hother
  have hkept : (c.compiled.insert levelId b).get? other = some b' := hother
  rw [Table.get?_insert] at hkept
  split at hkept
  · next heq =>
    cases hkept
    rw [heq]
    exact hb
  · exact h.compiled other b' hkept

/-- What is not kept is compiled as the shelf compiles it, and kept if it can be. -/
theorem Mirrors.blueprint_of_none (h : c.Mirrors shelf) {levelId : String}
    (hnone : c.compiled.get? levelId = none) :
    c.blueprint levelId = (shelf.blueprint levelId, match shelf.blueprint levelId with
      | .error _ => c
      | .ok b => { c with compiled := c.compiled.insert levelId b }) := by
  rw [Catalog.blueprint, Shelf.blueprint, hnone, h.texts]
  cases shelf.texts.get? levelId with
  | none => rfl
  | some text =>
    cases hcompile : Ldl.compile text (some levelId) <;> simp [hcompile, Except.mapError]

/-- A blueprint is the one that the shelf would compile, whether it was kept or not. -/
theorem Mirrors.blueprint (h : c.Mirrors shelf) (levelId : String) :
    Agrees (c.blueprint levelId) (shelf.blueprint levelId) shelf := by
  cases hkept : c.compiled.get? levelId with
  | some b =>
    rw [Catalog.blueprint, hkept]
    exact ⟨(h.compiled levelId b hkept).symm, h⟩
  | none =>
    rw [h.blueprint_of_none hkept]
    refine ⟨rfl, ?_⟩
    cases hb : shelf.blueprint levelId with
    | error fault => exact h
    | ok b => exact h.keep hb

/-- An id that cannot be had leaves nothing behind. -/
theorem Mirrors.blueprint_of_error (h : c.Mirrors shelf) {levelId : String} {fault : Unavailable}
    (hbroken : shelf.blueprint levelId = .error fault) :
    c.compiled.get? levelId = none ∧ c.blueprint levelId = (.error fault, c) := by
  have hnone : c.compiled.get? levelId = none := by
    refine Option.eq_none_iff_forall_ne_some.mpr fun b hkept => ?_
    rw [h.compiled levelId b hkept] at hbroken
    cases hbroken
  refine ⟨hnone, ?_⟩
  rw [h.blueprint_of_none hnone, hbroken]

/-- A catalog loads the plan that the shelf loads, and mirrors it afterwards. -/
theorem Mirrors.load (h : c.Mirrors shelf) (levelId : String) (seed : Option Int)
    (mode : Option PlayMode) :
    Agrees (c.load levelId seed mode) (shelf.load levelId seed mode) shelf := by
  obtain ⟨hfound, hmirrors⟩ := h.blueprint levelId
  refine ⟨?_, hmirrors⟩
  rw [Shelf.load, ← hfound]
  rfl

/-- A catalog has the blueprints that the shelf has, and mirrors it afterwards. -/
theorem Mirrors.blueprints (h : c.Mirrors shelf) (levelIds : List String) :
    Agrees (c.blueprints levelIds) (shelf.blueprints levelIds) shelf := by
  induction levelIds generalizing c with
  | nil => exact ⟨rfl, h⟩
  | cons levelId rest ih =>
    obtain ⟨hfound, hmirrors⟩ := h.blueprint levelId
    obtain ⟨hrest, hafter⟩ := ih hmirrors
    rw [Catalog.blueprints, Shelf.blueprints, ← hfound]
    rcases hblueprint : c.blueprint levelId with ⟨fault | b, c'⟩
    · rw [hblueprint] at hrest hafter
      exact ⟨hrest, hafter⟩
    · rw [hblueprint] at hrest hafter
      exact ⟨congrArg ((levelId, b) :: ·) hrest, hafter⟩

/-- The same ids can be had from a catalog and from its shelf. -/
theorem Mirrors.available (h : c.Mirrors shelf) : Agrees c.available shelf.available shelf := by
  obtain ⟨hfound, hmirrors⟩ := h.blueprints c.ids
  refine ⟨?_, hmirrors⟩
  rw [Catalog.available, Shelf.available, Shelf.ids, ← h.texts]
  exact (congrArg _ hfound).trans (shelf.map_fst_blueprints c.ids)

/-- A catalog and its shelf have the same arcade groups. -/
theorem Mirrors.groups (h : c.Mirrors shelf) : Agrees c.groups shelf.groups shelf := by
  obtain ⟨hfound, hmirrors⟩ := h.blueprints c.ids
  refine ⟨?_, hmirrors⟩
  rw [Catalog.groups, Shelf.groups, Shelf.available, Shelf.ids, ← h.texts]
  refine Eq.trans ?_ (shelf.foldl_blueprints Shelf.enlist c.ids _)
  rw [← hfound]
  rfl

/-- A catalog and its shelf agree on what follows a level. -/
theorem Mirrors.successor (h : c.Mirrors shelf) (plan : LevelPlan) :
    Agrees (c.successor plan) (shelf.successor plan) shelf := by
  obtain ⟨hgroups, hmirrors⟩ := h.groups
  unfold Catalog.successor Shelf.successor
  split
  · exact ⟨rfl, h⟩
  · refine ⟨?_, hmirrors⟩
    dsimp only
    rw [following_eq_getElem?, hgroups]

/-- A catalog answers a call as the shelf does, and mirrors it still. -/
theorem Mirrors.perform (h : c.Mirrors shelf) (call : Call) :
    Agrees (c.perform call) (shelf.perform call).1 (shelf.perform call).2 := by
  cases call with
  | add levelId text => exact ⟨rfl, h.add levelId text⟩
  | ids => exact ⟨congrArg (fun texts : Table String => Answer.ids (ofTexts texts).ids) h.texts, h⟩
  | blueprint levelId => exact (h.blueprint levelId).map Answer.blueprint
  | load levelId seed mode => exact (h.load levelId seed mode).map Answer.plan
  | daily levelId day => exact (h.load levelId (some day.seed) (some .daily)).map Answer.plan
  | available => exact h.available.map Answer.ids
  | groups => exact h.groups.map Answer.groups
  | successor plan => exact (h.successor plan).map Answer.successor

/-- A catalog answers calls as the shelf does. -/
theorem Mirrors.performAll (h : c.Mirrors shelf) (calls : List Call) :
    Agrees (c.performAll calls) (shelf.performAll calls).1 (shelf.performAll calls).2 := by
  induction calls generalizing c shelf with
  | nil => exact ⟨rfl, h⟩
  | cons call rest ih =>
    obtain ⟨hanswer, hmirrors⟩ := h.perform call
    obtain ⟨hanswers, hafter⟩ := ih hmirrors
    refine ⟨?_, hafter⟩
    rw [Catalog.performAll, Shelf.performAll, hanswer, hanswers]

end Mirrors

end Catalog

end LevelForge
