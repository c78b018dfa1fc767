import Mathlib.Data.List.Induction
import LevelForge.Proofs.Catalog.Availability

/-!
# The way through an arcade group

An arcade group holds the levels whose texts compile and name it, in ascending order. Who starts at
the least of them and goes on to what follows comes by every level of the group once, and then to
the end. Nothing follows a level that is not played in arcade mode, and nothing follows one that the
group named in its plan does not hold.

* `Catalog.Belongs`: the group of a level, as its text names it.
* `Shelf.get?_groups`: a group holds the levels that name it, of those that can be had.
* `Shelf.successor_eq_head?`: what follows a level stands behind it in its group.
* `Catalog.Mirrors.tour`: the way from any level of a group to its end.
* `Catalog.tour_visits_group`: the groups of a catalog and the ways through them, after any calls.
-/

namespace LevelForge

/-! ## The members of a group -/

namespace Catalog

/-- A level belongs to the group that its text names, if the text compiles. -/
def Belongs (texts : Table String) (levelId group : String) : Prop :=
  ∃ text b, texts.get? levelId = some text ∧ Ldl.compile text (some levelId) = .ok b ∧
    b.setting? Setting.group.key = some group

/-- A level belongs to one group at most. -/
theorem Belongs.unique {texts : Table String} {levelId group group' : String}
    (h : Belongs texts levelId group) (h' : Belongs texts levelId group') : group = group' := by
  obtain ⟨text, b, htext, hcompile, hgroup⟩ := h
  obtain ⟨text', b', htext', hcompile', hgroup'⟩ := h'
  rw [htext, Option.some_inj] at htext'
  subst htext'
  rw [hcompile, Except.ok.injEq] at hcompile'
  subst hcompile'
  rwa [hgroup, Option.some_inj] at hgroup'

end Catalog

namespace Shelf

open Catalog (Belongs)

variable {shelf : Shelf} {levelId group : String}

theorem group?_eq_of_blueprint {b : Blueprint} (h : shelf.blueprint levelId = .ok b) :
    shelf.group? levelId = b.setting? Setting.group.key := by
  rw [group?, h]
  rfl

theorem group?_eq_some_iff :
    shelf.group? levelId = some group ↔ Belongs shelf.texts levelId group := by
  constructor
  · intro h
    cases hb : shelf.blueprint levelId with
    | error fault =>
      rw [group?, hb] at h
      cases h
    | ok b =>
      obtain ⟨text, htext, hcompile⟩ := blueprint_eq_ok_iff.mp hb
      exact ⟨text, b, htext, hcompile, (group?_eq_of_blueprint hb).symm.trans h⟩
  · rintro ⟨text, b, htext, hcompile, hgroup⟩
    have hb := blueprint_eq_ok_iff.mpr ⟨text, htext, hcompile⟩
    exact (group?_eq_of_blueprint hb).trans hgroup

/-- The ids are the only ascending list of the keys of the texts. -/
theorem ids_eq_of_perm {levelIds : List String} (hascending : levelIds.Pairwise (· < ·))
    (hperm : levelIds.Perm shelf.texts.keys) : shelf.ids = levelIds := by
  have hids : shelf.ids.Perm levelIds := (List.mergeSort_perm _ _).trans hperm.symm
  refine hids.eq_of_pairwise ?_ shelf.pairwise_ids hascending
  intro a b _ _ hab hba
  exact absurd hba (String.lt_asymm hab)

/-- The levels of a group, of those that can be had. -/
def members (shelf : Shelf) (group : String) : List String :=
  shelf.available.filter fun levelId => shelf.group? levelId = some group

/-- The members of a group stand in ascending order, and each of them once. -/
theorem pairwise_members (shelf : Shelf) (group : String) :
    (shelf.members group).Pairwise (· < ·) :=
  (shelf.pairwise_ids.filter _).filter _

theorem nodup_members (shelf : Shelf) (group : String) : (shelf.members group).Nodup :=
  (shelf.pairwise_members group).imp String.ne_of_lt

/-- The members of a group are the levels that belong to it. -/
theorem mem_members_iff : levelId ∈ shelf.members group ↔ Belongs shelf.texts levelId group := by
  rw [members, List.mem_filter, decide_eq_true_iff, group?_eq_some_iff, mem_available_iff]
  constructor
  · exact And.right
  · rintro ⟨text, b, htext, hcompile, hgroup⟩
    exact ⟨⟨text, b, htext, hcompile⟩, text, b, htext, hcompile, hgroup⟩

/-- A level that is put at the end of its group is found there, and no other group changes. -/
theorem get?_enlist (groups : Table (List String)) (levelId group : String)
    (own : Option String) : (enlist groups levelId own).get? group =
      if own = some group then some ((groups.get? group).getD [] ++ [levelId])
      else groups.get? group := by
  cases own with
  | none => rfl
  | some named =>
    rw [enlist, Table.get?_insert]
    by_cases h : group = named
    · subst h
      simp
    · simp [h, Ne.symm h]

/-- Putting levels into their groups one after the other is collecting those that name a group. -/
theorem get?_foldl_enlist (shelf : Shelf) (levelIds : List String) (group : String) :
    let listed := levelIds.filter fun levelId => shelf.group? levelId = some group
    (levelIds.foldl (fun groups levelId => enlist groups levelId (shelf.group? levelId))
      .empty).get? group = if listed = [] then none else some listed := by
  -- a level goes to the end of its group, so the induction takes the last level off
  induction levelIds using List.reverseRecOn with
  | nil => rfl
  | append_singleton levelIds levelId ih =>
    dsimp only at ih ⊢
    rw [List.foldl_append, List.foldl_cons, List.foldl_nil, get?_enlist, ih, List.filter_append]
    by_cases hgroup : shelf.group? levelId = some group
    · rw [if_pos hgroup, List.filter_cons_of_pos (by simpa using hgroup), List.filter_nil,
        if_neg (List.concat_ne_nil _ _)]
      congr 2
      split
      · next hnil => rw [hnil, Option.getD_none]
      · rw [Option.getD_some]
    · rw [if_neg hgroup, List.filter_cons_of_neg (by simpa using hgroup), List.filter_nil,
        List.append_nil]

/-- A group holds its members, and there is none without members. -/
theorem get?_groups (shelf : Shelf) (group : String) : shelf.groups.get? group =
    if shelf.members group = [] then none else some (shelf.members group) :=
  get?_foldl_enlist shelf shelf.available group

theorem get?_groups_eq_some_iff {levelIds : List String} :
    shelf.groups.get? group = some levelIds ↔ shelf.members group = levelIds ∧ levelIds ≠ [] := by
  rw [get?_groups]
  by_cases h : shelf.members group = []
  · rw [if_pos h, h]
    simp
  · rw [if_neg h, Option.some_inj]
    exact ⟨fun hmembers => ⟨hmembers, hmembers ▸ h⟩, And.left⟩

theorem getD_get?_groups (shelf : Shelf) (group : String) :
    (shelf.groups.get? group).getD [] = shelf.members group := by
  rw [get?_groups]
  split
  · next h => rw [h, Option.getD_none]
  · rw [Option.getD_some]

/-! ## What follows a level -/

theorem successor_of_mode_ne {plan : LevelPlan} (h : plan.mode ≠ .arcade) :
    shelf.successor plan = none := by
  rw [successor, if_pos h]

/-- What follows a level in arcade mode stands behind it among the members of the group that its
plan names. -/
theorem successor_eq_getElem? {plan : LevelPlan} (hmode : plan.mode = .arcade)
    (hgroup : plan.blueprint.setting? Setting.group.key = some group) :
    shelf.successor plan =
      (shelf.members group)[(shelf.members group).idxOf plan.levelId + 1]? := by
  rw [successor, if_neg (not_not_intro hmode), hgroup]
  dsimp only [Option.bind_some, bind]
  rw [getD_get?_groups]

/-- Nothing follows a level that its plan puts into no group that holds it. -/
theorem successor_of_notMem {plan : LevelPlan}
    (h : ∀ group, plan.blueprint.setting? Setting.group.key = some group →
      plan.levelId ∉ shelf.members group) : shelf.successor plan = none := by
  by_cases hmode : plan.mode = .arcade
  · cases hgroup : plan.blueprint.setting? Setting.group.key with
    | none =>
      rw [successor, if_neg (not_not_intro hmode), hgroup]
      rfl
    | some group =>
      rw [successor_eq_getElem? hmode hgroup, List.idxOf_eq_length (h group hgroup),
        List.getElem?_eq_none_iff]
      omega
  · exact successor_of_mode_ne hmode

/-- A member of a group is followed by the next one, and the last by nothing. -/
theorem successor_eq_head? {plan : LevelPlan} {before after : List String}
    (hmode : plan.mode = .arcade)
    (hgroup : plan.blueprint.setting? Setting.group.key = some group)
    (hmembers : shelf.members group = before ++ plan.levelId :: after) :
    shelf.successor plan = after.head? := by
  have hnodup := shelf.nodup_members group
  rw [hmembers, List.nodup_append] at hnodup
  obtain ⟨-, -, hapart⟩ := hnodup
  have hbefore : plan.levelId ∉ before := fun hmem =>
    hapart plan.levelId hmem plan.levelId List.mem_cons_self rfl
  rw [successor_eq_getElem? hmode hgroup, hmembers, List.idxOf_append_of_notMem hbefore,
    List.idxOf_cons_self, List.getElem?_append_right (by omega), Nat.add_zero,
    Nat.add_sub_cancel_left, List.getElem?_cons_succ, List.head?_eq_getElem?]

/-- A level of a group can be loaded with any seed, and its plan names the group. -/
theorem exists_load_of_belongs (h : Belongs shelf.texts levelId group) (seed : Int)
    (mode : PlayMode) : ∃ b, shelf.load levelId (some seed) (some mode) =
      .ok ⟨levelId, b, seed, mode⟩ ∧ b.setting? Setting.group.key = some group := by
  obtain ⟨text, b, htext, hcompile, hgroup⟩ := h
  have hb := blueprint_eq_ok_iff.mpr ⟨text, htext, hcompile⟩
  exact ⟨b, by rw [load, hb]; rfl, hgroup⟩

end Shelf

/-! ## The way through a group -/

namespace Catalog

/-- The levels that are visited from an id on, each of them loaded in arcade mode with the next of
the given seeds. There is no such list if a level cannot be loaded or if the seeds run out before
there is a level that nothing follows. -/
def tour (c : Catalog) (levelId : String) : List Int → Option (List String)
  | [] => none
  | seed :: seeds =>
    match c.load levelId (some seed) (some .arcade) with
    | (.error _, _) => none
    | (.ok plan, c') =>
      match c'.successor plan with
      | (none, _) => some [levelId]
      | (some next, c'') => (c''.tour next seeds).map (levelId :: ·)

variable {c : Catalog} {shelf : Shelf}

/-- One step on the way through a group leads from a member to the next one. -/
theorem Mirrors.tour_cons (h : c.Mirrors shelf) {levelId group : String}
    {before after : List String} (hmembers : shelf.members group = before ++ levelId :: after)
    (seed : Int) (seeds : List Int) : ∃ c' : Catalog, c'.Mirrors shelf ∧
      c.tour levelId (seed :: seeds) = match after.head? with
        | none => some [levelId]
        | some next => (c'.tour next seeds).map (levelId :: ·) := by
  have hmem : levelId ∈ shelf.members group := by simp [hmembers]
  obtain ⟨b, hload, hgroup⟩ :=
    Shelf.exists_load_of_belongs (Shelf.mem_members_iff.mp hmem) seed .arcade
  -- loading may add to what is kept, and so may the look for what follows
  obtain ⟨hloaded, hkept⟩ := h.load levelId (some seed) (some .arcade)
  rcases hfound : c.load levelId (some seed) (some .arcade) with ⟨found, c'⟩
  rw [hfound] at hloaded hkept
  obtain rfl : found = .ok ⟨levelId, b, seed, .arcade⟩ := hloaded.trans hload
  have hhead : shelf.successor ⟨levelId, b, seed, .arcade⟩ = after.head? :=
    Shelf.successor_eq_head? rfl hgroup hmembers
  obtain ⟨hnext, hafter⟩ := hkept.successor ⟨levelId, b, seed, .arcade⟩
  rcases hfollows : c'.successor ⟨levelId, b, seed, .arcade⟩ with ⟨next, c''⟩
  rw [hfollows] at hnext hafter
  refine ⟨c'', hafter, ?_⟩
  rw [tour, hfound, ← hhead, ← hnext]
  dsimp only
  rw [hfollows]
  cases next <;> rfl

/-- The way from a member of a group visits it and those behind it, if the seeds suffice. -/
theorem Mirrors.tour (h : c.Mirrors shelf) {levelId group : String} {before after : List String}
    (hmembers : shelf.members group = before ++ levelId :: after) (seeds : List Int) :
    c.tour levelId seeds =
      if after.length < seeds.length then some (levelId :: after) else none := by
  induction seeds generalizing c levelId before after with
  | nil => rfl
  | cons seed seeds ih =>
    obtain ⟨c', hmirrors, htour⟩ := h.tour_cons hmembers seed seeds
    rw [htour]
    cases after with
    | nil => simp
    | cons next after =>
      rw [List.head?_cons]
      dsimp only
      have hbehind : shelf.members group = (before ++ [levelId]) ++ next :: after := by
        simpa using hmembers
      rw [ih hmirrors hbehind]
      by_cases henough : after.length < seeds.length <;> simp [henough]

/-- The arcade groups of a catalog and the ways through them, after any calls. A group lists the
levels that belong to it and no others, and a level belongs to one group at most. A group is in
ascending order and holds every level once; who starts at its least level visits all of it in this
order and comes to the end with the last level, whatever the seeds. Nothing follows a plan of
another mode, nor a plan that names no group or one that does not list its level. -/
theorem tour_visits_group (texts : Table String) (calls : List Call) :
    let c := ((ofTexts texts).performAll calls).2
    (∀ levelId group, (∃ members, c.groups.1.get? group = some members ∧ levelId ∈ members) ↔
      Belongs c.texts levelId group) ∧
    (∀ levelId group group', Belongs c.texts levelId group → Belongs c.texts levelId group' →
      group = group') ∧
    (∀ group members, c.groups.1.get? group = some members → members.Pairwise (· < ·) ∧
      ∃ least rest, members = least :: rest ∧ ∀ seeds, c.tour least seeds =
        if members.length ≤ seeds.length then some members else none) ∧
    (∀ plan, plan.mode ≠ .arcade → (c.successor plan).1 = none) ∧
    ∀ plan, (∀ group members, plan.blueprint.setting? Setting.group.key = some group →
      c.groups.1.get? group = some members → plan.levelId ∉ members) →
      (c.successor plan).1 = none := by
  intro c
  set shelf := (Shelf.performAll ⟨texts⟩ calls).2
  have hmirrors : c.Mirrors shelf := ((mirrors_ofTexts texts).performAll calls).mirrors
  have hgroups : c.groups.1 = shelf.groups := hmirrors.groups.answer
  have hsuccessor (plan : LevelPlan) : (c.successor plan).1 = shelf.successor plan :=
    (hmirrors.successor plan).answer
  simp only [hgroups, hsuccessor, hmirrors.texts, Shelf.get?_groups_eq_some_iff]
  refine ⟨?_, ?_, ?_, fun _ => Shelf.successor_of_mode_ne, ?_⟩
  · intro levelId group
    rw [← Shelf.mem_members_iff]
    constructor
    · rintro ⟨_, ⟨rfl, -⟩, hmem⟩
      exact hmem
    · exact fun hmem => ⟨_, ⟨rfl, List.ne_nil_of_mem hmem⟩, hmem⟩
  · exact fun _ _ _ => Belongs.unique
  · rintro group _ ⟨rfl, hne⟩
    refine ⟨shelf.pairwise_members group, ?_⟩
    obtain ⟨least, rest, hmembers⟩ := List.exists_cons_of_ne_nil hne
    refine ⟨least, rest, hmembers, fun seeds => ?_⟩
    have htour := hmirrors.tour (hmembers.trans (List.nil_append _).symm) seeds
    simpa only [hmembers, List.length_cons, Nat.succ_le_iff] using htour
  · intro plan hplan
    refine Shelf.successor_of_notMem fun group hgroup hmem => ?_
    exact hplan group _ hgroup ⟨rfl, List.ne_nil_of_mem hmem⟩ hmem

/-- Three levels of one group, one of none, and one whose text does not compile. -/
def relay : Table String :=
  .ofList [("tin", "#SETTING::GROUP->A"), ("oak", "#SETTING::GROUP->A"), ("fir", ""),
    ("ash", "\x7b"), ("elm", "#SETTING::GROUP->A")]

/-- The calls after which one of the three levels has gone to a group of its own. -/
def regrouping : List Call := [.groups, .add "oak" "#SETTING::GROUP->B"]

/-- A plan that was made before its level went to another group leads nowhere. -/
theorem tour_visits_group_regrouping :
    let c := ((ofTexts relay).performAll regrouping).2
    c.tour "elm" [3, -1] = some ["elm", "tin"] ∧
    c.tour "oak" [7] = some ["oak"] ∧
    Belongs c.texts "oak" "B" ∧
    ∃ plan, ((ofTexts relay).load "oak" (some 7) (some .arcade)).1 = .ok plan ∧
      (c.successor plan).1 = none ∧ (c.successor { plan with mode := .daily }).1 = none := by
  obtain ⟨hlists, -, hways, hmode, hnowhere⟩ := tour_visits_group relay regrouping
  intro c
  set shelf := (Shelf.performAll ⟨relay⟩ regrouping).2
  have hgroups : c.groups.1 = shelf.groups :=
    ((mirrors_ofTexts relay).performAll regrouping).mirrors.groups.answer
  have hids : shelf.ids = ["ash", "elm", "fir", "oak", "tin"] :=
    Shelf.ids_eq_of_perm (by decide) (by decide)
  have hgroupA : c.groups.1.get? "A" = some ["elm", "tin"] := by
    rw [hgroups, Shelf.groups, Shelf.available, hids]
    decide +kernel
  have hgroupB : c.groups.1.get? "B" = some ["oak"] := by
    rw [hgroups, Shelf.groups, Shelf.available, hids]
    decide +kernel
  obtain ⟨-, least, rest, hleast, htourA⟩ := hways "A" _ hgroupA
  cases hleast
  obtain ⟨-, least, rest, hleast, htourB⟩ := hways "B" _ hgroupB
  cases hleast
  have hold : (⟨relay⟩ : Shelf).group? "oak" = some "A" := by decide +kernel
  obtain ⟨b, hload, hnamed⟩ :=
    Shelf.exists_load_of_belongs (Shelf.group?_eq_some_iff.mp hold) 7 .arcade
  refine ⟨htourA [3, -1], htourB [7], ?_, _,
    ((mirrors_ofTexts relay).load "oak" (some 7) (some .arcade)).answer.trans hload, ?_, ?_⟩
  · exact (hlists "oak" "B").mp ⟨_, hgroupB, List.mem_singleton_self _⟩
  · refine hnowhere _ fun group members hgroup hmembers => ?_
    rw [hnamed, Option.some_inj] at hgroup
    subst hgroup
    rw [hgroupA, Option.some_inj] at hmembers
    subst hmembers
    show "oak" ∉ ["elm", "tin"]
    decide
  · have hdaily : PlayMode.daily ≠ .arcade := by decide
    exact hmode _ hdaily

end Catalog

end LevelForge
