import LevelForge.Proofs.Ldl.Sealing
import LevelForge.Proofs.Session.Playing

/-!
# Sessions spare sealed blueprints

Blueprints are shared by plans, levels and segments, and a text may be read into any of them. No
step of a session changes one that is sealed, whether the step succeeds or not.

* `Store.Spares`: every sealed blueprint of one store is the same in another.
* `Operation.Spares`: an operation spares sealed blueprints; it does if its parts do.
* `spares_step`: every step does.
-/

namespace LevelForge.Session

open Operation Blueprint

/-! ## Stores -/

/-- Every blueprint that is sealed in a store is the same in another store. -/
def Store.Spares (s s' : Store) : Prop :=
  ∀ ref, (s.blueprint ref).Sealed → s'.blueprint ref = s.blueprint ref

namespace Store

variable {s s' s'' : Store}

/-- A store spares its own sealed blueprints. -/
theorem Spares.refl (s : Store) : s.Spares s := fun _ _ => rfl

/-- What is sealed and spared stays sealed, so that it is spared again. -/
theorem Spares.trans (h : s.Spares s') (h' : s'.Spares s'') : s.Spares s'' := by
  intro ref hsealed
  have heq := h ref hsealed
  exact (h' ref (heq ▸ hsealed)).trans heq

/-- A store with the same blueprints. -/
theorem spares_of_blueprints_eq (h : s'.blueprints = s.blueprints) : s.Spares s' := by
  intro ref _
  rw [blueprint, blueprint, h]

/-- A reference to no blueprint is one to the empty blueprint, which is not sealed. -/
theorem slot_lt_of_sealed {ref : BlueprintRef} (h : (s.blueprint ref).Sealed) :
    ref.slot < s.blueprints.size := by
  by_contra hslot
  have hempty : s.blueprint ref = {} := by
    rw [blueprint, Array.getD_eq_getD_getElem?, Array.getElem?_eq_none (Nat.le_of_not_lt hslot),
      Option.getD_none]
  have hfrozen := h.blueprint
  rw [hempty] at hfrozen
  cases hfrozen

/-- A new blueprint leaves those that there are as they are. -/
theorem blueprint_addBlueprint {ref : BlueprintRef} (h : ref.slot < s.blueprints.size)
    (b : Blueprint) : (s.addBlueprint b).2.blueprint ref = s.blueprint ref := by
  simp [addBlueprint, blueprint, Array.getElem?_push_lt, h]

/-- A new blueprint is found at its reference. -/
theorem blueprint_addBlueprint_self (s : Store) (b : Blueprint) :
    (s.addBlueprint b).2.blueprint (s.addBlueprint b).1 = b := by
  simp [addBlueprint, blueprint]

/-- A blueprint that is changed is found at its reference. -/
theorem blueprint_setBlueprint_self {ref : BlueprintRef} (h : ref.slot < s.blueprints.size)
    (b : Blueprint) : (s.setBlueprint ref b).blueprint ref = b := by
  simp [setBlueprint, blueprint, Array.getD_eq_getD_getElem?, h]

/-- A change of a blueprint leaves the others as they are. -/
theorem blueprint_setBlueprint_of_ne {ref other : BlueprintRef} (h : other ≠ ref)
    (b : Blueprint) : (s.setBlueprint ref b).blueprint other = s.blueprint other := by
  have hslot : ref.slot ≠ other.slot := fun heq => h (congrArg BlueprintRef.mk heq.symm)
  simp [setBlueprint, blueprint, Array.getD_eq_getD_getElem?,
    Array.getElem?_setIfInBounds_ne hslot]

/-- A new blueprint takes the place of no sealed one. -/
theorem spares_addBlueprint (s : Store) (b : Blueprint) : s.Spares (s.addBlueprint b).2 :=
  fun _ hsealed => blueprint_addBlueprint (slot_lt_of_sealed hsealed) b

/-- Changing a blueprint spares the sealed ones, if it does not change this one when it is
sealed. -/
theorem spares_setBlueprint {ref : BlueprintRef} {b : Blueprint}
    (h : (s.blueprint ref).Sealed → b = s.blueprint ref) : s.Spares (s.setBlueprint ref b) := by
  intro other hsealed
  by_cases heq : other = ref
  · subst heq
    rw [blueprint_setBlueprint_self (slot_lt_of_sealed hsealed), h hsealed]
  · exact blueprint_setBlueprint_of_ne heq b

/-- Levels go on without a change of the blueprints. -/
theorem blueprints_setPlay (s : Store) (name : String) (shared : SharedPlay) (play : Play) :
    (s.setPlay name shared play).blueprints = s.blueprints := by
  unfold setPlay
  split <;> rfl

end Store

/-! ## Operations -/

/-- An operation changes no sealed blueprint, whether it succeeds or not. -/
def Operation.Spares {α : Type} (x : Operation α) : Prop :=
  ∀ p : Progress, p.store.Spares (x.run p).2.store

section Operations

variable {α β ε : Type}

/-- Giving a value changes nothing. -/
@[simp]
theorem spares_pure (value : α) : (pure value : Operation α).Spares := fun _ => .refl _

/-- Failing changes nothing. -/
@[simp]
theorem spares_throw (fault : Fault) : (throw fault : Operation α).Spares := fun _ => .refl _

/-- Operations that spare sealed blueprints spare them one after the other, also where the first
fails. -/
@[simp]
theorem spares_bind {x : Operation α} {f : α → Operation β} (hx : x.Spares)
    (hf : ∀ value, (f value).Spares) : (x >>= f).Spares := by
  intro p
  have hfirst := hx p
  rw [run_bind]
  rcases hrun : x.run p with ⟨fault | value, p'⟩
  · rw [hrun] at hfirst
    exact hfirst
  · rw [hrun] at hfirst
    exact hfirst.trans (hf value p')

/-- What is made of the value of an operation changes nothing. -/
@[simp]
theorem spares_map {x : Operation α} (hx : x.Spares) (f : α → β) : (f <$> x).Spares := by
  rw [map_eq_pure_bind]
  exact spares_bind hx fun _ => spares_pure _

/-- Looking at the store changes nothing. -/
@[simp]
theorem spares_look (f : Store → α) : (look f).Spares := fun _ => .refl _

/-- Giving a result or failing with it changes nothing. -/
@[simp]
theorem spares_lift (wrap : ε → Fault) (result : Except ε α) : (lift wrap result).Spares := by
  intro p
  rw [run_lift]
  exact .refl _

/-- Reporting changes nothing in the store. -/
@[simp]
theorem spares_warn (warnings : List Warning) : (warn warnings).Spares := fun _ => .refl _

/-- A change of the store spares sealed blueprints if it spares those of every store. -/
theorem spares_change {f : Store → Store} (h : ∀ s : Store, s.Spares (f s)) :
    (change f).Spares :=
  fun p => h p.store

/-- Spawners change without a change of the blueprints. -/
@[simp]
theorem spares_setSpawner (ref : SpawnerRef) (f : Store → Spawner) :
    (change fun s => s.setSpawner ref (f s)).Spares :=
  spares_change fun _ => Store.spares_of_blueprints_eq rfl

/-- An operation that lets a level go on spares sealed blueprints. -/
@[simp]
theorem spares_setPlay (name : String) (shared : SharedPlay) (play : Play) :
    (change (·.setPlay name shared play)).Spares :=
  spares_change fun s => Store.spares_of_blueprints_eq (s.blueprints_setPlay name shared play)

/-- A new spawner leaves the blueprints as they are. -/
@[simp]
theorem spares_addSpawner (spawner : Spawner) : (allocate (·.addSpawner spawner)).Spares :=
  fun _ => Store.spares_of_blueprints_eq rfl

/-- Allocating a blueprint spares the sealed ones. -/
@[simp]
theorem spares_addBlueprint (b : Blueprint) : (allocate (·.addBlueprint b)).Spares :=
  fun p => p.store.spares_addBlueprint b

/-- Giving an object a name, or none, leaves the blueprints as they are. -/
theorem exists_run_store (name : Option String) (object : Object) (p : Progress) :
    ∃ s : Store, (store name object).run p = (.ok (), { p with store := s }) ∧
      s.blueprints = p.store.blueprints := by
  cases name with
  | none => exact ⟨p.store, rfl, rfl⟩
  | some name => exact ⟨p.store.name name object, rfl, rfl⟩

/-- Naming an object leaves the blueprints as they are. -/
@[simp]
theorem spares_store (name : Option String) (object : Object) : (store name object).Spares := by
  intro p
  obtain ⟨s, hrun, hblueprints⟩ := exists_run_store name object p
  rw [hrun]
  exact Store.spares_of_blueprints_eq hblueprints

/-- Looking for an object by its name changes nothing, whether it is there or not. -/
@[simp]
theorem spares_object? (name : Option String) : (object? name).Spares := by
  cases name with
  | none => exact spares_pure _
  | some name =>
    intro p
    have hget : (get : Operation Progress).run p = (.ok p, p) := rfl
    simp only [object?, run_bind, hget]
    split <;> exact .refl _

@[simp]
theorem spares_object (name : Option String) : (object name).Spares := by
  refine spares_bind (spares_object? name) fun found => ?_
  cases found <;> simp

end Operations

/-! ## Objects of a name -/

section Objects

variable {α : Type} (on : Option String)

/-- Looking for an object of one kind by its name changes nothing. -/
@[simp]
theorem spares_theBlueprint : (theBlueprint on).Spares := by
  refine spares_bind (spares_object on) fun object => ?_
  cases object <;> simp

@[simp]
theorem spares_theSpawner : (theSpawner on).Spares := by
  refine spares_bind (spares_object on) fun object => ?_
  cases object <;> simp

@[simp]
theorem spares_thePlan : (thePlan on).Spares := by
  refine spares_bind (spares_object on) fun object => ?_
  cases object <;> simp

@[simp]
theorem spares_thePlay : (thePlay on).Spares := by
  refine spares_bind (spares_object on) fun object => ?_
  cases object <;> simp

@[simp]
theorem spares_theCatalog : (theCatalog on).Spares := by
  refine spares_bind (spares_object on) fun object => ?_
  cases object <;> simp

@[simp]
theorem spares_theParser : (theParser on).Spares := by
  refine spares_bind (spares_object on) fun object => ?_
  cases object <;> simp

@[simp]
theorem spares_theSegment : (theSegment on).Spares := by
  refine spares_bind (spares_object on) fun object => ?_
  cases object <;> simp

/-- A change of the spawner of a name spares sealed blueprints. -/
@[simp]
theorem spares_changeSpawner (f : Spawner → Spawner) : (changeSpawner on f).Spares := by
  simp [changeSpawner]

/-- What a spawner does spares sealed blueprints, whatever it answers. -/
@[simp]
theorem spares_withSpawner (f : Spawner → Spawner.Outcome α) : (withSpawner on f).Spares := by
  exact spares_bind (spares_theSpawner on) fun ref => spares_bind (spares_look _) fun spawner =>
    spares_bind (spares_setSpawner ref _) fun _ => spares_bind (spares_warn _) fun _ =>
      spares_pure _

/-- What a catalog does spares sealed blueprints: those that it keeps are its own. -/
@[simp]
theorem spares_withCatalog (f : Catalog → α × Catalog) : (withCatalog on f).Spares := by
  simp [withCatalog]

/-- What a level does spares sealed blueprints. -/
@[simp]
theorem spares_withPlay (f : Play → Except Level.Fault (α × Play)) :
    (withPlay on f).Spares := by
  refine spares_bind (spares_thePlay on) fun shared => spares_bind (spares_look _) fun play =>
    spares_bind (spares_lift _ _) fun result => ?_
  cases on with
  | none => exact spares_pure _
  | some name => exact spares_bind (spares_setPlay name shared result.2) fun _ => spares_pure _

/-- A plan is stored beside the blueprint that it refers to. -/
@[simp]
theorem spares_storePlan (plan : LevelPlan) : (storePlan on plan).Spares := by
  simp [storePlan]

/-- A segment is stored without a change of the blueprints. -/
@[simp]
theorem spares_storeSegment (segment : Segment) (source : Option BlueprintRef) :
    (storeSegment on segment source).Spares := by
  simp [storeSegment]

/-- A change of a blueprint spares the sealed ones if it is nothing but a refusal, or changes
nothing, where the blueprint is sealed. -/
theorem spares_changeBlueprint {f : Blueprint → Except Refusal Blueprint}
    (hf : ∀ b : Blueprint, b.Sealed → ∀ b', f b = .ok b' → b' = b) :
    (changeBlueprint on f).Spares := by
  refine spares_bind (spares_theBlueprint on) fun ref p => ?_
  simp only [run_bind, run_look, run_lift]
  cases hchange : f (p.store.blueprint ref) with
  | error refusal => exact .refl _
  | ok b => exact Store.spares_setBlueprint fun hsealed => hf _ hsealed b hchange

/-- Comparing two objects changes nothing. -/
theorem spares_areAlike (other : Option String) : (areAlike on other).Spares := by
  refine spares_bind (spares_object? on) fun a => spares_bind (spares_object? other) fun b =>
    spares_bind (spares_look id) fun s => ?_
  split
  case h_7 =>
    split
    · exact spares_pure _
    · split
      · exact spares_throw _
      · exact spares_pure _
  all_goals exact spares_pure _

/-- Sorting levels changes nothing. -/
theorem spares_sortedIds (names : List String) : (sortedIds names).Spares := by
  refine spares_bind ?_ fun levels => spares_pure _
  induction names with
  | nil => exact spares_pure _
  | cons name names ih =>
    rw [List.mapM_cons]
    refine spares_bind (spares_bind (spares_object (some name)) fun object => ?_) fun levelId =>
      spares_bind ih fun levelIds => spares_pure _
    cases object <;> simp

/-- Reading a text into a blueprint spares the sealed ones. -/
theorem spares_parse (name target : Option String) :
    (performText on name (.parse target)).Spares := by
  refine spares_bind (spares_theParser on) fun parser => ?_
  cases target with
  | none => exact spares_lift _ _
  | some target =>
    refine spares_bind (spares_theBlueprint (some target)) fun ref p => ?_
    set reading := parser.parse (some (p.store.blueprint ref)) with hreading
    obtain ⟨s, hrun, hblueprints⟩ := exists_run_store on (.parser reading.parser) p
    have hsame : s.blueprint ref = p.store.blueprint ref := by
      rw [Store.blueprint, Store.blueprint, hblueprints]
    -- what is stored is the blueprint that was looked up, after the reading
    have hset : p.store.Spares
        (s.setBlueprint ref (parser.read (p.store.blueprint ref)).2.1) := by
      refine (Store.spares_of_blueprints_eq hblueprints).trans ?_
      refine Store.spares_setBlueprint fun hsealed => ?_
      rw [hsame] at hsealed ⊢
      exact Ldl.Reader.fill_of_sealed hsealed _
    simp only [run_bind, run_look, ← hreading, hrun]
    cases hfailure : reading.failure with
    | none => exact hset
    | some failure => exact hset

/-- Starting a level may change its spawner, and no blueprint. -/
theorem spares_startLevel (plan : SharedPlan) (ref : Option SpawnerRef) :
    (do
      let s ← look id
      let play := Play.start (s.plan plan) (ref.map s.spawner)
      if let (some ref, some spawner) := (ref, play.spawner) then change (·.setSpawner ref spawner)
      store on (.play ⟨plan, ref, play.level.state⟩)
      return .level play.level : Operation Reply).Spares := by
  refine spares_bind (spares_look id) fun s => ?_
  dsimp only
  split
  · exact spares_bind (spares_setSpawner _ _) fun _ => spares_bind (spares_store on _) fun _ =>
      spares_pure _
  · exact spares_bind (spares_store on _) fun _ => spares_pure _

end Objects

/-! ## Changes -/

/-- The actions that change a blueprint, and what they do to it. -/
inductive Action.Changes : Action → (Blueprint → Except Refusal Blueprint) → Prop
  | setAlias (key value : String) : Changes (.setAlias key value) (·.setAlias key value)
  | setSetting (key value : String) : Changes (.setSetting key value) (·.setSetting key value)
  | addBoss (key symbol : String) : Changes (.addBoss key symbol) (·.addBoss key symbol)
  | addTemplate {rows : List (List Cell)} {t : Template} :
      Template.ofRows? rows = .ok t → Changes (.addTemplate rows) (·.addTemplate t)

/-- A frozen blueprint refuses every change. -/
theorem Action.Changes.eq_error_of_frozen {action : Action}
    {f : Blueprint → Except Refusal Blueprint} (h : action.Changes f) {b : Blueprint}
    (hfrozen : b.frozen = true) : f b = .error (.frozen b.name) := by
  have hcheck := Ldl.checkOpen_of_frozen hfrozen
  cases h with
  | setAlias key value => simp only [Blueprint.setAlias, hcheck]; rfl
  | setSetting key value => simp only [Blueprint.setSetting, hcheck]; rfl
  | addBoss key symbol => simp only [Blueprint.addBoss, hcheck]; rfl
  | addTemplate hrows => simp only [Blueprint.addTemplate, hcheck]; rfl

/-- A blueprint that is not frozen refuses nothing but boss rules that its schedule does not
take. -/
theorem Action.Changes.addBoss_of_open {action : Action}
    {f : Blueprint → Except Refusal Blueprint} (h : action.Changes f) {b : Blueprint}
    {refusal : Refusal} (hopen : b.frozen = false) (hf : f b = .error refusal) :
    ∃ key symbol reason, action = .addBoss key symbol ∧
      b.bosses.insert key symbol = .error reason ∧ refusal = .schedule reason := by
  have hcheck : b.checkOpen = .ok () := by rw [Blueprint.checkOpen, hopen]; rfl
  cases h with
  | setAlias key value => simp only [Blueprint.setAlias, hcheck] at hf; cases hf
  | setSetting key value => simp only [Blueprint.setSetting, hcheck] at hf; cases hf
  | addTemplate hrows => simp only [Blueprint.addTemplate, hcheck] at hf; cases hf
  | addBoss key symbol =>
    simp only [Blueprint.addBoss, hcheck] at hf
    cases hinsert : b.bosses.insert key symbol with
    | ok bosses => rw [hinsert] at hf; cases hf
    | error reason =>
      rw [hinsert] at hf
      cases hf
      exact ⟨key, symbol, reason, rfl, hinsert, rfl⟩

/-- An action that changes blueprints spares the sealed ones, since it is refused there. -/
theorem Action.Changes.spares {action : Action} {f : Blueprint → Except Refusal Blueprint}
    (h : action.Changes f) (on : Option String) : (changeBlueprint on f).Spares := by
  refine spares_changeBlueprint on fun b hsealed b' hb' => ?_
  rw [h.eq_error_of_frozen hsealed.blueprint] at hb'
  cases hb'

/-! ## Actions -/

section Actions

variable (on name : Option String) (action : Action)

/-- Actions on blueprints, parsers and boss schedules spare sealed blueprints. -/
theorem spares_performText : (performText on name action).Spares := by
  cases action <;> dsimp only [performText]
  case newParser text => exact spares_bind (spares_store name _) fun _ => spares_pure _
  case parse target => exact spares_parse on name target
  case newBlueprint title =>
    exact spares_bind (spares_addBlueprint _) fun ref => spares_bind (spares_store name _) fun _ =>
      spares_pure _
  case compile text title =>
    exact spares_bind (spares_lift _ _) fun b => spares_bind (spares_addBlueprint b) fun ref =>
      spares_bind (spares_store name _) fun _ => spares_pure _
  case setAlias key value => exact (Action.Changes.setAlias key value).spares on
  case setSetting key value => exact (Action.Changes.setSetting key value).spares on
  case addBoss key symbol =>
    refine spares_bind (spares_object on) fun object => ?_
    cases object with
    | schedule schedule aliases =>
      exact spares_bind (spares_lift _ _) fun _ => spares_bind (spares_store on _) fun _ =>
        spares_pure _
    | _ => exact (Action.Changes.addBoss key symbol).spares on
  case addTemplate rows =>
    cases hrows : Template.ofRows? rows with
    | error fault => exact spares_throw _
    | ok template => exact (Action.Changes.addTemplate hrows).spares on
  case freeze =>
    refine spares_bind (spares_object on) fun object => ?_
    cases object with
    | schedule schedule aliases => exact spares_bind (spares_store on _) fun _ => spares_pure _
    | _ =>
      refine spares_changeBlueprint on fun b hsealed b' hb' => ?_
      cases hb'
      exact hsealed.freeze_eq
  case newSchedule aliases => exact spares_bind (spares_store name _) fun _ => spares_pure _
  all_goals exact spares_throw .misuse

/-- Questions about blueprints and boss schedules spare sealed blueprints. -/
theorem spares_queryText : (queryText on name action).Spares := by
  cases action <;> dsimp only [queryText]
  case dump =>
    exact spares_bind (spares_theBlueprint on) fun ref => spares_bind (spares_look _) fun b =>
      spares_pure _
  case template index =>
    refine spares_bind (spares_theBlueprint on) fun ref => spares_bind (spares_look _) fun b => ?_
    cases b.template? index <;> simp
  case segment index =>
    refine spares_bind (spares_theBlueprint on) fun ref => spares_bind (spares_look _) fun b => ?_
    cases b.segment? index <;> simp
  case setting key otherwise =>
    exact spares_bind (spares_theBlueprint on) fun ref => spares_bind (spares_look _) fun b =>
      spares_pure _
  case isSet key =>
    exact spares_bind (spares_theBlueprint on) fun ref => spares_bind (spares_look _) fun b =>
      spares_pure _
  case resolveAlias symbol =>
    exact spares_bind (spares_theBlueprint on) fun ref => spares_bind (spares_look _) fun b =>
      spares_pure _
  case describe =>
    refine spares_bind (spares_look id) fun s => spares_bind (spares_object? on) fun object => ?_
    split
    case h_5 => exact spares_throw .misuse
    all_goals exact spares_pure _
  case equal other => exact spares_bind (spares_areAlike on other) fun _ => spares_pure _
  case nextBoss last units =>
    refine spares_bind (spares_object on) fun object => ?_
    cases object with
    | schedule schedule aliases =>
      exact spares_bind (spares_pure _) fun _ => spares_bind (spares_lift _ _) fun rule =>
        spares_pure _
    | _ =>
      exact spares_bind (spares_theBlueprint on) fun ref => spares_bind (spares_look _) fun b =>
        spares_bind (spares_pure _) fun _ => spares_bind (spares_lift _ _) fun rule =>
        spares_pure _
  case schedule =>
    refine spares_bind (spares_object on) fun object => ?_
    cases object with
    | schedule schedule aliases => exact spares_pure _
    | _ =>
      exact spares_bind (spares_theBlueprint on) fun ref => spares_bind (spares_look _) fun b =>
        spares_pure _
  all_goals exact spares_throw .misuse

/-- Actions on segments and spawners spare sealed blueprints. -/
theorem spares_performSpawning : (performSpawning on name action).Spares := by
  cases action <;> dsimp only [performSpawning]
  case newSegment rows aliases kind index =>
    exact spares_bind (spares_lift _ _) fun template => spares_storeSegment name _ none
  case builtIn which aliases => exact spares_storeSegment name _ none
  case setGap width =>
    refine spares_bind (spares_theSegment on) fun found => ?_
    obtain ⟨segment, source⟩ := found
    exact spares_bind (spares_lift _ _) fun _ => spares_bind (spares_store on _) fun _ =>
      spares_pure _
  case build spawner x coins seed =>
    refine spares_bind (spares_theSegment on) fun found => ?_
    obtain ⟨segment, source⟩ := found
    exact spares_bind (spares_look _) fun segment =>
      spares_bind (spares_theSpawner spawner) fun ref => spares_bind (spares_look _) fun before =>
      spares_bind (spares_withSpawner spawner _) fun width =>
      spares_bind (spares_theSpawner spawner) fun ref' => spares_bind (spares_look _) fun after =>
      spares_pure _
  case newSpawner registry groups worldHeight seed record listen =>
    exact spares_bind (spares_addSpawner _) fun ref => spares_bind (spares_store name _) fun _ =>
      spares_pure _
  case register symbol maker => exact spares_changeSpawner on _
  case registerGroup group members => exact spares_changeSpawner on _
  case reseed seed => exact spares_changeSpawner on _
  case clear => exact spares_changeSpawner on _
  case resolve symbols => exact spares_bind (spares_withSpawner on _) fun _ => spares_pure _
  case place placement => exact spares_bind (spares_withSpawner on _) fun _ => spares_pure _
  case spawnerState =>
    exact spares_bind (spares_theSpawner on) fun ref => spares_bind (spares_look _) fun _ =>
      spares_pure _
  case received =>
    exact spares_bind (spares_theSpawner on) fun ref => spares_bind (spares_look _) fun _ =>
      spares_pure _
  all_goals exact spares_throw .misuse

/-- Actions on plans and levels spare sealed blueprints. -/
theorem spares_performLevel : (performLevel on name action).Spares := by
  cases action <;> dsimp only [performLevel]
  case newPlan source levelId seed mode =>
    cases source with
    | text text => exact spares_bind (spares_lift _ _) fun plan => spares_storePlan name plan
    | blueprint blueprint =>
      exact spares_bind (spares_theBlueprint blueprint) fun ref =>
        spares_bind (spares_store name _) fun _ => spares_bind (spares_look _) fun _ =>
        spares_pure _
  case newLevel plan spawner =>
    cases plan with
    | none => exact spares_throw _
    | some plan =>
      refine spares_bind (spares_thePlan (some plan)) fun shared => ?_
      cases spawner with
      | none => exact spares_bind (spares_pure _) fun ref => spares_startLevel name shared ref
      | some spawner =>
        exact spares_bind (spares_map (spares_theSpawner _) _) fun ref =>
          spares_startLevel name shared ref
  case next times => exact spares_bind (spares_withPlay on _) fun _ => spares_pure _
  case iterate limit =>
    exact spares_bind (spares_lift _ _) fun limit => spares_bind (spares_withPlay on _) fun _ =>
      spares_pure _
  case generate target =>
    exact spares_bind (spares_withPlay on _) fun built => spares_bind (spares_warn _) fun _ =>
      spares_pure _
  case gap => exact spares_bind (spares_withPlay on _) fun _ => spares_pure _
  case rewind => exact spares_withPlay on _
  case compare other =>
    refine spares_bind (spares_object? on) fun a => spares_bind (spares_object? other) fun b => ?_
    split <;> simp
  case sort names => exact spares_bind (spares_sortedIds names) fun _ => spares_pure _
  case nextLevel catalog =>
    exact spares_bind (spares_thePlay on) fun play => spares_bind (spares_look _) fun plan =>
      spares_bind (spares_withCatalog catalog _) fun _ => spares_pure _
  case newState seed key => exact spares_bind (spares_store name _) fun _ => spares_pure _
  case draw stream times =>
    refine spares_bind (spares_object on) fun object => ?_
    cases object with
    | state state => exact spares_bind (spares_store on _) fun _ => spares_pure _
    | _ => exact spares_throw .misuse
  all_goals exact spares_throw .misuse

/-- Actions on catalogs spare sealed blueprints. -/
theorem spares_performCatalog : (performCatalog on name action).Spares := by
  cases action <;> dsimp only [performCatalog]
  case newCatalog texts => exact spares_bind (spares_store name _) fun _ => spares_pure _
  case openDirectory entries =>
    exact spares_bind (spares_lift _ _) fun catalog => spares_bind (spares_store name _) fun _ =>
      spares_pure _
  case addText levelId text => exact spares_withCatalog on _
  case ids => exact spares_withCatalog on _
  case available => exact spares_bind (spares_withCatalog on _) fun _ => spares_pure _
  case groups => exact spares_bind (spares_withCatalog on _) fun _ => spares_pure _
  case catalogBlueprint levelId =>
    exact spares_bind (spares_withCatalog on _) fun _ => spares_bind (spares_lift _ _) fun _ =>
      spares_pure _
  case load levelId seed mode =>
    exact spares_bind (spares_withCatalog on _) fun _ => spares_bind (spares_lift _ _) fun plan =>
      spares_storePlan name plan
  case daily levelId year month day =>
    exact spares_bind (spares_lift _ _) fun day => spares_bind (spares_withCatalog on _) fun _ =>
      spares_bind (spares_lift _ _) fun plan => spares_storePlan name plan
  case successor plan =>
    exact spares_bind (spares_thePlan plan) fun plan => spares_bind (spares_look _) fun plan =>
      spares_bind (spares_withCatalog on _) fun _ => spares_pure _
  all_goals exact spares_throw .misuse

/-- Every action spares sealed blueprints. -/
theorem spares_perform : (perform on name action).Spares := by
  cases action <;>
    simp only [perform, spares_performText, spares_queryText, spares_performSpawning,
      spares_performLevel, spares_performCatalog]

end Actions

/-- No step changes a sealed blueprint, whether it succeeds or not. -/
theorem Store.spares_step (s : Store) (step : Step) : s.Spares (Session.step s step).2 := by
  rw [Session.step]
  split
  · exact spares_perform step.on step.name step.action { store := s }
  · exact .refl s

end LevelForge.Session
