import LevelForge.Proofs.Catalog.Shelf
import LevelForge.Proofs.Session.Sealing

/-!
# Plans that catalogs hand out

A catalog answers as if it compiled every text anew, and a plan that it has handed out keeps the
blueprint of the text that the level had then, whatever becomes of the catalog.

* `Action.Loads`: the two ways to be handed out a plan.
* `exists_shared_of_loads`: a plan that is handed out is named with a share in its blueprint.
* `Catalog.performAll_eq_shelf`: the blueprints that a catalog keeps do not show.
-/

namespace LevelForge

namespace Session

open Operation

/-- The actions that ask a catalog for a plan, and what the catalog answers. -/
inductive Action.Loads :
    Action → (Catalog → Except Catalog.Unavailable LevelPlan × Catalog) → Prop
  | load (levelId : String) (seed : Option Int) (mode : Option PlayMode) :
      Loads (.load levelId seed mode) (·.load levelId seed mode)
  | daily (levelId : String) {year month day : Int} {date : Day} :
      Day.ofParts year month day = .ok date →
      Loads (.daily levelId year month day) (·.daily levelId date)

section Loading

variable {s : Store} {on name : String} {c : Catalog} {action : Action}
  {f : Catalog → Except Catalog.Unavailable LevelPlan × Catalog}

theorem run_withCatalog {α : Type} (h : s.objects.get? on = some (.catalog c))
    (g : Catalog → α × Catalog) :
    (withCatalog (some on) g).run { store := s } =
      (.ok (g c).1, { store := s.name on (.catalog (g c).2) }) := by
  rw [withCatalog, run_bind, theCatalog, run_bind, run_object _ h]
  rfl

/-- A catalog that is asked for a plan keeps what it compiled, and the plan is named if there is
one. -/
theorem run_perform_of_loads (hloads : action.Loads f) (h : s.objects.get? on = some (.catalog c)) :
    (perform (some on) (some name) action).run { store := s } =
      match (f c).1 with
      | .error fault => (.error (.unavailable fault), { store := s.name on (.catalog (f c).2) })
      | .ok plan => (storePlan (some name) plan).run { store := s.name on (.catalog (f c).2) } := by
  cases hloads with
  | load levelId seed mode =>
    show (performCatalog (some on) (some name) (.load levelId seed mode)).run _ = _
    rw [performCatalog, run_bind, run_withCatalog h]
    dsimp only
    rw [run_bind, run_lift]
    cases (c.load levelId seed mode).1 <;> rfl
  | daily levelId hdate =>
    show (performCatalog (some on) (some name) (.daily levelId _ _ _)).run _ = _
    rw [performCatalog, run_bind, run_lift, hdate]
    show (withCatalog (some on) _ >>= _).run _ = _
    rw [run_bind, run_withCatalog h]
    dsimp only
    rw [run_bind, run_lift]
    cases (c.daily levelId _).1 <;> rfl

/-- Naming a plan shares its blueprint. -/
theorem plan_name_addBlueprint (s : Store) (name : String) (plan : LevelPlan) :
    let shared : SharedPlan :=
      ⟨plan.levelId, (s.addBlueprint plan.blueprint).1, plan.seed, plan.mode⟩
    ((s.addBlueprint plan.blueprint).2.name name (.plan shared)).plan shared = plan := by
  have hblueprint := s.blueprint_addBlueprint_self plan.blueprint
  exact congrArg (LevelPlan.mk plan.levelId · plan.seed plan.mode) hblueprint

/-- A plan that is handed out is named, with a share in its blueprint. -/
theorem exists_shared_of_loads (hloads : action.Loads f) (h : s.objects.get? on = some (.catalog c))
    {plan : LevelPlan}
    (hreply : (Session.step s { on := on, name := name, action }).1.reply = .ok (.plan plan)) :
    (f c).1 = .ok plan ∧ ∃ shared,
      (Session.step s { on := on, name := name, action }).2.objects.get? name =
        some (.plan shared) ∧
      (Session.step s { on := on, name := name, action }).2.plan shared = plan := by
  have hnamed : ((some on).toList ++ action.mentions).all s.objects.contains = true := by
    have hmentions : action.mentions = [] := by cases hloads <;> rfl
    rw [hmentions]
    simp [Table.contains, h]
  rw [Session.step, if_pos hnamed, run_perform_of_loads hloads h] at hreply ⊢
  cases hplan : (f c).1 with
  | error fault =>
    rw [hplan] at hreply
    cases hreply
  | ok plan' =>
    rw [hplan] at hreply
    cases hreply
    refine ⟨rfl, _, ?_, plan_name_addBlueprint (s.name on (.catalog (f c).2)) name plan⟩
    exact (Store.get?_name _ name name _).trans (if_pos rfl)

/-- A plan over a sealed blueprint stays as it is, whatever happens. -/
theorem plan_afterTurns {s : Store} {shared : SharedPlan}
    (h : (s.blueprint shared.blueprint).Sealed) (turns : List Turn) :
    (s.afterTurns turns).plan shared = s.plan shared := by
  rw [Store.plan, Store.plan, s.spares_afterTurns turns _ h]

end Loading

end Session

namespace Catalog

open Session (Store Action Turn)

/-- The blueprint of a plan that is handed out is sealed. -/
theorem Mirrors.sealed_of_loads {c : Catalog} {shelf : Shelf} (h : c.Mirrors shelf)
    {action : Action} {f : Catalog → Except Unavailable LevelPlan × Catalog}
    (hloads : action.Loads f) {plan : LevelPlan} (hplan : (f c).1 = .ok plan) :
    plan.blueprint.Sealed := by
  have hload : ∃ levelId seed mode, shelf.load levelId seed mode = .ok plan := by
    cases hloads with
    | load levelId seed mode =>
      exact ⟨levelId, seed, mode, (h.load levelId seed mode).answer.symm.trans hplan⟩
    | @daily levelId _ _ _ date hdate =>
      exact ⟨levelId, some date.seed, some .daily,
        (h.load levelId (some date.seed) (some .daily)).answer.symm.trans hplan⟩
  obtain ⟨levelId, seed, mode, hload⟩ := hload
  obtain ⟨text, -, hcompile⟩ := Shelf.blueprint_eq_ok_iff.mp (Shelf.blueprint_of_load hload)
  exact Ldl.sealed_of_compile hcompile

/-- The blueprints that a catalog keeps do not show. It answers any calls as a catalog answers them
that keeps none and compiles the text of an id whenever it is asked for. So it goes by the new text
of an id from the call on that gives it, an id whose text does not compile leaves nothing behind,
and a plan that was handed out keeps the blueprint that it had, whatever becomes of the catalog. -/
theorem performAll_eq_shelf (texts : Table String) (calls : List Call) :
    let c := ((ofTexts texts).performAll calls).2
    ((ofTexts texts).performAll calls).1 = (Shelf.performAll ⟨texts⟩ calls).1 ∧
    (∀ levelId text later, (∀ text', .add levelId text' ∉ later) →
      let c' := ((c.add levelId text).performAll later).2
      let alone : Shelf := ⟨.ofList [(levelId, text)]⟩
      (c'.blueprint levelId).1 = alone.blueprint levelId ∧
      ∀ seed mode, (c'.load levelId seed mode).1 = alone.load levelId seed mode) ∧
    (∀ levelId text failure, c.texts.get? levelId = some text →
      Ldl.compile text (some levelId) = .error failure →
      c.compiled.get? levelId = none ∧
      c.blueprint levelId = (.error ⟨levelId, .broken failure⟩, c) ∧
      ∀ seed mode, c.load levelId seed mode = (.error ⟨levelId, .broken failure⟩, c)) ∧
    ∀ (s : Store) (on name : String) (action : Action) f plan,
      s.objects.get? on = some (.catalog c) → action.Loads f →
      (Session.step s { on := on, name := name, action }).1.reply = .ok (.plan plan) →
      let s' := (Session.step s { on := on, name := name, action }).2
      ∃ shared, s'.objects.get? name = some (.plan shared) ∧
        ∀ turns, (s'.afterTurns turns).plan shared = plan := by
  obtain ⟨hanswers, hmirrors⟩ := (mirrors_ofTexts texts).performAll calls
  set c := ((ofTexts texts).performAll calls).2
  set shelf := (Shelf.performAll ⟨texts⟩ calls).2
  refine ⟨hanswers, ?_, ?_, ?_⟩
  · intro levelId text later hlater
    have hlast := ((hmirrors.add levelId text).performAll later).mirrors
    have htext : ((shelf.add levelId text).performAll later).2.texts.get? levelId =
        Table.get? (.ofList [(levelId, text)]) levelId := by
      rw [Shelf.get?_texts_performAll _ hlater]
      simp [Shelf.add, Table.ofList]
    have hsame := Shelf.blueprint_congr htext
    refine ⟨(hlast.blueprint levelId).answer.trans hsame, fun seed mode => ?_⟩
    exact (hlast.load levelId seed mode).answer.trans
      (Shelf.load_eq_of_blueprint_eq hsame seed mode)
  · intro levelId text failure htext hcompile
    have hbroken : shelf.blueprint levelId = .error ⟨levelId, .broken failure⟩ := by
      rw [Shelf.blueprint, ← hmirrors.texts, htext]
      simp [hcompile, Except.mapError]
    obtain ⟨hnone, hblueprint⟩ := hmirrors.blueprint_of_error hbroken
    refine ⟨hnone, hblueprint, fun seed mode => ?_⟩
    rw [load, hblueprint]
    rfl
  · intro s on name action f plan hon hloads hreply
    obtain ⟨hplan, shared, hnamed, hshared⟩ := Session.exists_shared_of_loads hloads hon hreply
    have hsealed := hmirrors.sealed_of_loads hloads hplan
    refine ⟨shared, hnamed, fun turns => ?_⟩
    rw [← hshared] at hsealed ⊢
    exact Session.plan_afterTurns hsealed turns

/-- A text that does not compile, and one that does. -/
def brookAndMeadow : Table String := .ofList [("brook", "\x7b"), ("meadow", "\x7b\x7d")]

theorem performAll_eq_shelf_brook :
    let c := ((ofTexts brookAndMeadow).performAll [.blueprint "brook", .groups]).2
    c.compiled.get? "brook" = none ∧
    ((((c.add "brook" "\x7b\x7d").performAll [.available]).2).blueprint "brook").1.isOk = true := by
  obtain ⟨-, hadd, hbroken, -⟩ :=
    performAll_eq_shelf brookAndMeadow [.blueprint "brook", .groups]
  have htexts := ((mirrors_ofTexts brookAndMeadow).performAll [.blueprint "brook", .groups]).mirrors
  have hfails : (Ldl.compile "\x7b" "brook").isOk = false := by decide +kernel
  have hcompiles : (Shelf.blueprint ⟨.ofList [("brook", "\x7b\x7d")]⟩ "brook").isOk = true := by
    decide +kernel
  constructor
  · cases hcompile : Ldl.compile "\x7b" "brook" with
    | ok b =>
      rw [hcompile] at hfails
      cases hfails
    | error failure =>
      refine (hbroken "brook" "\x7b" failure ?_ hcompile).1
      rw [htexts.texts]
      rfl
  · rw [(hadd "brook" "\x7b\x7d" [.available] (by simp)).1]
    exact hcompiles

end Catalog

end LevelForge
