import LevelForge.Proofs.Session.Sparing

/-!
# Blueprints that were frozen

A blueprint that was frozen stays as it was then, in whatever order it is changed, read into, frozen
again, played and offered boss rules. Every change is refused, and a refused change of any blueprint
leaves no trace.

* `Turn`: a step, or a rule that is offered to the boss schedule of a blueprint.
* `Store.Refuses`: what a frozen blueprint answers.
* `Store.frozen_for_good`: a blueprint keeps its tables once it was frozen, and refuses every
  change; changes that fail change nothing.
-/

namespace LevelForge.Session

open Operation Blueprint

/-! ## Turns -/

/-- What may happen to the blueprints of a session. -/
inductive Turn where
  | step (step : Step)
  -- a rule is offered to the boss schedule of a blueprint, behind the back of the blueprint
  | insertBoss (ref : BlueprintRef) (key symbol : String)

namespace Store

/-- Offer a rule to the boss schedule of a shared blueprint. -/
def insertBoss (s : Store) (ref : BlueprintRef) (key symbol : String) : Answer × Store :=
  match (s.blueprint ref).bosses.insert key symbol with
  | .error fault => ({ reply := .error (.schedule fault) }, s)
  | .ok bosses => ({ reply := .ok .done }, s.setBlueprint ref { s.blueprint ref with bosses })

/-- The answer to a turn, and the store after it. -/
def turn (s : Store) : Turn → Answer × Store
  | .step step => Session.step s step
  | .insertBoss ref key symbol => s.insertBoss ref key symbol

/-- The store after some turns. -/
def afterTurns (s : Store) : List Turn → Store
  | [] => s
  | turn :: rest => (s.turn turn).2.afterTurns rest

/-- Every turn of a session spares sealed blueprints. -/
theorem spares_turn (s : Store) (turn : Turn) : s.Spares (s.turn turn).2 := by
  cases turn with
  | step step => exact s.spares_step step
  | insertBoss ref key symbol =>
    show s.Spares (s.insertBoss ref key symbol).2
    unfold insertBoss
    cases hinsert : (s.blueprint ref).bosses.insert key symbol with
    | error fault => exact .refl s
    | ok bosses =>
      refine spares_setBlueprint fun hsealed => ?_
      rw [hsealed.insert_eq] at hinsert
      cases hinsert

/-- Sealed blueprints stay as they are, whatever happens. -/
theorem spares_afterTurns (s : Store) (turns : List Turn) : s.Spares (s.afterTurns turns) := by
  induction turns generalizing s with
  | nil => exact .refl s
  | cons turn rest ih => exact (s.spares_turn turn).trans (ih (s.turn turn).2)

end Store

/-! ## Changing a blueprint -/

section Changing

variable {s : Store} {name : String} {ref : BlueprintRef}

/-- The blueprint of a name is found. -/
theorem run_theBlueprint {p : Progress} (h : p.store.objects.get? name = some (.blueprint ref)) :
    (theBlueprint (some name)).run p = (.ok ref, p) := by
  rw [theBlueprint, run_bind, run_object p h]
  rfl

/-- A change acts on the blueprint of its name, and on nothing else. -/
theorem run_changeBlueprint (h : s.objects.get? name = some (.blueprint ref))
    (f : Blueprint → Except Refusal Blueprint) :
    (changeBlueprint (some name) f).run { store := s } =
      match f (s.blueprint ref) with
      | .error refusal => (.error (.refused refusal), { store := s })
      | .ok b => (.ok .done, { store := s.setBlueprint ref b }) := by
  rw [changeBlueprint, run_bind, run_theBlueprint h]
  simp only [run_bind, run_look, run_lift]
  cases f (s.blueprint ref) <;> rfl

/-- An action that changes a blueprint puts the changed one back, or fails as the change does. -/
theorem run_perform_of_changes {action : Action} {f : Blueprint → Except Refusal Blueprint}
    (hchanges : action.Changes f) (h : s.objects.get? name = some (.blueprint ref))
    (keep : Option String) :
    (perform (some name) keep action).run { store := s } =
      (changeBlueprint (some name) f).run { store := s } := by
  cases hchanges with
  | setAlias key value => rfl
  | setSetting key value => rfl
  | addBoss key symbol =>
    show (performText (some name) keep (.addBoss key symbol)).run _ = _
    rw [performText, run_bind, run_object _ h]
  | addTemplate hrows =>
    show (performText (some name) keep (.addTemplate _)).run _ = _
    rw [performText, run_bind, run_lift, hrows]
    rfl

/-- A step that changes a blueprint is refused as the blueprint refuses it, or stores what becomes
of the blueprint. -/
theorem step_of_changes {step : Step} {f : Blueprint → Except Refusal Blueprint}
    (hchanges : step.action.Changes f) (hon : step.on = some name)
    (h : s.objects.get? name = some (.blueprint ref)) :
    Session.step s step =
      match f (s.blueprint ref) with
      | .error refusal => ({ reply := .error (.refused refusal) }, s)
      | .ok b => ({ reply := .ok .done }, s.setBlueprint ref b) := by
  obtain ⟨on, keep, action⟩ := step
  dsimp only at hchanges hon
  subst hon
  have hnamed : ((some name).toList ++ action.mentions).all s.objects.contains = true := by
    have hmentions : action.mentions = [] := by cases hchanges <;> rfl
    rw [hmentions]
    simp [Table.contains, h]
  have hlevel (b : Blueprint) : levelOf? (s.setBlueprint ref b) (some name) = none := by
    simp only [levelOf?, Store.setBlueprint, Option.bind_eq_bind, Option.bind_some, h]
  have hlevel' : levelOf? s (some name) = none := by
    simp only [levelOf?, Option.bind_eq_bind, Option.bind_some, h]
  rw [Session.step, if_pos hnamed, run_perform_of_changes hchanges h, run_changeBlueprint h]
  cases f (s.blueprint ref) with
  | error refusal => simp only [hlevel']
  | ok b => simp only [hlevel]

/-- Freezing stores the frozen blueprint. -/
theorem step_freeze (h : s.objects.get? name = some (.blueprint ref)) (keep : Option String) :
    (Session.step s { on := name, name := keep, action := .freeze }).2 =
      s.setBlueprint ref (s.blueprint ref).freeze := by
  have hnamed : ((some name).toList ++ Action.freeze.mentions).all s.objects.contains = true := by
    simp [Action.mentions, Table.contains, h]
  rw [Session.step, if_pos hnamed]
  show ((performText (some name) keep .freeze).run { store := s }).2.store = _
  rw [performText, run_bind, run_object _ h]
  show ((changeBlueprint (some name) (.ok ·.freeze)).run { store := s }).2.store = _
  rw [run_changeBlueprint h]

/-- Reading a text into a blueprint fails as filling the blueprint fails. -/
theorem reply_step_parse {reader : String} {text : String} {failure : Ldl.Failure}
    (hreader : s.objects.get? reader = some (.parser (.ofText text)))
    (h : s.objects.get? name = some (.blueprint ref))
    (hfill : (Ldl.fill (s.blueprint ref) (.ofText text)).2 = some failure)
    (keep : Option String) :
    (Session.step s { on := reader, name := keep, action := .parse name }).1.reply =
      .error (.text failure) := by
  have hnamed :
      ((some reader).toList ++ (Action.parse name).mentions).all s.objects.contains = true := by
    simp [Action.mentions, Table.contains, h, hreader]
  rw [Session.step, if_pos hnamed]
  show ((performText (some reader) keep (.parse (some name))).run { store := s }).1 = _
  have hfailure : (Ldl.Parser.parse (.ofText text) (some (s.blueprint ref))).failure =
      some failure := by
    rw [Ldl.Parser.parse_ofText]
    exact hfill
  have htarget := run_theBlueprint (p := { store := s }) h
  rw [performText, run_bind, theParser, run_bind, run_object _ hreader]
  simp only [run_pure, run_bind, htarget, run_look]
  obtain ⟨s', hrun, -⟩ := exists_run_store (some reader)
    (.parser (Ldl.Parser.parse (.ofText text) (some (s.blueprint ref))).parser) { store := s }
  simp only [hrun, hfailure]
  rfl

end Changing

/-! ## Frozen blueprints -/

/-- A shared blueprint refuses every change because it is frozen, also of its boss schedule and also
by a text that begins with a valid construct, and a change that is refused leaves the session as it
is. -/
structure Store.Refuses (s : Store) (ref : BlueprintRef) (title : Option String) : Prop where
  change : ∀ {step : Step} {f : Blueprint → Except Refusal Blueprint} {name : String},
    step.action.Changes f → step.on = name → s.objects.get? name = some (.blueprint ref) →
    Session.step s step = ({ reply := .error (.refused (.frozen title)) }, s)
  rule : ∀ key symbol,
    s.insertBoss ref key symbol = ({ reply := .error (.schedule .frozen) }, s)
  text : ∀ {reader name text : String} {front behind : List Ldl.Token} {construct : Ldl.Construct}
    {item : Ldl.Item} (keep : Option String),
    s.objects.get? reader = some (.parser (.ofText text)) →
    s.objects.get? name = some (.blueprint ref) →
    (Ldl.TokenStream.ofText text).pending = front ++ behind → Ldl.Forms front construct →
    construct.IsOf item → (∀ rows, item = .block rows → ∃ t, Ldl.IsTemplateOf rows t) →
    (Session.step s { on := reader, name := keep, action := .parse name }).1.reply =
      .error (.text (.refused (.frozen title)))

/-- A change of a blueprint that fails leaves the session as it is, and if the blueprint is not
frozen it is a boss rule that the schedule does not take. -/
structure Store.Atomic (s : Store) (ref : BlueprintRef) : Prop where
  change : ∀ {step : Step} {f : Blueprint → Except Refusal Blueprint} {name : String}
    {fault : Fault}, step.action.Changes f → step.on = name →
    s.objects.get? name = some (.blueprint ref) → (Session.step s step).1.reply = .error fault →
    (Session.step s step).2 = s ∧ ((s.blueprint ref).frozen = false →
      ∃ key symbol refusal, step.action = .addBoss key symbol ∧
        (s.blueprint ref).bosses.insert key symbol = .error refusal ∧
        fault = .refused (.schedule refusal))
  rule : ∀ {key symbol : String} {fault : Fault},
    (s.insertBoss ref key symbol).1.reply = .error fault → (s.insertBoss ref key symbol).2 = s

section Frozen

variable {s : Store} {ref : BlueprintRef}

/-- A sealed blueprint refuses every change. -/
theorem Store.refuses_of_sealed (h : (s.blueprint ref).Sealed) :
    s.Refuses ref (s.blueprint ref).name where
  change hchanges hon hname := by
    rw [step_of_changes hchanges hon hname, hchanges.eq_error_of_frozen h.blueprint]
  rule key symbol := by rw [insertBoss, h.insert_eq]
  text {_ _ text front behind _ _} keep hreader hname hpending hforms hitem hrows := by
    have hstream : Ldl.TokenStream.ofText text =
        ⟨front ++ behind, (Ldl.TokenStream.ofText text).stop⟩ := by
      rw [← hpending]
    refine reply_step_parse hreader hname ?_ keep
    rw [hstream, Ldl.fill_of_forms_of_sealed h hforms hitem hrows]

/-- A change that is refused leaves no trace. -/
theorem Store.atomic (s : Store) (ref : BlueprintRef) : s.Atomic ref where
  change {step f name fault} hchanges hon hname hfails := by
    rw [step_of_changes hchanges hon hname] at hfails ⊢
    cases hf : f (s.blueprint ref) with
    | ok b =>
      rw [hf] at hfails
      cases hfails
    | error refusal =>
      rw [hf] at hfails
      cases hfails
      refine ⟨rfl, fun hopen => ?_⟩
      obtain ⟨key, symbol, reason, haction, hinsert, rfl⟩ := hchanges.addBoss_of_open hopen hf
      exact ⟨key, symbol, reason, haction, hinsert, rfl⟩
  rule {key symbol fault} hfails := by
    unfold insertBoss at hfails ⊢
    cases hinsert : (s.blueprint ref).bosses.insert key symbol with
    | error reason => rfl
    | ok bosses =>
      rw [hinsert] at hfails
      cases hfails

/-- A blueprint that was frozen stays as it was for good. Its aliases, settings, boss rules and
templates are those it had when it was frozen, whatever is tried in whatever order: it is changed,
frozen again, read into, used by levels, and its boss schedule is offered rules directly. Every
change is refused. So are those of a blueprint that was compiled. Of any blueprint, a change that
fails leaves everything as it is; and if the blueprint is not frozen only a boss rule fails. -/
theorem Store.frozen_for_good {name : String} (hname : s.objects.get? name = some (.blueprint ref))
    (hslot : ref.slot < s.blueprints.size) (keep : Option String) (turns : List Turn) :
    let s' := (Session.step s { on := name, name := keep, action := .freeze }).2.afterTurns turns
    ((s'.blueprint ref).SameTables (s.blueprint ref) ∧ s'.Refuses ref (s.blueprint ref).name) ∧
    (∀ text title b, Ldl.compile text title = .ok b → ∀ (t : Store) (r : BlueprintRef),
      t.blueprint r = b →
        (t.afterTurns turns).blueprint r = b ∧ (t.afterTurns turns).Refuses r b.name) ∧
    ∀ (t : Store) (r : BlueprintRef), t.Atomic r := by
  dsimp only
  have hgood {t : Store} {r : BlueprintRef} (hsealed : (t.blueprint r).Sealed) :
      (t.afterTurns turns).blueprint r = t.blueprint r ∧
        (t.afterTurns turns).Refuses r (t.blueprint r).name := by
    have hkept := t.spares_afterTurns turns r hsealed
    have hrefuses := refuses_of_sealed (s := t.afterTurns turns) (hkept ▸ hsealed)
    exact ⟨hkept, hkept ▸ hrefuses⟩
  refine ⟨?_, ?_, fun t r => t.atomic r⟩
  · rw [step_freeze hname keep]
    have hfrozen := blueprint_setBlueprint_self hslot (s.blueprint ref).freeze
    obtain ⟨hkept, hrefuses⟩ := hgood (hfrozen ▸ (s.blueprint ref).sealed_freeze)
    rw [hfrozen] at hkept hrefuses
    refine ⟨?_, hrefuses⟩
    rw [hkept]
    exact (s.blueprint ref).sameTables_freeze
  · rintro text title b hb t r rfl
    exact hgood (Ldl.sealed_of_compile hb)

end Frozen

/-- A session with a blueprint that holds an alias, and the parser of a text with another one. -/
def Store.garden : Store where
  blueprints := #[{ name := "garden", aliases := .ofList [("a", "Slurp")] }]
  objects := .ofList [("garden", .blueprint ⟨0⟩), ("reader", .parser (.ofText "#ALIAS::a->Bob"))]

/-- The garden is frozen, and keeps its tables from there on. -/
theorem Store.frozen_for_good_garden :
    let frozen := (Session.step .garden { on := "garden", name := none, action := .freeze }).2
    let s' := frozen.afterTurns [.insertBoss ⟨0⟩ "AT1" "Dragon"]
    (s'.blueprint ⟨0⟩).aliases = .ofList [("a", "Slurp")] ∧
    (Session.step s' { on := "garden", name := none, action := .setAlias "a" "Bob" }).1.reply =
      .error (.refused (.frozen "garden")) ∧
    (Session.step s' { on := "reader", name := none, action := .parse "garden" }).1.reply =
      .error (.text (.refused (.frozen "garden"))) := by
  have hname : Store.garden.objects.get? "garden" = some (.blueprint ⟨0⟩) := rfl
  have hreader : Store.garden.objects.get? "reader" =
      some (.parser (.ofText "#ALIAS::a->Bob")) := rfl
  obtain ⟨⟨htables, hrefuses⟩, -, -⟩ := frozen_for_good hname (by decide) none
    [.insertBoss ⟨0⟩ "AT1" "Dragon"]
  have hpending : (Ldl.TokenStream.ofText "#ALIAS::a->Bob").pending =
      [⟨.alias, "#ALIAS::a->Bob", ⟨1, 1⟩⟩, ⟨.delimiter, "::", ⟨1, 7⟩⟩,
        ⟨.mapping, "a->Bob", ⟨1, 9⟩⟩] ++ [] := by
    decide +kernel
  have hwritten : Ldl.Mapping.IsWritten ⟨"a", "Bob"⟩ "a->Bob" :=
    Ldl.Mapping.ofBody?_eq_some_iff.mp rfl
  let step : Step := { on := "garden", name := none, action := .setAlias "a" "Bob" }
  have hchanges : step.action.Changes (·.setAlias "a" "Bob") := .setAlias "a" "Bob"
  refine ⟨htables.aliases, ?_, ?_⟩
  · exact congrArg (·.1.reply) (hrefuses.change hchanges rfl hname)
  · exact hrefuses.text none hreader hname hpending (.directive .alias rfl rfl rfl)
      (.directive .alias hwritten) nofun

end LevelForge.Session
