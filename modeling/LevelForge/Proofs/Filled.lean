import LevelForge.LevelPlan
import LevelForge.Proofs.Boss.Crossing

/-!
# Filled blueprints

The blueprints that there can be: those that the ways to fill a blueprint make of an empty one,
frozen or not. Whatever is read from a level text is among them.

* `Filled.admissible`: the boss rules of a filled blueprint are admissible.
* `filled_of_compile`: the blueprint of a level text is filled.
-/

namespace LevelForge.Blueprint

/-- What can be made of an empty blueprint by filling it in any order, through the blueprint or
through its boss schedule alone, and by freezing it. -/
inductive Filled : Blueprint → Prop
  | empty (name : Option String) : Filled { name }
  | setAlias {b b' : Blueprint} (key value : String) :
      Filled b → b.setAlias key value = .ok b' → Filled b'
  | setSetting {b b' : Blueprint} (key value : String) :
      Filled b → b.setSetting key value = .ok b' → Filled b'
  | addBoss {b b' : Blueprint} (key symbol : String) :
      Filled b → b.addBoss key symbol = .ok b' → Filled b'
  | insertBoss {b : Blueprint} {bosses : Boss.Schedule} (key symbol : String) :
      Filled b → b.bosses.insert key symbol = .ok bosses → Filled { b with bosses }
  | addTemplate {b b' : Blueprint} (template : Template) :
      Filled b → b.addTemplate template = .ok b' → Filled b'
  | freeze {b : Blueprint} : Filled b → Filled b.freeze

/-- A change that passes the check of the frozen flag has the effect it describes. -/
theorem eq_of_checkOpen_bind {b b' : Blueprint} {change : Unit → Except Refusal Blueprint}
    (h : b.checkOpen >>= change = .ok b') : change () = .ok b' := by
  unfold checkOpen at h
  split at h
  · cases h
  · exact h

/-- A rule that a schedule takes goes to its end, and it is the rule of its key. -/
theorem admissible_of_insert {s s' : Boss.Schedule}
    {key symbol : String} (hs : s.Admissible) (h : s.insert key symbol = .ok s') :
    s'.Admissible := by
  unfold Boss.Schedule.insert at h
  split at h
  · cases h
  · split at h
    · cases h
    · next rule hrule =>
      cases h
      intro other hother
      rcases List.mem_append.mp hother with hold | hnew
      · exact hs other hold
      · obtain rfl := List.mem_singleton.mp hnew
        exact Boss.Rule.admissible_of_ofKey hrule

/-- The boss rules of a filled blueprint are admissible. -/
theorem Filled.admissible {b : Blueprint} (h : b.Filled) : b.bosses.Admissible := by
  induction h with
  | empty => intro rule hrule; cases hrule
  | setAlias _ _ _ hset ih =>
    cases eq_of_checkOpen_bind hset
    exact ih
  | setSetting _ _ _ hset ih =>
    cases eq_of_checkOpen_bind hset
    exact ih
  | @addBoss b b' key symbol _ hadd ih =>
    have hinsert := eq_of_checkOpen_bind hadd
    cases hbosses : b.bosses.insert key symbol with
    | error fault => simp [hbosses, Except.mapError, bind, Except.bind] at hinsert
    | ok bosses =>
      simp only [hbosses, Except.mapError, bind, Except.bind, pure, Except.pure,
        Except.ok.injEq] at hinsert
      subst hinsert
      exact admissible_of_insert ih hbosses
  | insertBoss _ _ _ hinsert ih => exact admissible_of_insert ih hinsert
  | addTemplate _ _ hadd ih =>
    cases eq_of_checkOpen_bind hadd
    exact ih
  | freeze _ ih => exact ih

end LevelForge.Blueprint

namespace LevelForge.Ldl

open Blueprint (Filled)

/-- A construct that is accepted leaves a filled blueprint filled. -/
theorem filled_of_applyConstruct {b b' : Blueprint} {construct : Construct} (hb : b.Filled)
    (h : applyConstruct b construct = .ok b') : b'.Filled := by
  have hmapError {ε : Type} {change : Except ε Blueprint} {wrap : ε → Failure}
      (hok : change.mapError wrap = .ok b') : change = .ok b' := by
    cases change with
    | error => cases hok
    | ok => cases hok; rfl
  cases construct with
  | directive directive body =>
    unfold applyConstruct at h
    dsimp only at h
    split at h
    · cases h
    · match directive, h with
      | .alias, h => exact .setAlias _ _ hb (hmapError h)
      | .setting, h => exact .setSetting _ _ hb (hmapError h)
      | .boss, h => exact .addBoss _ _ hb (hmapError h)
  | block line rows =>
    unfold applyConstruct at h
    dsimp only at h
    split at h
    · cases h
    · exact .addTemplate _ hb (hmapError h)

/-- Reading into a filled blueprint leaves it filled, wherever the reading ends. -/
theorem Reader.filled_fill {b : Blueprint} (hb : b.Filled) (r : Reader) :
    (r.fill b).2.1.Filled := by
  fun_induction Reader.fill r b with
  | case1 => exact hb
  | case2 => exact hb
  | case3 => exact hb
  | case4 => exact hb
  | case5 r b construct behind hread b' happly ih => exact ih (filled_of_applyConstruct hb happly)

/-- The blueprint of a level text is filled. -/
theorem filled_of_compile {text : String} {name : Option String} {b : Blueprint}
    (h : compile text name = .ok b) : b.Filled := by
  have hall : ((Parser.ofText text).read { name }).2.1.Filled :=
    Reader.filled_fill (.empty name) _
  unfold compile at h
  split at h
  · cases h
  · next heq =>
    cases h
    rw [heq] at hall
    exact hall.freeze

end LevelForge.Ldl

namespace LevelForge.LevelPlan

/-- A small finite level: two floors, and two boss rules that compete. -/
def meadow : LevelPlan where
  levelId := "meadow"
  blueprint :=
    { name := some "meadow"
      bosses := ⟨[⟨10, "RektSmasher", false⟩, ⟨4, "Slurp", true⟩], true⟩
      templates := #[.floor 5, .floor 7]
      frozen := true }

theorem filled_meadow : meadow.blueprint.Filled := by
  have hempty : Blueprint.Filled { name := some "meadow" } := .empty _
  have hsmasher := hempty.addBoss "AT10" "RektSmasher" rfl
  have hslurp := hsmasher.addBoss "EVERY4" "Slurp" rfl
  have hfloors := (hslurp.addTemplate (.floor 5) rfl).addTemplate (.floor 7) rfl
  exact hfloors.freeze

end LevelForge.LevelPlan
