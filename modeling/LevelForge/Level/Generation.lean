import LevelForge.Level

/-!
# Generation

Building a level up to a column: segments are handed out and built behind the frontier until the
frontier reaches the column or the level ends. A whole round of segments without width would never
move the frontier; then generation stops with a warning.

* `Level.buildNext`: hand out one segment and build it.
* `Level.generate`: build until the frontier reaches a column.
-/

namespace LevelForge.Level

/-- One segment handed out and built. -/
structure Built where
  segment : Segment
  -- how far it moved the frontier
  width : Nat
  level : Level
  spawner : Spawner
  warnings : List Warning

/-- Hand out the next segment and build it behind the frontier. Where coins are switched on, each
segment draws its own key for them. -/
def buildNext (l : Level) (s : Spawner) : Except Fault (Option Built) := do
  let (segment?, l₁) ← l.next
  match segment? with
  | none => return none
  | some segment =>
    let coins := l.has .autoCoinSpawn
    let (state, key) :=
      if coins then
        let (state, key) := l₁.state.draw .coins
        (state, some key)
      else (l₁.state, none)
    let outcome := s.build segment (l.state.frontier + 1) coins key
    return some
      { segment
        width := outcome.value
        level := { l₁ with state := { state with frontier := l.state.frontier + outcome.value } }
        spawner := outcome.spawner
        warnings := outcome.warnings }

/-- What a generation has done so far. -/
structure Generation where
  level : Level
  spawner : Spawner
  segments : Array Segment := #[]
  warnings : Array Warning := #[]

/-- The generation after one more segment. -/
def Generation.add (g : Generation) (built : Built) : Generation where
  level := built.level
  spawner := built.spawner
  segments := g.segments.push built.segment
  warnings := g.warnings ++ built.warnings.toArray

/-- The frontier lies behind the segment built last. -/
theorem frontier_of_buildNext {l : Level} {s : Spawner} {built : Built}
    (h : l.buildNext s = .ok (some built)) :
    built.level.state.frontier = l.state.frontier + built.width := by
  unfold buildNext at h
  cases hnext : l.next with
  | error fault => simp [hnext, bind, Except.bind] at h
  | ok pair =>
    obtain ⟨_ | segment, l₁⟩ := pair
    · simp [hnext, bind, Except.bind, pure, Except.pure] at h
    · simp only [hnext, bind, Except.bind, pure, Except.pure, Except.ok.injEq,
        Option.some.injEq] at h
      rw [← h]

/-- Build until the frontier reaches `target` or the level ends. `stalled` segments without width
were built in a row, and one more than `limit` of them ends the generation. -/
def generateFrom (target : Int) (limit stalled : Nat) (g : Generation) : Except Fault Generation :=
  if _hopen : (g.level.state.frontier : Int) < target ∧ g.level.hasNext = true then
    match _h : g.level.buildNext g.spawner with
    | .error fault => .error fault
    | .ok none => .ok g
    | .ok (some built) =>
      let g' := g.add built
      if _hwidth : built.width = 0 then
        if limit ≤ stalled then
          .ok { g' with
            warnings := g'.warnings.push (.zeroWidthLevel g.level.plan.levelId) }
        else generateFrom target limit (stalled + 1) g'
      else generateFrom target limit 0 g'
  else .ok g
termination_by ((target - g.level.state.frontier).toNat, limit - stalled)
decreasing_by
  · have hfrontier := frontier_of_buildNext ‹_›
    have hsame : (g.add built).level.state.frontier = g.level.state.frontier := by
      show built.level.state.frontier = _
      omega
    rw [hsame]
    exact Prod.Lex.right _ (by omega)
  · have hfrontier := frontier_of_buildNext ‹_›
    have hmore : (g.add built).level.state.frontier = g.level.state.frontier + built.width := by
      show built.level.state.frontier = _
      omega
    rw [hmore]
    exact Prod.Lex.left _ _ (by omega)

/-- Build until the frontier reaches `target` or the level ends. As many segments without width
as there are templates, and one more, may be built in a row. -/
def generate (l : Level) (spawner : Spawner) (target : Int) : Except Fault Generation :=
  generateFrom target (l.count + 1) 0 { level := l, spawner }

end LevelForge.Level
