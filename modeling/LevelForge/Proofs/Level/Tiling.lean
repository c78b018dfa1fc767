import LevelForge.Proofs.Filled
import LevelForge.Proofs.Level.Calls
import LevelForge.Proofs.Level.Itinerary
import LevelForge.Proofs.Spawner.Records

/-!
# The tiling of the world

Built segments stand side by side: each begins in the column behind the frontier and moves the
frontier by its width, so what it places shares no column with any other segment, and no cell of
the world is taken twice.

* `Tiling.columns_ne`: different blocks share no column.
* `Tiling.nodup_cells`: no two elements share a cell.
* `Play.tiles_of_performAll`: so it is for every play from its start on, in whatever order segments
  are handed out and built.
-/

namespace LevelForge

/-- The cell that an element takes. -/
def Element.cell (e : Element) : Int × Int := e.origin.cell

/-- Blocks of elements that stand side by side: each takes the cells of its segment, whose left
column is the one behind all segments before it. -/
inductive Tiling (height : Int) : List Segment → List (List Element) → Prop
  | nil : Tiling height [] []
  | concat {segments : List Segment} {blocks : List (List Element)} {segment : Segment}
      {block : List Element} {coins : Option Random.Key} :
      Tiling height segments blocks →
      block.map Element.cell =
        (segment.placements (Segment.span segments + 1) height coins).map Placement.cell →
      Tiling height (segments ++ [segment]) (blocks ++ [block])

/-- The elements of a block lie where the placements of its segment do. -/
theorem block_bounds {block : List Element} {segment : Segment} {x height : Int}
    {coins : Option Random.Key}
    (hcells : block.map Element.cell = (segment.placements x height coins).map Placement.cell)
    {e : Element} (he : e ∈ block) :
    x ≤ e.origin.x ∧ e.origin.x < x + segment.totalWidth ∧
      height - max (segment.template.height : Int) 1 ≤ e.origin.y ∧ e.origin.y ≤ height - 1 := by
  have hmem : e.cell ∈ (segment.placements x height coins).map Placement.cell := by
    rw [← hcells]
    exact List.mem_map_of_mem he
  obtain ⟨p, hp, heq⟩ := List.mem_map.mp hmem
  have hx : p.x = e.origin.x := congrArg Prod.fst heq
  have hy : p.y = e.origin.y := congrArg Prod.snd heq
  rw [← hx, ← hy]
  exact Segment.mem_placements_bounds hp

namespace Tiling

-- All of these go along the tiling, whose last block stands behind the span of the others.
variable {height : Int} {segments : List Segment} {blocks : List (List Element)}

theorem length_eq (h : Tiling height segments blocks) : blocks.length = segments.length := by
  induction h with
  | nil => rfl
  | concat _ _ ih => rw [List.length_append, List.length_append, ih]; rfl

/-- A block lies in the columns of its segment, behind the segments before it. -/
theorem bounds (h : Tiling height segments blocks) {j : Nat} {segment : Segment}
    {block : List Element} (hsegment : segments[j]? = some segment)
    (hblock : blocks[j]? = some block) :
    ∀ e ∈ block,
      (Segment.span (segments.take j) + 1 : Int) ≤ e.origin.x ∧
      e.origin.x < Segment.span (segments.take j) + 1 + segment.totalWidth ∧
      height - max (segment.template.height : Int) 1 ≤ e.origin.y ∧ e.origin.y ≤ height - 1 := by
  induction h with
  | nil => cases hsegment
  | @concat segments blocks last lastBlock coins h hcells ih =>
    -- the block is one of those before, the last one, or none
    rcases Nat.lt_trichotomy j segments.length with hlt | rfl | hgt
    · rw [List.getElem?_append_left hlt] at hsegment
      rw [List.getElem?_append_left (h.length_eq ▸ hlt)] at hblock
      rw [List.take_append_of_le_length hlt.le]
      exact ih hsegment hblock
    · rw [List.getElem?_concat_length] at hsegment
      rw [← h.length_eq, List.getElem?_concat_length] at hblock
      cases hsegment
      cases hblock
      rw [List.take_left]
      exact fun e he => block_bounds hcells he
    · rw [List.getElem?_eq_none (by simpa using Nat.succ_le_of_lt hgt)] at hsegment
      cases hsegment

/-- All elements lie in the columns behind the edge of the world and up to the frontier. -/
theorem columns (h : Tiling height segments blocks) :
    ∀ e ∈ blocks.flatten, 1 ≤ e.origin.x ∧ e.origin.x ≤ Segment.span segments := by
  induction h with
  | nil => intro e he; cases he
  | concat _ hcells ih =>
    intro e he
    rw [Segment.span_append, Segment.span_singleton]
    rw [List.flatten_append, List.flatten_singleton] at he
    rcases List.mem_append.mp he with hold | hnew
    · have := ih e hold
      omega
    · have := block_bounds hcells hnew
      omega

/-- No two elements share a cell. -/
theorem nodup_cells (h : Tiling height segments blocks) :
    (blocks.flatten.map Element.cell).Nodup := by
  induction h with
  | nil => exact List.nodup_nil
  | @concat segments blocks segment block coins h hcells ih =>
    rw [List.flatten_append, List.flatten_singleton, List.map_append]
    refine List.nodup_append.mpr ⟨ih, ?_, ?_⟩
    · rw [hcells]
      exact segment.nodup_cells_placements _ _ _
    · -- the new block lies behind the frontier, all others before it
      intro cell hcell cell' hcell' heq
      obtain ⟨e, he, rfl⟩ := List.mem_map.mp hcell
      obtain ⟨e', he', rfl⟩ := List.mem_map.mp hcell'
      have hx : e.origin.x = e'.origin.x := congrArg Prod.fst heq
      have := (h.columns e he).2
      have := (block_bounds hcells he').1
      omega

/-- A segment ends before all later ones begin. -/
theorem span_take_add_le {i j : Nat} {segment : Segment} (hsegment : segments[i]? = some segment)
    (hlt : i < j) :
    Segment.span (segments.take i) + segment.totalWidth ≤ Segment.span (segments.take j) := by
  have hnext : segments.take (i + 1) = segments.take i ++ [segment] := by
    rw [List.take_add_one, hsegment]
    rfl
  have hmore : segments.take (i + 1) <+: segments.take j :=
    List.take_prefix_take_left (Nat.succ_le_of_lt hlt)
  obtain ⟨rest, hrest⟩ := hmore
  rw [← hrest, hnext, Segment.span_append, Segment.span_append, Segment.span_singleton]
  exact Nat.le_add_right _ _

/-- Different blocks share no column. -/
theorem columns_ne (h : Tiling height segments blocks) {i j : Nat} (hne : i ≠ j)
    {block block' : List Element} (hblock : blocks[i]? = some block)
    (hblock' : blocks[j]? = some block') :
    ∀ e ∈ block, ∀ e' ∈ block', e.origin.x ≠ e'.origin.x := by
  wlog hlt : i < j generalizing i j block block'
  · intro e he e' he' heq
    exact this hne.symm hblock' hblock (by omega) e' he' e he heq.symm
  intro e he e' he'
  have hi : i < segments.length := by
    rw [← h.length_eq]
    exact (List.getElem?_eq_some_iff.mp hblock).1
  have hj : j < segments.length := by
    rw [← h.length_eq]
    exact (List.getElem?_eq_some_iff.mp hblock').1
  have hsegment : segments[i]? = some segments[i] := List.getElem?_eq_getElem hi
  have hend := (h.bounds hsegment hblock e he).2.1
  have hbegin := (h.bounds (List.getElem?_eq_getElem hj) hblock' e' he').1
  have := span_take_add_le hsegment hlt
  omega

end Tiling

/-- A level and the spawner that has built `built` of it side by side. -/
structure Tiled (height : Int) (built : List Segment) (l : Level) (s : Spawner) : Prop where
  records : s.Records
  height_eq : s.worldHeight = height
  frontier : l.state.frontier = Segment.span built
  tiling : ∃ blocks, s.elements.toList = blocks.flatten ∧ Tiling height built blocks

namespace Tiled

variable {height : Int} {built : List Segment} {l : Level} {s : Spawner}

/-- A segment is built behind the frontier, which moves behind it. -/
theorem buildNext (h : Tiled height built l s) {next : Level.Built}
    (hbuild : l.buildNext s = .ok (some next)) :
    Tiled height (built ++ [next.segment]) next.level next.spawner := by
  obtain ⟨l₁, coins, key, -, hlevel, -, hspawner, -⟩ := Level.buildNext_spec hbuild
  -- the spawner adds one block, in the column behind the frontier
  obtain ⟨coinKey, key', block, sink, hbuilt, hcells⟩ :=
    h.records.build next.segment (l.state.frontier + 1) (l.has .autoCoinSpawn) key
  obtain ⟨blocks, helements, htiling⟩ := h.tiling
  rw [hbuilt] at hspawner
  refine ⟨?_, ?_, ?_, blocks ++ [block], ?_, ?_⟩
  · rw [hspawner]
    exact h.records.with _ _ _
  · rw [hspawner]
    exact h.height_eq
  · rw [hlevel, Segment.span_append, Segment.span_singleton, ← h.frontier]
  · rw [hspawner, List.flatten_append, List.flatten_singleton, ← helements]
    exact Array.toList_append
  · rw [h.frontier, h.height_eq] at hcells
    exact htiling.concat hcells

theorem builds {l' : Level} {s' : Spawner} {segments : List Segment} {warnings : List Warning}
    (hruns : l.Builds s segments warnings l' s') (h : Tiled height built l s) :
    Tiled height (built ++ segments) l' s' := by
  induction hruns generalizing built with
  | done =>
    rw [List.append_nil]
    exact h
  | @step l l' s s' next segments warnings hbuild _ ih =>
    have := ih (h.buildNext hbuild)
    rwa [List.append_assoc, List.singleton_append] at this

end Tiled

namespace Play

/-- One call keeps the built segments side by side, and is not refused. -/
theorem tiled_of_perform {height : Int} {built : List Segment} {p : Play} {s : Spawner}
    (hadmissible : p.level.plan.blueprint.bosses.Admissible) (hspawner : p.spawner = some s)
    (h : Tiled height built p.level s) {call : Call} (hcall : call.Proceeds) :
    (∀ fault, (p.perform call).1 ≠ .refused fault) ∧
      (p.perform call).2.level.plan = p.level.plan ∧
      ∃ s', (p.perform call).2.spawner = some s' ∧
        Tiled height (built ++ (p.perform call).1.builtSegments) (p.perform call).2.level s' := by
  rcases hcall with rfl | ⟨target, rfl⟩
  · -- what is handed out alone is not built
    obtain ⟨answer, l', hnext, hstep⟩ := Level.exists_handsOut hadmissible
    have hok : p.next = .ok (answer, { p with level := l' }) := next_eq_ok_iff.mpr ⟨l', hnext, rfl⟩
    simp only [perform, hok, Reply.builtSegments, List.append_nil]
    refine ⟨?_, hstep.plan_eq, s, hspawner, h.records, h.height_eq, ?_, h.tiling⟩
    · rintro fault ⟨⟩
    · rw [hstep.frontier_eq, h.frontier]
  · obtain ⟨g, hg⟩ := Level.exists_generate hadmissible s target
    obtain ⟨warnings, hruns, -⟩ := Level.builds_of_generate hg
    have hok := generate_eq_ok_iff.mpr ⟨s, g, hspawner, hg, rfl⟩
    simp only [perform, hok, Reply.builtSegments]
    refine ⟨?_, hruns.plan_eq hadmissible, g.spawner, rfl, h.builds hruns⟩
    rintro fault ⟨⟩

/-- Calls in order keep the built segments side by side, and none is refused. -/
theorem tiled_of_performAll {height : Int} {built : List Segment} {p : Play} {s : Spawner}
    (hadmissible : p.level.plan.blueprint.bosses.Admissible) (hspawner : p.spawner = some s)
    (h : Tiled height built p.level s) {calls : List Call}
    (hcalls : ∀ call ∈ calls, call.Proceeds) :
    (∀ reply ∈ (p.performAll calls).1, ∀ fault, reply ≠ .refused fault) ∧
      ∃ s', (p.performAll calls).2.spawner = some s' ∧
        Tiled height (built ++ (p.performAll calls).1.flatMap Reply.builtSegments)
          (p.performAll calls).2.level s' := by
  induction calls generalizing built p s with
  | nil => exact ⟨nofun, s, hspawner, by simpa [performAll] using h⟩
  | cons call rest ih =>
    obtain ⟨hanswered, hplan, s₁, hspawner₁, h₁⟩ :=
      tiled_of_perform hadmissible hspawner h (hcalls call (List.mem_cons_self ..))
    obtain ⟨hrest, s', hspawner', h'⟩ := ih (hplan ▸ hadmissible) hspawner₁ h₁
      (fun other hother => hcalls other (List.mem_cons_of_mem _ hother))
    refine ⟨?_, s', hspawner', ?_⟩
    · intro reply hreply
      rcases List.mem_cons.mp hreply with rfl | hreply
      · exact hanswered
      · exact hrest reply hreply
    · rw [List.append_assoc] at h'
      exact h'

/-- A play that records from its start on tiles the world. However segments are handed out and
built, the frontier is the total width of what was built; each built segment placed what it has to
place in the columns of its own width, behind all segments built before it, and on its rows; so all
lies up to the frontier, different segments share no column and no cell is taken twice. -/
theorem tiles_of_performAll {plan : LevelPlan} (hfilled : plan.blueprint.Filled) {p : Play}
    (hstart : p.AtStart plan) {s : Spawner} (hspawner : p.spawner = some s) (hmade : s.Made)
    (hkeeps : s.record = true) (hempty : s.elements = #[])
    (hmakers : ∀ symbol maker, s.registry.get? symbol = some maker → maker = Maker.record)
    {calls : List Call} (hcalls : ∀ call ∈ calls, call.Proceeds) :
    ∃ replies p' built s' blocks, p.performAll calls = (replies, p') ∧
      (∀ reply ∈ replies, ∀ fault, reply ≠ .refused fault) ∧
      built = replies.flatMap Reply.builtSegments ∧
      p'.level.state.frontier = Segment.span built ∧
      p'.spawner = some s' ∧ s'.elements.toList = blocks.flatten ∧
      Tiling s.worldHeight built blocks ∧ blocks.length = built.length ∧
      (∀ (j : Nat) segment block, built[j]? = some segment → blocks[j]? = some block →
        ∀ e ∈ block,
          (Segment.span (built.take j) + 1 : Int) ≤ e.origin.x ∧
          e.origin.x < Segment.span (built.take j) + 1 + segment.totalWidth ∧
          s.worldHeight - max (segment.template.height : Int) 1 ≤ e.origin.y ∧
          e.origin.y ≤ s.worldHeight - 1) ∧
      (∀ e ∈ s'.elements.toList, 1 ≤ e.origin.x ∧ e.origin.x ≤ p'.level.state.frontier) ∧
      (∀ i j : Nat, i ≠ j → ∀ block block', blocks[i]? = some block → blocks[j]? = some block' →
        ∀ e ∈ block, ∀ e' ∈ block', e.origin.x ≠ e'.origin.x) ∧
      (s'.elements.toList.map Element.cell).Nodup := by
  have hplan : p.level.plan = plan := by rw [hstart]; rfl
  have hadmissible : p.level.plan.blueprint.bosses.Admissible := hplan ▸ hfilled.admissible
  have htiled : Tiled s.worldHeight [] p.level s :=
    { records := ⟨hmade.closed, hkeeps, hmakers⟩
      height_eq := rfl
      frontier := by rw [hstart]; rfl
      tiling := ⟨[], by rw [hempty]; rfl, .nil⟩ }
  obtain ⟨hanswered, s', hspawner', h'⟩ :=
    tiled_of_performAll hadmissible hspawner htiled hcalls
  rw [List.nil_append] at h'
  obtain ⟨blocks, helements, htiling⟩ := h'.tiling
  refine ⟨_, _, _, s', blocks, rfl, hanswered, rfl, h'.frontier, hspawner', helements, htiling,
    htiling.length_eq, fun j segment block => htiling.bounds, ?_,
    fun i j hne block block' => htiling.columns_ne hne, ?_⟩
  · rw [helements, h'.frontier]
    exact htiling.columns
  · rw [helements]
    exact htiling.nodup_cells

theorem tiles_of_performAll_meadow :
    ∃ replies p' s',
      (start .meadow (some (.create .empty .empty))).performAll
        [.next, .generate 40, .next, .generate 100] = (replies, p') ∧
      p'.spawner = some s' ∧
      p'.level.state.frontier = Segment.span (replies.flatMap Reply.builtSegments) ∧
      (s'.elements.toList.map Element.cell).Nodup := by
  have hmade : Spawner.Made ((Spawner.create .empty .empty).reseed
      (Level.start .meadow).state.elements) := .reseed _ (.create _ _ _ _ _ _)
  -- the placeholder is all there is, and it is recorded
  have hmakers : ∀ symbol maker, ((Spawner.create .empty .empty).reseed
      (Level.start .meadow).state.elements).registry.get? symbol = some maker →
      maker = Maker.record := by
    intro symbol maker hmaker
    change (Table.insertNew .empty World.placeholderSymbol Maker.record).get? symbol = _ at hmaker
    rw [Table.get?_insertNew] at hmaker
    split at hmaker
    · cases hmaker
      rfl
    · cases hmaker
  have hcalls : ∀ call ∈ [Call.next, .generate 40, .next, .generate 100], call.Proceeds := by
    simp [Call.Proceeds]
  obtain ⟨replies, p', built, s', blocks, hrun, -, rfl, hfrontier, hspawner, -, -, -, -, -, -,
    hnodup⟩ := tiles_of_performAll LevelPlan.filled_meadow
      (atStart_start .meadow (some (.create .empty .empty))) rfl hmade rfl rfl hmakers hcalls
  exact ⟨replies, p', s', hrun, hspawner, hfrontier, hnodup⟩

end Play

end LevelForge
