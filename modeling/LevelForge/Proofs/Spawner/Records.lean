import LevelForge.Proofs.Segment.Footprint
import LevelForge.Spawner

/-!
# Spawners that record

A spawner always finds a maker: the placeholder has one, and so has every member of a group. If all
its makers record, then every placement leaves one element in its own cell.

* `Made.closed`: a spawner that was made and used in any order is closed under resolving.
* `Records.build`: building a segment records its placements, cell by cell.
-/

namespace LevelForge.Spawner

/-- The spawners that there can be: new ones, changed and used in any order. -/
inductive Made : Spawner → Prop
  | create (registry : Table Maker) (groups : Table (List String)) (worldHeight : Int)
      (key : Random.Key) (record listen : Bool) :
      Made (create registry groups worldHeight key record listen)
  | register {s : Spawner} (symbol : String) (maker : Maker) :
      Made s → Made (s.register symbol maker)
  | registerGroup {s : Spawner} (group : String) (members : List String) :
      Made s → Made (s.registerGroup group members)
  | reseed {s : Spawner} (key : Random.Key) : Made s → Made (s.reseed key)
  | clear {s : Spawner} : Made s → Made s.clear
  | resolve {s : Spawner} (symbol : String) : Made s → Made (s.resolve symbol).spawner
  | place {s : Spawner} (p : Placement) : Made s → Made (s.place p).spawner

/-- Whatever a symbol may resolve to has a maker. -/
structure Closed (s : Spawner) : Prop where
  placeholder : s.registry.contains World.placeholderSymbol = true
  members : ∀ group members, s.groups.get? group = some members →
    ∀ member ∈ members, s.registry.contains member = true

/-- A group brings makers for its members and keeps those that there are. -/
theorem contains_foldl_insertNew (members : List String) (registry : Table Maker) (k : String) :
    (members.foldl (fun registry member => registry.insertNew member Maker.record)
        registry).contains k = true ↔ k ∈ members ∨ registry.contains k = true := by
  induction members generalizing registry with
  | nil => simp
  | cons member rest ih =>
    rw [List.foldl_cons, ih, Table.contains_insertNew, Bool.or_eq_true, beq_iff_eq, List.mem_cons]
    tauto

/-- A group leaves a spawner closed: it brings makers for its members. -/
theorem Closed.registerGroup {s : Spawner} (h : s.Closed) (group : String)
    (members : List String) : (s.registerGroup group members).Closed where
  placeholder := (contains_foldl_insertNew _ _ _).mpr (.inr h.placeholder)
  members := by
    intro other others hothers member hmember
    refine (contains_foldl_insertNew _ _ _).mpr ?_
    -- the group is the new one, whose members were registered just now, or an old one
    change (s.groups.insert group members).get? other = some others at hothers
    rw [Table.get?_insert] at hothers
    split at hothers
    · cases hothers
      exact .inl hmember
    · exact .inr (h.members other others hothers member hmember)

/-- Groups that are registered one after the other leave a spawner closed. -/
theorem Closed.foldl_registerGroup {s : Spawner} (h : s.Closed)
    (groups : List (String × List String)) :
    (groups.foldl (fun s group => s.registerGroup group.1 group.2) s).Closed := by
  induction groups generalizing s with
  | nil => exact h
  | cons group rest ih => exact ih (h.registerGroup group.1 group.2)

/-- Resolving a symbol changes nothing but the key. -/
theorem exists_resolve_eq (s : Spawner) (symbol : String) :
    ∃ key, (s.resolve symbol).spawner = { s with key } := by
  unfold Spawner.resolve
  split
  · exact ⟨s.key, rfl⟩
  · exact ⟨_, rfl⟩
  · exact ⟨s.key, rfl⟩

/-- Placing changes nothing but the key and what was made. -/
theorem exists_place_eq (s : Spawner) (p : Placement) :
    ∃ key elements sink, (s.place p).spawner = { s with key, elements, sink } := by
  obtain ⟨key, hresolve⟩ := s.exists_resolve_eq p.symbol
  unfold Spawner.place
  dsimp only
  split
  · exact ⟨key, s.elements, s.sink, hresolve⟩
  · exact ⟨key, _, _, by rw [hresolve]; rfl⟩

/-- A spawner that was made and used in any order is closed. -/
theorem Made.closed {s : Spawner} (h : s.Made) : s.Closed := by
  induction h with
  | create registry groups worldHeight key record listen =>
    -- the placeholder is registered first, and then the groups one by one
    refine Closed.foldl_registerGroup ⟨?_, ?_⟩ groups.entries
    · rw [Table.contains_insertNew, beq_self_eq_true, Bool.true_or]
    · intro group members hmembers
      cases hmembers
  | register symbol maker _ ih =>
    refine ⟨?_, fun group members hmembers member hmember => ?_⟩
    · change (Table.insert _ symbol maker).contains _ = true
      rw [Table.contains_insert, ih.placeholder, Bool.or_true]
    · change (Table.insert _ symbol maker).contains _ = true
      rw [Table.contains_insert, ih.members group members hmembers member hmember, Bool.or_true]
  | registerGroup group members _ ih => exact ih.registerGroup group members
  | reseed key _ ih => exact ⟨ih.placeholder, ih.members⟩
  | clear _ ih => exact ⟨ih.placeholder, ih.members⟩
  | @resolve s symbol _ ih =>
    obtain ⟨key, heq⟩ := s.exists_resolve_eq symbol
    rw [heq]
    exact ⟨ih.placeholder, ih.members⟩
  | @place s p _ ih =>
    obtain ⟨key, elements, sink, heq⟩ := s.exists_place_eq p
    rw [heq]
    exact ⟨ih.placeholder, ih.members⟩

/-- In a closed spawner every symbol resolves to one that has a maker. -/
theorem Closed.contains_resolve {s : Spawner} (h : s.Closed) (symbol : String) :
    s.registry.contains (s.resolve symbol).value = true := by
  unfold Spawner.resolve
  cases hlookUp : s.lookUp symbol with
  | registered =>
    unfold lookUp at hlookUp
    split at hlookUp
    · next hcontains => exact hcontains
    · split at hlookUp <;> cases hlookUp
  | group first others =>
    unfold lookUp at hlookUp
    split at hlookUp
    · cases hlookUp
    · split at hlookUp
      · next hmembers =>
        cases hlookUp
        exact h.members symbol _ hmembers _ (List.get_mem _ _)
      · cases hlookUp
  | unknown => exact h.placeholder

/-- A closed spawner that keeps the placements it is asked for as they are. -/
structure Records (s : Spawner) : Prop where
  closed : s.Closed
  keeps : s.record = true
  makers : ∀ symbol maker, s.registry.get? symbol = some maker → maker = Maker.record

theorem Records.with {s : Spawner} (h : s.Records) (key : Random.Key) (elements : Array Element)
    (sink : Option (Array Element)) : Records { s with key, elements, sink } where
  closed := ⟨h.closed.placeholder, h.closed.members⟩
  keeps := h.keeps
  makers := h.makers

/-- A placement leaves one element in its cell. -/
theorem Records.place {s : Spawner} (h : s.Records) (p : Placement) :
    ∃ key element sink,
      (s.place p).spawner = { s with key, elements := s.elements.push element, sink } ∧
      element.origin.cell = p.cell := by
  obtain ⟨key, hresolve⟩ := s.exists_resolve_eq p.symbol
  -- the resolved symbol has a maker, and that one records
  obtain ⟨maker, hmaker⟩ := Option.isSome_iff_exists.mp (h.closed.contains_resolve p.symbol)
  obtain rfl := h.makers _ _ hmaker
  set element := Element.placement { p with symbol := (s.resolve p.symbol).value }
  have hmade : (s.registry.get? (s.resolve p.symbol).value).bind
      (fun maker => maker { p with symbol := (s.resolve p.symbol).value }) = some element := by
    rw [hmaker]
    rfl
  refine ⟨key, element, s.sink.map (·.push element), ?_, rfl⟩
  unfold Spawner.place
  simp only [hresolve, hmade, keep, h.keeps, if_true]

/-- Placements leave one element each, in order and in their cells. -/
theorem Records.placeAll {s : Spawner} (h : s.Records) (placements : List Placement) :
    ∃ (key : Random.Key) (block : List Element) (sink : Option (Array Element)),
      (s.placeAll placements).spawner =
        { s with key, elements := s.elements ++ block.toArray, sink } ∧
      block.map (·.origin.cell) = placements.map Placement.cell := by
  induction placements generalizing s with
  | nil => exact ⟨s.key, [], s.sink, by simp [Spawner.placeAll], rfl⟩
  | cons p rest ih =>
    obtain ⟨key, element, sink, hplace, hcell⟩ := h.place p
    obtain ⟨key', block, sink', hrest, hcells⟩ := ih (h.with key (s.elements.push element) sink)
    refine ⟨key', element :: block, sink', ?_, by rw [List.map_cons, List.map_cons, hcell, hcells]⟩
    unfold Spawner.placeAll
    dsimp only
    rw [hplace, hrest, List.push_append_toArray]

/-- Building a segment leaves one element for each of its placements. -/
theorem Records.build {s : Spawner} (h : s.Records) (segment : Segment) (x : Int) (coins : Bool)
    (key : Option Random.Key) :
    ∃ coinKey key' block sink,
      (s.build segment x coins key).spawner =
        { s with key := key', elements := s.elements ++ List.toArray block, sink } ∧
      block.map (·.origin.cell) =
        (segment.placements x s.worldHeight coinKey).map Placement.cell :=
  ⟨_, h.placeAll _⟩

end LevelForge.Spawner
