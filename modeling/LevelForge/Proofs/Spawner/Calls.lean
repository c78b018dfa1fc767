import Mathlib.Data.List.DropRight
import LevelForge.Proofs.Spawner.SetUp

/-!
# Calls of spawners

A spawner is set up, used and cleared in any order. Whatever a symbol may stand for has a maker
then, so a placement always reaches one; it keeps what it has made since it was last cleared, and
who listens to it has received all that it ever made.

* `Call`, `performAll`: what a spawner can be called for, and what comes of calls in order.
* `StandsFor`: what a symbol stands for, and what is reported about it.
* `contains_performAll_iff`, `get?_groups_performAll`: the makers and the groups after calls.
* `performAll_create`: a new spawner after any calls.
-/

namespace LevelForge.Spawner

/-- A symbol that a spawner is asked for: what it stands for, or to place it. -/
inductive Request where
  | resolve (symbol : String)
  | place (placement : Placement)

/-- The symbol that is asked for. -/
def Request.symbol : Request → String
  | .resolve symbol => symbol
  | .place p => p.symbol

/-- What a spawner can be called for. -/
inductive Call where
  | register (symbol : String) (maker : Maker)
  | registerGroup (group : String) (members : List String)
  | reseed (key : Random.Key)
  | clear
  | ask (request : Request)

/-- Whether a call clears the spawner. -/
def Call.isClear : Call → Bool
  | .clear => true
  | _ => false

/-- The group that a call defines, with its members. -/
def Call.group? : Call → Option (String × List String)
  | .registerGroup group members => some (group, members)
  | _ => none

/-- A call after which a symbol has a maker: it gives it one, or it makes it the member of a
group. -/
inductive Call.Registers (symbol : String) : Call → Prop
  | register (maker : Maker) : Registers symbol (.register symbol maker)
  | member {members : List String} (group : String) :
      symbol ∈ members → Registers symbol (.registerGroup group members)

/-- What a spawner answers. -/
inductive Reply where
  | done
  | symbol (symbol : String)
  | element (element : Option Element)

/-- The elements that were made for an answer, one or none. -/
def Reply.made : Reply → List Element
  | .element made => made.toList
  | _ => []

/-- What comes of a request. -/
def ask (s : Spawner) : Request → Outcome Reply
  | .resolve symbol =>
    let resolved := s.resolve symbol
    ⟨.symbol resolved.value, resolved.spawner, resolved.warnings⟩
  | .place p =>
    let placed := s.place p
    ⟨.element placed.value, placed.spawner, placed.warnings⟩

/-- What comes of a call. -/
def perform (s : Spawner) : Call → Outcome Reply
  | .register symbol maker => ⟨.done, s.register symbol maker, []⟩
  | .registerGroup group members => ⟨.done, s.registerGroup group members, []⟩
  | .reseed key => ⟨.done, s.reseed key, []⟩
  | .clear => ⟨.done, s.clear, []⟩
  | .ask request => s.ask request

/-- What comes of calls in order. -/
def performAll (s : Spawner) : List Call → Outcome (List Reply)
  | [] => ⟨[], s, []⟩
  | call :: rest =>
    let first := s.perform call
    let others := first.spawner.performAll rest
    ⟨first.value :: others.value, others.spawner, first.warnings ++ others.warnings⟩

/-- What a symbol stands for, and what is reported about it: itself if it has a maker, otherwise a
member of its group, and if it is no group or one without members the placeholder, which is
reported. -/
inductive StandsFor (s : Spawner) (symbol : String) : String → List Warning → Prop
  | registered : s.registry.contains symbol = true → StandsFor s symbol symbol []
  | member {members : List String} {member : String} :
      s.registry.contains symbol = false → s.groups.get? symbol = some members →
      member ∈ members → StandsFor s symbol member []
  | placeholder :
      s.registry.contains symbol = false →
      (∀ members, s.groups.get? symbol = some members → members = []) →
      StandsFor s symbol World.placeholderSymbol [.unknownSymbol symbol]

/-! ## One call -/

section Steps

variable {s : Spawner}

/-- A request changes nothing but the key and what was made. -/
theorem exists_ask_eq (s : Spawner) (request : Request) :
    ∃ key, (s.ask request).spawner = s.having key (s.ask request).value.made := by
  cases request with
  | resolve symbol =>
    obtain ⟨key, hresolve⟩ := s.exists_resolve_eq symbol
    exact ⟨key, hresolve.trans (s.having_nil key).symm⟩
  | place p =>
    obtain ⟨value, key, warnings, hplace, -⟩ := (SameSetUp.refl s).place_eq rfl p
    refine ⟨key, ?_⟩
    rw [ask, hplace]
    rfl

theorem Made.perform (h : s.Made) (call : Call) : (s.perform call).spawner.Made := by
  cases call with
  | register symbol maker => exact h.register symbol maker
  | registerGroup group members => exact h.registerGroup group members
  | reseed key => exact h.reseed key
  | clear => exact h.clear
  | ask request =>
    cases request with
    | resolve symbol => exact h.resolve symbol
    | place p => exact h.place p

/-- After a call the symbols that have a maker are those that had one and those that the call gives
one. -/
theorem contains_perform_iff (s : Spawner) (call : Call) (symbol : String) :
    (s.perform call).spawner.registry.contains symbol = true ↔
      s.registry.contains symbol = true ∨ call.Registers symbol := by
  cases call with
  | register other maker =>
    show (s.registry.insert other maker).contains symbol = true ↔ _
    rw [Table.contains_insert, Bool.or_eq_true, beq_iff_eq, or_comm]
    refine or_congr_right ⟨?_, ?_⟩
    · rintro rfl
      exact .register maker
    · rintro ⟨⟩
      rfl
  | registerGroup group members =>
    rw [Spawner.perform, registerGroup, contains_foldl_insertNew, or_comm]
    refine or_congr_right ⟨.member group, ?_⟩
    rintro ⟨⟩
    assumption
  | reseed key => exact (or_iff_left nofun).symm
  | clear => exact (or_iff_left nofun).symm
  | ask request =>
    obtain ⟨key, hask⟩ := s.exists_ask_eq request
    rw [Spawner.perform, hask]
    exact (or_iff_left nofun).symm

/-- After a call a group has the members that the call gives it, or the old ones. -/
theorem get?_groups_perform (s : Spawner) (call : Call) (group : String) :
    (s.perform call).spawner.groups.get? group =
      (call.group?.toList.lookup group).or (s.groups.get? group) := by
  cases call with
  | registerGroup other members =>
    show (s.groups.insert other members).get? group = _
    rw [Table.get?_insert, Call.group?, Option.toList_some, Table.lookup_cons_eq]
    by_cases h : group = other
    · rw [if_pos h, if_pos h, Option.some_or]
    · rw [if_neg h, if_neg h, List.lookup_nil, Option.none_or]
  | register symbol maker => rfl
  | reseed key => rfl
  | clear => rfl
  | ask request =>
    obtain ⟨key, hask⟩ := s.exists_ask_eq request
    rw [Spawner.perform, hask]
    rfl

/-- Whether a spawner keeps what it makes never changes. -/
theorem record_perform (s : Spawner) (call : Call) :
    (s.perform call).spawner.record = s.record := by
  cases call with
  | ask request =>
    obtain ⟨key, hask⟩ := s.exists_ask_eq request
    rw [Spawner.perform, hask]
    rfl
  | _ => rfl

/-- A call clears what was kept, or what it makes is kept behind it. -/
theorem elements_perform (s : Spawner) (call : Call) :
    (s.perform call).spawner.elements.toList =
      if call.isClear then []
      else if s.record then s.elements.toList ++ (s.perform call).value.made
      else s.elements.toList := by
  cases call with
  | ask request =>
    obtain ⟨key, hask⟩ := s.exists_ask_eq request
    rw [Spawner.perform, hask]
    cases hrecord : s.record <;> simp [having, hrecord, Call.isClear]
  | clear => rfl
  | _ => simp [Spawner.perform, Reply.made, Call.isClear, register, registerGroup, reseed]

/-- Who listens receives what a call makes. -/
theorem sink_perform (s : Spawner) (call : Call) :
    (s.perform call).spawner.sink =
      s.sink.map (· ++ (s.perform call).value.made.toArray) := by
  cases call with
  | ask request =>
    obtain ⟨key, hask⟩ := s.exists_ask_eq request
    rw [Spawner.perform, hask]
    rfl
  | _ => simp [Spawner.perform, Reply.made, register, registerGroup, reseed, clear]

/-- Only requests are reported about. -/
theorem warnings_perform_of_ne_ask {call : Call} (h : ∀ request, call ≠ .ask request) :
    (s.perform call).warnings = [] := by
  cases call with
  | ask request => exact absurd rfl (h request)
  | _ => rfl

/-- A spawner resolves a symbol to what it stands for. -/
theorem standsFor_resolve (s : Spawner) (symbol : String) :
    s.StandsFor symbol (s.resolve symbol).value (s.resolve symbol).warnings := by
  unfold Spawner.resolve lookUp
  by_cases hcontains : s.registry.contains symbol = true
  · rw [if_pos hcontains]
    exact .registered hcontains
  · have hunregistered : s.registry.contains symbol = false := Bool.not_eq_true _ ▸ hcontains
    rw [if_neg hcontains]
    match hmembers : s.groups.get? symbol with
    | some (first :: others) => exact .member hunregistered hmembers (List.get_mem _ _)
    | some [] => exact .placeholder hunregistered (by simp [hmembers])
    | none => exact .placeholder hunregistered (by simp [hmembers])

/-- A placement is carried out by the maker of what its symbol stands for. -/
theorem Closed.exists_maker (h : s.Closed) (p : Placement) :
    ∃ symbol warnings maker, s.StandsFor p.symbol symbol warnings ∧
      s.registry.get? symbol = some maker ∧ (s.place p).value = maker { p with symbol } ∧
      (s.place p).warnings = warnings := by
  obtain ⟨maker, hmaker⟩ := Option.isSome_iff_exists.mp (h.contains_resolve p.symbol)
  obtain ⟨key, hresolve⟩ := s.exists_resolve_eq p.symbol
  refine ⟨_, _, maker, s.standsFor_resolve p.symbol, hmaker, ?_⟩
  unfold Spawner.place
  simp only [hresolve, hmaker, Option.bind_some]
  split
  · next hnone => exact ⟨hnone.symm, rfl⟩
  · next element hsome => exact ⟨hsome.symm, rfl⟩

end Steps

/-! ## Calls in order -/

section Runs

variable {s : Spawner}

/-- The last of some calls is performed on what the others have left. -/
theorem performAll_concat (s : Spawner) (calls : List Call) (call : Call) :
    s.performAll (calls ++ [call]) =
      ⟨(s.performAll calls).value ++ [((s.performAll calls).spawner.perform call).value],
        ((s.performAll calls).spawner.perform call).spawner,
        (s.performAll calls).warnings ++
          ((s.performAll calls).spawner.perform call).warnings⟩ := by
  induction calls generalizing s with
  | nil => simp [performAll]
  | cons first rest ih => simp [performAll, ih]

theorem length_value_performAll (s : Spawner) (calls : List Call) :
    (s.performAll calls).value.length = calls.length := by
  induction calls generalizing s with
  | nil => rfl
  | cons call rest ih => exact congrArg Nat.succ (ih _)

theorem Made.performAll (h : s.Made) (calls : List Call) : (s.performAll calls).spawner.Made := by
  induction calls generalizing s with
  | nil => exact h
  | cons call rest ih => exact ih (h.perform call)

/-- After calls the symbols that have a maker are those that had one and those that some call gives
one. No call takes a maker away. -/
theorem contains_performAll_iff (s : Spawner) (calls : List Call) (symbol : String) :
    (s.performAll calls).spawner.registry.contains symbol = true ↔
      s.registry.contains symbol = true ∨ ∃ call ∈ calls, call.Registers symbol := by
  induction calls generalizing s with
  | nil => simp [performAll]
  | cons call rest ih =>
    show ((s.perform call).spawner.performAll rest).spawner.registry.contains symbol = true ↔ _
    rw [ih, contains_perform_iff, List.exists_mem_cons_iff, or_assoc]

/-- After calls a group has the members that the last call for it gives it, or the old ones. -/
theorem get?_groups_performAll (s : Spawner) (calls : List Call) (group : String) :
    (s.performAll calls).spawner.groups.get? group =
      ((calls.filterMap Call.group?).reverse.lookup group).or (s.groups.get? group) := by
  induction calls using List.reverseRecOn with
  | nil => rfl
  | append_singleton calls call ih =>
    rw [performAll_concat, get?_groups_perform, ih, ← Option.or_assoc, List.filterMap_append,
      List.reverse_append, List.lookup_append]
    cases hgroup : call.group? <;> simp [hgroup]

theorem record_performAll (s : Spawner) (calls : List Call) :
    (s.performAll calls).spawner.record = s.record := by
  induction calls generalizing s with
  | nil => rfl
  | cons call rest ih => exact (ih _).trans (s.record_perform call)

/-- A spawner that keeps what it makes keeps what was made since it was last cleared. -/
theorem elements_performAll (hnew : s.elements = #[]) (calls : List Call) :
    (s.performAll calls).spawner.elements.toList =
      if s.record then
        ((calls.zip (s.performAll calls).value).rtakeWhile (!·.1.isClear)).flatMap (·.2.made)
      else [] := by
  induction calls using List.reverseRecOn with
  | nil => simp [performAll, hnew]
  | append_singleton calls call ih =>
    have hlength := (s.length_value_performAll calls).symm
    rw [performAll_concat, elements_perform, ih, record_performAll, List.zip_append hlength,
      List.zip_cons_cons, List.zip_nil_left]
    cases hclear : call.isClear with
    | true => simp [List.rtakeWhile_concat_neg, hclear]
    | false => cases s.record <;> simp [List.rtakeWhile_concat_pos, hclear]

/-- Who listens has received all that was made. -/
theorem sink_performAll (s : Spawner) (calls : List Call) :
    (s.performAll calls).spawner.sink =
      s.sink.map (· ++ ((s.performAll calls).value.flatMap Reply.made).toArray) := by
  induction calls generalizing s with
  | nil => simp [performAll]
  | cons call rest ih =>
    rw [performAll]
    dsimp only
    rw [ih, sink_perform]
    simp [Function.comp_def]

end Runs

/-! ## New spawners -/

/-- The calls that define groups in order. -/
def definitions (groups : List (String × List String)) : List Call :=
  groups.map fun group => .registerGroup group.1 group.2

/-- The groups of a new spawner are defined by calls. -/
theorem create_eq_performAll (registry : Table Maker) (groups : Table (List String))
    (worldHeight : Int) (key : Random.Key) (record listen : Bool) :
    create registry groups worldHeight key record listen =
      ((create registry .empty worldHeight key record listen).performAll
        (definitions groups.entries)).spawner := by
  have hfold : ∀ (entries : List (String × List String)) (s : Spawner),
      entries.foldl (fun s group => s.registerGroup group.1 group.2) s =
        (s.performAll (definitions entries)).spawner := by
    intro entries
    induction entries with
    | nil => exact fun _ => rfl
    | cons entry rest ih => exact fun s => ih _
  exact hfold groups.entries _

/-- A new spawner keeps nothing yet, and who listens has received nothing. -/
theorem create_frame (registry : Table Maker) (groups : Table (List String))
    (worldHeight : Int) (key : Random.Key) (record listen : Bool) :
    (create registry groups worldHeight key record listen).elements = #[] ∧
    (create registry groups worldHeight key record listen).record = record ∧
    (create registry groups worldHeight key record listen).sink =
      if listen then some #[] else none := by
  refine List.foldlRecOn (motive := fun s : Spawner => s.elements = #[] ∧ s.record = record ∧
    s.sink = if listen then some #[] else none) groups.entries _ ⟨rfl, rfl, rfl⟩ ?_
  rintro s ⟨helements, hrecord, hsink⟩ group -
  exact ⟨helements, hrecord, hsink⟩

/-- A new spawner has makers for the symbols that it is given some for, for the placeholder and for
the members of its groups. -/
theorem contains_create_iff (registry : Table Maker) (groups : Table (List String))
    (worldHeight : Int) (key : Random.Key) (record listen : Bool) (symbol : String) :
    (create registry groups worldHeight key record listen).registry.contains symbol = true ↔
      symbol = World.placeholderSymbol ∨ registry.contains symbol = true ∨
        ∃ group ∈ groups.entries, symbol ∈ group.2 := by
  rw [create_eq_performAll, contains_performAll_iff]
  show (registry.insertNew World.placeholderSymbol Maker.record).contains symbol = true ∨ _ ↔ _
  rw [Table.contains_insertNew, Bool.or_eq_true, beq_iff_eq, or_assoc]
  refine or_congr_right (or_congr_right ⟨?_, ?_⟩)
  · rintro ⟨call, hcall, hregisters⟩
    obtain ⟨group, hgroup, rfl⟩ := List.mem_map.mp hcall
    cases hregisters with
    | member _ hmember => exact ⟨group, hgroup, hmember⟩
  · rintro ⟨group, hgroup, hmember⟩
    exact ⟨_, List.mem_map_of_mem hgroup, .member group.1 hmember⟩

/-- A new spawner after any calls. The placeholder and every member of a group have makers, and a
symbol that has one never loses it. So a placement is carried out by the maker of what its symbol
stands for: the symbol itself, otherwise a member of its group, and otherwise the placeholder, which
is reported once; nothing else is reported. If it is to record, it keeps what it has made since it
was last cleared, and who listens has received all that it ever made, in order. -/
theorem performAll_create (registry : Table Maker) (groups : Table (List String))
    (worldHeight : Int) (key : Random.Key) (record listen : Bool) (calls : List Call) :
    let done := (create registry groups worldHeight key record listen).performAll calls
    let s := done.spawner
    s.Closed ∧
    (∀ symbol, registry.contains symbol = true → s.registry.contains symbol = true) ∧
    (∀ symbol later, s.registry.contains symbol = true →
      (s.performAll later).spawner.registry.contains symbol = true) ∧
    (∀ symbol, s.StandsFor symbol (s.resolve symbol).value (s.resolve symbol).warnings) ∧
    (∀ p, ∃ symbol warnings maker, s.StandsFor p.symbol symbol warnings ∧
      s.registry.get? symbol = some maker ∧ (s.place p).value = maker { p with symbol } ∧
      (s.place p).warnings = warnings) ∧
    (∀ call, (∀ request, call ≠ .ask request) → (s.perform call).warnings = []) ∧
    s.elements.toList = (if record then
      ((calls.zip done.value).rtakeWhile (!·.1.isClear)).flatMap (·.2.made) else []) ∧
    s.sink = if listen then some (done.value.flatMap Reply.made).toArray else none := by
  obtain ⟨hnew, hrecord, hsink⟩ := create_frame registry groups worldHeight key record listen
  have hcreate := contains_create_iff registry groups worldHeight key record listen
  have hclosed :=
    ((Made.create registry groups worldHeight key record listen).performAll calls).closed
  set start := create registry groups worldHeight key record listen
  refine ⟨hclosed, fun symbol hsymbol => ?_, fun symbol later hsymbol => ?_, standsFor_resolve _,
    hclosed.exists_maker, fun call => warnings_perform_of_ne_ask, ?_, ?_⟩
  · rw [contains_performAll_iff, hcreate]
    exact .inl (.inr (.inl hsymbol))
  · rw [contains_performAll_iff]
    exact .inl hsymbol
  · rw [elements_performAll hnew, hrecord]
  · rw [sink_performAll, hsink]
    cases listen <;> simp

end LevelForge.Spawner
