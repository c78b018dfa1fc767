import LevelForge.Proofs.Segment.Strewing
import LevelForge.Proofs.Spawner.Records

/-!
# Spawners of one set-up

What a spawner answers follows from its set-up, which use does not change, and from its key. So two
spawners of one set-up with one key answer alike, whatever they have made before. A registered
symbol draws no key and is nothing to report; placements of such symbols may be left out, and
nothing else that is made changes.

* `Spawner.SameSetUp`: spawners of one set-up.
* `Spawner.having`: the spawner after it made something.
* `placeAll_unstrewn`: one spawner carries out placements, and another leaves the strewn ones out.
-/

namespace LevelForge

namespace Spawner

/-- Two spawners that know the same symbols and serve the same kind of world. -/
structure SameSetUp (s t : Spawner) : Prop where
  registry : ∀ symbol, s.registry.get? symbol = t.registry.get? symbol
  groups : ∀ group, s.groups.get? group = t.groups.get? group
  worldHeight : s.worldHeight = t.worldHeight
  record : s.record = t.record

/-- The spawner after it made the given elements, its choices having come to a key. -/
def having (s : Spawner) (key : Random.Key) (made : List Element) : Spawner :=
  { s with
    key
    elements := if s.record then s.elements ++ made.toArray else s.elements
    sink := s.sink.map (· ++ made.toArray) }

/-- A spawner that has made nothing more has another key at most. -/
@[simp]
theorem having_nil (s : Spawner) (key : Random.Key) : s.having key [] = s.reseed key := by
  simp [having, reseed]

/-- What is made later comes behind what was made before. -/
@[simp]
theorem having_having (s : Spawner) (key key' : Random.Key) (made made' : List Element) :
    (s.having key made).having key' made' = s.having key' (made ++ made') := by
  cases hrecord : s.record <;> simp [having, hrecord, Function.comp_def]

/-- Keeping an element is having made it. -/
theorem keep_eq_having (s : Spawner) (element : Element) :
    s.keep element = s.having s.key [element] := by
  simp [keep, having]

/-- Neither what was made nor the key belongs to the set-up. -/
theorem sameSetUp_having (s : Spawner) (key : Random.Key) (made : List Element) :
    s.SameSetUp (s.having key made) := ⟨fun _ => rfl, fun _ => rfl, rfl, rfl⟩

/-- A new key leaves the set-up of a spawner. -/
theorem sameSetUp_reseed (s : Spawner) (key : Random.Key) : s.SameSetUp (s.reseed key) :=
  ⟨fun _ => rfl, fun _ => rfl, rfl, rfl⟩

namespace SameSetUp

variable {s t u : Spawner}

/-- A spawner is set up like itself. -/
theorem refl (s : Spawner) : s.SameSetUp s := ⟨fun _ => rfl, fun _ => rfl, rfl, rfl⟩

theorem symm (h : s.SameSetUp t) : t.SameSetUp s :=
  ⟨fun symbol => (h.registry symbol).symm, fun group => (h.groups group).symm, h.worldHeight.symm,
    h.record.symm⟩

theorem trans (h : s.SameSetUp t) (h' : t.SameSetUp u) : s.SameSetUp u :=
  ⟨fun symbol => (h.registry symbol).trans (h'.registry symbol),
    fun group => (h.groups group).trans (h'.groups group), h.worldHeight.trans h'.worldHeight,
    h.record.trans h'.record⟩

/-- What two spawners have made does not change that they are set up alike. -/
theorem having (h : s.SameSetUp t) (key key' : Random.Key) (made made' : List Element) :
    (s.having key made).SameSetUp (t.having key' made') :=
  ⟨h.registry, h.groups, h.worldHeight, h.record⟩

/-- Spawners that are set up alike know the same symbols. -/
theorem lookUp_eq (h : s.SameSetUp t) (symbol : String) : s.lookUp symbol = t.lookUp symbol := by
  unfold lookUp Table.contains
  rw [h.registry, h.groups]

/-- Spawners of one set-up with one key resolve alike. -/
theorem resolve_eq (h : s.SameSetUp t) (hkey : s.key = t.key) (symbol : String) :
    ∃ value key warnings, s.resolve symbol = ⟨value, { s with key }, warnings⟩ ∧
      t.resolve symbol = ⟨value, { t with key }, warnings⟩ := by
  unfold resolve
  rw [h.lookUp_eq, hkey]
  split
  · exact ⟨_, t.key, _, by rw [← hkey], rfl⟩
  · exact ⟨_, _, _, rfl, rfl⟩
  · exact ⟨_, t.key, _, by rw [← hkey], rfl⟩

/-- Spawners of one set-up with one key carry a placement out alike. -/
theorem place_eq (h : s.SameSetUp t) (hkey : s.key = t.key) (p : Placement) :
    ∃ value key warnings, s.place p = ⟨value, s.having key value.toList, warnings⟩ ∧
      t.place p = ⟨value, t.having key value.toList, warnings⟩ := by
  obtain ⟨symbol, key, warnings, hs, ht⟩ := h.resolve_eq hkey p.symbol
  unfold place
  simp only [hs, ht, h.registry]
  split
  · exact ⟨none, key, warnings, by simp [reseed], by simp [reseed]⟩
  · next element _ =>
    refine ⟨some element, key, warnings, ?_, ?_⟩ <;>
      rw [keep_eq_having] <;> rfl

end SameSetUp

/-- A registered symbol stands for itself. -/
theorem resolve_of_registered {s : Spawner} {symbol : String}
    (h : s.registry.contains symbol = true) : s.resolve symbol = ⟨symbol, s, []⟩ := by
  have hlookUp : s.lookUp symbol = .registered := if_pos h
  rw [resolve, hlookUp]

/-- A registered symbol draws no key and is nothing to report. -/
theorem place_of_registered {s : Spawner} {p : Placement}
    (h : s.registry.contains p.symbol = true) :
    s.place p = ⟨(s.place p).value, s.having s.key (s.place p).value.toList, []⟩ := by
  unfold place
  simp only [resolve_of_registered h]
  split
  · simp [reseed]
  · rw [keep_eq_having]
    rfl

/-- What a spawner makes of marked placements, each element with the mark of its placement. -/
def makes (s : Spawner) : List (Placement × Bool) → List (Element × Bool)
  | [] => []
  | wish :: rest =>
    (s.place wish.1).value.toList.map (·, wish.2) ++ (s.place wish.1).spawner.makes rest

section Makes

variable {s t : Spawner}

/-- One spawner carries out all placements and another one of the same set-up and key leaves the
strewn ones out, all of them of registered symbols. Both come to the same key and report the same,
and what the second one makes is what the first one makes without what was strewn. -/
theorem placeAll_unstrewn (h : s.SameSetUp t) (hkey : s.key = t.key)
    {wishes : List (Placement × Bool)}
    (hstrewn : ∀ p, (p, true) ∈ wishes → t.registry.contains p.symbol = true) :
    ∃ key, (s.placeAll (unstrewn wishes)).spawner = s.having key (unstrewn (t.makes wishes)) ∧
      (t.placeAll (wishes.map Prod.fst)).spawner = t.having key ((t.makes wishes).map Prod.fst) ∧
      (s.placeAll (unstrewn wishes)).warnings = (t.placeAll (wishes.map Prod.fst)).warnings := by
  induction wishes generalizing s t with
  | nil =>
    refine ⟨t.key, ?_, ?_, rfl⟩
    · simp [placeAll, makes, reseed, ← hkey]
    · simp [placeAll, makes, reseed]
  | cons wish rest ih =>
    obtain ⟨p, strewn⟩ := wish
    have hrest : ∀ p', (p', true) ∈ rest → t.registry.contains p'.symbol = true :=
      fun p' hp' => hstrewn p' (List.mem_cons_of_mem _ hp')
    cases strewn with
    | true =>
      -- only the second spawner does anything, and it keeps its key
      have hplace := place_of_registered (hstrewn p List.mem_cons_self)
      generalize (t.place p).value = value at hplace
      obtain ⟨key, hs, ht, hwarnings⟩ :=
        ih (t := t.having t.key value.toList) (h.trans (t.sameSetUp_having _ _)) hkey hrest
      refine ⟨key, ?_, ?_, ?_⟩
      · simp [makes, hplace, hs]
      · simp [placeAll, makes, hplace, ht, Function.comp_def]
      · simp [placeAll, hplace, hwarnings]
    | false =>
      obtain ⟨value, key₁, warnings, hs₁, ht₁⟩ := h.place_eq hkey p
      obtain ⟨key, hs, ht, hwarnings⟩ :=
        ih (h.having key₁ key₁ value.toList value.toList) rfl hrest
      refine ⟨key, ?_, ?_, ?_⟩
      · simp [placeAll, makes, hs₁, ht₁, hs]
      · simp [placeAll, makes, ht₁, ht, Function.comp_def]
      · simp [placeAll, hs₁, ht₁, hwarnings]

/-- A segment is built with coins in one world and without in another one. Nothing differs but the
coins strewn. -/
theorem build_unstrewn (h : s.SameSetUp t) (hkey : s.key = t.key)
    (hcoin : t.registry.contains World.coinSymbol = true) (segment : Segment) (x : Int)
    (key : Random.Key) :
    ∃ key', (s.build segment x false none).spawner =
        s.having key' (unstrewn (t.makes (segment.strewing x t.worldHeight key))) ∧
      (t.build segment x true (some key)).spawner =
        t.having key' ((t.makes (segment.strewing x t.worldHeight key)).map Prod.fst) ∧
      (s.build segment x false none).warnings = (t.build segment x true (some key)).warnings := by
  have hstrewn : ∀ p, (p, true) ∈ segment.strewing x t.worldHeight key →
      t.registry.contains p.symbol = true :=
    fun p hp => (segment.symbol_eq_of_mem_strewing x t.worldHeight key hp).symm ▸ hcoin
  have hplaced := placeAll_unstrewn h hkey hstrewn
  rw [Segment.unstrewn_strewing, Segment.map_fst_strewing] at hplaced
  simp only [build, h.worldHeight]
  exact hplaced

end Makes

/-- Building does not depend on the order of a table of aliases. -/
theorem build_withAliases {segment : Segment} {aliases : Table String}
    (h : ∀ symbol, aliases.get? symbol = segment.aliases.get? symbol) (s : Spawner) (x : Int)
    (coins : Bool) (key : Option Random.Key) :
    s.build (segment.withAliases aliases) x coins key = s.build segment x coins key := by
  simp only [build, Segment.placements_withAliases h, Segment.totalWidth_withAliases]

namespace SameSetUp

variable {s t : Spawner}

/-- Spawners of one set-up with one key carry out placements alike. -/
theorem placeAll_eq (h : s.SameSetUp t) (hkey : s.key = t.key) (placements : List Placement) :
    ∃ key made, (s.placeAll placements).spawner = s.having key made ∧
      (t.placeAll placements).spawner = t.having key made ∧
      (s.placeAll placements).warnings = (t.placeAll placements).warnings := by
  induction placements generalizing s t with
  | nil => exact ⟨t.key, [], by simp [placeAll, reseed, ← hkey], by simp [placeAll, reseed], rfl⟩
  | cons p rest ih =>
    obtain ⟨value, key₁, warnings, hs₁, ht₁⟩ := h.place_eq hkey p
    obtain ⟨key, made, hs, ht, hwarnings⟩ :=
      ih (h.having key₁ key₁ value.toList value.toList) rfl
    refine ⟨key, value.toList ++ made, ?_, ?_, ?_⟩
    · simp [placeAll, hs₁, hs]
    · simp [placeAll, ht₁, ht]
    · simp [placeAll, hs₁, ht₁, hwarnings]

/-- Spawners of one set-up with one key build a segment alike. -/
theorem build_eq (h : s.SameSetUp t) (hkey : s.key = t.key) (segment : Segment) (x : Int)
    (coins : Bool) (coinKey : Option Random.Key) :
    ∃ key made, (s.build segment x coins coinKey).spawner = s.having key made ∧
      (t.build segment x coins coinKey).spawner = t.having key made ∧
      (s.build segment x coins coinKey).warnings = (t.build segment x coins coinKey).warnings := by
  simp only [build, h.worldHeight]
  exact h.placeAll_eq hkey _

end SameSetUp

end Spawner

end LevelForge
