import LevelForge.Proofs.Catalog.Shelf
import LevelForge.Proofs.Ldl.FirstViolation
import LevelForge.Proofs.Text.Numerals
import LevelForge.Proofs.Text.Points

/-!
# Levels that cannot be had

A text compiles to a sealed blueprint or is rejected for what it says. A level cannot be loaded
exactly if it has no text, if its text does not compile, or if the seed is left to the text and the
text gives one that cannot be read. None of this shows in what is answered about any other level.

* `Ldl.sealed_or_isOfText`: what comes of compiling a text.
* `Unloadable`: the levels that cannot be loaded, and why.
* `Shelf.load_eq_error_iff`, `Shelf.mem_available_iff`: which levels can be had.
* `Catalog.load_eq_error_iff_unloadable`: what a catalog answers about levels, after any calls.
-/

namespace LevelForge

/-! ## Texts that do not compile -/

namespace Ldl

/-- A failure that a text can have: a token that is not expected, a bad body of a directive, or
rows of different widths. -/
inductive Failure.IsOfText : Failure → Prop
  | unexpected (fault : Unexpected) : IsOfText (.unexpected fault)
  | mapping (body : String) (fault : MappingFault) : IsOfText (.mapping body fault)
  | ragged (fault : Ragged) (line : Nat) : IsOfText (.ragged fault line)

/-- What is reported about tokens is a failure of a text, unless the blueprint is frozen. -/
theorem Offends.isOfText {b : Blueprint} {tokens : List Token} {failure : Failure}
    (h : Offends b tokens failure) (hopen : IsOpen b) : failure.IsOfText := by
  cases h with
  | unfinished fault _ => exact .unexpected fault
  | rejected behind _ hrejects =>
    cases hrejects with
    | mapping d _ => exact .mapping _ _
    | key _ _ _ => exact .mapping _ _
    | ragged line _ => exact .ragged _ line
    | frozen _ _ hfrozen => cases hopen.blueprint.symm.trans hfrozen
    | schedule _ _ hfrozen => cases hopen.bosses.symm.trans hfrozen

theorem isOfText_of_compile {text : String} {name : Option String} {failure : Failure}
    (h : compile text name = .error failure) : failure.IsOfText := by
  rw [compile_eq_fill] at h
  split at h
  · next b failure' hfill =>
    cases h
    obtain ⟨front, rest, document, -, -, -, hfills, hoffends⟩ := exists_of_fill hfill
    obtain ⟨hblueprint, hbosses⟩ := hfills.frozen_eq
    exact hoffends.isOfText ⟨hblueprint, hbosses⟩
  · cases h

/-- Every text compiles to a sealed blueprint or has a failure of its own. -/
theorem sealed_or_isOfText (text : String) (name : Option String) :
    (∃ b, compile text name = .ok b ∧ b.Sealed) ∨
      ∃ failure, compile text name = .error failure ∧ failure.IsOfText := by
  cases hcompile : compile text name with
  | ok b => exact .inl ⟨b, rfl, sealed_of_compile hcompile⟩
  | error failure => exact .inr ⟨failure, rfl, isOfText_of_compile hcompile⟩

end Ldl

/-! ## The seeds of ids -/

/-- The seed of an id that is a text of characters. -/
theorem standardSeed_ofText (levelId : String) :
    standardSeed (.ofText levelId) = .ok (textSeed levelId) := by
  rw [standardSeed, Text.Points.encode_ofText]
  rfl

/-- An id has a seed exactly if it is a text of characters. -/
theorem exists_standardSeed_iff {levelId : Text.Points} :
    (∃ seed, standardSeed levelId = .ok seed) ↔ ∃ text, levelId = .ofText text := by
  rw [← Text.Points.exists_encode_iff, standardSeed]
  cases levelId.encode <;> simp [Except.map]

/-! ## Levels that cannot be loaded -/

namespace Catalog

/-- Whether a call gives a level a text. -/
def Call.isAdd : Call → Bool
  | .add _ _ => true
  | _ => false

/-- The failure of a text that a level is unavailable for. -/
def Reason.failure? : Reason → Option Ldl.Failure
  | .broken failure => some failure
  | _ => none

/-- A level that cannot be loaded from texts, with a seed or without one, and why. -/
inductive Unloadable (texts : Table String) (levelId : String) (seed : Option Int) : Reason → Prop
  | unknown : texts.get? levelId = none → Unloadable texts levelId seed .unknown
  | broken {text : String} {failure : Ldl.Failure} :
      texts.get? levelId = some text → Ldl.compile text (some levelId) = .error failure →
      Unloadable texts levelId seed (.broken failure)
  -- no integer is written in the seed of the text, or one with more digits than are allowed
  | badSeed {text value : String} {b : Blueprint} :
      texts.get? levelId = some text → Ldl.compile text (some levelId) = .ok b → seed = none →
      b.setting? Setting.seed.key = some value →
      ((∀ sign digits, ¬ Text.WritesInteger value.toList sign digits) ∨
        ∃ sign digits, Text.WritesInteger value.toList sign digits ∧
          Text.maxDigits < digits.length) →
      Unloadable texts levelId seed (.badSeed value)

/-- A failure is behind it exactly if the text does not compile. -/
theorem Unloadable.failure?_eq_some_iff {texts : Table String} {levelId : String}
    {seed : Option Int} {reason : Reason} (h : Unloadable texts levelId seed reason)
    (failure : Ldl.Failure) : reason.failure? = some failure ↔ ∃ text,
      texts.get? levelId = some text ∧ Ldl.compile text (some levelId) = .error failure := by
  cases h with
  | unknown hnone => simp [Reason.failure?, hnone]
  | broken htext hcompile => simp [Reason.failure?, htext, hcompile]
  | badSeed htext hcompile => simp [Reason.failure?, htext, hcompile]

theorem configuredSeed_eq_error_iff {levelId : String} {b : Blueprint} {fault : Unavailable} :
    configuredSeed levelId b = .error fault ↔ ∃ value, b.setting? Setting.seed.key = some value ∧
      Text.readInt value = none ∧ fault = ⟨levelId, .badSeed value⟩ := by
  unfold configuredSeed
  cases b.setting? Setting.seed.key with
  | none => simp
  | some value => cases hread : Text.readInt value <;> simp [hread, eq_comm]

end Catalog

namespace Shelf

open Catalog (Unavailable Unloadable)

variable {shelf : Shelf} {levelId : String}

/-- Why a blueprint cannot be had. -/
theorem blueprint_eq_error_iff {fault : Unavailable} : shelf.blueprint levelId = .error fault ↔
    (shelf.texts.get? levelId = none ∧ fault = ⟨levelId, .unknown⟩) ∨
      ∃ text failure, shelf.texts.get? levelId = some text ∧
        Ldl.compile text (some levelId) = .error failure ∧ fault = ⟨levelId, .broken failure⟩ := by
  unfold blueprint
  cases shelf.texts.get? levelId with
  | none => simp [eq_comm]
  | some text =>
    cases hcompile : Ldl.compile text (some levelId) <;>
      simp [hcompile, Except.mapError, eq_comm]

/-- Loading fails where compiling does, and where the configured seed is wanted and is bad. -/
theorem load_eq_error_iff_blueprint {seed : Option Int} {mode : Option PlayMode}
    {fault : Unavailable} : shelf.load levelId seed mode = .error fault ↔
      shelf.blueprint levelId = .error fault ∨ ∃ b, shelf.blueprint levelId = .ok b ∧
        seed = none ∧ Catalog.configuredSeed levelId b = .error fault := by
  rw [load]
  cases shelf.blueprint levelId with
  | error fault' => simp [bind, Except.bind]
  | ok b =>
    cases seed with
    | some seed => simp [bind, Except.bind, pure, Except.pure]
    | none =>
      cases hseed : Catalog.configuredSeed levelId b <;>
        simp [hseed, bind, Except.bind, pure, Except.pure]

/-- A level is not loaded exactly if it cannot be, and the reason is that of the level. -/
theorem load_eq_error_iff {seed : Option Int} {mode : Option PlayMode} {fault : Unavailable} :
    shelf.load levelId seed mode = .error fault ↔
      fault.levelId = levelId ∧ Unloadable shelf.texts levelId seed fault.reason := by
  rw [load_eq_error_iff_blueprint, blueprint_eq_error_iff]
  constructor
  · rintro ((⟨hnone, rfl⟩ | ⟨text, failure, htext, hcompile, rfl⟩) | ⟨b, hb, hseed, hfault⟩)
    · exact ⟨rfl, .unknown hnone⟩
    · exact ⟨rfl, .broken htext hcompile⟩
    · obtain ⟨text, htext, hcompile⟩ := blueprint_eq_ok_iff.mp hb
      obtain ⟨value, hvalue, hread, rfl⟩ := Catalog.configuredSeed_eq_error_iff.mp hfault
      exact ⟨rfl, .badSeed htext hcompile hseed hvalue (Text.readInt_eq_none_iff.mp hread)⟩
  · obtain ⟨named, reason⟩ := fault
    rintro ⟨rfl, hreason⟩
    cases hreason with
    | unknown hnone => exact .inl (.inl ⟨hnone, rfl⟩)
    | broken htext hcompile => exact .inl (.inr ⟨_, _, htext, hcompile, rfl⟩)
    | badSeed htext hcompile hseed hvalue hwritten =>
      refine .inr ⟨_, blueprint_eq_ok_iff.mpr ⟨_, htext, hcompile⟩, hseed, ?_⟩
      exact Catalog.configuredSeed_eq_error_iff.mpr
        ⟨_, hvalue, Text.readInt_eq_none_iff.mpr hwritten, rfl⟩

/-- A level that is loaded without a seed, and has none in its text, has the one of its id. -/
theorem standardSeed_of_load {mode : Option PlayMode} {plan : LevelPlan}
    (h : shelf.load levelId none mode = .ok plan)
    (hnone : plan.blueprint.setting? Setting.seed.key = none) :
    standardSeed (.ofText levelId) = .ok plan.seed := by
  have hblueprint := blueprint_of_load h
  have hseed : Catalog.configuredSeed levelId plan.blueprint = .ok (textSeed levelId) := by
    rw [Catalog.configuredSeed, hnone]
  rw [load, hblueprint] at h
  simp only [hseed, bind, Except.bind, pure, Except.pure, Except.ok.injEq] at h
  rw [← h]
  exact standardSeed_ofText levelId

/-! ## Levels that can be had -/

/-- All ids stand in ascending order, and each of them once. -/
theorem pairwise_ids (shelf : Shelf) : shelf.ids.Pairwise (· < ·) := by
  have hperm : shelf.ids.Perm shelf.texts.keys := List.mergeSort_perm _ _
  have hnodup : shelf.ids.Nodup := hperm.nodup_iff.mpr shelf.texts.nodup_keys
  have hsorted : shelf.ids.Pairwise fun a b => decide (a ≤ b) = true := by
    refine List.pairwise_mergeSort ?_ ?_ _
    · intro a b c hab hbc
      exact decide_eq_true (String.le_trans (of_decide_eq_true hab) (of_decide_eq_true hbc))
    · intro a b
      rw [Bool.or_eq_true, decide_eq_true_iff, decide_eq_true_iff]
      exact String.le_total a b
  refine hsorted.imp₂ (fun a b hle hne => ?_) hnodup
  refine String.not_le.mp fun hge => hne ?_
  exact String.le_antisymm (of_decide_eq_true hle) hge

/-- The ids that can be had are those whose texts compile. -/
theorem mem_available_iff : levelId ∈ shelf.available ↔ ∃ text b,
    shelf.texts.get? levelId = some text ∧ Ldl.compile text (some levelId) = .ok b := by
  have hok : (shelf.blueprint levelId).isOk = true ↔ ∃ b, shelf.blueprint levelId = .ok b := by
    cases shelf.blueprint levelId <;> simp [Except.isOk, Except.toBool]
  rw [available, List.mem_filter, hok]
  constructor
  · rintro ⟨-, b, hb⟩
    obtain ⟨text, htext, hcompile⟩ := blueprint_eq_ok_iff.mp hb
    exact ⟨text, b, htext, hcompile⟩
  · rintro ⟨text, b, htext, hcompile⟩
    refine ⟨?_, b, blueprint_eq_ok_iff.mpr ⟨text, htext, hcompile⟩⟩
    exact (List.mergeSort_perm _ _).mem_iff.mpr
      (List.mem_map_of_mem (Table.mem_entries_of_get? htext))

/-- Two shelves with the same text of an id tell the same of it. -/
theorem mem_available_congr {other : Shelf}
    (h : shelf.texts.get? levelId = other.texts.get? levelId) :
    levelId ∈ shelf.available ↔ levelId ∈ other.available := by
  rw [mem_available_iff, mem_available_iff, h]

/-- A shelf changes by nothing but new texts. -/
theorem perform_snd_of_not_isAdd {call : Catalog.Call} (h : call.isAdd = false) :
    (shelf.perform call).2 = shelf := by
  cases call with
  | add levelId text => cases h
  | _ => rfl

end Shelf

namespace Catalog

/-- What a catalog answers about levels that cannot be had, after any calls. A text compiles to a
sealed blueprint or has a failure of its own. A level is not loaded exactly if it has no text, its
text does not compile, or the seed is left to its text and cannot be read there; the answer names
the level and the reason, with a failure behind it only if the text does not compile. A level that
configures no seed is loaded with that of its id, and only an id that is a text of characters has
one. The ids that can be had are those whose texts compile, in ascending order. No call but one that
gives a level a text changes any later answer, and what is answered about a level depends on its own
text alone. -/
theorem load_eq_error_iff_unloadable (texts : Table String) (calls : List Call) :
    let c := ((ofTexts texts).performAll calls).2
    (∀ text name, (∃ b, Ldl.compile text name = .ok b ∧ b.Sealed) ∨
      ∃ failure, Ldl.compile text name = .error failure ∧ failure.IsOfText) ∧
    (∀ levelId seed mode fault, (c.load levelId seed mode).1 = .error fault ↔
      fault.levelId = levelId ∧ Unloadable c.texts levelId seed fault.reason) ∧
    (∀ levelId seed mode fault, (c.load levelId seed mode).1 = .error fault → ∀ failure,
      fault.reason.failure? = some failure ↔ ∃ text,
        c.texts.get? levelId = some text ∧ Ldl.compile text (some levelId) = .error failure) ∧
    ((∀ levelId mode plan, (c.load levelId none mode).1 = .ok plan →
        plan.blueprint.setting? Setting.seed.key = none →
        standardSeed (.ofText levelId) = .ok plan.seed) ∧
      ∀ levelId : Text.Points, (∃ seed, standardSeed levelId = .ok seed) ↔
        ∃ text, levelId = .ofText text) ∧
    (c.available.1.Pairwise (· < ·) ∧ ∀ levelId, levelId ∈ c.available.1 ↔ ∃ text b,
      c.texts.get? levelId = some text ∧ Ldl.compile text (some levelId) = .ok b) ∧
    (∀ call, call.isAdd = false → ∀ later,
      ((c.perform call).2.performAll later).1 = (c.performAll later).1) ∧
    ∀ texts' calls' levelId, let c' := ((ofTexts texts').performAll calls').2
      c'.texts.get? levelId = c.texts.get? levelId →
      (c'.blueprint levelId).1 = (c.blueprint levelId).1 ∧
      (∀ seed mode, (c'.load levelId seed mode).1 = (c.load levelId seed mode).1) ∧
      (levelId ∈ c'.available.1 ↔ levelId ∈ c.available.1) := by
  intro c
  set shelf := (Shelf.performAll ⟨texts⟩ calls).2
  have hmirrors : c.Mirrors shelf := ((mirrors_ofTexts texts).performAll calls).mirrors
  have hload (levelId : String) (seed : Option Int) (mode : Option PlayMode)
      (fault : Unavailable) : (c.load levelId seed mode).1 = .error fault ↔
        fault.levelId = levelId ∧ Unloadable c.texts levelId seed fault.reason := by
    rw [(hmirrors.load levelId seed mode).answer, hmirrors.texts]
    exact Shelf.load_eq_error_iff
  refine ⟨Ldl.sealed_or_isOfText, hload, ?_, ⟨?_, fun _ => exists_standardSeed_iff⟩,
    ⟨?_, ?_⟩, ?_, ?_⟩
  · intro levelId seed mode fault hfault
    exact ((hload levelId seed mode fault).mp hfault).2.failure?_eq_some_iff
  · intro levelId mode plan hplan
    rw [(hmirrors.load levelId none mode).answer] at hplan
    exact Shelf.standardSeed_of_load hplan
  · rw [hmirrors.available.answer]
    exact shelf.pairwise_ids.filter _
  · intro levelId
    rw [hmirrors.available.answer, hmirrors.texts]
    exact Shelf.mem_available_iff
  · intro call hcall later
    have hafter := (hmirrors.perform call).mirrors
    rw [Shelf.perform_snd_of_not_isAdd hcall] at hafter
    rw [(hafter.performAll later).answer, (hmirrors.performAll later).answer]
  · intro texts' calls' levelId c' htexts
    have hmirrors' := ((mirrors_ofTexts texts').performAll calls').mirrors
    rw [hmirrors'.texts, hmirrors.texts] at htexts
    have hblueprint := Shelf.blueprint_congr htexts
    refine ⟨?_, fun seed mode => ?_, ?_⟩
    · rw [(hmirrors'.blueprint levelId).answer, (hmirrors.blueprint levelId).answer, hblueprint]
    · rw [(hmirrors'.load levelId seed mode).answer, (hmirrors.load levelId seed mode).answer]
      exact Shelf.load_eq_of_blueprint_eq hblueprint seed mode
    · rw [hmirrors'.available.answer, hmirrors.available.answer]
      exact Shelf.mem_available_congr htexts

/-- A text that does not compile, one whose seed is no integer, and one without fault. -/
def brookDuskAndMeadow : Table String :=
  .ofList [("meadow", ""), ("dusk", "#SETTING::SEED->soon"), ("brook", "\x7b")]

theorem load_eq_error_iff_unloadable_dusk :
    let c := ((ofTexts brookDuskAndMeadow).performAll [.available]).2
    (c.load "dusk" none none).1 = .error ⟨"dusk", .badSeed "soon"⟩ ∧
    (c.load "dawn" (some 7) none).1 = .error ⟨"dawn", .unknown⟩ ∧
    (∃ failure, failure.IsOfText ∧
      (c.load "brook" (some 7) none).1 = .error ⟨"brook", .broken failure⟩) ∧
    (∃ plan, (c.load "meadow" none none).1 = .ok plan ∧
      standardSeed (.ofText "meadow") = .ok plan.seed) ∧
    "dusk" ∈ c.available.1 ∧
    ((c.perform (.load "brook" none none)).2.performAll [.available]).1 =
      (c.performAll [.available]).1 ∧
    (c.load "meadow" none none).1 =
      ((ofTexts (.ofList [("meadow", "")])).load "meadow" none none).1 := by
  obtain ⟨hcompiles, hload, -, ⟨hseeds, -⟩, ⟨-, havailable⟩, hasks, halone⟩ :=
    load_eq_error_iff_unloadable brookDuskAndMeadow [.available]
  intro c
  have hmirrors : c.Mirrors ⟨brookDuskAndMeadow⟩ :=
    ((mirrors_ofTexts brookDuskAndMeadow).performAll [.available]).mirrors
  have htexts : c.texts = brookDuskAndMeadow := hmirrors.texts
  have hsoon : (Ldl.compile "#SETTING::SEED->soon" (some "dusk")).toOption.bind
      (·.setting? Setting.seed.key) = some "soon" := by
    decide +kernel
  obtain ⟨b, hdusk, hseed⟩ : ∃ b, Ldl.compile "#SETTING::SEED->soon" (some "dusk") = .ok b ∧
      b.setting? Setting.seed.key = some "soon" := by
    cases hdusk : Ldl.compile "#SETTING::SEED->soon" (some "dusk") with
    | error failure =>
      rw [hdusk] at hsoon
      cases hsoon
    | ok b =>
      rw [hdusk] at hsoon
      exact ⟨b, rfl, hsoon⟩
  have hbrook : (Ldl.compile "\x7b" (some "brook")).isOk = false := by decide +kernel
  have hmeadow : (Shelf.load ⟨brookDuskAndMeadow⟩ "meadow" none none).toOption.map
      (·.blueprint.setting? Setting.seed.key) = some none := by
    decide +kernel
  refine ⟨?_, ?_, ?_, ?_, ?_, hasks _ rfl _, ?_⟩
  · refine (hload ..).mpr ⟨rfl, .badSeed (by rw [htexts]; rfl) hdusk rfl hseed ?_⟩
    exact Text.readInt_eq_none_iff.mp (by decide +kernel)
  · exact (hload ..).mpr ⟨rfl, .unknown (by rw [htexts]; rfl)⟩
  · rcases hcompiles "\x7b" (some "brook") with ⟨b', hok, -⟩ | ⟨failure, herror, hfailure⟩
    · rw [hok] at hbrook
      cases hbrook
    · exact ⟨failure, hfailure, (hload ..).mpr ⟨rfl, .broken (by rw [htexts]; rfl) herror⟩⟩
  · cases hplan : Shelf.load ⟨brookDuskAndMeadow⟩ "meadow" none none with
    | error fault =>
      rw [hplan] at hmeadow
      cases hmeadow
    | ok plan =>
      rw [hplan] at hmeadow
      have hloaded := (hmirrors.load "meadow" none none).answer.trans hplan
      exact ⟨plan, hloaded, hseeds _ _ _ hloaded (Option.some.inj hmeadow)⟩
  · exact (havailable "dusk").mpr ⟨_, b, by rw [htexts]; rfl, hdusk⟩
  · exact ((halone (.ofList [("meadow", "")]) [] "meadow" (by rw [htexts]; rfl)).2.1 _ _).symm

/-- An id that is one surrogate cannot be encoded, and it has no seed where none is configured. -/
theorem standardSeed_surrogate :
    standardSeed ⟨[0xDCFF]⟩ = .error ⟨⟨[0xDCFF]⟩, 0⟩ := by
  rfl

end Catalog

end LevelForge
