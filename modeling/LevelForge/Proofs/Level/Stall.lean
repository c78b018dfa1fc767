import LevelForge.Proofs.Level.Ending

/-!
# Giving up

A generation counts the segments without width that it builds in a row and gives up when there are
more than a whole round of templates. Where templates come in order that is a sign that the level
has no width to offer, and where gaps are left or the level ends it cannot come about. A shuffled
endless level may choose as many templates without width by chance, and a generation then gives up
although there is width to offer.

* `Play.generate_of_offersWidth`: a generation of a level with width to offer does not give up,
  unless it is left to chance.
* `Play.generate_lottery`: where it is left to chance, a generation may give up.
-/

namespace LevelForge

/-- The template of an empty block. -/
def Template.bare : Template := ⟨[], nofun⟩

namespace LevelPlan

/-- An endless level in order: a floor of one tile, and an empty block. -/
def brook : LevelPlan where
  levelId := "brook"
  blueprint :=
    { name := some "brook"
      settings := .ofList [("INFINITE", "1")]
      templates := #[.floor 1, .bare]
      frozen := true
      bosses := ⟨[], true⟩ }

/-- The same level shuffled. -/
def lottery : LevelPlan where
  levelId := "lottery"
  blueprint :=
    { name := some "lottery"
      settings := .ofList [("INFINITE", "1"), ("SHUFFLE", "1")]
      templates := #[.floor 1, .bare]
      frozen := true
      bosses := ⟨[], true⟩ }
  seed := 10

/-- The brook is filled from an empty blueprint, as every level text fills one. -/
theorem filled_brook : brook.blueprint.Filled := by
  have hempty : Blueprint.Filled { name := some "brook" } := .empty _
  have hendless := hempty.setSetting "INFINITE" "1" rfl
  have hblocks := (hendless.addTemplate (.floor 1) rfl).addTemplate .bare rfl
  exact hblocks.freeze

/-- The lottery is filled from an empty blueprint. -/
theorem filled_lottery : lottery.blueprint.Filled := by
  have hempty : Blueprint.Filled { name := some "lottery" } := .empty _
  have hendless := hempty.setSetting "INFINITE" "1" rfl
  have hshuffled := hendless.setSetting "SHUFFLE" "1" rfl
  have hblocks := (hshuffled.addTemplate (.floor 1) rfl).addTemplate .bare rfl
  exact hblocks.freeze

/-- The floor tile of the brook has width. -/
theorem offersWidth_brook : brook.blueprint.OffersWidth :=
  .inl ⟨.floor 1, by simp [brook], by decide⟩

/-- The floor tile of the lottery has width. -/
theorem offersWidth_lottery : lottery.blueprint.OffersWidth :=
  .inl ⟨.floor 1, by simp [lottery], by decide⟩

/-- The brook is not shuffled, so it leaves nothing to chance. -/
theorem not_isGamble_brook : ¬ brook.blueprint.IsGamble := by
  rintro ⟨-, hshuffle, -, -⟩
  cases hshuffle

end LevelPlan

namespace Play

variable {plan : LevelPlan} {history : List Segment} {p : Play} {s : Spawner}

/-- A generation of a level with width to offer goes on to its column or to the end of the level
and does not warn of a level without width, whatever was called before, unless the level is endless,
chooses at random and may choose templates without width. -/
theorem generate_of_offersWidth (hfilled : plan.blueprint.Filled)
    (hreach : Reachable plan history p) (hspawner : p.spawner = some s)
    (hoffers : plan.blueprint.OffersWidth) (hgamble : ¬ plan.blueprint.IsGamble) (target : Int) :
    ∃ done, p.generate target = .ok done ∧
      (∀ levelId, .zeroWidthLevel levelId ∉ done.warnings) ∧
      (target ≤ done.play.level.state.frontier ∨ done.play.level.hasNext = false) := by
  have hadmissible := hfilled.admissible
  have hplan := (Level.onCourse_of_reachable hadmissible hreach).1
  obtain ⟨done, hdone, -, hend⟩ :=
    exists_generate_ending (hplan.symm ▸ hadmissible) hspawner target
  refine ⟨done, hdone, ?_⟩
  rcases hend with ⟨hquiet, hreaches | hexhausts⟩ | hgivesUp
  · exact ⟨hquiet, .inl hreaches.reached⟩
  · exact ⟨hquiet, .inr hexhausts.nothingLeft⟩
  · exact absurd ⟨hoffers, hgamble⟩ (hreach.endless_of_givesUp hadmissible hdone hgivesUp).2

/-- The brook is built as far as its hundredth column. -/
theorem generate_of_offersWidth_brook :
    LevelPlan.brook.blueprint.Filled ∧ Reachable .brook [] (start .brook (some .create)) ∧
      LevelPlan.brook.blueprint.OffersWidth ∧ ¬ LevelPlan.brook.blueprint.IsGamble ∧
      ∃ done, (start .brook (some .create)).generate 100 = .ok done ∧
        (∀ levelId, .zeroWidthLevel levelId ∉ done.warnings) ∧
        (100 ≤ (done.play.level.state.frontier : Int) ∨ done.play.level.hasNext = false) :=
  ⟨LevelPlan.filled_brook, .start _, LevelPlan.offersWidth_brook, LevelPlan.not_isGamble_brook,
    generate_of_offersWidth LevelPlan.filled_brook (.start (some .create)) rfl
      LevelPlan.offersWidth_brook LevelPlan.not_isGamble_brook 100⟩

/-- Four choices without width in a row are enough to give up on a level of two templates, though
one of them has width. -/
theorem generate_lottery :
    LevelPlan.lottery.blueprint.Filled ∧ LevelPlan.lottery.blueprint.OffersWidth ∧
      Reachable .lottery [] (start .lottery (some .create)) ∧
      ∃ done, (start .lottery (some .create)).generate 13 = .ok done ∧
        .zeroWidthLevel "lottery" ∈ done.warnings ∧
        done.play.level.state.frontier < 13 ∧ done.play.level.hasNext = true := by
  refine ⟨LevelPlan.filled_lottery, LevelPlan.offersWidth_lottery, .start _, ?_⟩
  have hrun : ((start .lottery (some .create)).generateWithin 13 52).map (·.map fun done =>
      (done.warnings, done.play.level.state.frontier, done.play.level.hasNext)) =
      some (.ok ([.zeroWidthLevel "lottery"], 12, true)) := by
    decide +kernel
  rw [generateWithin_eq (by decide), Option.map_some, Option.some_inj] at hrun
  cases hdone : (start .lottery (some .create)).generate 13 with
  | error fault => rw [hdone] at hrun; cases hrun
  | ok done =>
    rw [hdone] at hrun
    obtain ⟨hwarnings, hfrontier, hnext⟩ :
        done.warnings = [.zeroWidthLevel "lottery"] ∧ done.play.level.state.frontier = 12 ∧
          done.play.level.hasNext = true := by
      simpa [Except.map] using hrun
    exact ⟨done, rfl, by simp [hwarnings], by omega, hnext⟩

end Play

end LevelForge
