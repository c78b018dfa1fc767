import LevelForge.Level
import LevelForge.Proofs.Boss.Crossing
import LevelForge.Proofs.Level.Itinerary
import Mathlib.Data.List.DropRight

/-!
# Campaigns

The law of the boss rules over a whole history, said without the marks that a level keeps: the
rules look at the progress since the latest arena, and an arena answers to the least threshold that
was crossed there. `Campaign` reads a history by that law and logs what won, and here is what it
entails.

* `Campaign.increasing`: the winning thresholds are further apart than an arena is wide.
* `Campaign.nodup_once`: a rule for one threshold wins at most once.
* `Campaign.not_missed`: where a threshold was crossed, an arena follows or the level ends.
-/

namespace LevelForge.Boss

open Schedule (Wins Crosses)

/-- Progress behind a history. -/
def progressAfter (history : List Segment) : Int := Level.progress (Segment.span history)

/-- Progress behind the latest arena of a history, and zero before the first. -/
def arenaEnd (history : List Segment) : Int :=
  let upToArena := history.rdropWhile (·.kind ≠ .boss)
  if upToArena = [] then 0 else progressAfter upToArena

/-- A history whose arenas answer to the thresholds crossed since the arena before, with the rules
and thresholds that won. -/
inductive Campaign (b : Blueprint) : List Segment → List (Rule × Int) → Prop
  | start : Campaign b [] []
  -- no template is handed out where a threshold was crossed
  | quiet {history : List Segment} {wins : List (Rule × Int)} {s : Segment} :
      Campaign b history wins → s.kind ≠ .boss →
      (s.kind ≠ .terminal →
        ¬ Crosses b.bosses.rules (arenaEnd history) (progressAfter history)) →
      Campaign b (history ++ [s]) wins
  -- an arena follows a template only, and its boss is that of the winner
  | arena {history : List Segment} {wins : List (Rule × Int)} {last : Segment} {rule : Rule}
      {t : Int} :
      Campaign b history wins → last ∈ history.getLast? → last.kind = .regular →
      Wins b.bosses.rules (arenaEnd history) rule t → t ≤ progressAfter history →
      Campaign b (history ++ [.arena rule.symbol b.aliases]) (wins ++ [(rule, t)])

@[simp]
theorem arenaEnd_nil : arenaEnd [] = 0 := by
  rw [arenaEnd, List.rdropWhile_nil, if_pos rfl]

theorem arenaEnd_concat_of_ne (history : List Segment) {s : Segment} (hkind : s.kind ≠ .boss) :
    arenaEnd (history ++ [s]) = arenaEnd history := by
  unfold arenaEnd
  rw [List.rdropWhile_concat_pos _ _ _ (by simpa using hkind)]

theorem arenaEnd_concat_of_eq (history : List Segment) {s : Segment} (hkind : s.kind = .boss) :
    arenaEnd (history ++ [s]) = progressAfter (history ++ [s]) := by
  unfold arenaEnd
  rw [List.rdropWhile_concat_neg _ _ _ (by simpa using hkind)]
  exact if_neg (List.append_ne_nil_of_right_ne_nil _ (List.cons_ne_nil _ _))

theorem progressAfter_arena (history : List Segment) (boss : String) (aliases : Table String) :
    progressAfter (history ++ [.arena boss aliases]) =
      progressAfter history + World.arenaWidth := by
  have hwidth : (Segment.arena boss aliases).totalWidth = World.arenaWidth := rfl
  unfold progressAfter Level.progress
  rw [Segment.span_append, Segment.span_singleton, hwidth]
  omega

/-- A segment of a longer history is the last one, or one of the history before. -/
theorem concat_eq_append_cons {history before after : List Segment} {last s : Segment}
    (hsplit : history ++ [last] = before ++ s :: after) :
    (history = before ∧ last = s) ∨ ∃ after', history = before ++ s :: after' := by
  rcases List.eq_nil_or_concat after with rfl | ⟨after', y, rfl⟩
  · obtain ⟨rfl, hlast⟩ := List.append_inj' hsplit rfl
    cases hlast
    exact .inl ⟨rfl, rfl⟩
  · rw [List.concat_eq_append, ← List.cons_append, ← List.append_assoc] at hsplit
    exact .inr ⟨after', (List.append_inj' hsplit rfl).1⟩

namespace Campaign

variable {b : Blueprint} {history : List Segment} {wins : List (Rule × Int)}

/-- Every winner is a rule of the blueprint that has the threshold it won with. -/
theorem isThreshold (h : Campaign b history wins) :
    ∀ win ∈ wins, win.1 ∈ b.bosses.rules ∧ win.1.IsThreshold win.2 := by
  induction h with
  | start => intro win hwin; cases hwin
  | quiet _ _ _ ih => exact ih
  | arena _ _ _ hwins _ ih =>
    intro win hwin
    rcases List.mem_append.mp hwin with hold | hnew
    · exact ih win hold
    · obtain rfl := List.mem_singleton.mp hnew
      exact ⟨hwins.mem, hwins.isThreshold⟩

/-- An arena ends at least its width behind all thresholds that have won. -/
theorem le_arenaEnd (h : Campaign b history wins) :
    ∀ win ∈ wins, win.2 + World.arenaWidth ≤ arenaEnd history := by
  induction h with
  | start => intro win hwin; cases hwin
  | @quiet history wins s _ hkind _ ih =>
    rw [arenaEnd_concat_of_ne history hkind]
    exact ih
  | @arena history wins last rule t _ _ _ hwins hreached ih =>
    -- the new arena ends its width behind the progress that reached its threshold
    rw [arenaEnd_concat_of_eq history rfl, progressAfter_arena]
    intro win hwin
    rcases List.mem_append.mp hwin with hold | hnew
    · have := ih win hold
      have := hwins.above
      omega
    · obtain rfl := List.mem_singleton.mp hnew
      omega

/-- The winning thresholds grow, each by more than the width of an arena. -/
theorem increasing (h : Campaign b history wins) :
    wins.Pairwise fun win (later : Rule × Int) => win.2 + World.arenaWidth < later.2 := by
  induction h with
  | start => exact .nil
  | quiet _ _ _ ih => exact ih
  | arena h _ _ hwins _ ih =>
    refine List.pairwise_append.mpr ⟨ih, List.pairwise_singleton _ _, ?_⟩
    intro win hwin later hlater
    obtain rfl := List.mem_singleton.mp hlater
    exact lt_of_le_of_lt (h.le_arenaEnd win hwin) hwins.above

/-- No threshold wins twice. -/
theorem nodup_thresholds (h : Campaign b history wins) : (wins.map Prod.snd).Nodup := by
  refine List.pairwise_map.mpr (h.increasing.imp ?_)
  intro win later hlt heq
  omega

/-- A rule for one threshold wins at most once. -/
theorem nodup_once (h : Campaign b history wins) :
    ((wins.filter fun win => !win.1.repeating).map Prod.fst).Nodup := by
  have hthreshold : ∀ win ∈ wins, win.1.repeating = false → win.2 = win.1.threshold := by
    intro win hwin honce
    have := (h.isThreshold win hwin).2
    rwa [Rule.IsThreshold, honce, if_neg Bool.false_ne_true] at this
  -- two wins of one such rule would be wins with one threshold
  refine List.pairwise_map.mpr ?_
  refine List.Pairwise.imp_of_mem ?_ (h.increasing.filter fun win => !win.1.repeating)
  intro win later hwin hlater hlt heq
  obtain ⟨hwin, honce⟩ := List.mem_filter.mp hwin
  obtain ⟨hlater, honce'⟩ := List.mem_filter.mp hlater
  have := hthreshold win hwin (by simpa using honce)
  have := hthreshold later hlater (by simpa using honce')
  rw [heq] at *
  omega

/-- Where a threshold was crossed since the latest arena, an arena follows or the level ends. -/
theorem not_missed (h : Campaign b history wins) {before after : List Segment} {s : Segment}
    (hsplit : history = before ++ s :: after)
    (hcrosses : Crosses b.bosses.rules (arenaEnd before) (progressAfter before)) :
    s.kind = .boss ∨ s.kind = .terminal := by
  induction h generalizing after with
  | start => cases before <;> cases hsplit
  | quiet _ hkind hquiet ih =>
    rcases concat_eq_append_cons hsplit with ⟨rfl, rfl⟩ | ⟨after', hbefore⟩
    · by_contra hneither
      exact hquiet (fun hterminal => hneither (.inr hterminal)) hcrosses
    · exact ih hbefore
  | arena _ _ _ _ _ ih =>
    rcases concat_eq_append_cons hsplit with ⟨rfl, rfl⟩ | ⟨after', hbefore⟩
    · exact .inl rfl
    · exact ih hbefore

end Campaign

end LevelForge.Boss
