import LevelForge.Proofs.Spawner.Calls

/-!
# Choices of spawners

Of all symbols that a spawner is asked for only the group symbols draw from its key: those without a
maker that name a group with members. The key is forked once for each of them, and what one of them
comes to follows from the first key, from how many came before it and from the members of its group.
So symbols that are registered or unknown may be put in between, and no choice changes.

* `resolveAll_spec`: what symbols come to, and the key afterwards.
* `performAll_requests`: requests are answered by what their symbols come to.
* `picks_of_requests`: the choices made for requests.
-/

namespace LevelForge

/-- A key after some choices: it is forked for each of them. -/
def Random.Key.after (key : Random.Key) : Nat → Random.Key
  | 0 => key
  | choices + 1 => key.fork.1.after choices

namespace Spawner

/-- The members among which a symbol chooses: it has no maker, and it names a group that has
some. -/
def choices? (s : Spawner) (symbol : String) : Option (List String) :=
  if s.registry.contains symbol then none else (s.groups.get? symbol).filter (· ≠ [])

/-- The symbols among some that choose a member of a group. -/
def groupSymbols (s : Spawner) (symbols : List String) : List String :=
  symbols.filter fun symbol => (s.choices? symbol).isSome

/-- The member that a key chooses after some choices. -/
def pick (key : Random.Key) (before : Nat) (members : List String) : Option String :=
  members[(key.after before).fork.2.below members.length]?

/-- The members that the group symbols among some come to, in order. -/
def picks (s : Spawner) (symbols : List String) : List String :=
  ((symbols.zip (s.resolveAll symbols).value).filter
    fun entry => (s.choices? entry.1).isSome).map Prod.snd

/-- The answer to a request whose symbol comes to a given one: this symbol, or what its maker
makes. -/
def answerWith (s : Spawner) (resolved : String) : Request → Reply
  | .resolve _ => .symbol resolved
  | .place p =>
    .element ((s.registry.get? resolved).bind fun maker => maker { p with symbol := resolved })

/-! ## Symbols -/

section Symbols

variable {s : Spawner}

/-- The member of a group that is chosen first. -/
theorem pick_zero (key : Random.Key) (first : String) (others : List String) :
    pick key 0 (first :: others) = some (choose key.fork.2 first others) := by
  have hlt := key.fork.2.below_lt (Nat.succ_pos others.length)
  exact List.getElem?_eq_some_iff.mpr ⟨hlt, rfl⟩

theorem pick_succ (key : Random.Key) (before : Nat) (members : List String) :
    pick key (before + 1) members = pick key.fork.1 before members := rfl

/-- A group symbol forks the key and comes to the member that the fork chooses. -/
theorem resolve_of_choices?_eq_some {symbol : String} {members : List String}
    (h : s.choices? symbol = some members) :
    ∃ member, pick s.key 0 members = some member ∧
      s.resolve symbol = ⟨member, s.reseed s.key.fork.1, []⟩ := by
  unfold choices? at h
  split at h
  · cases h
  · next hunregistered =>
    obtain ⟨hgroup, hne⟩ := Option.filter_eq_some_iff.mp h
    match members with
    | [] => simp at hne
    | first :: others =>
      have hlookUp : s.lookUp symbol = .group first others := by
        rw [lookUp, if_neg hunregistered, hgroup]
      refine ⟨choose s.key.fork.2 first others, pick_zero s.key first others, ?_⟩
      rw [Spawner.resolve, hlookUp]
      rfl

/-- Any other symbol leaves the spawner as it is. -/
theorem spawner_resolve_of_choices?_eq_none {symbol : String} (h : s.choices? symbol = none) :
    (s.resolve symbol).spawner = s := by
  by_cases hregistered : s.registry.contains symbol = true
  · rw [resolve_of_registered hregistered]
  · unfold choices? at h
    rw [if_neg hregistered] at h
    have hlookUp : s.lookUp symbol = .unknown := by
      rw [lookUp, if_neg hregistered]
      split
      · next first others hgroup => simp [hgroup] at h
      · rfl
    rw [Spawner.resolve, hlookUp]

/-- Symbols leave a spawner with its key forked once for each group symbol among them, and the group
symbols come to the members that the key chooses in turn. -/
theorem resolveAll_spec (s : Spawner) (symbols : List String) :
    (s.resolveAll symbols).spawner = s.reseed (s.key.after (s.groupSymbols symbols).length) ∧
    (s.picks symbols).map some = (symbols.filterMap s.choices?).mapIdx (pick s.key) := by
  induction symbols generalizing s with
  | nil => exact ⟨rfl, rfl⟩
  | cons symbol rest ih =>
    obtain ⟨hspawner, hpicks⟩ := ih (s.resolve symbol).spawner
    cases hchoices : s.choices? symbol with
    | none =>
      rw [spawner_resolve_of_choices?_eq_none hchoices] at hspawner hpicks
      rw [groupSymbols, List.filter_cons_of_neg (by simp [hchoices]),
        List.filterMap_cons_none hchoices, ← hpicks, picks, resolveAll]
      dsimp only
      rw [spawner_resolve_of_choices?_eq_none hchoices, List.zip_cons_cons,
        List.filter_cons_of_neg (by simp [hchoices])]
      exact ⟨hspawner, rfl⟩
    | some members =>
      obtain ⟨member, hpick, hresolve⟩ := resolve_of_choices?_eq_some hchoices
      rw [hresolve] at hspawner hpicks
      -- the rest chooses with the key that the fork has left
      have hlater : (fun before => pick s.key (before + 1)) = pick s.key.fork.1 := by
        funext before members
        exact pick_succ s.key before members
      rw [groupSymbols, List.filter_cons_of_pos (by simp [hchoices]), List.length_cons,
        Random.Key.after, List.filterMap_cons_some hchoices, List.mapIdx_cons, hpick, hlater, picks,
        resolveAll]
      dsimp only
      rw [hresolve, List.zip_cons_cons, List.filter_cons_of_pos (by simp [hchoices])]
      exact ⟨hspawner, congrArg (some member :: ·) hpicks⟩

end Symbols

/-! ## Requests -/

section Requests

variable {s t : Spawner}

/-- A request is answered by what its symbol comes to, and draws what the symbol draws. -/
theorem exists_ask_eq_answerWith (s : Spawner) (request : Request) :
    (s.ask request).value = s.answerWith (s.resolve request.symbol).value request ∧
    (s.ask request).spawner.key = (s.resolve request.symbol).spawner.key := by
  obtain ⟨key, hresolve⟩ := s.exists_resolve_eq request.symbol
  cases request with
  | resolve symbol => exact ⟨rfl, rfl⟩
  | place p =>
    unfold Spawner.ask Spawner.place answerWith
    simp only [Request.symbol] at hresolve ⊢
    simp only [hresolve]
    split
    · next hnone => exact ⟨congrArg Reply.element hnone.symm, rfl⟩
    · next element hsome => exact ⟨congrArg Reply.element hsome.symm, rfl⟩

/-- Requests are answered by what their symbols come to, and draw what the symbols draw. -/
theorem performAll_requests (h : s.SameSetUp t) (hkey : s.key = t.key) (requests : List Request) :
    (s.performAll (requests.map .ask)).value =
      List.zipWith t.answerWith (t.resolveAll (requests.map Request.symbol)).value requests ∧
    (s.performAll (requests.map .ask)).spawner.key =
      (t.resolveAll (requests.map Request.symbol)).spawner.key := by
  induction requests generalizing s t with
  | nil => exact ⟨rfl, hkey⟩
  | cons request rest ih =>
    obtain ⟨hvalue, hdrawn⟩ := s.exists_ask_eq_answerWith request
    obtain ⟨key, hask⟩ := s.exists_ask_eq request
    obtain ⟨value, key', warnings, hs, ht⟩ := h.resolve_eq hkey request.symbol
    obtain rfl : key = key' := by rw [hask, hs] at hdrawn; exact hdrawn
    have hanswer : s.answerWith value request = t.answerWith value request := by
      cases request with
      | resolve symbol => rfl
      | place p => rw [answerWith, h.registry]; rfl
    obtain ⟨hvalues, hkeys⟩ := ih (h.having key key (s.ask request).value.made []) rfl
    rw [having_nil] at hvalues hkeys
    rw [List.map_cons, List.map_cons, performAll, resolveAll]
    dsimp only [Spawner.perform]
    rw [ht, hask]
    refine ⟨?_, hkeys⟩
    rw [hvalues, hvalue, hs, hanswer, List.zipWith_cons_cons]
    rfl

/-- A spawner that is asked for symbols answers by what these come to. Its key is forked once for
each group symbol, and what the group symbols come to is chosen in turn by the first key, the number
of choices before and the members of the group. So two spawners with the same registered symbols,
the same groups and the same key choose alike if they are asked for the same group symbols, whatever
else they are asked for in between, and they come to the same key. -/
theorem picks_of_requests (s : Spawner) (requests : List Request) :
    let symbols := requests.map Request.symbol
    let done := s.performAll (requests.map .ask)
    done.value = List.zipWith s.answerWith (s.resolveAll symbols).value requests ∧
    done.spawner.key = s.key.after (s.groupSymbols symbols).length ∧
    (s.picks symbols).map some = (symbols.filterMap s.choices?).mapIdx (pick s.key) ∧
    ∀ (t : Spawner) (others : List Request),
      (∀ symbol, s.registry.contains symbol = t.registry.contains symbol) →
      (∀ group, s.groups.get? group = t.groups.get? group) → s.key = t.key →
      s.groupSymbols symbols = t.groupSymbols (others.map Request.symbol) →
      s.picks symbols = t.picks (others.map Request.symbol) ∧
      done.spawner.key = (t.performAll (others.map .ask)).spawner.key := by
  intro symbols done
  obtain ⟨hvalue, hdrawn⟩ := performAll_requests (.refl s) rfl requests
  obtain ⟨hspawner, hpicks⟩ := s.resolveAll_spec symbols
  have hkey : done.spawner.key = s.key.after (s.groupSymbols symbols).length := by
    rw [hdrawn, hspawner]
    rfl
  refine ⟨hvalue, hkey, hpicks, fun t others hregistry hgroups hsame hsymbols => ?_⟩
  obtain ⟨-, hdrawn'⟩ := performAll_requests (.refl t) rfl others
  obtain ⟨hspawner', hpicks'⟩ := t.resolveAll_spec (others.map Request.symbol)
  -- both choose among the same members
  have hchoices : s.choices? = t.choices? := by
    funext symbol
    rw [choices?, choices?, hregistry, hgroups]
  have hmembers (u : Spawner) (symbols : List String) :
      symbols.filterMap u.choices? = (u.groupSymbols symbols).filterMap u.choices? := by
    rw [groupSymbols, List.filterMap_filter]
    refine List.filterMap_congr fun symbol _ => ?_
    cases u.choices? symbol <;> rfl
  refine ⟨?_, ?_⟩
  · rw [hmembers, hsymbols, hchoices, ← hmembers, hsame, ← hpicks'] at hpicks
    exact List.map_injective_iff.mpr (fun _ _ => Option.some.inj) hpicks
  · rw [hkey, hdrawn', hspawner', hsymbols, hsame]
    rfl

theorem picks_of_requests_enemies :
    let requests : List Request := [.resolve "Enemy", .place ⟨"Boss", 1, 8, []⟩]
    let others : List Request :=
      [.resolve "Rocket", .place ⟨"Enemy", 4, 7, []⟩, .resolve "Mystery", .resolve "Boss"]
    create.picks (requests.map Request.symbol) = create.picks (others.map Request.symbol) ∧
    (create.performAll (requests.map .ask)).spawner.key =
      (create.performAll (others.map .ask)).spawner.key := by
  intro requests others
  exact (picks_of_requests create requests).2.2.2 create others (fun _ => rfl) (fun _ => rfl) rfl
    (by decide +kernel)

end Requests

end Spawner

end LevelForge
