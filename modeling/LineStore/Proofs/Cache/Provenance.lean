import LineStore.Proofs.Cache.Run
/-!
# Where entries come from

Whatever calls are made and however the world changes between them, every entry of a cache was built
in one world: the one in which its key was last loaded.  No part of an older entry outlives a load, and
a digest filled in later is that of the lines beside it.
-/
namespace LineStore.Cache

/-- `w` is the world of the latest load of `key`, whether that load succeeded or failed. -/
def LatestLoad (h : List (World × Effect)) (key : Bytes) (w : World) : Prop :=
  ∃ earlier later, h = earlier ++ (w, .load key) :: later ∧ ∀ x ∈ later, x.2 ≠ .load key

private theorem latestLoad_concat (h : List (World × Effect)) (key : Bytes) (w : World) :
    LatestLoad (h ++ [(w, .load key)]) key w :=
  ⟨h, [], rfl, fun _ hx => nomatch hx⟩

private theorem LatestLoad.concat {h : List (World × Effect)} {key : Bytes} {w : World}
    (hl : LatestLoad h key w) {x : World × Effect} (hx : x.2 ≠ .load key) :
    LatestLoad (h ++ [x]) key w := by
  obtain ⟨earlier, later, rfl, hlater⟩ := hl
  refine ⟨earlier, later ++ [x], by simp, ?_⟩
  intro y hy
  rcases List.mem_append.mp hy with hy | hy
  · exact hlater y hy
  · rw [List.mem_singleton] at hy
    exact hy ▸ hx

theorem LatestLoad.mem {h : List (World × Effect)} {key : Bytes} {w : World}
    (hl : LatestLoad h key w) : (w, .load key) ∈ h := by
  obtain ⟨earlier, later, rfl, _⟩ := hl
  exact List.mem_append_right _ List.mem_cons_self

/-- Every entry belongs to the world of the latest load of its key. -/
def Sourced (h : List (World × Effect)) (c : Cache) : Prop :=
  ∀ key e, c.entries.get? key = some e →
    ∃ w, LatestLoad h key w ∧ e.LoadedIn w c.searchPath key

private theorem sourced_empty (search : List Bytes) : Sourced [] (empty search) := by
  intro key e he
  cases he

/-- The step: whichever effect takes place, entries keep belonging to the latest load. -/
theorem Sourced.apply {h : List (World × Effect)} {c : Cache} (hc : Sourced h c) (w : World)
    (x : Effect) : Sourced (h ++ [(w, x)]) (x.apply w c) := by
  intro key e he
  rw [Effect.apply_searchPath]
  cases x with
  | load k =>
    change (load w c k).cache.entries.get? key = some e at he
    rw [load_get?] at he
    by_cases hk : key = k
    -- The entry is what this load built: nothing of an older one is left in it.
    · rw [if_pos hk] at he
      subst hk
      exact ⟨w, latestLoad_concat h key w, load_loadedIn he⟩
    · rw [if_neg hk] at he
      obtain ⟨v, hv, hin⟩ := hc key e he
      exact ⟨v, hv.concat (by simpa using Ne.symm hk), hin⟩
  | digest k =>
    change (c.digest k).2.entries.get? key = some e at he
    rw [digest_get?] at he
    by_cases hk : key = k
    · rw [if_pos hk] at he
      obtain ⟨e', he', rfl⟩ := Option.map_eq_some_iff.mp he
      obtain ⟨v, hv, hin⟩ := hc key e' he'
      exact ⟨v, hv.concat (by simp), hin.withDigest⟩
    · rw [if_neg hk] at he
      obtain ⟨v, hv, hin⟩ := hc key e he
      exact ⟨v, hv.concat (by simp), hin⟩
  | clear k =>
    change (c.entries.erase k).get? key = some e at he
    rw [Assoc.get?_erase] at he
    by_cases hk : key = k
    · rw [if_pos hk] at he
      cases he
    · rw [if_neg hk] at he
      obtain ⟨v, hv, hin⟩ := hc key e he
      exact ⟨v, hv.concat (by simp), hin⟩
  | clearAll => cases he

private theorem Sourced.replay {h : List (World × Effect)} {c : Cache} (hc : Sourced h c)
    (h' : List (World × Effect)) : Sourced (h ++ h') (c.replay h') := by
  induction h' generalizing h c with
  | nil => rwa [List.append_nil]
  | cons x h' ih =>
    have hstep := ih (hc.apply x.1 x.2)
    rwa [List.append_assoc] at hstep

theorem run_sourced (search : List Bytes) (steps : List (World × Call)) :
    Sourced ((empty search).history steps) ((empty search).run steps) := by
  rw [run_eq_replay (empty_distinct search)]
  exact (sourced_empty search).replay _

/-- A run is the replay of its loads, digests and clearings, and every entry it leaves was built,
whole, in the world of the latest load of its key. -/
theorem run_entry_loadedIn_latest (search : List Bytes) (steps : List (World × Call)) :
    (empty search).run steps = (empty search).replay ((empty search).history steps) ∧
    ∀ key e, ((empty search).run steps).entries.get? key = some e →
      ∃ w ∈ steps.map Prod.fst, LatestLoad ((empty search).history steps) key w ∧
        e.LoadedIn w search key := by
  refine ⟨run_eq_replay (empty_distinct search) steps, ?_⟩
  intro key e he
  obtain ⟨w, hlatest, hin⟩ := run_sourced search steps key e he
  rw [run_empty_searchPath] at hin
  exact ⟨w, mem_history hlatest.mem, hlatest, hin⟩

/-- A file is rewritten after its lines and digest were taken; the check brings in a new entry, and
the digest asked for next is that of the new lines. -/
theorem run_entry_loadedIn_latest_rewritten :
    let key : Bytes := [0x2f, 0x61]
    let before := World.single key [0x78, 0x0a] 1
    let after := World.single key [0x79, 0x79, 0x0a] 2
    let steps := [(before, Call.read .lines key false), (before, .digest key), (after, .check key),
      (after, .digest key)]
    let e : Entry :=
      { witness := some ⟨3, ⟨2, 0⟩⟩, lines := [[0x79, 0x79, 0x0a]], path := key
        digest := some (Sha1.hexDigest [0x79, 0x79, 0x0a]) }
    ((empty []).run steps).entries.get? key = some e ∧
      ∃ w ∈ steps.map Prod.fst, LatestLoad ((empty []).history steps) key w ∧
        e.LoadedIn w [] key := by
  intro key before after steps e
  have he : ((empty []).run steps).entries.get? key = some e := by decide +kernel
  exact ⟨he, (run_entry_loadedIn_latest [] steps).2 key e he⟩

end LineStore.Cache
