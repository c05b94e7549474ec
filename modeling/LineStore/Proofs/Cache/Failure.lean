import LineStore.Proofs.Cache.Run
/-!
# Loads that fail

A load fails exactly when memory has no lines for the key and the disk is at fault: the name cannot be
expanded, leads to no file, or the file cannot be opened or read to its end.  All that a failed load does
is to drop the entry of its key.  So what a lookup gives is what is cached after it.
-/
namespace LineStore.Cache

namespace Attempt

variable {t : Attempt} {err : LoadError}

theorem Fault.isUnreadable (h : t.Fault err) : err.isUnreadable = t.resolution.found.isSome := by
  cases h with
  | noHome h =>
    rw [resolution, resolve_found, resolve_path_eq_none_iff.mpr h]
    rfl
  | notFound _ h =>
    rw [h]
    rfl
  | openFailed hfound _ => exact hfound.symm
  | readFailed hfound _ => exact hfound.symm

private theorem Fault.unique {err' : LoadError} (h : t.Fault err) (h' : t.Fault err') :
    err = err' := by
  have hread := h.isUnreadable.trans h'.isUnreadable.symm
  cases h with
  | noHome hexpand =>
    cases h' with
    | noHome => rfl
    | notFound hpath =>
      rw [resolution, resolve_path_eq_none_iff.mpr hexpand] at hpath
      cases hpath
    | openFailed => cases hread
    | readFailed => cases hread
  | notFound hpath =>
    cases h' with
    | noHome hexpand =>
      rw [resolution, resolve_path_eq_none_iff.mpr hexpand] at hpath
      cases hpath
    | notFound => rfl
    | openFailed => cases hread
    | readFailed => cases hread
  | openFailed _ hopen =>
    cases h' with
    | noHome => cases hread
    | notFound => cases hread
    | openFailed _ hopen' =>
      rw [hopen] at hopen'
      cases hopen'
      rfl
    | readFailed _ hfailed =>
      rw [hopen] at hfailed
      cases hfailed
  | readFailed _ hfailed =>
    cases h' with
    | noHome => cases hread
    | notFound => cases hread
    | openFailed _ hopen =>
      rw [hfailed] at hopen
      cases hopen
    | readFailed _ hfailed' =>
      rw [hfailed] at hfailed'
      cases hfailed'
      rfl

theorem value_eq_error_iff : t.outcome.value = .error err ↔ t.memory = none ∧ t.Fault err := by
  rcases outcome_cases t with
    ⟨name, lines, hs, _, hv, _⟩ | ⟨st, data, hmem, hf, hr, _, hv, _⟩ | ⟨err', hmem, hfault, _, hv, _⟩
  · rw [hv, memory_eq_some hs]
    simp
  · rw [hv]
    refine ⟨fun h => (nomatch h), fun ⟨_, hfault⟩ => ?_⟩
    rcases hfault.unreadable with hnone | hne
    · rw [hf] at hnone
      cases hnone
    · exact absurd hr (hne data)
  · rw [hv, Except.error.injEq]
    exact ⟨fun h => h ▸ ⟨hmem, hfault⟩, fun h => hfault.unique h.2⟩

private theorem cache_of_error (h : t.outcome.value = .error err) :
    t.outcome.cache = { t.cache with entries := t.cache.entries.erase t.key } := by
  rcases outcome_cases t with ⟨_, _, _, _, hv, _⟩ | ⟨_, _, _, _, _, _, hv, _⟩ | ⟨_, _, _, _, _, hc⟩
  · rw [hv] at h
    cases h
  · rw [hv] at h
    cases h
  · exact hc

private theorem unreadable_iff :
    (∃ err, t.outcome.value = .error err ∧ err.isUnreadable = true) ↔
      t.resolution.found.isSome = true ∧ t.memory = none ∧
        ∀ data, t.world.read t.path ≠ .content data := by
  constructor
  · rintro ⟨err, herr, hread⟩
    obtain ⟨hmem, hfault⟩ := value_eq_error_iff.mp herr
    have hfound := hfault.isUnreadable.symm.trans hread
    refine ⟨hfound, hmem, hfault.unreadable.resolve_left ?_⟩
    intro hnone
    rw [hnone] at hfound
    cases hfound
  · rintro ⟨hfound, hmem, hne⟩
    cases hr : t.world.read t.path with
    | content data => exact absurd hr (hne data)
    | openFailed why =>
      exact ⟨_, value_eq_error_iff.mpr ⟨hmem, .openFailed hfound hr⟩, rfl⟩
    | readFailed got why =>
      exact ⟨_, value_eq_error_iff.mpr ⟨hmem, .readFailed hfound hr⟩, rfl⟩

end Attempt

/-- A lookup gives the entry that is cached after it. -/
theorem lookup_get? (w : World) (c : Cache) (key : Bytes) (reload : Bool) :
    (lookup w c key reload).cache.entries.get? key = (lookup w c key reload).value := by
  rw [lookup_cache, lookup_value]
  split
  · rw [load_get?, if_pos rfl]
  · rfl

private theorem refresh_get? (w : World) (c : Cache) (key : Bytes) :
    ((refresh w c key).cache.entries.get? key).map Entry.lines = (refresh w c key).value := by
  rw [refresh_cache, load_get?, if_pos rfl]
  unfold refresh
  cases hv : (load w c key).value <;> simp [hv, Except.toOption]

private theorem isSome_lookup_map {α : Type} (f : Entry → α) (w : World) (c : Cache) (key : Bytes)
    (reload : Bool) :
    ((lookup w c key reload).map (Option.map f)).value.isSome =
      (lookup w c key reload).cache.isCached key := by
  rw [isCached, Assoc.contains, lookup_get?]
  exact Option.isSome_map

/-- Failed loads evict and do nothing else.  Wherever a call attempts a load, the load fails for the
causes listed by `Attempt.Fault` and no others; it then leaves the cache as it was, less the entry of its
key; and it fails on a file exactly when one was found, memory was no help, and it could not be opened or
read.  So a call that is to give a whole file has an answer exactly when it leaves the key cached. -/
theorem failed_load_evicts (search : List Bytes) (steps : List (World × Call)) (w : World) :
    let c := (empty search).run steps
    (∀ (a : Call) (earlier later : List Effect) (key : Bytes),
      a.effects w c = earlier ++ .load key :: later →
      let t : Attempt := ⟨w, c.replay (earlier.map (w, ·)), key⟩
      (call w c a).cache = t.outcome.cache.replay (later.map (w, ·)) ∧
      (∀ err, t.outcome.value = .error err ↔ t.memory = none ∧ t.Fault err) ∧
      (∀ err, t.outcome.value = .error err →
        t.outcome.cache = { t.cache with entries := t.cache.entries.erase key }) ∧
      ((∃ err, t.outcome.value = .error err ∧ err.isUnreadable = true) ↔
        t.resolution.found.isSome = true ∧ t.memory = none ∧
          ∀ data, w.read t.path ≠ .content data)) ∧
    ∀ key reload,
      (lines w c key reload).value.isSome = (lines w c key reload).cache.isCached key ∧
      (lineCount w c key reload).value.isSome = (lineCount w c key reload).cache.isCached key ∧
      (ensure w c key reload).value.isSome = (ensure w c key reload).cache.isCached key ∧
      (refresh w c key).value.isSome = (refresh w c key).cache.isCached key := by
  intro c
  have hc : c.entries.Distinct := run_distinct (empty_distinct search) steps
  refine ⟨?_, ?_⟩
  · intro a earlier later key ha t
    refine ⟨?_, fun _ => Attempt.value_eq_error_iff, fun _ => Attempt.cache_of_error,
      Attempt.unreadable_iff⟩
    rw [call_cache w hc, ha, List.map_append, replay_append]
    rfl
  · intro key reload
    refine ⟨isSome_lookup_map _ w c key reload, isSome_lookup_map _ w c key reload,
      isSome_lookup_map _ w c key reload, ?_⟩
    rw [isCached, Assoc.contains, ← refresh_get?, Option.isSome_map]

/-- A file grew since its lines were cached, and now breaks off after two bytes, a whole line: the read
that checks first gets nothing, and the old lines are gone as well. -/
theorem failed_load_evicts_broken_off :
    let key : Bytes := [0x2f, 0x61]
    let before := World.single key [0x78, 0x0a] 1
    let broken := { World.single key [0x78, 0x0a, 0x79] 2 with
      read := fun _ => .readFailed [0x78, 0x0a] (utf8 "input/output error") }
    let c := (empty []).run [(before, .read .lines key false)]
    let t : Attempt := ⟨broken, c, key⟩
    (Call.read .lines key true).effects broken c = [.load key] ∧
      t.outcome.value = .error (.readFailed key (utf8 "input/output error")) ∧
      (call broken c (.read .lines key true)).cache = { c with entries := c.entries.erase key } ∧
      (lines broken c key true).cache.isCached key = false := by
  intro key before broken c t
  have heffects : (Call.read .lines key true).effects broken c = [.load key] := by decide +kernel
  have hvalue : t.outcome.value = .error (.readFailed key (utf8 "input/output error")) := by
    decide +kernel
  have hnone : (lines broken c key true).value.isSome = false := by decide +kernel
  obtain ⟨hload, hcached⟩ := failed_load_evicts [] [(before, .read .lines key false)] broken
  obtain ⟨hcall, _, hevicts, _⟩ := hload (.read .lines key true) [] [] key heffects
  exact ⟨heffects, hvalue, hcall.trans (hevicts _ hvalue), (hcached key true).1 ▸ hnone⟩

end LineStore.Cache
