import LineStore.Proofs.Cache.Load
/-!
# Reads and checks in terms of loads

A read of a key loads it when it has no entry, or when it is asked to reload and the entry is stale; a
check loads it when the entry is stale; a sweep over several keys loads those that are stale.  Nothing
else that they do changes the cache.
-/
namespace LineStore.Cache

/-- Does `key` have an entry, and is it stale? -/
def isStaleAt (w : World) (c : Cache) (key : Bytes) : Bool := (c.entries.get? key).any (isStale w)

def readLoads (w : World) (c : Cache) (key : Bytes) (reload : Bool) : Bool :=
  !c.isCached key || reload && c.isStaleAt w key

def loadEach (w : World) (c : Cache) (ks : List Bytes) : Cache :=
  ks.foldl (fun c k => (load w c k).cache) c

theorem isStale_iff (w : World) (e : Entry) :
    isStale w e = true ↔ ∃ st, e.witness = some st ∧ w.fileAt e.path ≠ some st := by
  cases hst : e.witness <;> simp [isStale, hst]

theorem isStale_of_loadedIn {w : World} {search : List Bytes} {key : Bytes} {e : Entry}
    (h : e.LoadedIn w search key) : isStale w e = false := by
  rw [← Bool.not_eq_true, isStale_iff]
  rintro ⟨st, hst, hne⟩
  exact hne (h.witness st hst).2

theorem checkEntry_value (w : World) (c : Cache) (key : Bytes) (e : Entry) :
    (checkEntry w c key e).value = isStale w e := by
  unfold checkEntry
  cases hst : e.witness with
  | none => simp [isStale, hst]
  | some st => by_cases hs : isStale w e = true <;> simp [hs]

theorem checkEntry_cache (w : World) (c : Cache) (key : Bytes) (e : Entry) :
    (checkEntry w c key e).cache = if isStale w e then (load w c key).cache else c := by
  unfold checkEntry
  cases hst : e.witness with
  | none => simp [isStale, hst]
  | some st => by_cases hs : isStale w e = true <;> simp [hs]

private theorem check_stale (w : World) (c : Cache) (key : Bytes) :
    (check w c key).value.stale = c.isStaleAt w key := by
  unfold check isStaleAt
  cases he : c.entries.get? key with
  | none => rfl
  | some e => exact checkEntry_value w c key e

theorem check_cache (w : World) (c : Cache) (key : Bytes) :
    (check w c key).cache = if c.isStaleAt w key then (load w c key).cache else c := by
  unfold check isStaleAt
  cases he : c.entries.get? key with
  | none => rfl
  | some e => exact checkEntry_cache w c key e

private theorem fetch_cache (w : World) (c : Cache) (key : Bytes) :
    (fetch w c key).cache = if c.isCached key then c else (load w c key).cache := by
  unfold fetch isCached Assoc.contains
  cases he : c.entries.get? key with
  | some e => rfl
  | none => cases hv : (load w c key).value <;> simp [hv]

private theorem fetch_value (w : World) (c : Cache) (key : Bytes) :
    (fetch w c key).value =
      if c.isCached key then c.entries.get? key else (load w c key).value.toOption := by
  unfold fetch isCached Assoc.contains
  cases he : c.entries.get? key with
  | some e => rfl
  | none => cases hv : (load w c key).value <;> simp [hv, Except.toOption]

theorem lookup_cache (w : World) (c : Cache) (key : Bytes) (reload : Bool) :
    (lookup w c key reload).cache =
      if c.readLoads w key reload then (load w c key).cache else c := by
  cases reload with
  | false => cases hc : c.isCached key <;> simp [lookup, fetch_cache, readLoads, hc]
  | true =>
    cases he : c.entries.get? key with
    | none => simp [lookup, he, fetch_cache, readLoads, isCached, Assoc.contains]
    | some e =>
      have hstale : c.isStaleAt w key = isStale w e := by rw [isStaleAt, he, Option.any_some]
      cases hs : isStale w e <;>
        simp [lookup, he, Outcome.andThen, checkEntry_value, checkEntry_cache, fetch_cache, readLoads,
          isCached, Assoc.contains, hstale, hs]

theorem lookup_value (w : World) (c : Cache) (key : Bytes) (reload : Bool) :
    (lookup w c key reload).value =
      if c.readLoads w key reload then (load w c key).value.toOption else c.entries.get? key := by
  cases reload with
  | false => cases hc : c.isCached key <;> simp [lookup, fetch_value, readLoads, hc]
  | true =>
    cases he : c.entries.get? key with
    | none => simp [lookup, he, fetch_value, readLoads, isCached, Assoc.contains]
    | some e =>
      have hstale : c.isStaleAt w key = isStale w e := by rw [isStaleAt, he, Option.any_some]
      -- A stale key was reloaded by the check, so its entry is what that load left.
      have hloaded : (load w c key).cache.entries.get? key = (load w c key).value.toOption := by
        rw [load_get?, if_pos rfl]
      cases hs : isStale w e <;>
        simp [lookup, he, Outcome.andThen, checkEntry_value, checkEntry_cache, fetch_value, readLoads,
          isCached, Assoc.contains, hstale, hs, hloaded]

private theorem loadEach_cons (w : World) (c : Cache) (k : Bytes) (ks : List Bytes) :
    c.loadEach w (k :: ks) = (load w c k).cache.loadEach w ks := rfl

@[simp] theorem loadEach_searchPath (w : World) (c : Cache) (ks : List Bytes) :
    (c.loadEach w ks).searchPath = c.searchPath := by
  induction ks generalizing c with
  | nil => rfl
  | cons k ks ih => rw [loadEach_cons, ih, load_searchPath]

theorem loadEach_distinct (w : World) {c : Cache} (h : c.entries.Distinct) (ks : List Bytes) :
    (c.loadEach w ks).entries.Distinct := by
  induction ks generalizing c with
  | nil => exact h
  | cons k ks ih => exact ih (load_distinct w h k)

theorem loadEach_get?_of_notMem (w : World) (c : Cache) {ks : List Bytes} {k : Bytes} (h : k ∉ ks) :
    (c.loadEach w ks).entries.get? k = c.entries.get? k := by
  induction ks generalizing c with
  | nil => rfl
  | cons k' ks ih =>
    rw [List.mem_cons, not_or] at h
    rw [loadEach_cons, ih _ h.2, load_get?, if_neg h.1]

/-- A key that was loaded has what some load of it built. -/
theorem loadEach_get?_of_mem (w : World) (c : Cache) {ks : List Bytes} {k : Bytes} (h : k ∈ ks) :
    ∃ c' : Cache, c'.searchPath = c.searchPath ∧
      (c.loadEach w ks).entries.get? k = (load w c' k).value.toOption := by
  induction ks generalizing c with
  | nil => cases h
  | cons k' ks ih =>
    rw [loadEach_cons]
    by_cases hk : k ∈ ks
    · obtain ⟨c', hc', hget⟩ := ih (load w c k').cache hk
      exact ⟨c', hc'.trans (load_searchPath w c k'), hget⟩
    · have hkk : k = k' := (List.mem_cons.mp h).resolve_right hk
      refine ⟨c, rfl, ?_⟩
      rw [loadEach_get?_of_notMem w _ hk, load_get?, if_pos hkk, hkk]

private theorem isStaleAt_load_of_ne (w : World) (c : Cache) {key k : Bytes} (h : k ≠ key) :
    (load w c key).cache.isStaleAt w k = c.isStaleAt w k := by
  rw [isStaleAt, isStaleAt, load_get?, if_neg h]

/-- The check of a key may load it, and so leaves the staleness of every other key as it was. -/
theorem filter_isStaleAt_check (w : World) (c : Cache) {k : Bytes} {ks : List Bytes} (hk : k ∉ ks) :
    ks.filter ((check w c k).cache.isStaleAt w) = ks.filter (c.isStaleAt w) := by
  apply List.filter_congr
  intro k' hk'
  have hne : k' ≠ k := fun he => hk (he ▸ hk')
  rw [check_cache]
  split
  · exact isStaleAt_load_of_ne w c hne
  · rfl

/-- A sweep over distinct keys finds those that are stale at its start, and loads these. -/
theorem checkKeys_eq (w : World) {ks : List Bytes} (hks : ks.Nodup) (c : Cache) :
    (checkKeys w ks c).value = ks.filter (c.isStaleAt w) ∧
      (checkKeys w ks c).cache = c.loadEach w (ks.filter (c.isStaleAt w)) := by
  induction ks generalizing c with
  | nil => exact ⟨rfl, rfl⟩
  | cons k ks ih =>
    obtain ⟨hk, hks⟩ := List.nodup_cons.mp hks
    obtain ⟨hvalue, hcache⟩ := ih hks (check w c k).cache
    rw [filter_isStaleAt_check w c hk] at hvalue hcache
    simp only [checkKeys, Outcome.andThen, Outcome.map, check_stale, hvalue, hcache]
    rw [List.filter_cons, check_cache]
    cases hs : c.isStaleAt w k with
    | true => exact ⟨rfl, rfl⟩
    | false => exact ⟨rfl, rfl⟩

theorem checkAll_eq (w : World) {c : Cache} (h : c.entries.Distinct) :
    (checkAll w c).value = c.keys.filter (c.isStaleAt w) ∧
      (checkAll w c).cache = c.loadEach w (c.keys.filter (c.isStaleAt w)) :=
  checkKeys_eq w (Assoc.keys_nodup h) c

end LineStore.Cache
