import LineStore.Proofs.Cache.Run
/-!
# Checking the whole cache

A sweep over the cache names exactly the keys whose files changed, reloads or evicts those, and leaves
nothing stale behind, so a second sweep in the same world finds nothing to do.  While no source is
populated, what a reload gives does not depend on the other keys, and the sweep can be made in any
order.
-/
namespace LineStore

/-- What is at `path` is not the file that `st` was taken of: nothing can be told of it, or it is a
directory, or its size or time is another one. -/
def World.Changed (w : World) (path : Bytes) (st : Witness) : Prop :=
  w.stat path = none ∨ ∃ info, w.stat path = some info ∧
    (info.isDir = true ∨ info.witness.size ≠ st.size ∨ info.witness.mtime ≠ st.mtime)

theorem World.changed_iff (w : World) (path : Bytes) (st : Witness) :
    w.Changed path st ↔ w.fileAt path ≠ some st := by
  obtain ⟨size, mtime⟩ := st
  unfold World.Changed World.fileAt
  cases hstat : w.stat path with
  | none => simp
  | some info =>
    obtain ⟨⟨size', mtime'⟩, isDir⟩ := info
    cases isDir with
    | true => simp
    | false =>
      simp only [reduceCtorEq, Option.some.injEq, false_or, exists_eq_left', Bool.false_eq_true,
        if_false, Witness.mk.injEq, ne_eq, not_and]
      tauto

namespace Cache

theorem isStaleAt_iff (w : World) (c : Cache) (key : Bytes) :
    c.isStaleAt w key = true ↔
      ∃ e st, c.entries.get? key = some e ∧ e.witness = some st ∧ w.Changed e.path st := by
  unfold isStaleAt
  cases he : c.entries.get? key with
  | none => simp
  | some e =>
    rw [Option.any_some, isStale_iff]
    constructor
    · rintro ⟨st, hst, hne⟩
      exact ⟨e, st, rfl, hst, (w.changed_iff e.path st).mpr hne⟩
    · rintro ⟨e', st, he', hst, hchanged⟩
      cases he'
      exact ⟨st, hst, (w.changed_iff e.path st).mp hchanged⟩

def Settled (w : World) (c : Cache) : Prop := ∀ key, c.isStaleAt w key = false

private theorem Settled.checkAll {w : World} {c : Cache} (h : c.Settled w)
    (hc : c.entries.Distinct) :
    (checkAll w c).value = [] ∧ (checkAll w c).cache = c := by
  have hnone : c.keys.filter (c.isStaleAt w) = [] := by
    refine List.filter_eq_nil_iff.mpr ?_
    intro k _
    rw [h k]
    exact Bool.false_ne_true
  obtain ⟨hvalue, hcache⟩ := checkAll_eq w hc
  rw [hnone] at hvalue hcache
  exact ⟨hvalue, hcache⟩

section Sweep

variable (w : World) {c : Cache} (hc : c.entries.Distinct)

include hc

theorem mem_checkAll_iff (key : Bytes) :
    key ∈ (checkAll w c).value ↔ c.isStaleAt w key = true := by
  rw [(checkAll_eq w hc).1, List.mem_filter]
  refine ⟨fun h => h.2, fun h => ⟨?_, h⟩⟩
  rw [keys, Assoc.mem_keys_iff]
  intro hnone
  rw [isStaleAt, hnone] at h
  cases h

private theorem checkAll_sorted : (checkAll w c).value.Pairwise (· < ·) := by
  rw [(checkAll_eq w hc).1]
  exact (Assoc.keys_sorted hc).filter _

private theorem checkAll_get?_of_notMem {key : Bytes} (h : key ∉ (checkAll w c).value) :
    (checkAll w c).cache.entries.get? key = c.entries.get? key := by
  rw [(checkAll_eq w hc).1] at h
  rw [(checkAll_eq w hc).2]
  exact loadEach_get?_of_notMem w c h

private theorem checkAll_get?_of_mem {key : Bytes} (h : key ∈ (checkAll w c).value) :
    ∃ c' : Cache, c'.searchPath = c.searchPath ∧
      (checkAll w c).cache.entries.get? key = (load w c' key).value.toOption := by
  rw [(checkAll_eq w hc).1] at h
  rw [(checkAll_eq w hc).2]
  exact loadEach_get?_of_mem w c h

theorem checkAll_nodup : (checkAll w c).value.Nodup := by
  rw [(checkAll_eq w hc).1]
  exact (Assoc.keys_nodup hc).filter _

theorem checkAll_searchPath : (checkAll w c).cache.searchPath = c.searchPath := by
  rw [(checkAll_eq w hc).2, loadEach_searchPath]

theorem checkAll_distinct : (checkAll w c).cache.entries.Distinct := by
  rw [(checkAll_eq w hc).2]
  exact loadEach_distinct w hc _

private theorem checkAll_settled : (checkAll w c).cache.Settled w := by
  intro key
  by_cases hkey : key ∈ (checkAll w c).value
  · obtain ⟨c', _, hget⟩ := checkAll_get?_of_mem w hc hkey
    rw [isStaleAt, hget]
    cases hv : (load w c' key).value.toOption with
    | none => rfl
    | some e => exact isStale_of_loadedIn (load_loadedIn hv)
  · rw [isStaleAt, checkAll_get?_of_notMem w hc hkey]
    rw [mem_checkAll_iff w hc, Bool.not_eq_true] at hkey
    exact hkey

end Sweep

/-- Where no source is populated, loading some keys gives each what the disk holds for it. -/
theorem loadEach_get? {w : World} (hsource : ∀ name, w.source name = none) (c : Cache)
    (ks : List Bytes) (k : Bytes) :
    (c.loadEach w ks).entries.get? k =
      if k ∈ ks then w.readEntry c.searchPath k else c.entries.get? k := by
  by_cases hk : k ∈ ks
  · obtain ⟨c', hsearch, hget⟩ := loadEach_get?_of_mem w c hk
    rw [if_pos hk, hget, load_toOption hsource, hsearch]
  · rw [if_neg hk, loadEach_get?_of_notMem w c hk]

private theorem run_check (w : World) (ks : List Bytes) (c : Cache) :
    c.run (ks.map fun k => (w, .check k)) = (checkKeys w ks c).cache := by
  induction ks generalizing c with
  | nil => rfl
  | cons k ks ih => exact ih (check w c k).cache

private theorem run_check_perm {w : World} (hsource : ∀ name, w.source name = none) {c : Cache}
    (hc : c.entries.Distinct) {ks : List Bytes} (hks : ks.Perm c.keys) (k : Bytes) :
    (c.run (ks.map fun k => (w, .check k))).entries.get? k =
      (checkAll w c).cache.entries.get? k := by
  have hnodup : ks.Nodup := hks.nodup_iff.mpr (Assoc.keys_nodup hc)
  rw [run_check, (checkKeys_eq w hnodup c).2, (checkAll_eq w hc).2, loadEach_get? hsource,
    loadEach_get? hsource]
  simp only [List.mem_filter, hks.mem_iff]

/-- A sweep is exact and leaves nothing to do for the next one. -/
theorem checkAll_exact (search : List Bytes) (steps : List (World × Call)) (w : World) :
    let c := (empty search).run steps
    let o := checkAll w c
    -- It names, in strict order, the keys whose files changed,
    o.value.Pairwise (· < ·) ∧
    (∀ key, key ∈ o.value ↔
      ∃ e st, c.entries.get? key = some e ∧ e.witness = some st ∧ w.Changed e.path st) ∧
    -- leaves the other entries alone and caches nothing new,
    (∀ key, key ∉ o.value → o.cache.entries.get? key = c.entries.get? key) ∧
    (∀ key, c.isCached key = false → o.cache.isCached key = false) ∧
    -- and every witness matches the file it is of, so that a second sweep does nothing.
    (∀ key e st, o.cache.entries.get? key = some e → e.witness = some st →
      w.fileAt e.path = some st) ∧
    (checkAll w o.cache).value = [] ∧ (checkAll w o.cache).cache = o.cache ∧
    -- Without sources the keys may be checked in any order.
    ((∀ name, w.source name = none) → ∀ ks : List Bytes, ks.Perm c.keys → ∀ key,
      (c.run (ks.map fun k => (w, .check k))).entries.get? key = o.cache.entries.get? key) := by
  intro c o
  have hc : c.entries.Distinct := run_distinct (empty_distinct search) steps
  have hsettled := checkAll_settled w hc
  obtain ⟨hnone, hsame⟩ := hsettled.checkAll (checkAll_distinct w hc)
  refine ⟨checkAll_sorted w hc, ?_, ?_, ?_, ?_, hnone, hsame, ?_⟩
  · intro key
    exact (mem_checkAll_iff w hc key).trans (isStaleAt_iff w c key)
  · intro key hkey
    exact checkAll_get?_of_notMem w hc hkey
  · intro key hkey
    have hget : c.entries.get? key = none := by simpa [isCached, Assoc.contains] using hkey
    have hnot : key ∉ o.value := by
      rw [mem_checkAll_iff w hc, isStaleAt, hget]
      exact Bool.false_ne_true
    rw [isCached, Assoc.contains, checkAll_get?_of_notMem w hc hnot, hget]
    rfl
  · intro key e st he hst
    by_contra hne
    have hstale : o.cache.isStaleAt w key = true := by
      rw [isStaleAt, he]
      exact (isStale_iff w e).mpr ⟨st, hst, hne⟩
    rw [hsettled key] at hstale
    cases hstale
  · intro hsource ks hks key
    exact run_check_perm hsource hc hks key

/-- Two spellings of one path, checked one after the other after the file was rewritten. -/
theorem checkAll_exact_two_spellings :
    let a : Bytes := [0x2f, 0x61]
    let b : Bytes := [0x2f, 0x2f, 0x61]
    let before := World.single a [0x78, 0x0a] 1
    let after := World.single a [0x79, 0x79, 0x0a] 2
    let c := (empty []).run [(before, .read .lines a false), (before, .read .lines b false)]
    (∀ name, after.source name = none) ∧ [a, b].Perm c.keys ∧ c.isStaleAt after b = true ∧
      (c.run [(after, .check a), (after, .check b)]).entries.get? b =
        (checkAll after c).cache.entries.get? b := by
  intro a b before after c
  have hkeys : c.entries.pairs.map (·.1) = [a, b] := by decide +kernel
  have hperm : [a, b].Perm c.keys := hkeys ▸ (List.mergeSort_perm _ _).symm
  have hsource : ∀ name, after.source name = none := fun _ => rfl
  obtain ⟨_, _, _, _, _, _, _, horder⟩ := checkAll_exact []
    [(before, .read .lines a false), (before, .read .lines b false)] after
  exact ⟨hsource, hperm, by decide +kernel, horder hsource [a, b] hperm b⟩

end Cache
end LineStore
