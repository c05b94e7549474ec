import LineStore.Watch.Watcher
import LineStore.Proofs.Cache.Sweep
/-!
# What a scan does

A watcher that is alone with its cache tracks it: it has a fingerprint for exactly the keys that are
cached, and remembers their lines.  A scan finds the stale keys, tells what became of each, and looks
again for the keys that are missing; after it the watcher tracks the cache as before.
-/
namespace LineStore

namespace Cache

def linesOf (c : Cache) (key : Bytes) : Option (List Bytes) := (c.entries.get? key).map Entry.lines

private theorem linesOf_eq_none_iff {c : Cache} {key : Bytes} :
    c.linesOf key = none ↔ c.entries.get? key = none := Option.map_eq_none_iff

theorem isCached_eq (c : Cache) (key : Bytes) : c.isCached key = (c.linesOf key).isSome := by
  rw [isCached, Assoc.contains, linesOf, Option.isSome_map]

end Cache

def World.linesOf (w : World) (search : List Bytes) (key : Bytes) : Option (List Bytes) :=
  (w.readEntry search key).map Entry.lines

private theorem World.linesOf_text {w : World} {search : List Bytes} {key : Bytes} {ls : List Bytes}
    (h : w.linesOf search key = some ls) : splitLines ls.flatten = ls := by
  obtain ⟨e, he, rfl⟩ := Option.map_eq_some_iff.mp h
  obtain ⟨_, _, data, _, _, _, rfl⟩ := World.readEntry_eq_some_iff.mp he
  exact congrArg splitLines (flatten_splitLines data)

section Disk

variable {w : World} (hsource : ∀ name, w.source name = none) (c : Cache)

include hsource

private theorem Cache.load_linesOf (key k : Bytes) :
    (Cache.load w c key).cache.linesOf k =
      if k = key then w.linesOf c.searchPath key else c.linesOf k := by
  rw [Cache.linesOf, Cache.load_get?]
  split
  · rw [Cache.load_toOption hsource]
    rfl
  · rfl

private theorem Cache.lines_of_uncached {key : Bytes} (h : c.linesOf key = none) :
    (c.lines w key false).value = w.linesOf c.searchPath key ∧
      (c.lines w key false).cache = (Cache.load w c key).cache := by
  have hloads : c.readLoads w key false = true := by simp [Cache.readLoads, Cache.isCached_eq, h]
  constructor
  · change (Cache.lookup w c key false).value.map Entry.lines = _
    rw [Cache.lookup_value, if_pos hloads, Cache.load_toOption hsource]
    rfl
  · change (Cache.lookup w c key false).cache = _
    rw [Cache.lookup_cache, if_pos hloads]

private theorem Cache.load_of_missing {key : Bytes} (h : c.linesOf key = none)
    (hdisk : w.linesOf c.searchPath key = none) : (Cache.load w c key).cache = c := by
  have hvalue : (Cache.load w c key).value.toOption = none := by
    rw [Cache.load_toOption hsource]
    exact Option.map_eq_none_iff.mp hdisk
  rcases Cache.load_cases w c key with ⟨_, _, _, hv, _⟩ | ⟨_, _, _, _, _, hv, _⟩ | ⟨_, _, _, _, hc⟩
  · rw [hv] at hvalue
    cases hvalue
  · rw [hv] at hvalue
    cases hvalue
  · rw [hc, Assoc.erase_of_get?_none (Cache.linesOf_eq_none_iff.mp h)]

end Disk

private theorem Cache.lines_of_cached (w : World) {c : Cache} {key : Bytes} {ls : List Bytes}
    (h : c.linesOf key = some ls) :
    (c.lines w key false).value = some ls ∧ (c.lines w key false).cache = c := by
  have hloads : ¬ c.readLoads w key false = true := by simp [Cache.readLoads, Cache.isCached_eq, h]
  constructor
  · change (Cache.lookup w c key false).value.map Entry.lines = _
    rw [Cache.lookup_value, if_neg hloads]
    exact h
  · change (Cache.lookup w c key false).cache = _
    rw [Cache.lookup_cache, if_neg hloads]

namespace Watcher

/-- The watcher has a fingerprint of exactly the keys that are cached, all of them watched, and
remembers their lines. -/
structure Tracks (lw : Watcher) (c : Cache) : Prop where
  prints : ∀ k, lw.prints.get? k = (c.linesOf k).map fingerprint
  lines : ∀ k ls, c.linesOf k = some ls → lw.lines.get? k = some ls
  watched : ∀ k ls, c.linesOf k = some ls → k ∈ lw.keys
  text : ∀ k ls, c.linesOf k = some ls → splitLines ls.flatten = ls
  distinct : c.entries.Distinct

theorem tracks_empty (search keys : List Bytes) : Tracks { keys } (Cache.empty search) where
  prints := fun _ => rfl
  lines := fun _ _ h => nomatch h
  watched := fun _ _ h => nomatch h
  text := fun _ _ h => nomatch h
  distinct := Cache.empty_distinct search

private theorem Tracks.remember {lw : Watcher} {c c' : Cache} (h : Tracks lw c) {key : Bytes}
    (hkey : key ∈ lw.keys) {ls : List Bytes} (htext : splitLines ls.flatten = ls)
    (hlines : ∀ k, c'.linesOf k = if k = key then some ls else c.linesOf k)
    (hdistinct : c'.entries.Distinct) : Tracks (lw.remember key ls) c' := by
  have hcases : ∀ k ls', c'.linesOf k = some ls' →
      (k = key ∧ ls = ls') ∨ (k ≠ key ∧ c.linesOf k = some ls') := by
    intro k ls' hls'
    rw [hlines] at hls'
    by_cases hk : k = key
    · rw [if_pos hk] at hls'
      exact .inl ⟨hk, Option.some.inj hls'⟩
    · rw [if_neg hk] at hls'
      exact .inr ⟨hk, hls'⟩
  refine ⟨?_, ?_, ?_, ?_, hdistinct⟩
  · intro k
    rw [hlines k, Watcher.remember, Assoc.get?_set]
    by_cases hk : k = key
    · simp [hk]
    · simpa [hk] using h.prints k
  · intro k ls' hls'
    rw [Watcher.remember, Assoc.get?_set]
    rcases hcases k ls' hls' with ⟨hk, rfl⟩ | ⟨hk, hold⟩
    · rw [if_pos hk]
    · rw [if_neg hk]
      exact h.lines k ls' hold
  · intro k ls' hls'
    rcases hcases k ls' hls' with ⟨rfl, _⟩ | ⟨_, hold⟩
    · exact hkey
    · exact h.watched k ls' hold
  · intro k ls' hls'
    rcases hcases k ls' hls' with ⟨_, rfl⟩ | ⟨_, hold⟩
    · exact htext
    · exact h.text k ls' hold

/-- A watched key whose lines are asked for is cached afterwards, and only its lines may be new. -/
theorem Tracks.lines_some {lw : Watcher} {c : Cache} (h : Tracks lw c) {w : World}
    (hsource : ∀ name, w.source name = none) {key : Bytes} (hkey : key ∈ lw.keys) {ls : List Bytes}
    (hvalue : (c.lines w key false).value = some ls) :
    Tracks (lw.remember key ls) (c.lines w key false).cache ∧
      ∀ k, (c.lines w key false).cache.linesOf k = if k = key then some ls else c.linesOf k := by
  cases hcached : c.linesOf key with
  | some ls' =>
    obtain ⟨hvalue', hcache⟩ := Cache.lines_of_cached w hcached
    have heq : ls' = ls := Option.some.inj (hvalue'.symm.trans hvalue)
    subst heq
    have hlines : ∀ k, c.linesOf k = if k = key then some ls' else c.linesOf k := by
      intro k
      by_cases hk : k = key <;> simp [hk, hcached]
    rw [hcache]
    exact ⟨h.remember hkey (h.text key ls' hcached) hlines h.distinct, hlines⟩
  | none =>
    obtain ⟨hdisk, hcache⟩ := Cache.lines_of_uncached hsource c hcached
    rw [hvalue] at hdisk
    have hlines : ∀ k, (Cache.load w c key).cache.linesOf k =
        if k = key then some ls else c.linesOf k := by
      intro k
      rw [Cache.load_linesOf hsource, ← hdisk]
    rw [hcache]
    exact ⟨h.remember hkey (World.linesOf_text hdisk.symm) hlines
      (Cache.load_distinct w h.distinct key), hlines⟩

/-- Takes down what a key now has: its lines, or nothing. -/
def note (lw : Watcher) (key : Bytes) : Option (List Bytes) → Watcher
  | some ls => lw.remember key ls
  | none => lw.forget key

/-- Takes down what the cache has for each of some keys. -/
def noteAll (lw : Watcher) (c : Cache) (ks : List Bytes) : Watcher :=
  ks.foldl (fun lw k => lw.note k (c.linesOf k)) lw

/-- What is told of a stale key, given what it now has. -/
def report (lw : Watcher) (key : Bytes) : Option (List Bytes) → Change
  | none => { key, kind := .removed, old := (lw.lines.get? key).getD [] }
  | some ls =>
    { key, kind := if fingerprint ls = (lw.prints.get? key).getD 0 then .touched else .modified
      old := (lw.lines.get? key).getD [], new := ls }

private theorem note_keys (lw : Watcher) (key : Bytes) (now : Option (List Bytes)) :
    (lw.note key now).keys = lw.keys := by
  cases now <;> rfl

private theorem note_prints (lw : Watcher) (key : Bytes) (now : Option (List Bytes)) (k : Bytes) :
    (lw.note key now).prints.get? k =
      if k = key then now.map fingerprint else lw.prints.get? k := by
  cases now with
  | none => exact Assoc.get?_erase lw.prints key k
  | some ls => exact Assoc.get?_set lw.prints key k (fingerprint ls)

private theorem note_lines (lw : Watcher) (key : Bytes) (now : Option (List Bytes)) (k : Bytes) :
    (lw.note key now).lines.get? k = if k = key then some (now.getD []) else lw.lines.get? k := by
  cases now with
  | none => exact Assoc.get?_set lw.lines key k []
  | some ls => exact Assoc.get?_set lw.lines key k ls

private theorem noteAll_keys (lw : Watcher) (c : Cache) (ks : List Bytes) :
    (lw.noteAll c ks).keys = lw.keys := by
  induction ks generalizing lw with
  | nil => rfl
  | cons k ks ih => exact (ih _).trans (note_keys lw k (c.linesOf k))

private theorem noteAll_prints (lw : Watcher) (c : Cache) (ks : List Bytes) (k : Bytes) :
    (lw.noteAll c ks).prints.get? k =
      if k ∈ ks then (c.linesOf k).map fingerprint else lw.prints.get? k := by
  induction ks generalizing lw with
  | nil => rfl
  | cons k' ks ih =>
    change ((lw.note k' (c.linesOf k')).noteAll c ks).prints.get? k = _
    rw [ih, note_prints]
    by_cases hks : k ∈ ks
    · simp [hks]
    · by_cases hk : k = k' <;> simp [hks, hk]

private theorem noteAll_lines (lw : Watcher) (c : Cache) (ks : List Bytes) (k : Bytes) :
    (lw.noteAll c ks).lines.get? k =
      if k ∈ ks then some ((c.linesOf k).getD []) else lw.lines.get? k := by
  induction ks generalizing lw with
  | nil => rfl
  | cons k' ks ih =>
    change ((lw.note k' (c.linesOf k')).noteAll c ks).lines.get? k = _
    rw [ih, note_lines]
    by_cases hks : k ∈ ks
    · simp [hks]
    · by_cases hk : k = k' <;> simp [hks, hk]

private theorem report_note_of_ne (lw : Watcher) {key k : Bytes} (h : k ≠ key)
    (now then_ : Option (List Bytes)) : (lw.note key then_).report k now = lw.report k now := by
  have hlines := note_lines lw key then_ k
  have hprints := note_prints lw key then_ k
  rw [if_neg h] at hlines hprints
  cases now <;> simp only [report, hlines, hprints]

section Classify

variable {w : World} (hsource : ∀ name, w.source name = none) {c : Cache}

include hsource

private theorem classify_eq (lw : Watcher) {k : Bytes}
    (hgone : c.linesOf k = none → w.linesOf c.searchPath k = none) :
    (classify w lw c k).value = (lw.report k (c.linesOf k), lw.note k (c.linesOf k)) ∧
      (classify w lw c k).cache = c := by
  -- A stale key that was evicted is looked for once more, in the same world and in vain.
  cases hk : c.linesOf k with
  | some ls =>
    obtain ⟨hvalue, hcache⟩ := Cache.lines_of_cached w hk
    refine ⟨?_, hcache⟩
    simp only [classify, Outcome.map, hvalue]
    rfl
  | none =>
    obtain ⟨hvalue, hcache⟩ := Cache.lines_of_uncached hsource c hk
    rw [hgone hk] at hvalue
    rw [Cache.load_of_missing hsource c hk (hgone hk)] at hcache
    refine ⟨?_, hcache⟩
    simp only [classify, Outcome.map, hvalue]
    rfl

private theorem classifyAll_eq {ks : List Bytes} (hks : ks.Nodup)
    (hgone : ∀ k ∈ ks, c.linesOf k = none → w.linesOf c.searchPath k = none) (lw : Watcher) :
    (classifyAll w ks lw c).value =
        (ks.map fun k => lw.report k (c.linesOf k), lw.noteAll c ks) ∧
      (classifyAll w ks lw c).cache = c := by
  induction ks generalizing lw with
  | nil => exact ⟨rfl, rfl⟩
  | cons k ks ih =>
    obtain ⟨hk, hks⟩ := List.nodup_cons.mp hks
    obtain ⟨hvalue, hcache⟩ := classify_eq hsource lw (hgone k List.mem_cons_self)
    obtain ⟨hvalues, hcaches⟩ := ih hks (fun k' hk' => hgone k' (List.mem_cons_of_mem _ hk'))
      (lw.note k (c.linesOf k))
    have hreports : (ks.map fun k' => (lw.note k (c.linesOf k)).report k' (c.linesOf k')) =
        ks.map fun k' => lw.report k' (c.linesOf k') := by
      apply List.map_congr_left
      intro k' hk'
      have hne : k' ≠ k := fun he => hk (he ▸ hk')
      exact report_note_of_ne lw hne _ _
    rw [hreports] at hvalues
    simp only [classifyAll, Outcome.andThen, Outcome.map, hvalue, hcache, hvalues, hcaches]
    exact ⟨rfl, trivial⟩

end Classify

def changesOf (key : Bytes) (changes : List Change) : List Change :=
  changes.filter fun ch => ch.key = key

/-- What is told of a missing key that was found again. -/
def restored (key : Bytes) (ls : List Bytes) : Change := { key, kind := .restored, new := ls }

private theorem cached_of_mem_checkAll {w : World} {c : Cache} (hc : c.entries.Distinct) {k : Bytes}
    (hk : k ∈ (c.checkAll w).value) : ∃ ls, c.linesOf k = some ls := by
  obtain ⟨e, st, he, _⟩ := (Cache.isStaleAt_iff w c k).mp ((Cache.mem_checkAll_iff w hc k).mp hk)
  exact ⟨e.lines, by rw [Cache.linesOf, he, Option.map_some]⟩

section Restore

variable {w : World} (hsource : ∀ name, w.source name = none)

include hsource

private theorem restoreAll_spec (ks : List Bytes) {lw : Watcher} {c : Cache} (h : Tracks lw c)
    (hks : ∀ k ∈ ks, k ∈ lw.keys) :
    let o := restoreAll w ks lw c
    (Tracks o.value.2 o.cache ∧ o.value.2.keys = lw.keys ∧ o.cache.searchPath = c.searchPath) ∧
    ∀ k, o.cache.linesOf k =
        (if k ∈ ks then (c.linesOf k).or (w.linesOf c.searchPath k) else c.linesOf k) ∧
      changesOf k o.value.1 =
        if k ∈ ks ∧ c.linesOf k = none then ((w.linesOf c.searchPath k).map (restored k)).toList
        else [] := by
  induction ks generalizing lw c with
  | nil => exact ⟨⟨h, rfl, rfl⟩, fun k => ⟨rfl, rfl⟩⟩
  | cons key ks ih =>
    have htail : ∀ k ∈ ks, k ∈ lw.keys := fun k hk => hks k (List.mem_cons_of_mem _ hk)
    have htracked : lw.prints.contains key = (c.linesOf key).isSome := by
      rw [Assoc.contains, h.prints, Option.isSome_map]
    intro o
    cases hkey : c.linesOf key with
    | some ls =>
      -- The key is there: it is passed over.
      have ho : o = restoreAll w ks lw c := by
        simp only [o, restoreAll, htracked, hkey, Option.isSome_some, Bool.true_or, if_true]
      obtain ⟨hstate, hrest⟩ := ih h htail
      rw [ho]
      refine ⟨hstate, ?_⟩
      intro k
      rw [(hrest k).1, (hrest k).2]
      by_cases hk : k = key
      · subst hk
        simp [hkey]
      · simp [hk]
    | none =>
      have hmissing : (lw.prints.contains key || c.isCached key) = false := by
        rw [htracked, Cache.isCached_eq, hkey]
        rfl
      obtain ⟨hvalue, hcache⟩ := Cache.lines_of_uncached hsource c hkey
      cases hdisk : w.linesOf c.searchPath key with
      | none =>
        -- Still missing: the failed load had no entry to drop.
        rw [hdisk] at hvalue
        rw [Cache.load_of_missing hsource c hkey hdisk] at hcache
        have ho : o.value = (restoreAll w ks lw c).value ∧ o.cache = (restoreAll w ks lw c).cache := by
          simp [o, restoreAll, hmissing, Outcome.andThen, hvalue, hcache]
        obtain ⟨hstate, hrest⟩ := ih h htail
        rw [ho.1, ho.2]
        refine ⟨hstate, ?_⟩
        intro k
        rw [(hrest k).1, (hrest k).2]
        by_cases hk : k = key
        · subst hk
          simp [hkey, hdisk]
        · simp [hk]
      | some ls =>
        rw [hdisk] at hvalue
        obtain ⟨htracks, hlines⟩ := h.lines_some hsource (hks key List.mem_cons_self) hvalue
        have ho : o.value.1 = restored key ls ::
              (restoreAll w ks (lw.remember key ls) (c.lines w key false).cache).value.1 ∧
            o.value.2 = (restoreAll w ks (lw.remember key ls) (c.lines w key false).cache).value.2 ∧
            o.cache = (restoreAll w ks (lw.remember key ls) (c.lines w key false).cache).cache := by
          simp [o, restoreAll, hmissing, Outcome.andThen, Outcome.map, hvalue, restored]
        obtain ⟨hstate, hrest⟩ := ih htracks htail
        rw [hcache, Cache.load_searchPath, ← hcache] at hstate hrest
        rw [ho.1, ho.2.1, ho.2.2]
        refine ⟨hstate, ?_⟩
        intro k
        rw [changesOf, List.filter_cons, ← changesOf, (hrest k).1, (hrest k).2, hlines]
        by_cases hk : k = key
        · subst hk
          simp [hkey, hdisk, restored]
        · simp [hk, restored, Ne.symm hk]

private theorem checkAll_linesOf {c : Cache} (hc : c.entries.Distinct) (k : Bytes) :
    (c.checkAll w).cache.linesOf k =
      if k ∈ (c.checkAll w).value then w.linesOf c.searchPath k else c.linesOf k := by
  obtain ⟨hvalue, hcache⟩ := Cache.checkAll_eq w hc
  rw [hvalue, hcache, Cache.linesOf, Cache.loadEach_get? hsource]
  split <;> rfl

private theorem Tracks.noteAll {lw : Watcher} {c : Cache} (h : Tracks lw c) :
    Tracks (lw.noteAll (c.checkAll w).cache (c.checkAll w).value) (c.checkAll w).cache := by
  have hlines := checkAll_linesOf hsource h.distinct
  refine ⟨?_, ?_, ?_, ?_, Cache.checkAll_distinct w h.distinct⟩
  · intro k
    rw [noteAll_prints]
    split
    · rfl
    · rename_i hk
      rw [hlines, if_neg hk, h.prints]
  · intro k ls hls
    rw [noteAll_lines, hls]
    split
    · rfl
    · rename_i hk
      rw [hlines, if_neg hk] at hls
      exact h.lines k ls hls
  · intro k ls hls
    rw [noteAll_keys]
    by_cases hk : k ∈ (c.checkAll w).value
    · obtain ⟨old, hold⟩ := cached_of_mem_checkAll h.distinct hk
      exact h.watched k old hold
    · rw [hlines, if_neg hk] at hls
      exact h.watched k ls hls
  · intro k ls hls
    rw [hlines] at hls
    split at hls
    · exact World.linesOf_text hls
    · exact h.text k ls hls

end Restore

/-- What a change says of the lines of a key, before it and after it. -/
inductive Step (key : Bytes) : Option (List Bytes) → Change → Option (List Bytes) → Prop
  | touch {old new : List Bytes} (h : fingerprint new = fingerprint old) :
      Step key (some old) { key, kind := .touched, old, new } (some new)
  | modify {old new : List Bytes} (h : fingerprint new ≠ fingerprint old) :
      Step key (some old) { key, kind := .modified, old, new } (some new)
  | remove (old : List Bytes) : Step key (some old) { key, kind := .removed, old } none
  | restore (new : List Bytes) : Step key none (restored key new) (some new)

/-- The changes of a key lead from the lines it had to those it has. -/
inductive Follows (key : Bytes) : Option (List Bytes) → List Change → Option (List Bytes) → Prop
  | nil (s : Option (List Bytes)) : Follows key s [] s
  | cons {s t u : Option (List Bytes)} {ch : Change} {rest : List Change} :
      Step key s ch t → Follows key t rest u → Follows key s (ch :: rest) u

private theorem Step.follows {key : Bytes} {s t : Option (List Bytes)} {ch : Change}
    (h : Step key s ch t) :
    Follows key s [ch] t := .cons h (.nil t)

theorem Follows.append {key : Bytes} {s t u : Option (List Bytes)} {l l' : List Change}
    (h : Follows key s l t) (h' : Follows key t l' u) : Follows key s (l ++ l') u := by
  induction h with
  | nil => exact h'
  | cons hstep _ ih => exact .cons hstep (ih h')

private theorem changesOf_map {f : Bytes → Change} (hf : ∀ k, (f k).key = k) {ks : List Bytes}
    (hks : ks.Nodup) (k : Bytes) : changesOf k (ks.map f) = if k ∈ ks then [f k] else [] := by
  induction ks with
  | nil => rfl
  | cons k' ks ih =>
    obtain ⟨hk', hks⟩ := List.nodup_cons.mp hks
    rw [List.map_cons, changesOf, List.filter_cons, ← changesOf, ih hks, hf]
    by_cases hk : k' = k
    · subst hk
      simp [hk']
    · simp [hk, Ne.symm hk]

private theorem report_key (lw : Watcher) (key : Bytes) (now : Option (List Bytes)) :
    (lw.report key now).key = key := by
  cases now <;> rfl

section Scan

variable {w : World} (hsource : ∀ name, w.source name = none) {lw : Watcher} {c : Cache}
  (h : Tracks lw c)

include hsource h

private theorem scan_eq :
    let swept := c.checkAll w
    let noted := lw.noteAll swept.cache swept.value
    let found := restoreAll w noted.keys noted swept.cache
    (scan w lw c).value = ((swept.value.map fun k => lw.report k (swept.cache.linesOf k)) ++
        found.value.1, found.value.2) ∧
      (scan w lw c).cache = found.cache := by
  intro swept noted found
  have hlines := checkAll_linesOf hsource h.distinct
  have hsearch := Cache.checkAll_searchPath w h.distinct
  -- A stale key without lines after the sweep was evicted by it, so the disk has none for it.
  have hgone : ∀ k ∈ swept.value, swept.cache.linesOf k = none →
      w.linesOf swept.cache.searchPath k = none := by
    intro k hk hnone
    rwa [hlines, if_pos hk, ← hsearch] at hnone
  obtain ⟨hvalue, hcache⟩ := classifyAll_eq hsource (Cache.checkAll_nodup w h.distinct) hgone lw
  simp [scan, Outcome.andThen, Outcome.map, hvalue, hcache, swept, noted, found]

/-- A scan tells of every key at most once and truly, and the watcher goes on tracking the cache. -/
theorem scan_spec :
    let o := scan w lw c
    (Tracks o.value.2 o.cache ∧ o.value.2.keys = lw.keys) ∧
      ∀ k, Follows k (c.linesOf k) (changesOf k o.value.1) (o.cache.linesOf k) ∧
        (changesOf k o.value.1).length ≤ 1 := by
  intro o
  have hc := h.distinct
  obtain ⟨hvalue, hcache⟩ := scan_eq hsource h
  obtain ⟨⟨htracks, hkeys, _⟩, hrest⟩ := restoreAll_spec hsource
    (lw.noteAll (c.checkAll w).cache (c.checkAll w).value).keys (h.noteAll hsource) (fun _ hk => hk)
  rw [hvalue, hcache]
  refine ⟨⟨htracks, hkeys.trans (noteAll_keys _ _ _)⟩, ?_⟩
  intro k
  rw [changesOf, List.filter_append, ← changesOf, ← changesOf, (hrest k).1, (hrest k).2,
    changesOf_map (fun k => report_key lw k _) (Cache.checkAll_nodup w hc),
    Cache.checkAll_searchPath w hc, checkAll_linesOf hsource hc]
  by_cases hk : k ∈ (c.checkAll w).value
  · obtain ⟨old, hold⟩ := cached_of_mem_checkAll hc hk
    have hprint := h.prints k
    rw [hold] at hprint
    cases hdisk : w.linesOf c.searchPath k with
    | none => simpa [hk, hold, report, h.lines k old hold] using (Step.remove old).follows
    | some new =>
      by_cases heq : fingerprint new = fingerprint old
      · simpa [hk, hold, report, h.lines k old hold, hprint, heq] using (Step.touch heq).follows
      · simpa [hk, hold, report, h.lines k old hold, hprint, heq] using (Step.modify heq).follows
  · cases hold : c.linesOf k with
    | some ls => simpa [hk] using Follows.nil (some ls)
    | none =>
      by_cases hkey : k ∈ lw.keys
      · cases hdisk : w.linesOf c.searchPath k with
        | none => simpa [hk] using Follows.nil none
        | some new => simpa [hk, hkey, noteAll_keys] using (Step.restore new).follows
      · simpa [hk, hkey, noteAll_keys] using Follows.nil none

end Scan

end Watcher
end LineStore
