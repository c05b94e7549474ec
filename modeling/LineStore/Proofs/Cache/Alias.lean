import LineStore.Proofs.Cache.Run
/-!
# A file under its resolved path

A key and the absolute path it was loaded from are two names of one content: loading the path right after
the key gives the same entry, whether the key was served by the disk, by a source of its name, or by one
that is known by its path.  Only a source of the path's own name would come in between.
-/
namespace LineStore.Cache

namespace Attempt

variable {t : Attempt}

/-- The load of the path itself, right after. -/
def again (t : Attempt) : Attempt := ⟨t.world, t.outcome.cache, t.path⟩

private theorem path_eq (habs : Path.isAbs t.path = true) : t.resolution.path = some t.path := by
  cases hp : t.resolution.path with
  | some p => rw [path, hp, Option.getD_some]
  | none =>
    -- An absolute key can be expanded, so it leads somewhere.
    have hkey : t.path = t.key := by rw [path, hp, Option.getD_none]
    have hexpand := resolve_path_eq_none_iff.mp hp
    rw [hkey] at habs
    rw [Resolve.expand?_of_isAbs t.world habs] at hexpand
    cases hexpand

private theorem again_resolution (habs : Path.isAbs t.path = true) :
    t.again.path = t.path ∧ t.again.resolution.found = t.resolution.found := by
  obtain ⟨hpath, hfound⟩ :=
    resolve_of_resolved (path_eq habs) habs t.again.cache.searchPath
  refine ⟨?_, hfound⟩
  have hagain : t.again.resolution.path = some t.path := hpath
  rw [path, hagain, Option.getD_some]

private theorem again_memory (habs : Path.isAbs t.path = true)
    (hsource : t.world.source t.path = none) :
    t.again.memory = (t.outcome.cache.reverse.get? t.path).bind t.world.source := by
  have hkey : t.again.world.source t.again.key = none := hsource
  have hpath : t.again.world.source t.again.path = none := by
    rw [(again_resolution habs).1]
    exact hsource
  rw [memory, hkey, hpath, Option.none_or, Option.none_or, (again_resolution habs).1]
  rfl

private theorem again_value {e : Entry} (hv : t.outcome.value = .ok e)
    (habs : Path.isAbs t.path = true)
    (hsource : t.world.source t.path = none) : t.again.outcome.value = .ok e := by
  obtain ⟨hpath, hfound⟩ := again_resolution habs
  have hmemory := again_memory habs hsource
  cases hmem : t.memory with
  | some lines =>
    -- The source that supplied the lines is the name the path is now known by.
    obtain ⟨hvalue, name, hname, hreverse⟩ := served hmem
    rw [hreverse, Assoc.get?_set_self, Option.bind_some, hname] at hmemory
    rw [(served hmemory).1, hpath, hfound, ← hvalue, hv]
  | none =>
    rcases outcome_cases t with
      ⟨_, _, hs, _⟩ | ⟨st, data, _, hf, hr, _, hvalue, _⟩ | ⟨_, _, _, _, hvalue, _⟩
    · rw [memory_eq_some hs] at hmem
      cases hmem
    -- No source supplied the key, so neither the key nor an older name of the path has one.
    · have hnone : t.again.memory = none := by
        rw [memory, Option.or_eq_none_iff, Option.or_eq_none_iff] at hmem
        rw [hmemory, (readFromDisk (by simp [memory, hmem]) hf hr).2, Option.bind_some]
        cases hprev : t.cache.reverse.get? t.path with
        | none => exact hmem.1
        | some prev => simpa [hprev] using hmem.2.2
      have hread : t.again.world.read t.again.path = .content data := by
        rw [hpath]
        exact hr
      rw [(readFromDisk hnone (hfound.trans hf) hread).1, hpath, ← hvalue, hv]
    · rw [hvalue] at hv
      cases hv

end Attempt

/-- Does the call load `key`, whatever has become of its file? -/
def Call.loads (c : Cache) (key : Bytes) : Call → Bool
  | refresh k => k == key
  | read _ k _ => k == key && !c.isCached k
  | _ => false

private theorem call_of_loads (w : World) {c : Cache} {a : Call} {key : Bytes}
    (h : a.loads c key = true) :
    (call w c a).cache = (load w c key).cache := by
  cases a with
  | refresh k =>
    obtain rfl : k = key := by simpa [Call.loads] using h
    exact refresh_cache w c k
  | read q k reload =>
    obtain ⟨rfl, huncached⟩ : k = key ∧ c.isCached k = false := by simpa [Call.loads] using h
    have hloads : c.readLoads w k reload = true := by simp [readLoads, huncached]
    change (read w c k reload q).cache = _
    rw [read_cache, lookup_cache, if_pos hloads]
  | _ => cases h

private theorem ok_of_toOption {r : Except LoadError Entry} {e : Entry} (h : r.toOption = some e) :
    r = .ok e := by
  cases r with
  | error err => cases h
  | ok e' =>
    cases h
    rfl

private theorem get?_of_loads (w : World) {c : Cache} {a : Call} {key : Bytes}
    (h : a.loads c key = true) :
    (call w c a).cache.entries.get? key = (load w c key).value.toOption := by
  rw [call_of_loads w h, load_get?, if_pos rfl]

/-- A call loads `key` and leaves an entry with an absolute path, of whose name there is no source.  Then
a load of the path in the same world succeeds with that same entry: the path, the witness or the absence
of one, and the lines. -/
theorem resolved_path_same_entry (search : List Bytes) (steps : List (World × Call)) (w : World)
    (a : Call) (key : Bytes) (e : Entry)
    (ha : a.loads ((empty search).run steps) key = true)
    (he : (call w ((empty search).run steps) a).cache.entries.get? key = some e)
    (habs : Path.isAbs e.path = true) (hsource : w.source e.path = none) :
    let c' := (call w ((empty search).run steps) a).cache
    (load w c' e.path).value = .ok e ∧
      ∀ b : Call, b.loads c' e.path = true →
        (call w c' b).cache.entries.get? e.path = some e := by
  intro c'
  let t : Attempt := ⟨w, (empty search).run steps, key⟩
  have hv : t.outcome.value = .ok e := by
    rw [get?_of_loads w ha] at he
    exact ok_of_toOption he
  have hpath : e.path = t.path := by
    rcases Attempt.outcome_cases t with
      ⟨_, _, _, _, h, _⟩ | ⟨_, _, _, _, _, _, h, _⟩ | ⟨_, _, _, _, h, _⟩ <;> rw [hv] at h <;> cases h
    · rfl
    · rfl
  have hcache : c' = t.outcome.cache := call_of_loads w ha
  have hagain : (load w c' e.path).value = .ok e := by
    rw [hcache, hpath]
    rw [hpath] at habs hsource
    exact Attempt.again_value hv habs hsource
  refine ⟨hagain, ?_⟩
  intro b hb
  rw [get?_of_loads w hb, hagain]
  rfl

/-- A bare name is found in the search path; a source that only the path's earlier name leads to supplies
the lines, and the file's metadata are kept beside them. -/
theorem resolved_path_same_entry_through_reverse :
    let dir : Bytes := [0x2f, 0x64]
    let key : Bytes := [0x61]
    let path : Bytes := [0x2f, 0x64, 0x2f, 0x61]
    let name : Bytes := [0x2f, 0x2f, 0x64, 0x2f, 0x61]
    let file := World.single path [0x78, 0x0a] 1
    let w := { file with source := fun n => if n = name then some [[0x79, 0x0a]] else none }
    let steps := [(file, Call.refresh name)]
    let a := Call.read .lines key false
    let e : Entry := { witness := some ⟨2, ⟨1, 0⟩⟩, lines := [[0x79, 0x0a]], path }
    a.loads ((empty [dir]).run steps) key = true ∧
      (call w ((empty [dir]).run steps) a).cache.entries.get? key = some e ∧
      Path.isAbs e.path = true ∧ w.source e.path = none ∧
      (load w (call w ((empty [dir]).run steps) a).cache e.path).value = .ok e := by
  intro dir key path name file w steps a e
  have hloads : a.loads ((empty [dir]).run steps) key = true := by decide +kernel
  have he : (call w ((empty [dir]).run steps) a).cache.entries.get? key = some e := by
    decide +kernel
  have habs : Path.isAbs e.path = true := by decide +kernel
  have hsource : w.source e.path = none := by decide +kernel
  obtain ⟨hsame, _⟩ := resolved_path_same_entry [dir] steps w a key e hloads he habs hsource
  exact ⟨hloads, he, habs, hsource, hsame⟩

end LineStore.Cache
