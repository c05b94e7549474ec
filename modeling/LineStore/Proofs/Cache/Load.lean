import LineStore.Proofs.Cache.Attempt
import LineStore.Proofs.Data.Assoc
/-!
# What a load does

A load replaces the entry of one key and leaves all others alone.  The entry it builds is taken from
the world it is made in: `Entry.LoadedIn` says how its path, metadata and lines belong to that world.
Where no source is populated a load is a plain read of the disk, `World.readEntry`.
-/
namespace LineStore

/-- The entry once its digest has been asked for. -/
def Entry.withDigest (e : Entry) : Entry :=
  { e with digest := some (e.digest.getD (Sha1.hexDigest e.lines.flatten)) }

/-- How an entry belongs to the world it was loaded in. -/
structure Entry.LoadedIn (w : World) (search : List Bytes) (key : Bytes) (e : Entry) : Prop where
  /-- The path is the one the key leads to; a key that cannot be expanded is its own path. -/
  path : (resolve w search key).path = some e.path ∨
    (Resolve.expand? w key = none ∧ e.path = key)
  /-- A witness is the metadata of the file found, which is at that path. -/
  witness : ∀ st, e.witness = some st →
    (resolve w search key).found = some st ∧ w.fileAt e.path = some st
  /-- Without a witness there was no file, and the lines are those of a source. -/
  unwitnessed : e.witness = none →
    (resolve w search key).found = none ∧ ∃ name, w.source name = some e.lines
  /-- The lines are those of a source, or of the whole file. -/
  lines : (∃ name, w.source name = some e.lines) ∨
    ∃ data, w.read e.path = .content data ∧ e.lines = splitLines data
  digest : ∀ d, e.digest = some d → d = Sha1.hexDigest e.lines.flatten

theorem Entry.LoadedIn.withDigest {w : World} {search : List Bytes} {key : Bytes} {e : Entry}
    (h : e.LoadedIn w search key) : e.withDigest.LoadedIn w search key where
  path := h.path
  witness := h.witness
  unwitnessed := h.unwitnessed
  lines := h.lines
  digest := by
    intro d hd
    cases hdigest : e.digest with
    | none => simpa [Entry.withDigest, hdigest] using hd.symm
    | some d' =>
      have hd' : d' = d := by simpa [Entry.withDigest, hdigest] using hd
      exact hd' ▸ h.digest d' hdigest

/-- What the disk holds for a name: a read that looks at no cache and no source. -/
def World.readEntry (w : World) (search : List Bytes) (key : Bytes) : Option Entry :=
  let r := resolve w search key
  match r.path, r.found with
  | some path, some st =>
    match w.read path with
    | .content data => some { witness := some st, lines := splitLines data, path }
    | _ => none
  | _, _ => none

theorem World.readEntry_eq_some_iff {w : World} {search : List Bytes} {key : Bytes} {e : Entry} :
    w.readEntry search key = some e ↔ ∃ path st data, (resolve w search key).path = some path ∧
      (resolve w search key).found = some st ∧ w.read path = .content data ∧
      e = { witness := some st, lines := splitLines data, path } := by
  unfold World.readEntry
  cases hpath : (resolve w search key).path with
  | none => simp [hpath]
  | some path =>
    cases hfound : (resolve w search key).found with
    | none => simp [hpath, hfound]
    | some st => cases hread : w.read path <;> simp [hpath, hfound, hread, eq_comm]

theorem World.readEntry_eq_none {w : World} {search : List Bytes} {key : Bytes}
    (h : (resolve w search key).found = none ∨
      ∀ path data, (resolve w search key).path = some path → w.read path ≠ .content data) :
    w.readEntry search key = none := by
  refine Option.eq_none_iff_forall_ne_some.mpr ?_
  intro e he
  obtain ⟨path, st, data, hpath, hfound, hread, _⟩ := World.readEntry_eq_some_iff.mp he
  rcases h with hnone | hne
  · rw [hnone] at hfound
    cases hfound
  · exact hne path data hpath hread

/-- A world with one file in it. -/
def World.single (path data : Bytes) (sec : Int) : World where
  stat p := if p = path then some { witness := ⟨data.length, ⟨sec, 0⟩⟩ } else none
  read p := if p = path then .content data else .openFailed (utf8 "file does not exist")
  home := none
  cwd := [Path.slash]
  source _ := none

theorem World.single_fileAt {path data p : Bytes} {sec : Int} {st : Witness}
    (h : (World.single path data sec).fileAt p = some st) : st.mtime.sec = sec := by
  by_cases hp : p = path
  · simp only [World.fileAt, World.single, hp, if_true, Bool.false_eq_true, if_false,
      Option.some.injEq] at h
    rw [← h]
  · simp [World.fileAt, World.single, hp] at h

namespace Cache

/-- A load is served by a source, is served by the disk, or fails and drops the key. -/
theorem load_cases (w : World) (c : Cache) (key : Bytes) :
    let r := resolve w c.searchPath key
    let path := r.path.getD key
    let o := load w c key
    (∃ name lines, firstSource w (c.sourceNames key path) = some (name, lines) ∧
      o.value = .ok { witness := r.found, lines, path } ∧
      o.cache = { c with
        entries := (c.entries.erase key).set key { witness := r.found, lines, path }
        reverse := c.reverse.set path name }) ∨
    (∃ st data, firstSource w (c.sourceNames key path) = none ∧ r.found = some st ∧
      w.read path = .content data ∧
      o.value = .ok { witness := some st, lines := splitLines data, path } ∧
      o.cache = { c with
        entries := (c.entries.erase key).set key
          { witness := some st, lines := splitLines data, path }
        reverse := if c.reverse.contains path then c.reverse else c.reverse.set path key }) ∨
    (∃ err, firstSource w (c.sourceNames key path) = none ∧
      (r.found = none ∨ ∀ data, w.read path ≠ .content data) ∧
      o.value = .error err ∧ o.cache = { c with entries := c.entries.erase key }) := by
  intro r path o
  have hnone := Attempt.firstSource_eq_none_iff (t := ⟨w, c, key⟩)
  rcases Attempt.outcome_cases ⟨w, c, key⟩ with
    ⟨name, lines, hs, _, hv, hc⟩ | ⟨st, data, hmem, hf, hr, _, hv, hc⟩ | ⟨err, hmem, hfault, _, hv, hc⟩
  · exact .inl ⟨name, lines, hs, hv, hc⟩
  · exact .inr (.inl ⟨st, data, hnone.mpr hmem, hf, hr, hv, hc⟩)
  · exact .inr (.inr ⟨err, hnone.mpr hmem, hfault.unreadable, hv, hc⟩)

@[simp] theorem load_searchPath (w : World) (c : Cache) (key : Bytes) :
    (load w c key).cache.searchPath = c.searchPath := by
  rcases load_cases w c key with ⟨_, _, _, _, hc⟩ | ⟨_, _, _, _, _, _, hc⟩ | ⟨_, _, _, _, hc⟩ <;>
    rw [hc]

theorem load_distinct (w : World) {c : Cache} (h : c.entries.Distinct) (key : Bytes) :
    (load w c key).cache.entries.Distinct := by
  rcases load_cases w c key with ⟨_, _, _, _, hc⟩ | ⟨_, _, _, _, _, _, hc⟩ | ⟨_, _, _, _, hc⟩ <;>
    rw [hc]
  · exact (h.erase key).set key _
  · exact (h.erase key).set key _
  · exact h.erase key

theorem load_get? (w : World) (c : Cache) (key k : Bytes) :
    (load w c key).cache.entries.get? k =
      if k = key then (load w c key).value.toOption else c.entries.get? k := by
  rcases load_cases w c key with ⟨_, _, _, hv, hc⟩ | ⟨_, _, _, _, _, hv, hc⟩ | ⟨_, _, _, hv, hc⟩ <;>
    rw [hv, hc] <;> by_cases hk : k = key <;>
    simp [Assoc.get?_set, Assoc.get?_erase, hk, Except.toOption]

private theorem path_of_resolve (w : World) (search : List Bytes) (key : Bytes) :
    (resolve w search key).path = some ((resolve w search key).path.getD key) ∨
      (Resolve.expand? w key = none ∧ (resolve w search key).path.getD key = key) := by
  cases hp : (resolve w search key).path with
  | none => exact .inr ⟨resolve_path_eq_none_iff.mp hp, rfl⟩
  | some p => exact .inl rfl

private theorem fileAt_of_found {w : World} {search : List Bytes} {key : Bytes} {st : Witness}
    (h : (resolve w search key).found = some st) :
    w.fileAt ((resolve w search key).path.getD key) = some st := by
  rw [resolve_found] at h
  obtain ⟨p, hp, hat⟩ := Option.bind_eq_some_iff.mp h
  rw [hp, Option.getD_some, hat]

/-- What a load builds belongs to the world of the load. -/
theorem load_loadedIn {w : World} {c : Cache} {key : Bytes} {e : Entry}
    (h : (load w c key).value.toOption = some e) : e.LoadedIn w c.searchPath key := by
  rcases load_cases w c key with
    ⟨name, lines, hs, hv, _⟩ | ⟨st, data, _, hf, hr, hv, _⟩ | ⟨err, _, _, hv, _⟩
  · have hsource := firstSource_eq_some hs
    rw [hv] at h
    cases h
    exact
      { path := path_of_resolve w c.searchPath key
        witness := fun st hst => ⟨hst, fileAt_of_found hst⟩
        unwitnessed := fun hnone => ⟨hnone, name, hsource⟩
        lines := .inl ⟨name, hsource⟩
        digest := fun d hd => by cases hd }
  · rw [hv] at h
    cases h
    exact
      { path := path_of_resolve w c.searchPath key
        witness := fun st' hst => by
          rw [← hst]
          exact ⟨hf, fileAt_of_found hf⟩
        unwitnessed := fun hnone => by cases hnone
        lines := .inr ⟨data, hr, rfl⟩
        digest := fun d hd => by cases hd }
  · rw [hv] at h
    cases h

/-- Where no source is populated, a load is a read of the disk. -/
theorem load_toOption {w : World} (h : ∀ name, w.source name = none) (c : Cache) (key : Bytes) :
    (load w c key).value.toOption = w.readEntry c.searchPath key := by
  have hnone := firstSource_eq_none h
  rcases load_cases w c key with
    ⟨name, lines, hs, _⟩ | ⟨st, data, _, hf, hr, hv, _⟩ | ⟨err, _, hwhy, hv, _⟩
  · rw [hnone] at hs
    cases hs
  · rw [hv]
    refine (World.readEntry_eq_some_iff.mpr ⟨_, st, data, ?_, hf, hr, rfl⟩).symm
    rcases path_of_resolve w c.searchPath key with hp | ⟨hx, _⟩
    · exact hp
    · rw [resolve_found, resolve_path_eq_none_iff.mpr hx] at hf
      cases hf
  · rw [hv]
    refine (World.readEntry_eq_none (hwhy.imp_right ?_)).symm
    intro hr path data hp
    have hread := hr data
    rwa [hp, Option.getD_some] at hread

end Cache
end LineStore
