import LineStore.Proofs.Cache.Provenance
/-!
# Reading with reload

While no source is populated and the metadata of a file tell its versions apart, a read that checks
first cannot be told from a read through a new cache: whatever happened before, it answers with what
the disk holds now.
-/
namespace LineStore.Cache

/-- Worlds that differ in their files only, no source being populated, and in which a path with the
same size and time twice was read the same way twice. -/
structure Steady (ws : List World) : Prop where
  source : ∀ w ∈ ws, ∀ name, w.source name = none
  home : ∀ w ∈ ws, ∀ v ∈ ws, w.home = v.home
  cwd : ∀ w ∈ ws, ∀ v ∈ ws, w.cwd = v.cwd
  read : ∀ w ∈ ws, ∀ v ∈ ws, ∀ path st,
    w.fileAt path = some st → v.fileAt path = some st → w.read path = v.read path

private theorem Steady.expand? {ws : List World} (h : Steady ws) {w v : World} (hw : w ∈ ws)
    (hv : v ∈ ws)
    (name : Bytes) : Resolve.expand? w name = Resolve.expand? v name := by
  unfold Resolve.expand?
  rw [h.home w hw v hv, h.cwd w hw v hv]

private theorem loadedIn_fromDisk {w : World} {search : List Bytes} {key : Bytes} {e : Entry}
    (hsource : ∀ name, w.source name = none) (h : e.LoadedIn w search key) :
    (resolve w search key).path = some e.path ∧
    ∃ st data, e.witness = some st ∧ w.fileAt e.path = some st ∧
      w.read e.path = .content data ∧ e.lines = splitLines data := by
  have hnot : ¬ ∃ name, w.source name = some e.lines := by
    rintro ⟨name, hname⟩
    rw [hsource name] at hname
    cases hname
  cases hst : e.witness with
  | none => exact absurd (h.unwitnessed hst).2 hnot
  | some st =>
    obtain ⟨hfound, hat⟩ := h.witness st hst
    obtain ⟨data, hread, hlines⟩ := h.lines.resolve_left hnot
    refine ⟨?_, st, data, rfl, hat, hread, hlines⟩
    rcases h.path with hpath | ⟨hexpand, _⟩
    · exact hpath
    · rw [resolve_found, resolve_path_eq_none_iff.mpr hexpand] at hfound
      cases hfound

private theorem readEntry_of_fresh {ws : List World} (hws : Steady ws) {w v : World} (hw : w ∈ ws)
    (hv : v ∈ ws) {search : List Bytes} {key : Bytes} {e : Entry} (he : e.LoadedIn v search key)
    (hfresh : isStale w e = false)
    (hkey : Path.slash ∈ key ∨ (resolve w search key).path = some e.path) :
    w.readEntry search key = some { e with digest := none } := by
  obtain ⟨hpathv, st, data, hst, hatv, hreadv, hlines⟩ := loadedIn_fromDisk (hws.source v hv) he
  have hat : w.fileAt e.path = some st := by
    by_contra hne
    have hstale : isStale w e = true := (isStale_iff w e).mpr ⟨st, hst, hne⟩
    rw [hfresh] at hstale
    cases hstale
  -- With a slash in it the key leads wherever it is expanded to, in both worlds the same.
  have hpath : (resolve w search key).path = some e.path := by
    rcases hkey with hslash | hpath
    · have hbare : Path.isBare key = false := by simpa [Path.isBare] using hslash
      rw [resolve_path_of_not_bare w search hbare, hws.expand? hw hv,
        ← resolve_path_of_not_bare v search hbare, hpathv]
    · exact hpath
  have hfound : (resolve w search key).found = some st := by
    rw [resolve_found, hpath, Option.bind_some, hat]
  have hread : w.read e.path = .content data := by
    rw [hws.read w hw v hv e.path st hat hatv, hreadv]
  refine World.readEntry_eq_some_iff.mpr ⟨e.path, st, data, hpath, hfound, hread, ?_⟩
  rw [hst, hlines]

private theorem Query.answer_withoutDigest (q : Query) (e : Entry) :
    q.answer { e with digest := none } = q.answer e := by
  cases q <;> rfl

private theorem read_empty_value {w : World} (hsource : ∀ name, w.source name = none)
    (search : List Bytes)
    (key : Bytes) (reload : Bool) (q : Query) :
    (read w (empty search) key reload q).value = (w.readEntry search key).bind q.answer := by
  have hloads : readLoads w (empty search) key reload = true := rfl
  rw [read_value, lookup_value, if_pos hloads, load_toOption hsource]
  rfl

private theorem read_reload_value {search : List Bytes} {steps : List (World × Call)} {w : World}
    (hws : Steady (w :: steps.map Prod.fst)) {key : Bytes}
    (hkey : Path.slash ∈ key ∨ ∀ e, ((empty search).run steps).entries.get? key = some e →
      (resolve w search key).path = some e.path) (q : Query) :
    (read w ((empty search).run steps) key true q).value =
      (w.readEntry search key).bind q.answer := by
  -- The simulation: a reload answers with what the disk holds, whatever the cache held before.
  have hload := load_toOption (hws.source w List.mem_cons_self) ((empty search).run steps) key
  rw [run_empty_searchPath] at hload
  rw [read_value, lookup_value, hload]
  cases hloads : readLoads w ((empty search).run steps) key true with
  | true => rfl
  | false =>
    -- The key is served from the cache, so it has an entry and the entry is not stale.
    obtain ⟨hcached, hfresh⟩ : ((empty search).run steps).isCached key = true ∧
        ((empty search).run steps).isStaleAt w key = false := by
      simpa [readLoads] using hloads
    obtain ⟨e, he⟩ := Option.isSome_iff_exists.mp hcached
    obtain ⟨v, hv, hin⟩ := run_sourced search steps key e he
    rw [run_empty_searchPath] at hin
    have hvmem : v ∈ w :: steps.map Prod.fst := List.mem_cons_of_mem _ (mem_history hv.mem)
    have hstale : isStale w e = false := by simpa [isStaleAt, he] using hfresh
    have hdisk := readEntry_of_fresh hws List.mem_cons_self hvmem hin hstale
      (hkey.imp_right fun h => h e he)
    rw [if_neg (by simp), he, hdisk, Option.bind_some, Option.bind_some, Query.answer_withoutDigest]

/-- Reload makes the cache transparent: after any run, a read that checks first answers exactly as the
same read of a new cache, and has no answer where the file is missing, a directory or unreadable. -/
theorem read_reload_eq_read_empty (search : List Bytes) (steps : List (World × Call)) (w : World)
    (key : Bytes) (q : Query) (hws : Steady (w :: steps.map Prod.fst))
    (hkey : Path.slash ∈ key ∨ ((empty search).run steps).isCached key = false ∨
      ((empty search).run steps).path? key = (resolve w search key).path) :
    (read w ((empty search).run steps) key true q).value =
      (read w (empty search) key true q).value ∧
    ((resolve w search key).found = none ∨
      (∀ path data, (resolve w search key).path = some path → w.read path ≠ .content data) →
      (read w ((empty search).run steps) key true q).value = none) := by
  have hpath : Path.slash ∈ key ∨ ∀ e, ((empty search).run steps).entries.get? key = some e →
      (resolve w search key).path = some e.path := by
    refine hkey.imp_right ?_
    rintro (huncached | hsame) e he
    · simp [isCached, Assoc.contains, he] at huncached
    · rw [← hsame, path?, he, Option.map_some]
  have hvalue := read_reload_value hws hpath q
  refine ⟨?_, ?_⟩
  · rw [hvalue, read_empty_value (hws.source w List.mem_cons_self)]
  · intro habsent
    rw [hvalue, World.readEntry_eq_none habsent, Option.bind_none]

private theorem steady_rewritten (path a b : Bytes) {s t : Int} (h : s ≠ t) :
    Steady [World.single path a s, World.single path b t] where
  source := by simp [World.single]
  home := by simp [World.single]
  cwd := by simp [World.single]
  read := by
    intro w hw v hv p st hwat hvat
    simp only [List.mem_cons, List.not_mem_nil, or_false] at hw hv
    rcases hw with rfl | rfl <;> rcases hv with rfl | rfl
    · rfl
    · exact absurd ((World.single_fileAt hwat).symm.trans (World.single_fileAt hvat)) h
    · exact absurd ((World.single_fileAt hvat).symm.trans (World.single_fileAt hwat)) h
    · rfl

/-- The file was rewritten since its lines were cached. -/
theorem read_reload_eq_read_empty_rewritten :
    let key : Bytes := [0x2f, 0x61]
    let before := World.single key [0x78, 0x0a] 1
    let after := World.single key [0x79, 0x79, 0x0a] 2
    let steps := [(before, Call.read .lines key false)]
    let c := (empty []).run steps
    Steady [after, before] ∧ c.isStaleAt after key = true ∧
      (read after c key true .lines).value = (read after (empty []) key true .lines).value := by
  intro key before after steps c
  have hsteady : Steady [after, before] := steady_rewritten key _ _ (by decide)
  exact ⟨hsteady, by decide +kernel,
    (read_reload_eq_read_empty [] steps after key .lines hsteady (.inl (by decide))).1⟩

end LineStore.Cache
