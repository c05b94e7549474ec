import LineStore.Proofs.Watch.Scan
/-!
# What a watcher reports

From its start a watcher tells a story of each key that holds together: a key is present until it is
removed and absent until it is restored, the old lines of a change are the new lines of the one before,
and the last change leaves the key with the lines that are cached.  A key is called touched when its
fingerprint is the same and modified when it is not.
-/
namespace LineStore

/-- Whether a key is present after a change, if the change can happen to it. -/
def ChangeKind.next : Bool → ChangeKind → Option Bool
  | true, touched => some true
  | true, modified => some true
  | true, removed => some false
  | false, restored => some true
  | _, _ => none

def Change.after (ch : Change) : Option (List Bytes) :=
  if ch.kind = .removed then none else some ch.new

namespace Watcher

/-- The changes that take a key away or bring it back. -/
def turns (changes : List Change) : List ChangeKind :=
  (changes.map Change.kind).filter fun kind => kind = .removed ∨ kind = .restored

/-- One scan in each of some worlds: what each of them reported, the watcher and the cache. -/
def scans (lw : Watcher) (c : Cache) : List World → List (List Change) × Watcher × Cache
  | [] => ([], lw, c)
  | w :: ws =>
    let o := scan w lw c
    let rest := scans o.value.2 o.cache ws
    (o.value.1 :: rest.1, rest.2)

private theorem Follows.presence {key : Bytes} {s t : Option (List Bytes)} {l : List Change}
    (h : Follows key s l t) : (l.map Change.kind).foldlM ChangeKind.next s.isSome = some t.isSome := by
  induction h with
  | nil s => rfl
  | cons hstep _ ih =>
    rw [List.map_cons, List.foldlM_cons]
    cases hstep with
    | touch _ => simpa [ChangeKind.next] using ih
    | modify _ => simpa [ChangeKind.next] using ih
    | remove old => simpa [ChangeKind.next] using ih
    | restore new => simpa [ChangeKind.next, restored] using ih

private theorem Follows.alternate {key : Bytes} {s t : Option (List Bytes)} {l : List Change}
    (h : Follows key s l t) :
    List.IsChain (· ≠ ·) ((if s.isSome then ChangeKind.restored else .removed) :: turns l) := by
  induction h with
  | nil s => exact .singleton _
  | cons hstep _ ih =>
    cases hstep with
    | touch _ => simpa [turns] using ih
    | modify _ => simpa [turns] using ih
    | remove old => exact .cons_cons (by simp) (by simpa [turns] using ih)
    | restore new => exact .cons_cons (by simp [restored]) (by simpa [turns, restored] using ih)

private theorem Follows.replay {key : Bytes} {s t : Option (List Bytes)} {l : List Change}
    (h : Follows key s l t) : l.foldl (fun _ ch => ch.after) s = t := by
  induction h with
  | nil s => rfl
  | cons hstep _ ih =>
    rw [List.foldl_cons]
    cases hstep with
    | touch _ => simpa [Change.after] using ih
    | modify _ => simpa [Change.after] using ih
    | remove old => simpa [Change.after] using ih
    | restore new => simpa [Change.after, restored] using ih

private theorem Follows.old {key : Bytes} {s t : Option (List Bytes)} {l : List Change}
    (h : Follows key s l t) {earlier later : List Change} {ch : Change}
    (hl : l = earlier ++ ch :: later) (hkind : ch.kind ≠ .restored) :
    (earlier.getLast?.map Change.new).or s = some ch.old := by
  induction h generalizing earlier with
  | nil s => simp at hl
  | @cons s t u first rest hstep _ ih =>
    cases earlier with
    | nil =>
      obtain ⟨rfl, rfl⟩ := List.cons.inj hl
      cases hstep with
      | touch _ => rfl
      | modify _ => rfl
      | remove old => rfl
      | restore new => exact absurd rfl hkind
    | cons first' earlier =>
      obtain ⟨rfl, hrest⟩ := List.cons.inj hl
      have hold := ih hrest
      cases hlast : earlier.getLast? with
      | some last => simpa [List.getLast?_cons, hlast] using hold
      | none =>
        -- The change before is the first one, and it left the key with its new lines.
        rw [hlast] at hold
        cases hstep with
        | touch _ => simpa [List.getLast?_cons, hlast] using hold
        | modify _ => simpa [List.getLast?_cons, hlast] using hold
        | remove old => cases hold
        | restore new => simpa [List.getLast?_cons, hlast, restored] using hold

/-- Touched means the same lines, as far as the hash tells them, and modified means others. -/
def Truthful (ch : Change) : Prop :=
  (ch.kind = .touched →
    (XxHash64.hash ch.new.flatten = XxHash64.hash ch.old.flatten →
      ch.new.flatten = ch.old.flatten) → ch.new = ch.old) ∧
  (ch.kind = .modified → ch.new ≠ ch.old)

private theorem Step.truthful {key : Bytes} {s t : Option (List Bytes)} {ch : Change}
    (h : Step key s ch t)
    (hs : ∀ ls, s = some ls → splitLines ls.flatten = ls)
    (ht : ∀ ls, t = some ls → splitLines ls.flatten = ls) : Truthful ch := by
  cases h with
  | @touch old new hprint =>
    refine ⟨?_, (fun hkind => nomatch hkind)⟩
    intro _ hcollide
    have hflat : new.flatten = old.flatten := hcollide hprint
    calc new = splitLines new.flatten := (ht new rfl).symm
      _ = splitLines old.flatten := by rw [hflat]
      _ = old := hs old rfl
  | @modify old new hprint =>
    refine ⟨(fun hkind => nomatch hkind), ?_⟩
    intro _ heq
    exact hprint (congrArg fingerprint heq)
  | remove old => exact ⟨(fun hkind => nomatch hkind), (fun hkind => nomatch hkind)⟩
  | restore new => exact ⟨(fun hkind => nomatch hkind), (fun hkind => nomatch hkind)⟩

private theorem Step.lines {key : Bytes} {s t : Option (List Bytes)} {ch : Change}
    (h : Step key s ch t) :
    (∃ ls, s = some ls) ∨ ∃ ls, t = some ls := by
  cases h with
  | @touch old new _ => exact .inl ⟨old, rfl⟩
  | @modify old new _ => exact .inl ⟨old, rfl⟩
  | remove old => exact .inl ⟨old, rfl⟩
  | restore new => exact .inr ⟨new, rfl⟩

private theorem nodup_keys {l : List Change} (h : ∀ k, (changesOf k l).length ≤ 1) :
    (l.map Change.key).Nodup := by
  rw [List.nodup_iff_count_le_one]
  intro k
  have hcount : (l.map Change.key).count k = (changesOf k l).length := by
    rw [List.count, List.countP_map, List.countP_eq_length_filter]
    refine congrArg List.length (List.filter_congr ?_)
    intro ch _
    exact beq_eq_decide _ _
  rw [hcount]
  exact h k

private theorem scan_step {w : World} (hsource : ∀ name, w.source name = none) {lw : Watcher}
    {c : Cache}
    (h : Tracks lw c) {ch : Change} (hch : ch ∈ (scan w lw c).value.1) :
    Step ch.key (c.linesOf ch.key) ch ((scan w lw c).cache.linesOf ch.key) := by
  obtain ⟨hfollows, hlength⟩ := (scan_spec hsource h).2 ch.key
  have hmem : ch ∈ changesOf ch.key (scan w lw c).value.1 := by simpa [changesOf] using hch
  have hpos : 0 < (changesOf ch.key (scan w lw c).value.1).length := List.length_pos_of_mem hmem
  obtain ⟨only, honly⟩ := List.length_eq_one_iff.mp (show
    (changesOf ch.key (scan w lw c).value.1).length = 1 by omega)
  rw [honly, List.mem_singleton] at hmem
  have hone : changesOf ch.key (scan w lw c).value.1 = [ch] := by rw [honly, hmem]
  rw [hone] at hfollows
  cases hfollows with
  | cons hstep hnil =>
    cases hnil
    exact hstep

private theorem scan_key_mem {w : World} (hsource : ∀ name, w.source name = none) {lw : Watcher}
    {c : Cache}
    (h : Tracks lw c) {ch : Change} (hch : ch ∈ (scan w lw c).value.1) : ch.key ∈ lw.keys := by
  obtain ⟨⟨htracks, hkeys⟩, _⟩ := scan_spec hsource h
  rcases (scan_step hsource h hch).lines with ⟨ls, hls⟩ | ⟨ls, hls⟩
  · exact h.watched ch.key ls hls
  · exact hkeys ▸ htracks.watched ch.key ls hls

private theorem scans_spec {ws : List World} (hsource : ∀ w ∈ ws, ∀ name, w.source name = none)
    {lw : Watcher} {c : Cache} (h : Tracks lw c) :
    let r := scans lw c ws
    Tracks r.2.1 r.2.2 ∧
    (∀ batch ∈ r.1, (batch.map Change.key).Nodup ∧ ∀ ch ∈ batch, ch.key ∈ lw.keys ∧ Truthful ch) ∧
    ∀ k, Follows k (c.linesOf k) (changesOf k r.1.flatten) (r.2.2.linesOf k) := by
  -- The run: what holds of one scan, carried through any number of them.
  induction ws generalizing lw c with
  | nil => exact ⟨h, (fun _ hbatch => nomatch hbatch), fun k => .nil _⟩
  | cons w ws ih =>
    have hw : ∀ name, w.source name = none := hsource w List.mem_cons_self
    obtain ⟨⟨htracks, hkeys⟩, hscan⟩ := scan_spec hw h
    obtain ⟨hfinal, hbatches, hfollows⟩ :=
      ih (fun v hv => hsource v (List.mem_cons_of_mem _ hv)) htracks
    intro r
    refine ⟨hfinal, ?_, ?_⟩
    · intro batch hbatch
      rcases List.mem_cons.mp hbatch with rfl | hbatch
      · refine ⟨nodup_keys fun k => (hscan k).2, ?_⟩
        intro ch hch
        refine ⟨scan_key_mem hw h hch, ?_⟩
        exact (scan_step hw h hch).truthful (h.text ch.key) (htracks.text ch.key)
      · rw [← hkeys]
        exact hbatches batch hbatch
    · intro k
      have hsplit : changesOf k r.1.flatten = changesOf k (scan w lw c).value.1 ++
          changesOf k (scans (scan w lw c).value.2 (scan w lw c).cache ws).1.flatten := by
        simp only [r, scans, List.flatten_cons, changesOf, List.filter_append]
      rw [hsplit]
      exact (hscan k).1.append (hfollows k)

private theorem loadAll_spec {w : World} (hsource : ∀ name, w.source name = none) (ks : List Bytes)
    {lw lw' : Watcher} {c : Cache} (h : Tracks lw c) (hks : ∀ k ∈ ks, k ∈ lw.keys)
    (hok : (loadAll w lw ks c).value = .ok lw') :
    Tracks lw' (loadAll w lw ks c).cache ∧ lw'.keys = lw.keys ∧
      ∀ k, k ∈ ks ∨ c.linesOf k ≠ none → (loadAll w lw ks c).cache.linesOf k ≠ none := by
  induction ks generalizing lw c with
  | nil =>
    cases hok
    exact ⟨h, rfl, fun k hk => hk.resolve_left (fun hmem => nomatch hmem)⟩
  | cons key ks ih =>
    have hkey := hks key List.mem_cons_self
    have htail : ∀ k ∈ ks, k ∈ lw.keys := fun k hk => hks k (List.mem_cons_of_mem _ hk)
    cases hvalue : (c.lines w key false).value with
    | none => simp [loadAll, Outcome.andThen, hvalue] at hok
    | some ls =>
      obtain ⟨htracks, hlines⟩ := h.lines_some hsource hkey hvalue
      have hstep : loadAll w lw (key :: ks) c =
          { loadAll w (lw.remember key ls) ks (c.lines w key false).cache with
            trace := (c.lines w key false).trace ++
              (loadAll w (lw.remember key ls) ks (c.lines w key false).cache).trace } := by
        simp [loadAll, Outcome.andThen, hvalue]
      rw [hstep] at hok
      obtain ⟨hfinal, hkeys, hcached⟩ := ih htracks htail hok
      rw [hstep]
      refine ⟨hfinal, hkeys, ?_⟩
      intro k hk
      apply hcached
      rw [hlines]
      by_cases heq : k = key
      · exact .inr (by simp [heq])
      · simpa [heq] using hk

private theorem start_spec {w : World} (hsource : ∀ name, w.source name = none)
    {search keys : List Bytes}
    {lw : Watcher} (hok : (start w (Cache.empty search) keys).value = .ok lw) :
    Tracks lw (start w (Cache.empty search) keys).cache ∧ lw.keys = keys ∧
      ∀ k ∈ keys, ∃ first, (start w (Cache.empty search) keys).cache.linesOf k = some first := by
  obtain ⟨htracks, hkeys, hcached⟩ :=
    loadAll_spec hsource keys (tracks_empty search keys) (fun _ hk => hk) hok
  refine ⟨htracks, hkeys, ?_⟩
  intro k hk
  exact Option.ne_none_iff_exists'.mp (hcached k (.inl hk))

/-- What a watcher of a cache of its own reports, over any number of scans in any worlds without
sources. -/
theorem scans_reports (search keys : List Bytes) (w : World) (ws : List World) (lw : Watcher)
    (hsource : ∀ v ∈ w :: ws, ∀ name, v.source name = none)
    (hstart : (start w (Cache.empty search) keys).value = .ok lw) :
    let r := scans lw (start w (Cache.empty search) keys).cache ws
    -- A watched key has a fingerprint if and only if it is cached, and then that of the cached lines.
    (∀ k ∈ keys, r.2.1.prints.contains k = r.2.2.isCached k ∧
      ∀ e, r.2.2.entries.get? k = some e →
        r.2.1.lines.get? k = some e.lines ∧ r.2.1.prints.get? k = some (fingerprint e.lines)) ∧
    -- A scan reports watched keys only, each at most once.
    (∀ batch ∈ r.1, (batch.map Change.key).Nodup ∧ ∀ ch ∈ batch, ch.key ∈ keys) ∧
    (∀ k ∈ keys, ∃ first, lw.lines.get? k = some first ∧
      let story := changesOf k r.1.flatten
      -- The changes of a key are possible one after the other, and removals and returns alternate.
      (story.map Change.kind).foldlM ChangeKind.next true = some (r.2.2.isCached k) ∧
      List.IsChain (· ≠ ·) (.restored :: turns story) ∧
      -- The old lines of a change are the new ones of the change before, and the last change leaves
      -- the cached lines.
      (∀ earlier ch later, story = earlier ++ ch :: later → ch.kind ≠ .restored →
        ch.old = (earlier.getLast?.map Change.new).getD first) ∧
      story.foldl (fun _ ch => ch.after) (some first) = r.2.2.linesOf k) ∧
    ∀ batch ∈ r.1, ∀ ch ∈ batch, Truthful ch := by
  intro r
  obtain ⟨htracks, hkeys, hcached⟩ := start_spec (hsource w List.mem_cons_self) hstart
  obtain ⟨hfinal, hbatches, hfollows⟩ : Tracks r.2.1 r.2.2 ∧ (∀ batch ∈ r.1,
      (batch.map Change.key).Nodup ∧ ∀ ch ∈ batch, ch.key ∈ lw.keys ∧ Truthful ch) ∧ _ :=
    scans_spec (fun v hv => hsource v (List.mem_cons_of_mem _ hv)) htracks
  rw [hkeys] at hbatches
  refine ⟨?_, ?_, ?_, fun batch hbatch ch hch => ((hbatches batch hbatch).2 ch hch).2⟩
  · intro k _
    refine ⟨by rw [Assoc.contains, hfinal.prints, Option.isSome_map, Cache.isCached_eq], ?_⟩
    intro e he
    have hlines : r.2.2.linesOf k = some e.lines := by rw [Cache.linesOf, he, Option.map_some]
    exact ⟨hfinal.lines k e.lines hlines, by rw [hfinal.prints, hlines, Option.map_some]⟩
  · intro batch hbatch
    exact ⟨(hbatches batch hbatch).1, fun ch hch => ((hbatches batch hbatch).2 ch hch).1⟩
  · intro k hk
    obtain ⟨first, hfirst⟩ := hcached k hk
    have hstory := hfollows k
    rw [hfirst] at hstory
    refine ⟨first, htracks.lines k first hfirst, ?_, hstory.alternate, ?_, hstory.replay⟩
    · rw [Cache.isCached_eq]
      exact hstory.presence
    · intro earlier ch later hsplit hkind
      have hold := hstory.old hsplit hkind
      cases hlast : earlier.getLast? with
      | none => simpa [hlast] using hold.symm
      | some last => simpa [hlast] using hold.symm

/-- A file, named twice, is touched, removed, put back with other lines and rewritten. -/
theorem scans_reports_full_turn :
    let key : Bytes := [0x2f, 0x61]
    let w := World.single key [0x78, 0x0a] 1
    let ws := [World.single key [0x78, 0x0a] 2, World.single [0x2f, 0x62] [] 2,
      World.single key [0x79, 0x79, 0x0a] 3, World.single key [0x79, 0x0a] 4]
    let lw : Watcher :=
      { keys := [key, key], lines := ⟨[(key, [[0x78, 0x0a]])]⟩
        prints := ⟨[(key, fingerprint [[0x78, 0x0a]])]⟩ }
    let r := scans lw (start w (Cache.empty []) [key, key]).cache ws
    let story := changesOf key r.1.flatten
    (∀ v ∈ w :: ws, ∀ name, v.source name = none) ∧
      (start w (Cache.empty []) [key, key]).value = .ok lw ∧
      story.map Change.kind = [.touched, .removed, .restored, .modified] ∧
      List.IsChain (· ≠ ·) (.restored :: turns story) ∧
      story.foldl (fun _ ch => ch.after) (some [[0x78, 0x0a]]) = r.2.2.linesOf key := by
  intro key w ws lw r story
  have hsource : ∀ v ∈ w :: ws, ∀ name, v.source name = none := by
    simp [w, ws, World.single]
  have hstart : (start w (Cache.empty []) [key, key]).value = .ok lw := by decide +kernel
  obtain ⟨first, hfirst, _, halternate, _, hreplay⟩ :=
    (scans_reports [] [key, key] w ws lw hsource hstart).2.2.1 key List.mem_cons_self
  have hlines : [[0x78, 0x0a]] = first := Option.some.inj hfirst
  exact ⟨hsource, hstart, by decide +kernel, halternate, hlines ▸ hreplay⟩

end Watcher
end LineStore
