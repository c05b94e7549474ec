import LineStore.Proofs.Cache.Failure
import LineStore.Proofs.Cache.Provenance
import LineStore.Proofs.Cache.Snapshot
import LineStore.Proofs.File.Lines
/-!
# Lines and digests stand for the bytes of a file

A load from the disk keeps the lines a reader of the file gives, and no call but another load of the key
changes them.  As lines concatenate to the bytes they came from, the digest of the key is that of the
file as it was when it was loaded, `splitLines_canonical`.
-/
namespace LineStore.Cache

private theorem Attempt.lines_of_reading {t : Attempt} {r : Reader} (hmem : t.memory = none)
    (hfound : t.resolution.found.isSome) (hr : t.world.read t.path = r.reading) :
    t.outcome.value.map Entry.lines = r.lines.mapError (.readFailed t.path) := by
  rw [Reader.reading] at hr
  rw [Reader.lines_eq]
  cases hfault : r.fault with
  | none =>
    rw [hfault] at hr
    obtain ⟨st, hst⟩ := Option.isSome_iff_exists.mp hfound
    rw [(readFromDisk hmem hst hr).1]
    rfl
  | some why =>
    rw [hfault] at hr
    rw [value_eq_error_iff.mpr ⟨hmem, .readFailed hfound hr⟩]
    rfl

private theorem Effect.apply_entry {w : World} {c : Cache} {x : Effect} {key : Bytes} {e : Entry}
    (hx : x ≠ .load key) (he : (x.apply w c).entries.get? key = some e) :
    ∃ e', c.entries.get? key = some e' ∧ e.withDigest = e'.withDigest := by
  -- The step, backwards: an entry that is there after anything but a load of its key was there
  -- before, up to the digest.
  cases x with
  | load k =>
    have hk : k ≠ key := fun h => hx (congrArg Effect.load h)
    exact ⟨e, (load_get?_of_ne w c hk).symm.trans he, rfl⟩
  | digest k =>
    change (c.digest k).2.entries.get? key = some e at he
    rw [digest_get?] at he
    by_cases hk : key = k
    · rw [if_pos hk] at he
      obtain ⟨e', he', rfl⟩ := Option.map_eq_some_iff.mp he
      exact ⟨e', he', e'.withDigest_withDigest⟩
    · rw [if_neg hk] at he
      exact ⟨e, he, rfl⟩
  | clear k =>
    change (c.entries.erase k).get? key = some e at he
    rw [Assoc.get?_erase] at he
    by_cases hk : key = k
    · rw [if_pos hk] at he
      cases he
    · rw [if_neg hk] at he
      exact ⟨e, he, rfl⟩
  | clearAll => cases he

private theorem replay_entry {c : Cache} {h : List (World × Effect)} {key : Bytes} {e : Entry}
    (hh : ∀ x ∈ h, x.2 ≠ .load key) (he : (c.replay h).entries.get? key = some e) :
    ∃ e', c.entries.get? key = some e' ∧ e.withDigest = e'.withDigest := by
  induction h generalizing c with
  | nil => exact ⟨e, he, rfl⟩
  | cons x h ih =>
    obtain ⟨hx, hh⟩ := List.forall_mem_cons.mp hh
    obtain ⟨e₁, he₁, hsame₁⟩ := ih hh he
    obtain ⟨e₂, he₂, hsame₂⟩ := Effect.apply_entry hx he₁
    exact ⟨e₂, he₂, hsame₁.trans hsame₂⟩

private theorem digest_of_loaded {t : Attempt} {later : List (World × Effect)} {e : Entry}
    (hlater : ∀ x ∈ later, x.2 ≠ .load t.key)
    (he : (t.outcome.cache.replay later).entries.get? t.key = some e) (hmem : t.memory = none) :
    ∃ data, t.world.read t.path = .content data ∧ e.lines = splitLines data ∧
      ((t.outcome.cache.replay later).digest t.key).1 = some (Sha1.hexDigest data) := by
  obtain ⟨built, hbuilt, hsame⟩ := replay_entry hlater he
  have hvalue : t.outcome.value.toOption = some built := by
    rw [← hbuilt]
    exact ((load_get? t.world t.cache t.key t.key).trans (if_pos rfl)).symm
  rcases Attempt.outcome_cases t with
    ⟨_, _, hs, _⟩ | ⟨st, data, _, _, hr, _, hv, _⟩ | ⟨_, _, _, _, hv, _⟩
  · rw [Attempt.memory_eq_some hs] at hmem
    cases hmem
  · rw [hv] at hvalue
    cases hvalue
    refine ⟨data, hr, (Entry.eq_of_withDigest hsame).2.1, ?_⟩
    -- A fresh entry has no digest, so it is filled in from the lines.
    rw [digest_value, he, Option.map_some, hsame]
    exact congrArg (some ∘ Sha1.hexDigest) (flatten_splitLines data)
  · rw [hv] at hvalue
    cases hvalue

/-- The lines of a text are the one list of lines that concatenates to it, so that two texts have the same
lines only if they are the same.  However the bytes of a reader are cut into pieces, it gives the lines
of them all, and if they break off it gives the error and nothing else.  A load from the disk is such a
reader, and until the key is loaded again its lines are those of the file at the time of the load, and
its digest is that of the bytes the file had then. -/
theorem splitLines_canonical :
    (∀ data lines, splitLines data = lines ↔ IsLines lines ∧ lines.flatten = data) ∧
    (∀ lines, IsLines lines → splitLines lines.flatten = lines) ∧
    (∀ data data', splitLines data = splitLines data' ↔ data = data') ∧
    (∀ r : Reader, r.fault = none → r.lines = .ok (splitLines r.pieces.flatten)) ∧
    (∀ (r : Reader) why, r.fault = some why → r.lines = .error why) ∧
    (∀ (t : Attempt) (r : Reader), t.memory = none → t.resolution.found.isSome →
      t.world.read t.path = r.reading →
      t.outcome.value.map Entry.lines = r.lines.mapError (.readFailed t.path)) ∧
    ∀ (search : List Bytes) (steps : List (World × Call)) (earlier later : List (World × Effect))
      (w : World) (key : Bytes) (e : Entry),
      (empty search).history steps = earlier ++ (w, .load key) :: later →
      (∀ x ∈ later, x.2 ≠ .load key) →
      let t : Attempt := ⟨w, (empty search).replay earlier, key⟩
      let c := (empty search).run steps
      t.memory = none → c.entries.get? key = some e →
      ∃ data, w.read t.path = .content data ∧ e.lines = splitLines data ∧
        (c.digest key).1 = some (Sha1.hexDigest data) := by
  refine ⟨fun _ _ => splitLines_eq_iff, fun _ => splitLines_flatten, fun _ _ => splitLines_inj, ?_, ?_, ?_,
    ?_⟩
  · intro r hr
    rw [Reader.lines_eq, hr]
  · intro r why hr
    rw [Reader.lines_eq, hr]
  · intro t r hmem hfound hr
    exact Attempt.lines_of_reading hmem hfound hr
  · intro search steps earlier later w key e hhistory hlater t c hmem he
    have hc : c = t.outcome.cache.replay later := by
      change (empty search).run steps = _
      rw [run_eq_replay (empty_distinct search), hhistory, replay_append]
      rfl
    rw [hc] at he ⊢
    exact digest_of_loaded (t := t) hlater he hmem

/-- A file of two lines, the second without a newline and the first empty but for its own, is read,
rewritten and asked for its digest; a reader of its first line that breaks off there gives the error. -/
theorem splitLines_canonical_unterminated :
    let key : Bytes := [0x2f, 0x61]
    let data : Bytes := [0x0a, 0x0d, 0x78]
    let before := World.single key data 1
    let after := World.single key [0x79, 0x0a] 2
    let steps := [(before, Call.read .lines key false), (after, .digest key), (after, .digest key)]
    let t : Attempt := ⟨before, empty [], key⟩
    let c := (empty []).run steps
    let whole : Reader := { pieces := [[0x0a, 0x0d], [], [0x78]] }
    let broken : Reader := { pieces := [[0x0a]], fault := some [0x65] }
    let lines : List Bytes := [[0x0a], [0x0d, 0x78]]
    (splitLines data = lines ∧ IsLines lines ∧ splitLines lines.flatten = lines) ∧
      (whole.fault = none ∧ whole.lines = .ok (splitLines data)) ∧
      (broken.fault = some [0x65] ∧ broken.lines = .error [0x65]) ∧
      (t.memory = none ∧ t.resolution.found.isSome ∧ before.read t.path = whole.reading ∧
        t.outcome.value.map Entry.lines = .ok lines) ∧
      (empty []).history steps =
          [] ++ (before, .load key) :: [(after, .digest key), (after, .digest key)] ∧
        (c.digest key).1 = some (Sha1.hexDigest data) := by
  intro key data before after steps t c whole broken lines
  obtain ⟨hsplit, hlines, _, hwhole, hbroken, hload, hdigest⟩ := splitLines_canonical
  have hdata : splitLines data = lines := by decide
  have his : IsLines lines := ((hsplit data lines).mp hdata).1
  have hmem : t.memory = none := rfl
  have hfound : t.resolution.found.isSome = true := by decide +kernel
  have hread : before.read t.path = whole.reading := by decide +kernel
  have hloaded := hload t whole hmem hfound hread
  rw [hwhole whole rfl] at hloaded
  have hhistory : (empty []).history steps =
      [] ++ (before, .load key) :: [(after, .digest key), (after, .digest key)] := by
    rfl
  obtain ⟨e, he⟩ : ∃ e, c.entries.get? key = some e :=
    Option.isSome_iff_exists.mp (by decide +kernel)
  obtain ⟨got, hgot, _, hsum⟩ := hdigest [] steps [] _ before key e hhistory (by simp) hmem he
  have hsame : got = data := by
    have hcontent : before.read t.path = .content data := hread
    rw [show before.read t.path = .content got from hgot] at hcontent
    injection hcontent
  rw [hsame] at hsum
  exact ⟨⟨hdata, his, hlines lines his⟩, ⟨rfl, hwhole whole rfl⟩, ⟨rfl, hbroken broken [0x65] rfl⟩,
    ⟨hmem, hfound, hread, hloaded⟩, hhistory, hsum⟩

end LineStore.Cache
