import LineStore.Proofs.Cache.Run
/-!
# A cached key keeps its snapshot

Keys share resolved paths, sources and what is known of paths, but not entries.  Whatever is done to other
keys, other spellings of the same path among them, and however files, environment and sources change, a
key that is not itself checked, loaded or cleared answers as it did, and looks at nothing to do so.
-/
namespace LineStore

namespace Entry

theorem withDigest_withDigest (e : Entry) : e.withDigest.withDigest = e.withDigest := rfl

theorem eq_of_withDigest {e e' : Entry} (h : e'.withDigest = e.withDigest) :
    e'.witness = e.witness ∧ e'.lines = e.lines ∧ e'.path = e.path := by
  simp only [withDigest, Entry.mk.injEq] at h
  exact ⟨h.1, h.2.1, h.2.2.1⟩

end Entry

namespace Cache

/-- May the call replace or drop an entry that `key` has? -/
def Call.disturbs (key : Bytes) : Call → Bool
  | read _ k reload => k == key && reload
  | refresh k | check k | clear k => k == key
  | checkAll | clearAll => true
  | _ => false

/-- Is the call answered from the entry that `key` has? -/
def Call.views (key : Bytes) : Call → Bool
  | read _ k reload => k == key && !reload
  | digest k | isCached k | pathOf k | witnessOf k => k == key
  | _ => false

theorem lookup_of_cached (w : World) {c : Cache} {key : Bytes} {e : Entry}
    (he : c.entries.get? key = some e) : lookup w c key false = ⟨some e, c, []⟩ := by
  simp [lookup, fetch, he]

theorem digest_value (c : Cache) (key : Bytes) :
    (c.digest key).1 = ((c.entries.get? key).map Entry.withDigest).bind Entry.digest := by
  unfold digest
  cases he : c.entries.get? key with
  | none => rfl
  | some e =>
    obtain ⟨st, lines, path, digest⟩ := e
    cases digest <;> rfl

private theorem Query.answer_withDigest (q : Query) (e : Entry) :
    q.answer e.withDigest = q.answer e := by
  cases q <;> rfl

/-- The frame of a load: no other key's entry changes, whatever the load comes to. -/
theorem load_get?_of_ne (w : World) (c : Cache) {key k : Bytes} (h : k ≠ key) :
    (load w c k).cache.entries.get? key = c.entries.get? key := by
  rw [load_get?, if_neg (Ne.symm h)]

private theorem call_entry (w : World) {c : Cache} {a : Call} {key : Bytes} {e : Entry}
    (ha : a.disturbs key = false) (he : c.entries.get? key = some e) :
    ∃ e', (call w c a).cache.entries.get? key = some e' ∧ e'.withDigest = e.withDigest := by
  -- The step: a call that does not disturb `key` leaves its entry, up to the digest.
  cases a with
  | read q k reload =>
    change ∃ e', (read w c k reload q).cache.entries.get? key = some e' ∧ _
    rw [read_cache]
    by_cases hk : k = key
    -- A read of the key itself finds the entry, since it is not to check first.
    · have hreload : reload = false := by simpa [Call.disturbs, hk] using ha
      subst hk
      rw [hreload, lookup_of_cached w he]
      exact ⟨e, he, rfl⟩
    · rw [lookup_cache]
      split
      · exact ⟨e, (load_get?_of_ne w c hk).trans he, rfl⟩
      · exact ⟨e, he, rfl⟩
  | refresh k =>
    have hk : k ≠ key := by simpa [Call.disturbs] using ha
    change ∃ e', (refresh w c k).cache.entries.get? key = some e' ∧ _
    rw [refresh_cache, load_get?_of_ne w c hk]
    exact ⟨e, he, rfl⟩
  | check k =>
    have hk : k ≠ key := by simpa [Call.disturbs] using ha
    change ∃ e', (check w c k).cache.entries.get? key = some e' ∧ _
    rw [check_cache]
    split
    · exact ⟨e, (load_get?_of_ne w c hk).trans he, rfl⟩
    · exact ⟨e, he, rfl⟩
  | digest k =>
    change ∃ e', (c.digest k).2.entries.get? key = some e' ∧ _
    rw [digest_get?]
    by_cases hk : key = k
    · rw [if_pos hk, he]
      exact ⟨e.withDigest, rfl, e.withDigest_withDigest⟩
    · rw [if_neg hk]
      exact ⟨e, he, rfl⟩
  | clear k =>
    have hk : k ≠ key := by simpa [Call.disturbs] using ha
    change ∃ e', (c.entries.erase k).get? key = some e' ∧ _
    rw [Assoc.get?_erase, if_neg hk.symm]
    exact ⟨e, he, rfl⟩
  | checkAll => cases ha
  | clearAll => cases ha
  | isCached k => exact ⟨e, he, rfl⟩
  | pathOf k => exact ⟨e, he, rfl⟩
  | witnessOf k => exact ⟨e, he, rfl⟩
  | keys => exact ⟨e, he, rfl⟩
  | searchPath => exact ⟨e, he, rfl⟩

private theorem run_entry {c : Cache} {key : Bytes} {e : Entry} {steps : List (World × Call)}
    (hsteps : ∀ s ∈ steps, s.2.disturbs key = false) (he : c.entries.get? key = some e) :
    ∃ e', (c.run steps).entries.get? key = some e' ∧ e'.withDigest = e.withDigest := by
  induction steps generalizing c e with
  | nil => exact ⟨e, he, rfl⟩
  | cons step steps ih =>
    obtain ⟨w, a⟩ := step
    obtain ⟨hstep, hsteps⟩ := List.forall_mem_cons.mp hsteps
    obtain ⟨e₁, he₁, hsame₁⟩ := call_entry w hstep he
    obtain ⟨e₂, he₂, hsame₂⟩ := ih hsteps he₁
    exact ⟨e₂, he₂, hsame₂.trans hsame₁⟩

private theorem call_of_views (v w : World) {c c' : Cache} {a : Call} {key : Bytes} {e e' : Entry}
    (ha : a.views key = true) (he : c.entries.get? key = some e)
    (he' : c'.entries.get? key = some e') (hsame : e'.withDigest = e.withDigest) :
    (call w c' a).value = (call v c a).value ∧ (call w c' a).trace = [] := by
  obtain ⟨hwitness, _, hpath⟩ := Entry.eq_of_withDigest hsame
  cases a with
  | read q k reload =>
    obtain ⟨rfl, rfl⟩ : k = key ∧ reload = false := by simpa [Call.views] using ha
    change (read w c' k false q).value = (read v c k false q).value ∧ (read w c' k false q).trace = []
    rw [read_value, read_value, read_trace, lookup_of_cached w he', lookup_of_cached v he]
    refine ⟨?_, rfl⟩
    change q.answer e' = q.answer e
    rw [← q.answer_withDigest, hsame, q.answer_withDigest]
  | digest k =>
    obtain rfl : k = key := by simpa [Call.views] using ha
    refine ⟨?_, rfl⟩
    change (c'.digest k).1 = (c.digest k).1
    rw [digest_value, digest_value, he, he', Option.map_some, Option.map_some, hsame]
  | isCached k =>
    obtain rfl : k = key := by simpa [Call.views] using ha
    refine ⟨?_, rfl⟩
    change (c'.entries.get? k).isSome = (c.entries.get? k).isSome
    rw [he, he']
    rfl
  | pathOf k =>
    obtain rfl : k = key := by simpa [Call.views] using ha
    refine ⟨?_, rfl⟩
    change (c'.entries.get? k).map Entry.path = (c.entries.get? k).map Entry.path
    rw [he, he', Option.map_some, Option.map_some, hpath]
  | witnessOf k =>
    obtain rfl : k = key := by simpa [Call.views] using ha
    refine ⟨?_, rfl⟩
    change (c'.entries.get? k).bind Entry.witness = (c.entries.get? k).bind Entry.witness
    rw [he, he', Option.bind_some, Option.bind_some, hwitness]
  | _ => cases ha

/-- As long as `key` is not disturbed, at every moment its entry has the same witness, lines and path, and
every call that is answered from it gives the answer it would have given at the start, in any world, and
looks at no file. -/
theorem run_keeps_snapshot (search : List Bytes) (steps later : List (World × Call)) (key : Bytes)
    (e : Entry) (he : ((empty search).run steps).entries.get? key = some e)
    (hlater : ∀ s ∈ later, s.2.disturbs key = false) :
    let c := (empty search).run steps
    ∀ passed, passed <+: later →
      (∃ e', (c.run passed).entries.get? key = some e' ∧
        e'.witness = e.witness ∧ e'.lines = e.lines ∧ e'.path = e.path) ∧
      ∀ a : Call, a.views key = true → ∀ v w : World,
        (call w (c.run passed) a).value = (call v c a).value ∧
        (call w (c.run passed) a).trace = [] := by
  intro c passed hpassed
  have hspared : ∀ s ∈ passed, s.2.disturbs key = false := fun s hs => hlater s (hpassed.subset hs)
  obtain ⟨e', he', hsame⟩ := run_entry hspared he
  exact ⟨⟨e', he', Entry.eq_of_withDigest hsame⟩, fun a ha v w => call_of_views v w ha he he' hsame⟩

/-- The file is rewritten and read anew under another spelling, then it vanishes and that spelling fails
to load; the first spelling still has the lines it had. -/
theorem run_keeps_snapshot_other_spelling :
    let key : Bytes := [0x2f, 0x61]
    let spelling : Bytes := [0x2f, 0x2f, 0x61]
    let before := World.single key [0x78, 0x0a] 1
    let after := World.single key [0x79, 0x79, 0x0a] 2
    let gone := World.single [0x2f, 0x62] [] 3
    let c := (empty []).run [(before, .read .lines key false)]
    let later := [(after, Call.refresh spelling), (after, .digest key), (gone, .refresh spelling)]
    let e : Entry := { witness := some ⟨2, ⟨1, 0⟩⟩, lines := [[0x78, 0x0a]], path := key }
    c.entries.get? key = some e ∧ (∀ s ∈ later, s.2.disturbs key = false) ∧
      (after.fileAt key ≠ before.fileAt key ∧ gone.fileAt key = none) ∧
      (call gone (c.run later) (.read .lines key false)).value =
        (call before c (.read .lines key false)).value ∧
      (call gone (c.run later) (.read .lines key false)).trace = [] := by
  intro key spelling before after gone c later e
  have he : c.entries.get? key = some e := by decide +kernel
  have hlater : ∀ s ∈ later, s.2.disturbs key = false := by simp [later, Call.disturbs, key, spelling]
  have hkept := run_keeps_snapshot [] [(before, .read .lines key false)] later key e he hlater later
    (List.prefix_refl later)
  exact ⟨he, hlater, by decide +kernel, hkept.2 (.read .lines key false) rfl before gone⟩

end Cache
end LineStore
