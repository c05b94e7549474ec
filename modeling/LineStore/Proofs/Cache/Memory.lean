import LineStore.Proofs.Cache.Access
/-!
# Lines in memory stay reachable through their path

Once a load at a path was served by a source, that path is known by the name of a populated source, and
every load at the path keeps it so.  While nothing forgets what is known of paths and no populated name
loses its lines, the path is therefore never read from the disk.
-/
namespace LineStore

/-- Names populated in `w` are populated in `v`, with whatever lines. -/
def World.Keeps (w v : World) : Prop := ∀ name, (w.source name).isSome → (v.source name).isSome

/-- The world with a source in memory. -/
def World.holding (w : World) (name : Bytes) (lines : List Bytes) : World :=
  { w with source := fun n => if n = name then some lines else w.source n }

private theorem World.Keeps.holding {w v : World} (h : w.Keeps v) (name : Bytes)
    (lines lines' : List Bytes) :
    (w.holding name lines).Keeps (v.holding name lines') := by
  intro n hn
  unfold World.holding at hn ⊢
  by_cases he : n = name
  · simp [he]
  · simp only [he, if_false] at hn ⊢
    exact h n hn

namespace Cache

/-- The path is known by the name of a populated source. -/
def Held (w : World) (c : Cache) (path : Bytes) : Prop :=
  ∃ name, c.reverse.get? path = some name ∧ (w.source name).isSome

namespace Held

variable {w : World} {c : Cache} {p : Bytes}

private theorem keeps {v : World} (h : Held w c p) (hkeeps : w.Keeps v) : Held v c p := by
  obtain ⟨name, hname, hsource⟩ := h
  exact ⟨name, hname, hkeeps name hsource⟩

private theorem memory {t : Attempt} (h : Held t.world t.cache t.path) : t.memory.isSome := by
  obtain ⟨name, hname, hsource⟩ := h
  rw [Attempt.memory, hname, Option.bind_some, Option.isSome_or, Option.isSome_or, hsource]
  simp

private theorem of_served {t : Attempt} (h : t.memory.isSome) :
    Held t.world t.outcome.cache t.path := by
  obtain ⟨lines, hlines⟩ := Option.isSome_iff_exists.mp h
  obtain ⟨_, name, hsource, hreverse⟩ := Attempt.served hlines
  exact ⟨name, by rw [hreverse, Assoc.get?_set_self], by rw [hsource]; rfl⟩

private theorem load (h : Held w c p) (key : Bytes) : Held w (Cache.load w c key).cache p := by
  let t : Attempt := ⟨w, c, key⟩
  by_cases hp : p = t.path
  · rw [hp] at h ⊢
    exact of_served (t := t) h.memory
  · obtain ⟨name, hname, hsource⟩ := h
    exact ⟨name, (Attempt.reverse_of_ne (t := t) hp).trans hname, hsource⟩

private theorem apply (h : Held w c p) {x : Effect} (hx : x ≠ .clearAll) :
    Held w (x.apply w c) p := by
  cases x with
  | load key => exact h.load key
  | digest key =>
    obtain ⟨name, hname, hsource⟩ := h
    exact ⟨name, by rw [Effect.apply, digest_reverse, hname], hsource⟩
  | clear key => exact h
  | clearAll => exact absurd rfl hx

private theorem replay (h : Held w c p) {xs : List Effect} (hxs : .clearAll ∉ xs) :
    Held w (c.replay (xs.map (w, ·))) p := by
  induction xs generalizing c with
  | nil => exact h
  | cons x xs ih =>
    obtain ⟨hx, hxs⟩ := not_or.mp (List.mem_cons.not.mp hxs)
    exact ih (h.apply (Ne.symm hx)) hxs

private theorem attempts (h : Held w c p) {xs : List Effect} (hxs : .clearAll ∉ xs) {t : Attempt}
    (ht : t ∈ c.attempts (xs.map (w, ·))) : t.world = w ∧ Held w t.cache p := by
  induction xs generalizing c with
  | nil => cases ht
  | cons x xs ih =>
    obtain ⟨hx, hxs⟩ := not_or.mp (List.mem_cons.not.mp hxs)
    rcases List.mem_append.mp ht with ht | ht
    · cases x with
      | load key =>
        rw [List.mem_singleton.mp ht]
        exact ⟨rfl, h⟩
      | _ => cases ht
    · exact ih (h.apply (Ne.symm hx)) hxs ht

private theorem served {t : Attempt} (h : Held t.world t.cache t.path) :
    ∃ name e, t.cache.reverse.get? t.path = some name ∧ (t.world.source name).isSome ∧
      t.outcome.value = .ok e ∧ e.path = t.path ∧
      (t.world.source t.key).or ((t.world.source t.path).or (t.world.source name)) = some e.lines ∧
      ∀ q, .opened q ∉ t.outcome.trace := by
  obtain ⟨lines, hlines⟩ := Option.isSome_iff_exists.mp h.memory
  obtain ⟨name, hname, hsource⟩ := h
  refine ⟨name, _, hname, hsource, (Attempt.served hlines).1, rfl, ?_, ?_⟩
  · rw [Attempt.memory, hname, Option.bind_some] at hlines
    exact hlines
  · intro q hq
    rw [(Attempt.of_opened hq).2] at hlines
    cases hlines

end Held

private theorem clearAll_not_mem_effects {a : Call} (ha : a ≠ .clearAll) (w : World) (c : Cache) :
    .clearAll ∉ a.effects w c := by
  cases a with
  | clearAll => exact absurd rfl ha
  | read q key reload => simp only [Call.effects]; split <;> simp
  | check key => simp only [Call.effects]; split <;> simp
  | _ => simp [Call.effects]

section Run

variable {w : World} {c : Cache} {p : Bytes} (hc : c.entries.Distinct)

include hc

private theorem Held.of_effects {a : Call} {earlier rest : List Effect} {key : Bytes}
    (ha : a.effects w c = earlier ++ .load key :: rest) :
    let t : Attempt := ⟨w, c.replay (earlier.map (w, ·)), key⟩
    t.memory.isSome → .clearAll ∉ rest ∧ Held w (Cache.call w c a).cache t.path := by
  intro t hserved
  have hne : a ≠ .clearAll := by
    rintro rfl
    cases earlier <;> simp [Call.effects] at ha
  have hrest : .clearAll ∉ rest := by
    intro hmem
    have hall := clearAll_not_mem_effects hne w c
    rw [ha] at hall
    exact hall (List.mem_append_right _ (List.mem_cons_of_mem _ hmem))
  refine ⟨hrest, ?_⟩
  rw [call_cache w hc a, ha, List.map_append, replay_append]
  exact (Held.of_served hserved).replay hrest

private theorem Held.call (h : Held w c p) {a : Call} (ha : a ≠ .clearAll) :
    Held w (Cache.call w c a).cache p := by
  rw [call_cache w hc a]
  exact h.replay (clearAll_not_mem_effects ha w c)

private theorem Held.not_opened (h : Held w c p) {a : Call} (ha : a ≠ .clearAll) :
    .opened p ∉ (Cache.call w c a).trace := by
  intro hopened
  obtain ⟨t, ht, htrace⟩ := call_opened hc hopened
  obtain ⟨hpath, hnone⟩ := Attempt.of_opened htrace
  obtain ⟨hworld, hheld⟩ := h.attempts (clearAll_not_mem_effects ha w c) ht
  rw [hpath, ← hworld] at hheld
  have hmem := hheld.memory
  rw [hnone] at hmem
  cases hmem

private theorem Held.run {passed rest : List (World × Call)} {v : World} {a : Call} (h : Held w c p)
    (hchain : (w :: (passed ++ (v, a) :: rest).map Prod.fst).IsChain World.Keeps)
    (hclear : ∀ s ∈ passed, s.2 ≠ .clearAll) : Held v (c.run passed) p := by
  induction passed generalizing w c with
  | nil => exact h.keeps (List.isChain_cons_cons.mp hchain).1
  | cons step passed ih =>
    obtain ⟨u, b⟩ := step
    obtain ⟨hkeeps, hchain⟩ := List.isChain_cons_cons.mp hchain
    obtain ⟨hb, hclear⟩ := List.forall_mem_cons.mp hclear
    exact ih (call_distinct u hc b) ((h.keeps hkeeps).call hc hb) hchain hclear

private theorem Held.run_attempts {later : List (World × Call)} (h : Held w c p)
    (hchain : (w :: later.map Prod.fst).IsChain World.Keeps)
    (hclear : ∀ s ∈ later, s.2 ≠ .clearAll) {t : Attempt}
    (ht : t ∈ c.attempts (c.history later)) : Held t.world t.cache p := by
  induction later generalizing w c with
  | nil => cases ht
  | cons step later ih =>
    obtain ⟨v, a⟩ := step
    obtain ⟨hkeeps, hchain⟩ := List.isChain_cons_cons.mp hchain
    obtain ⟨ha, hclear⟩ := List.forall_mem_cons.mp hclear
    have hv : Held v c p := h.keeps hkeeps
    rw [attempts_history v hc, List.mem_append] at ht
    rcases ht with ht | ht
    · obtain ⟨hworld, hheld⟩ := hv.attempts (clearAll_not_mem_effects ha v c) ht
      exact hworld.symm ▸ hheld
    · exact ih (call_distinct v hc a) (hv.call hc ha) hchain hclear ht

end Run

/-- A load of `key` that a call attempts is served by memory; after it the cache is not cleared and no
populated name loses its lines.  Then the path of that load stays known by the name of a populated source
and is not opened again, and every later load at it, of whatever key and by whatever call, the rest of the
same call included, is served by the first populated source among the key's, the path's and that one. -/
theorem memory_stays_reachable (search : List Bytes) (steps later : List (World × Call)) (w : World)
    (a : Call) (earlier rest : List Effect) (key : Bytes)
    (ha : a.effects w ((empty search).run steps) = earlier ++ .load key :: rest)
    (hclear : ∀ s ∈ later, s.2 ≠ .clearAll)
    (hkeeps : (w :: later.map Prod.fst).IsChain World.Keeps) :
    let c := (empty search).run steps
    let t : Attempt := ⟨w, c.replay (earlier.map (w, ·)), key⟩
    let c' := (call w c a).cache
    t.memory.isSome →
      (∀ u ∈ t.outcome.cache.attempts (rest.map (w, ·)) ++ c'.attempts (c'.history later),
        u.path = t.path →
        ∃ name e, u.cache.reverse.get? t.path = some name ∧ (u.world.source name).isSome ∧
          u.outcome.value = .ok e ∧ e.path = t.path ∧
          (u.world.source u.key).or ((u.world.source t.path).or (u.world.source name)) =
            some e.lines ∧
          ∀ q, .opened q ∉ u.outcome.trace) ∧
      ∀ passed v b rest', later = passed ++ (v, b) :: rest' →
        (∃ name, (c'.run passed).reverse.get? t.path = some name ∧ (v.source name).isSome) ∧
        .opened t.path ∉ (call v (c'.run passed) b).trace := by
  intro c t c' hserved
  have hc : c.entries.Distinct := run_distinct (empty_distinct search) steps
  have hc' : c'.entries.Distinct := call_distinct w hc a
  have hheld : Held w t.outcome.cache t.path := Held.of_served hserved
  obtain ⟨hrest, hend⟩ := Held.of_effects hc ha hserved
  refine ⟨?_, ?_⟩
  · intro u hu hpath
    have hu' : Held u.world u.cache u.path := by
      rw [hpath]
      rcases List.mem_append.mp hu with hu | hu
      · obtain ⟨hworld, hat⟩ := hheld.attempts hrest hu
        exact hworld.symm ▸ hat
      · exact hend.run_attempts hc' hkeeps hclear hu
    rw [← hpath]
    exact hu'.served
  · rintro passed v b rest' rfl
    have hat : Held v (c'.run passed) t.path :=
      hend.run hc' hkeeps fun s hs => hclear s (List.mem_append_left _ hs)
    have hb : b ≠ .clearAll := hclear (v, b) (List.mem_append_right _ List.mem_cons_self)
    exact ⟨hat, hat.not_opened (run_distinct hc' passed) hb⟩

/-- A name is loaded from memory and cleared.  Then its path is loaded under another name while a file has
appeared there: the lines are still those in memory, which have been replaced in the meantime. -/
theorem memory_stays_reachable_after_clear :
    let path : Bytes := [0x2f, 0x61]
    let name : Bytes := [0x61]
    let nowhere := World.single [0x2f, 0x62] [] 1
    let before := nowhere.holding name [[0x78, 0x0a]]
    let after := (World.single path [0x79, 0x0a] 2).holding name [[0x7a, 0x0a]]
    let later := [(after, Call.clear name), (after, .refresh path)]
    let t : Attempt := ⟨before, empty [], name⟩
    let c' := (call before (empty []) (.refresh name)).cache
    (Call.refresh name).effects before (empty []) = [.load name] ∧ t.memory.isSome ∧ t.path = path ∧
      (before :: later.map Prod.fst).IsChain World.Keeps ∧ (after.fileAt path).isSome ∧
      (refresh after (c'.run [(after, .clear name)]) path).value = some [[0x7a, 0x0a]] ∧
      .opened path ∉ (call after (c'.run [(after, .clear name)]) (.refresh path)).trace := by
  intro path name nowhere before after later t c'
  have hpath : t.path = path := by decide +kernel
  have hchain : (before :: later.map Prod.fst).IsChain World.Keeps := by
    have hsource : nowhere.Keeps (World.single path [0x79, 0x0a] 2) := fun _ h => h
    have hkeeps : before.Keeps after := hsource.holding name _ _
    simpa [later] using ⟨hkeeps, fun _ h => h⟩
  have hkept := memory_stays_reachable [] [] later before (.refresh name) [] [] name rfl (by simp [later])
    hchain (by decide +kernel)
  have hlast := (hkept.2 [(after, .clear name)] after (.refresh path) [] rfl).2
  exact ⟨rfl, by decide +kernel, hpath, hchain, by decide +kernel, by decide +kernel, hpath ▸ hlast⟩

end Cache
end LineStore
