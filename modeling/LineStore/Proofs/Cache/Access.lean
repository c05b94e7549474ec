import LineStore.Proofs.Cache.Run
/-!
# What calls look at

A read that is to check first looks once at the file behind the entry; all else that a call looks at or
opens is looked at or opened by the loads it attempts, `call_opened`.
-/
namespace LineStore.Cache

open Event

@[simp] theorem accesses_failure (what : Bytes) (e : LoadError) : accesses [failure what e] = [] := rfl

/-- The look at the file behind an entry that a check of it takes. -/
def rechecks (c : Cache) (key : Bytes) : List Event :=
  match c.entries.get? key with
  | some { witness := some _, path, .. } => [.stat path]
  | _ => []

theorem refresh_accesses (w : World) (c : Cache) (key : Bytes) :
    accesses (refresh w c key).trace = accesses (load w c key).trace := by
  unfold refresh
  cases hv : (load w c key).value <;> simp [hv]

private theorem fetch_accesses (w : World) (c : Cache) (key : Bytes) :
    accesses (fetch w c key).trace =
      if c.isCached key then [] else accesses (load w c key).trace := by
  unfold fetch isCached Assoc.contains
  cases he : c.entries.get? key with
  | some e => simp
  | none => cases hv : (load w c key).value <;> simp [hv]

private theorem checkEntry_accesses (w : World) (c : Cache) {key : Bytes} {e : Entry}
    (he : c.entries.get? key = some e) :
    accesses (checkEntry w c key e).trace =
      c.rechecks key ++ if isStale w e then accesses (load w c key).trace else [] := by
  obtain ⟨witness, lines, path, digest⟩ := e
  unfold checkEntry rechecks
  cases witness with
  | none => simp [he, isStale]
  | some st =>
    by_cases hs : isStale w ⟨some st, lines, path, digest⟩ = true
    · cases hv : (load w c key).value <;> simp [he, hs, hv]
    · simp [he, hs]

theorem check_accesses (w : World) (c : Cache) (key : Bytes) :
    accesses (check w c key).trace =
      c.rechecks key ++ if c.isStaleAt w key then accesses (load w c key).trace else [] := by
  unfold check isStaleAt
  cases he : c.entries.get? key with
  | none => simp [rechecks, he]
  | some e => exact checkEntry_accesses w c he

theorem lookup_accesses (w : World) (c : Cache) (key : Bytes) (reload : Bool) :
    accesses (lookup w c key reload).trace =
      (if reload then c.rechecks key else []) ++
        if c.readLoads w key reload then accesses (load w c key).trace else [] := by
  cases reload with
  | false => cases hc : c.isCached key <;> simp [lookup, fetch_accesses, readLoads, hc]
  | true =>
    cases he : c.entries.get? key with
    | none => simp [lookup, he, fetch_accesses, readLoads, isCached, Assoc.contains, rechecks]
    | some e =>
      have hstale : c.isStaleAt w key = isStale w e := by rw [isStaleAt, he, Option.any_some]
      cases hs : isStale w e <;>
        simp [lookup, he, Outcome.andThen, checkEntry_value, checkEntry_cache,
          checkEntry_accesses w c he, fetch_accesses, readLoads, isCached, Assoc.contains, hstale, hs]

def Effect.attempt? (w : World) (c : Cache) : Effect → Option Attempt
  | load key => some ⟨w, c, key⟩
  | _ => none

/-- The loads among some effects, each with the cache it is made in. -/
def attempts (c : Cache) : List (World × Effect) → List Attempt
  | [] => []
  | x :: h => (x.2.attempt? x.1 c).toList ++ (x.2.apply x.1 c).attempts h

def Call.attempts (w : World) (c : Cache) (a : Call) : List Attempt :=
  c.attempts ((a.effects w c).map (w, ·))

private theorem attempts_append (c : Cache) (h h' : List (World × Effect)) :
    c.attempts (h ++ h') = c.attempts h ++ (c.replay h).attempts h' := by
  induction h generalizing c with
  | nil => rfl
  | cons x h ih =>
    rw [List.cons_append, attempts, ih, attempts, List.append_assoc]
    rfl

theorem attempts_history (w : World) {c : Cache} (hc : c.entries.Distinct) (a : Call)
    (steps : List (World × Call)) :
    c.attempts (c.history ((w, a) :: steps)) =
      a.attempts w c ++ (call w c a).cache.attempts ((call w c a).cache.history steps) := by
  rw [history, attempts_append, ← call_cache w hc a]
  rfl

private theorem not_mem_rechecks (c : Cache) (key q : Bytes) : .opened q ∉ c.rechecks key := by
  unfold rechecks
  split <;> simp

private theorem check_opened {w : World} {c : Cache} {key q : Bytes}
    (h : .opened q ∈ (check w c key).trace) :
    c.isStaleAt w key = true ∧ .opened q ∈ (load w c key).trace := by
  rw [← mem_accesses_opened, check_accesses, List.mem_append] at h
  have hload := h.resolve_left (not_mem_rechecks c key q)
  cases hs : c.isStaleAt w key with
  | false => simp [hs] at hload
  | true =>
    rw [hs, if_pos rfl, mem_accesses_opened] at hload
    exact ⟨rfl, hload⟩

private theorem checkKeys_opened {w : World} {ks : List Bytes} (hks : ks.Nodup) {c : Cache}
    {q : Bytes}
    (h : .opened q ∈ (checkKeys w ks c).trace) :
    ∃ t ∈ c.attempts (((ks.filter (c.isStaleAt w)).map Effect.load).map (w, ·)),
      .opened q ∈ t.outcome.trace := by
  induction ks generalizing c with
  | nil => cases h
  | cons k ks ih =>
    obtain ⟨hk, hks⟩ := List.nodup_cons.mp hks
    have hsplit : .opened q ∈ (check w c k).trace ∨
        .opened q ∈ (checkKeys w ks (check w c k).cache).trace := List.mem_append.mp h
    have hrest := fun h' => ih hks (c := (check w c k).cache) h'
    rw [filter_isStaleAt_check w c hk, check_cache] at hrest
    rw [List.filter_cons]
    rcases hsplit with hcheck | hlater
    · obtain ⟨hs, hload⟩ := check_opened hcheck
      rw [if_pos hs]
      exact ⟨⟨w, c, k⟩, List.mem_cons_self, hload⟩
    · rw [check_cache] at hlater
      cases hs : c.isStaleAt w k with
      | true =>
        rw [hs, if_pos rfl] at hlater hrest
        obtain ⟨t, ht, hopened⟩ := hrest hlater
        exact ⟨t, List.mem_cons_of_mem _ ht, hopened⟩
      | false =>
        rw [hs, if_neg Bool.false_ne_true] at hlater hrest
        exact hrest hlater

/-- A call opens files only through the loads it attempts. -/
theorem call_opened {w : World} {c : Cache} (hc : c.entries.Distinct) {a : Call} {q : Bytes}
    (h : .opened q ∈ (call w c a).trace) : ∃ t ∈ a.attempts w c, .opened q ∈ t.outcome.trace := by
  cases a with
  | read query key reload =>
    change .opened q ∈ (read w c key reload query).trace at h
    rw [read_trace, ← mem_accesses_opened, lookup_accesses, List.mem_append] at h
    rw [Call.attempts, Call.effects]
    cases hloads : c.readLoads w key reload with
    | false => cases reload <;> simp [hloads, not_mem_rechecks] at h
    | true =>
      have hload : .opened q ∈ (load w c key).trace := by
        cases reload <;> simpa [hloads, not_mem_rechecks, mem_accesses_opened] using h
      exact ⟨⟨w, c, key⟩, List.mem_cons_self, hload⟩
  | refresh key =>
    change .opened q ∈ (refresh w c key).trace at h
    rw [← mem_accesses_opened, refresh_accesses, mem_accesses_opened] at h
    exact ⟨⟨w, c, key⟩, List.mem_cons_self, h⟩
  | check key =>
    obtain ⟨hs, hload⟩ := check_opened h
    rw [Call.attempts, Call.effects, if_pos hs]
    exact ⟨⟨w, c, key⟩, List.mem_cons_self, hload⟩
  | checkAll => exact checkKeys_opened (Assoc.keys_nodup hc) h
  | _ => cases h

end LineStore.Cache
