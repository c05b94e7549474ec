import LineStore.Proofs.Cache.Access
import LineStore.Proofs.Cache.Alias
import LineStore.Proofs.Cache.Failure
import LineStore.Proofs.Cache.Sweep
/-!
# What calls cost

The cost of a call is how often it looks at the metadata of a path and how many files it opens.  A load
looks at the candidates of its key up to the first that is a file, and opens that file unless memory has
the lines; a check looks once more.  No call attempts a second load of its key, `call_cost`.
-/
namespace LineStore

open Event

namespace Resolve

/-- Where a name is looked for, in order; nowhere if it cannot be expanded. -/
def candidates (w : World) (search : List Bytes) (name : Bytes) : List Bytes :=
  match expand? w name with
  | none => []
  | some expanded => expanded :: searchCandidates search name

/-- The paths up to and including the first that is a file; all of them if none is. -/
def tried (w : World) (ps : List Bytes) : List Bytes :=
  ps.take (ps.findIdx (fun p => (w.fileAt p).isSome) + 1)

private theorem tried_cons (w : World) (p : Bytes) (ps : List Bytes) :
    tried w (p :: ps) = p :: if (w.fileAt p).isSome then [] else tried w ps := by
  cases h : (w.fileAt p).isSome <;> simp [tried, List.findIdx_cons, h]

private theorem firstFile_trace (w : World) (ps : List Bytes) :
    (firstFile w ps).2 = (tried w ps).map .stat := by
  induction ps with
  | nil => rfl
  | cons p ps ih =>
    rw [tried_cons, firstFile]
    cases hp : w.fileAt p with
    | some st => rfl
    | none => simp [ih]

private theorem candidates_length_le (w : World) (search : List Bytes) (name : Bytes) :
    (candidates w search name).length ≤
      1 + if Path.isBare name then (search.filter (!·.isEmpty)).length else 0 := by
  unfold candidates
  cases expand? w name with
  | none => exact Nat.zero_le _
  | some expanded =>
    have hsearch : (searchCandidates search name).length =
        if Path.isBare name then (search.filter (!·.isEmpty)).length else 0 := by
      unfold searchCandidates
      split
      · exact List.length_map _
      · rfl
    rw [List.length_cons, hsearch]
    omega

end Resolve

open Resolve

private theorem accesses_map_stat (ps : List Bytes) : accesses (ps.map .stat) = ps.map .stat := by
  induction ps with
  | nil => rfl
  | cons p ps ih => rw [List.map_cons, accesses_stat, ih]

private theorem resolve_accesses (w : World) (search : List Bytes) (name : Bytes) :
    accesses (resolve w search name).trace = (tried w (candidates w search name)).map .stat := by
  unfold resolve candidates
  cases expand? w name with
  | none => rfl
  | some expanded =>
    simp only [tried_cons]
    cases hf : w.fileAt expanded with
    | some st => simp
    | none =>
      have htrace := firstFile_trace w (searchCandidates search name)
      cases hs : firstFile w (searchCandidates search name) with
      | mk hit t =>
        obtain rfl : t = (tried w (searchCandidates search name)).map .stat := by
          rw [← htrace, hs]
        cases hit <;> simp [accesses_map_stat]

/-- How often metadata were asked for, and how many files were opened. -/
def Event.cost (t : List Event) : Nat × Nat :=
  (t.countP fun | .stat _ => true | _ => false, t.countP fun | .opened _ => true | _ => false)

def Outcome.cost {α : Type} (o : Outcome α) : Nat × Nat := (o.stats, o.opens)

private theorem Outcome.cost_eq {α : Type} (o : Outcome α) :
    o.cost = Event.cost (accesses o.trace) := by
  unfold Outcome.cost Outcome.stats Outcome.opens Event.cost accesses
  rw [List.countP_filter, List.countP_filter]
  refine Prod.ext ?_ ?_ <;> refine List.countP_congr ?_ <;> intro e _ <;> cases e <;> simp [isAccess]

private theorem Event.cost_map_stat (ps : List Bytes) (t : List Event) :
    Event.cost (ps.map .stat ++ t) = (ps.length + (Event.cost t).1, (Event.cost t).2) := by
  induction ps with
  | nil => simp
  | cons p ps ih =>
    rw [Event.cost, Prod.mk.injEq] at ih
    simp only [Event.cost, List.map_cons, List.cons_append, List.countP_cons, ih.1, ih.2,
      List.length_cons, if_true, Bool.false_eq_true, if_false, Prod.mk.injEq]
    omega

namespace Cache

/-- Is the call answered without a look at the disk, whatever the disk holds? -/
def Call.isIdle (c : Cache) : Call → Bool
  | isCached _ | pathOf _ | witnessOf _ | digest _ | keys | searchPath | clear _ | clearAll => true
  | read _ key reload => c.isCached key && !reload
  | check key => !c.isCached key
  | refresh _ | checkAll => false

/-- Does the call compare the entry of `key` with the disk first? -/
def Call.checksFirst (key : Bytes) : Call → Bool
  | check k => k == key
  | read _ k reload => k == key && reload
  | _ => false

private theorem Attempt.accesses_outcome (t : Attempt) :
    accesses t.outcome.trace =
      (tried t.world (candidates t.world t.cache.searchPath t.key)).map .stat ++
        if t.resolution.found.isSome ∧ t.memory = none then [.opened t.path] else [] := by
  rw [← resolve_accesses]
  change _ = accesses t.resolution.trace ++ _
  rcases outcome_cases t with
    ⟨name, lines, hs, ht, _⟩ | ⟨st, data, hmem, hf, _, ht, _⟩ | ⟨err, hmem, hfault, ht, _⟩
  · rw [ht, memory_eq_some hs]
    simp
  · rw [ht, hmem, hf]
    simp
  · rw [ht, hmem, hfault.isUnreadable]
    simp

private theorem call_isIdle (w : World) {c : Cache} {a : Call} (h : a.isIdle c = true) :
    accesses (call w c a).trace = [] := by
  cases a with
  | read q key reload =>
    obtain ⟨hcached, rfl⟩ : c.isCached key = true ∧ reload = false := by
      simpa [Call.isIdle] using h
    change accesses (read w c key false q).trace = []
    rw [read_trace, lookup_accesses]
    simp [readLoads, hcached]
  | check key =>
    have hget : c.entries.get? key = none := by
      simpa [Call.isIdle, isCached, Assoc.contains] using h
    change accesses (check w c key).trace = []
    rw [check_accesses]
    simp [rechecks, isStaleAt, hget]
  | refresh key => cases h
  | checkAll => cases h
  | _ => rfl

private theorem call_checksFirst (w : World) {c : Cache} {a : Call} {key : Bytes} {e : Entry}
    (h : a.checksFirst key = true) (he : c.entries.get? key = some e) :
    a.attempts w c = (if isStale w e then [⟨w, c, key⟩] else []) ∧
      accesses (call w c a).trace =
        c.rechecks key ++ if isStale w e then accesses (load w c key).trace else [] := by
  have hstale : c.isStaleAt w key = isStale w e := by rw [isStaleAt, he, Option.any_some]
  have hloads : c.readLoads w key true = isStale w e := by
    simp [readLoads, isCached, Assoc.contains, he, hstale]
  cases a with
  | check k =>
    obtain rfl : k = key := by simpa [Call.checksFirst] using h
    refine ⟨?_, ?_⟩
    · rw [Call.attempts, Call.effects, hstale]
      split <;> rfl
    · change accesses (check w c k).trace = _
      rw [check_accesses, hstale]
  | read q k reload =>
    obtain ⟨rfl, rfl⟩ : k = key ∧ reload = true := by simpa [Call.checksFirst] using h
    refine ⟨?_, ?_⟩
    · rw [Call.attempts, Call.effects, hloads]
      split <;> rfl
    · change accesses (read w c k true q).trace = _
      rw [read_trace, lookup_accesses, hloads, if_pos rfl]
  | _ => cases h

private theorem call_loads (w : World) {c : Cache} {a : Call} {key : Bytes}
    (h : a.loads c key = true) :
    a.attempts w c = [⟨w, c, key⟩] ∧
      accesses (call w c a).trace = accesses (load w c key).trace := by
  cases a with
  | refresh k =>
    obtain rfl : k = key := by simpa [Call.loads] using h
    exact ⟨rfl, refresh_accesses w c k⟩
  | read q k reload =>
    obtain ⟨rfl, huncached⟩ : k = key ∧ c.isCached k = false := by simpa [Call.loads] using h
    have hloads : c.readLoads w k reload = true := by simp [readLoads, huncached]
    have hnone : c.rechecks k = [] := by
      have hget : c.entries.get? k = none := by simpa [isCached, Assoc.contains] using huncached
      simp [rechecks, hget]
    refine ⟨?_, ?_⟩
    · rw [Call.attempts, Call.effects, if_pos hloads]
      rfl
    · change accesses (read w c k reload q).trace = _
      rw [read_trace, lookup_accesses, hloads, hnone, ite_self, List.nil_append, if_pos rfl]
  | _ => cases h

private theorem rechecks_eq {c : Cache} {key : Bytes} {e : Entry}
    (he : c.entries.get? key = some e) :
    c.rechecks key = if e.witness.isSome then [.stat e.path] else [] := by
  obtain ⟨witness, lines, path, digest⟩ := e
  cases witness <;> simp [rechecks, he]

private theorem cost_load (w : World) (c : Cache) (key : Bytes) :
    let t : Attempt := ⟨w, c, key⟩
    (load w c key).cost =
      ((tried w (candidates w c.searchPath key)).length,
        if t.resolution.found.isSome ∧ t.memory = none then 1 else 0) := by
  intro t
  have haccesses : accesses (load w c key).trace = _ := t.accesses_outcome
  rw [Outcome.cost_eq, haccesses, Event.cost_map_stat]
  split <;> rfl

private theorem cost_checksFirst (w : World) {c : Cache} {a : Call} {key : Bytes} {e : Entry}
    (ha : a.checksFirst key = true) (he : c.entries.get? key = some e) :
    (e.witness = none → (call w c a).cost = (0, 0)) ∧
      ∀ st, e.witness = some st →
        (¬ w.Changed e.path st → (call w c a).cost = (1, 0)) ∧
        (w.Changed e.path st →
          (call w c a).cost = (1 + (load w c key).stats, (load w c key).opens) ∧
          a.attempts w c = [⟨w, c, key⟩]) := by
  obtain ⟨hattempts, haccesses⟩ := call_checksFirst w ha he
  rw [rechecks_eq he] at haccesses
  refine ⟨?_, ?_⟩
  · intro hnone
    have hfresh : isStale w e = false := by rw [isStale, hnone]
    rw [Outcome.cost_eq, haccesses, hnone, hfresh]
    rfl
  · intro st hst
    have hstale : isStale w e = true ↔ w.Changed e.path st := by
      rw [isStale_iff, World.changed_iff]
      simp [hst]
    rw [hst, Option.isSome_some, if_pos rfl] at haccesses
    refine ⟨?_, ?_⟩
    · intro hsame
      rw [← hstale] at hsame
      rw [Outcome.cost_eq, haccesses, if_neg hsame]
      rfl
    · intro hchanged
      rw [← hstale] at hchanged
      have hload := Outcome.cost_eq (load w c key)
      rw [Outcome.cost, Prod.mk.injEq] at hload
      rw [if_pos hchanged] at hattempts haccesses
      refine ⟨?_, hattempts⟩
      rw [Outcome.cost_eq, haccesses, hload.1, hload.2]
      exact Event.cost_map_stat [e.path] _

/-- What calls cost, in looks at metadata and in files opened, after any run and in any world.

Accessors, clearing, reads of a cached key that do not check it and checks of a key that is not cached cost
nothing.  A check of an entry, or a read that checks it first, costs nothing if the entry has no witness,
one look if its file is unchanged, and one look more than a load if it changed; that load is the only one
attempted, also when it fails and evicts the key.  Refreshing a key and reading one that is not cached cost
a load.  And a load looks at its candidates up to the first that is a file, at none if the key cannot be
expanded, and opens a file exactly if one was found and memory has no lines. -/
theorem call_cost (search : List Bytes) (steps : List (World × Call)) (w : World) :
    let c := (empty search).run steps
    (∀ a : Call, a.isIdle c = true → (call w c a).cost = (0, 0)) ∧
    (∀ (a : Call) (key : Bytes) (e : Entry), a.checksFirst key = true → c.entries.get? key = some e →
      (e.witness = none → (call w c a).cost = (0, 0)) ∧
      ∀ st, e.witness = some st →
        (¬ w.Changed e.path st → (call w c a).cost = (1, 0)) ∧
        (w.Changed e.path st →
          (call w c a).cost = (1 + (load w c key).stats, (load w c key).opens) ∧
          a.attempts w c = [⟨w, c, key⟩])) ∧
    (∀ (a : Call) (key : Bytes), a.loads c key = true →
      (call w c a).cost = (load w c key).cost ∧ a.attempts w c = [⟨w, c, key⟩]) ∧
    ∀ key : Bytes,
      let t : Attempt := ⟨w, c, key⟩
      (load w c key).cost =
        ((tried w (candidates w search key)).length,
          if t.resolution.found.isSome ∧ t.memory = none then 1 else 0) ∧
      (Resolve.expand? w key = none → (load w c key).stats = 0) ∧
      (load w c key).stats ≤
        1 + if Path.isBare key then (search.filter (!·.isEmpty)).length else 0 := by
  intro c
  have hsearch : c.searchPath = search := run_empty_searchPath search steps
  refine ⟨?_, ?_, ?_, ?_⟩
  · intro a ha
    rw [Outcome.cost_eq, call_isIdle w ha]
    rfl
  · intro a key e ha he
    exact cost_checksFirst w ha he
  · intro a key ha
    obtain ⟨hattempts, haccesses⟩ := call_loads w ha
    exact ⟨by rw [Outcome.cost_eq, haccesses, Outcome.cost_eq], hattempts⟩
  · intro key t
    have hcost := cost_load w c key
    rw [hsearch] at hcost
    have hstats : (load w c key).stats = (tried w (candidates w search key)).length :=
      congrArg Prod.fst hcost
    refine ⟨hcost, ?_, ?_⟩
    · intro hexpand
      rw [hstats, candidates, hexpand]
      rfl
    · rw [hstats]
      exact Nat.le_trans (List.length_take_le' _ _) (candidates_length_le w search key)

/-- A bare name is found in the last search directory.  As long as the file is there, a read that checks
it first costs one look; once it is gone, that look and one at each of the three candidates, and the key
is evicted. -/
theorem call_cost_gone :
    let key : Bytes := [0x61]
    let path : Bytes := [0x2f, 0x65, 0x2f, 0x61]
    let search : List Bytes := [[0x2f, 0x64], [], [0x2f, 0x65]]
    let before := World.single path [0x78, 0x0a] 1
    let gone := World.single [0x2f, 0x62] [] 2
    let steps := [(before, Call.read .lines key false)]
    let c := (empty search).run steps
    let a := Call.read .lines key true
    let st : Witness := ⟨2, ⟨1, 0⟩⟩
    let e : Entry := { witness := some st, lines := [[0x78, 0x0a]], path }
    (c.entries.get? key = some e ∧ a.checksFirst key = true) ∧
      (¬ before.Changed path st ∧ (call before c a).cost = (1, 0)) ∧
      (gone.Changed path st ∧ (call gone c a).cost = (1 + 3, 0) ∧ a.attempts gone c = [⟨gone, c, key⟩] ∧
        (call gone c a).cache.isCached key = false) ∧
      ((Call.refresh key).loads c key = true ∧ (call before c (.refresh key)).cost = (3, 1)) ∧
      (Call.digest key).isIdle c = true ∧ (call gone c (.digest key)).cost = (0, 0) := by
  intro key path search before gone steps c a st e
  have he : c.entries.get? key = some e := by decide +kernel
  have hsame : ¬ before.Changed path st := by
    rw [World.changed_iff]
    decide +kernel
  have hgone : gone.Changed path st := .inl rfl
  obtain ⟨_, hbefore, hloads, _⟩ := call_cost search steps before
  obtain ⟨hidle, hchecks, _, _⟩ := call_cost search steps gone
  obtain ⟨hcost, hattempts⟩ := ((hchecks a key e rfl he).2 st rfl).2 hgone
  have hstats : (load gone c key).stats = 3 := by decide +kernel
  have hopens : (load gone c key).opens = 0 := by decide +kernel
  have hload : (load before c key).cost = (3, 1) := by decide +kernel
  rw [hstats, hopens] at hcost
  exact ⟨⟨he, rfl⟩, ⟨hsame, ((hbefore a key e rfl he).2 st rfl).1 hsame⟩,
    ⟨hgone, hcost, hattempts, by decide +kernel⟩, ⟨by decide, (hloads (.refresh key) key rfl).1.trans hload⟩,
    rfl, hidle (.digest key) rfl⟩

end Cache
end LineStore
