import LineStore.Proofs.Cache.Check
/-!
# Runs of a cache

A run is a list of calls, each made in the world of its moment: files, environment and sources may
change in any way between two calls.  Every call is made of a few effects on the cache, and a run is
the replay of the effects of its calls, `run_eq_replay`.
-/
namespace LineStore.Cache

inductive Query where
  | line (n : Int)
  | lines
  | range (first last : Int)
  | count
  | path
  deriving Repr, DecidableEq

abbrev Query.Result : Query → Type
  | line _ => Bytes
  | lines => List Bytes
  | range _ _ => List Bytes
  | count => Nat
  | path => Bytes

def read (w : World) (c : Cache) (key : Bytes) (reload : Bool) :
    (q : Query) → Outcome (Option q.Result)
  | .line n => c.line w key n reload
  | .lines => c.lines w key reload
  | .range first last => c.lineRange w key first last reload
  | .count => c.lineCount w key reload
  | .path => c.ensure w key reload

inductive Call where
  | read (q : Query) (key : Bytes) (reload : Bool)
  | refresh (key : Bytes)
  | check (key : Bytes)
  | checkAll
  | digest (key : Bytes)
  | clear (key : Bytes)
  | clearAll
  | isCached (key : Bytes)
  | pathOf (key : Bytes)
  | witnessOf (key : Bytes)
  | keys
  | searchPath
  deriving Repr, DecidableEq

abbrev Call.Answer : Call → Type
  | read q _ _ => Option q.Result
  | refresh _ => Option (List Bytes)
  | check _ => CheckResult
  | checkAll => List Bytes
  | digest _ => Option Bytes
  | clear _ => Unit
  | clearAll => Unit
  | isCached _ => Bool
  | pathOf _ => Option Bytes
  | witnessOf _ => Option Witness
  | keys => List Bytes
  | searchPath => List Bytes

def call (w : World) (c : Cache) : (a : Call) → Outcome a.Answer
  | .read q key reload => c.read w key reload q
  | .refresh key => c.refresh w key
  | .check key => c.check w key
  | .checkAll => c.checkAll w
  | .digest key => ⟨(c.digest key).1, (c.digest key).2, []⟩
  | .clear key => ⟨(), c.clear key, []⟩
  | .clearAll => ⟨(), c.clearAll, []⟩
  | .isCached key => ⟨c.isCached key, c, []⟩
  | .pathOf key => ⟨c.path? key, c, []⟩
  | .witnessOf key => ⟨c.witness? key, c, []⟩
  | .keys => ⟨c.keys, c, []⟩
  | .searchPath => ⟨c.searchPath, c, []⟩

/-- The cache after some calls, each made in the world of its moment. -/
def run (c : Cache) : List (World × Call) → Cache
  | [] => c
  | (w, a) :: steps => (call w c a).cache.run steps

/-- One change of a cache.  Only a load looks at the world. -/
inductive Effect where
  | load (key : Bytes)
  | digest (key : Bytes)
  | clear (key : Bytes)
  | clearAll
  deriving Repr, DecidableEq

def Effect.apply (w : World) (c : Cache) : Effect → Cache
  | load key => (c.load w key).cache
  | digest key => (c.digest key).2
  | clear key => c.clear key
  | clearAll => c.clearAll

def Call.effects (w : World) (c : Cache) : Call → List Effect
  | read _ key reload => if c.readLoads w key reload then [.load key] else []
  | refresh key => [.load key]
  | check key => if c.isStaleAt w key then [.load key] else []
  | checkAll => (c.keys.filter (c.isStaleAt w)).map .load
  | digest key => [.digest key]
  | clear key => [.clear key]
  | clearAll => [.clearAll]
  | isCached _ | pathOf _ | witnessOf _ | keys | searchPath => []

/-- The effects of a run, each with the world it took place in. -/
def history (c : Cache) : List (World × Call) → List (World × Effect)
  | [] => []
  | (w, a) :: steps => (a.effects w c).map (w, ·) ++ (call w c a).cache.history steps

def replay (c : Cache) (h : List (World × Effect)) : Cache := h.foldl (fun c x => x.2.apply x.1 c) c

/-- The part of an entry that answers a query. -/
def Query.answer : (q : Query) → Entry → Option q.Result
  | .line n, e => if n < 1 then none else e.lines[n.toNat - 1]?
  | .lines, e => some e.lines
  | .range first last, e =>
    if first < 1 ∨ e.lines.length < first ∨ last < first then none
    else some ((e.lines.take last.toNat).drop (first.toNat - 1))
  | .count, e => some e.lines.length
  | .path, e => some e.path

theorem read_value (w : World) (c : Cache) (key : Bytes) (reload : Bool) (q : Query) :
    (read w c key reload q).value = (lookup w c key reload).value.bind q.answer := by
  cases q with
  | line n => rfl
  | lines => exact Option.map_eq_bind
  | range first last => rfl
  | count => exact Option.map_eq_bind
  | path => exact Option.map_eq_bind

theorem read_cache (w : World) (c : Cache) (key : Bytes) (reload : Bool) (q : Query) :
    (read w c key reload q).cache = (lookup w c key reload).cache := by
  cases q <;> rfl

theorem read_trace (w : World) (c : Cache) (key : Bytes) (reload : Bool) (q : Query) :
    (read w c key reload q).trace = (lookup w c key reload).trace := by
  cases q <;> rfl

theorem refresh_cache (w : World) (c : Cache) (key : Bytes) :
    (refresh w c key).cache = (load w c key).cache := by
  unfold refresh
  cases hv : (load w c key).value <;> simp only [hv]

@[simp] theorem digest_searchPath (c : Cache) (key : Bytes) :
    (c.digest key).2.searchPath = c.searchPath := by
  unfold digest
  split
  · rfl
  · split <;> rfl

theorem digest_reverse (c : Cache) (key : Bytes) : (c.digest key).2.reverse = c.reverse := by
  unfold digest
  split
  · rfl
  · split <;> rfl

private theorem digest_distinct {c : Cache} (h : c.entries.Distinct) (key : Bytes) :
    (c.digest key).2.entries.Distinct := by
  unfold digest
  split
  · exact h
  · split
    · exact h
    · exact h.set key _

/-- Asking for a digest fills it in for the one key, and changes no entry in any other way. -/
theorem digest_get? (c : Cache) (key k : Bytes) :
    (c.digest key).2.entries.get? k =
      if k = key then (c.entries.get? k).map Entry.withDigest else c.entries.get? k := by
  unfold digest
  cases he : c.entries.get? key with
  | none => by_cases hk : k = key <;> simp [hk, he]
  | some e =>
    obtain ⟨st, lines, path, digest⟩ := e
    cases digest with
    | some d => by_cases hk : k = key <;> simp [hk, he, Entry.withDigest]
    | none => by_cases hk : k = key <;> simp [hk, he, Assoc.get?_set, Entry.withDigest]

namespace Effect

@[simp] theorem apply_searchPath (w : World) (c : Cache) (x : Effect) :
    (x.apply w c).searchPath = c.searchPath := by
  cases x with
  | load key => exact load_searchPath w c key
  | digest key => exact digest_searchPath c key
  | clear key => rfl
  | clearAll => rfl

private theorem apply_distinct (w : World) {c : Cache} (h : c.entries.Distinct) (x : Effect) :
    (x.apply w c).entries.Distinct := by
  cases x with
  | load key => exact load_distinct w h key
  | digest key => exact digest_distinct h key
  | clear key => exact h.erase key
  | clearAll => exact Assoc.distinct_empty

end Effect

theorem replay_append (c : Cache) (h h' : List (World × Effect)) :
    c.replay (h ++ h') = (c.replay h).replay h' := List.foldl_append

private theorem replay_loads (w : World) (c : Cache) (ks : List Bytes) :
    c.replay ((ks.map Effect.load).map (w, ·)) = c.loadEach w ks := by
  induction ks generalizing c with
  | nil => rfl
  | cons k ks ih => exact ih (load w c k).cache

private theorem replay_distinct {c : Cache} (hc : c.entries.Distinct) (h : List (World × Effect)) :
    (c.replay h).entries.Distinct := by
  induction h generalizing c with
  | nil => exact hc
  | cons x h ih => exact ih (x.2.apply_distinct x.1 hc)

@[simp] theorem replay_searchPath (c : Cache) (h : List (World × Effect)) :
    (c.replay h).searchPath = c.searchPath := by
  induction h generalizing c with
  | nil => rfl
  | cons x h ih => exact (ih _).trans (x.2.apply_searchPath x.1 c)

/-- A call changes the cache by its effects and in no other way. -/
theorem call_cache (w : World) {c : Cache} (h : c.entries.Distinct) (a : Call) :
    (call w c a).cache = c.replay ((a.effects w c).map (w, ·)) := by
  cases a with
  | read q key reload =>
    change (read w c key reload q).cache = _
    rw [read_cache, lookup_cache, Call.effects]
    split <;> rfl
  | refresh key => exact refresh_cache w c key
  | check key =>
    change (check w c key).cache = _
    rw [check_cache, Call.effects]
    split <;> rfl
  | checkAll => exact (checkAll_eq w h).2.trans (replay_loads w c _).symm
  | digest key => rfl
  | clear key => rfl
  | clearAll => rfl
  | isCached key => rfl
  | pathOf key => rfl
  | witnessOf key => rfl
  | keys => rfl
  | searchPath => rfl

theorem call_distinct (w : World) {c : Cache} (h : c.entries.Distinct) (a : Call) :
    (call w c a).cache.entries.Distinct := by
  rw [call_cache w h a]
  exact replay_distinct h _

theorem run_eq_replay {c : Cache} (h : c.entries.Distinct) (steps : List (World × Call)) :
    c.run steps = c.replay (c.history steps) := by
  induction steps generalizing c with
  | nil => rfl
  | cons step steps ih =>
    obtain ⟨w, a⟩ := step
    have hcall := call_cache w h a
    -- The effects of the later calls are those they have on the cache this call leaves.
    rw [run, history, replay_append, ← hcall, ih (call_distinct w h a)]

theorem run_distinct {c : Cache} (h : c.entries.Distinct) (steps : List (World × Call)) :
    (c.run steps).entries.Distinct := by
  rw [run_eq_replay h]
  exact replay_distinct h _

theorem empty_distinct (search : List Bytes) : (empty search).entries.Distinct :=
  Assoc.distinct_empty

theorem run_empty_searchPath (search : List Bytes) (steps : List (World × Call)) :
    ((empty search).run steps).searchPath = search := by
  rw [run_eq_replay (empty_distinct search), replay_searchPath]
  rfl

theorem mem_history {c : Cache} {steps : List (World × Call)} {x : World × Effect}
    (h : x ∈ c.history steps) : x.1 ∈ steps.map Prod.fst := by
  induction steps generalizing c with
  | nil => cases h
  | cons step steps ih =>
    obtain ⟨w, a⟩ := step
    rw [history, List.mem_append] at h
    rcases h with h | h
    · obtain ⟨_, _, rfl⟩ := List.mem_map.mp h
      exact List.mem_cons_self
    · exact List.mem_cons_of_mem _ (ih h)

end LineStore.Cache
