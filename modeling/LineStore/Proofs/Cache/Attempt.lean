import LineStore.Cache.Basic
import LineStore.Proofs.Cache.Resolve
/-!
# One load

An `Attempt` is a load with all that it depends on.  It asks memory first, under at most three names, and
then the disk; `Attempt.outcome_cases` says what it does in each case: the entry it builds or the fault it
meets, the cache it leaves and the files it looks at.
-/
namespace LineStore

namespace Event

def isAccess : Event → Bool
  | stat _ | opened _ => true
  | _ => false

/-- What was looked at and opened, without the log. -/
def accesses (t : List Event) : List Event := t.filter isAccess

@[simp] theorem accesses_nil : accesses [] = [] := rfl

@[simp] theorem accesses_append (t t' : List Event) :
    accesses (t ++ t') = accesses t ++ accesses t' := List.filter_append t t'

@[simp] theorem accesses_stat (p : Bytes) (t : List Event) :
    accesses (.stat p :: t) = .stat p :: accesses t := rfl

@[simp] theorem accesses_opened (p : Bytes) (t : List Event) :
    accesses (.opened p :: t) = .opened p :: accesses t := rfl

@[simp] theorem accesses_logged (r : Log.Record) (t : List Event) :
    accesses (.logged r :: t) = accesses t := rfl

theorem mem_accesses_opened {p : Bytes} {t : List Event} :
    .opened p ∈ accesses t ↔ .opened p ∈ t := by
  simp [accesses, isAccess]

end Event

open Event

namespace Cache

theorem firstSource_eq_some {w : World} {names : List Bytes} {name : Bytes} {lines : List Bytes}
    (h : firstSource w names = some (name, lines)) : w.source name = some lines := by
  induction names with
  | nil => cases h
  | cons n names ih =>
    rw [firstSource] at h
    cases hn : w.source n with
    | some ls =>
      simp only [hn, Option.some.injEq, Prod.mk.injEq] at h
      rw [← h.1, hn, h.2]
    | none =>
      simp only [hn] at h
      exact ih h

theorem firstSource_eq_none {w : World} (h : ∀ name, w.source name = none) (names : List Bytes) :
    firstSource w names = none := by
  induction names with
  | nil => rfl
  | cons n names ih => rw [firstSource, h n, ih]

private theorem firstSource_lines (w : World) (c : Cache) (key path : Bytes) :
    (firstSource w (c.sourceNames key path)).map Prod.snd =
      (w.source key).or ((w.source path).or ((c.reverse.get? path).bind w.source)) := by
  have hpair : ∀ names, (firstSource w (key :: path :: names)).map Prod.snd =
      (w.source key).or ((w.source path).or ((firstSource w names).map Prod.snd)) := by
    intro names
    cases hkey : w.source key <;> cases hpath : w.source path <;> simp [firstSource, hkey, hpath]
  unfold sourceNames
  cases hprev : c.reverse.get? path with
  | none => exact hpair []
  | some prev =>
    by_cases hne : prev ≠ key ∧ prev ≠ path
    · simp only [if_pos hne]
      rw [hpair [prev]]
      cases hsource : w.source prev <;> simp [firstSource, hsource]
    -- The name is asked for once only; it would supply nothing new the second time.
    · simp only [if_neg hne]
      rw [hpair []]
      by_cases hkey : prev = key
      · subst hkey
        cases hk : w.source prev <;> cases w.source path <;> simp [firstSource, hk]
      · have hpath : prev = path := Decidable.of_not_not fun h => hne ⟨hkey, h⟩
        subst hpath
        cases hp : w.source prev <;> simp [firstSource, hp]

/-- A load about to be made: the world and the cache it is made in, and its key. -/
structure Attempt where
  world : World
  cache : Cache
  key : Bytes

namespace Attempt

variable (t : Attempt)

def resolution : Resolution := resolve t.world t.cache.searchPath t.key

/-- Where the key leads, or the key itself if it cannot be expanded. -/
def path : Bytes := t.resolution.path.getD t.key

/-- The lines held in memory: under the key, else under its path, else under the name that path was
last known by. -/
def memory : Option (List Bytes) :=
  (t.world.source t.key).or
    ((t.world.source t.path).or ((t.cache.reverse.get? t.path).bind t.world.source))

def outcome : Outcome (Except LoadError Entry) := load t.world t.cache t.key

/-- What keeps the disk from supplying the lines. -/
inductive Fault : LoadError → Prop where
  | noHome (h : Resolve.expand? t.world t.key = none) : Fault (.noHome t.key)
  | notFound (hpath : t.resolution.path = some t.path) (h : t.resolution.found = none) :
    Fault (.notFound t.key)
  | openFailed {why : Bytes} (hfound : t.resolution.found.isSome)
    (h : t.world.read t.path = .openFailed why) : Fault (.openFailed t.path why)
  /-- It does not matter how many bytes came before the error. -/
  | readFailed {got why : Bytes} (hfound : t.resolution.found.isSome)
    (h : t.world.read t.path = .readFailed got why) : Fault (.readFailed t.path why)

variable {t}

theorem firstSource_eq_none_iff :
    firstSource t.world (t.cache.sourceNames t.key t.path) = none ↔ t.memory = none := by
  rw [memory, ← firstSource_lines, Option.map_eq_none_iff]

theorem memory_eq_some {name : Bytes} {lines : List Bytes}
    (h : firstSource t.world (t.cache.sourceNames t.key t.path) = some (name, lines)) :
    t.memory = some lines := by
  rw [memory, ← firstSource_lines, h, Option.map_some]

private theorem fault_of_notFound (h : t.resolution.found = none) :
    t.Fault (t.resolution.error t.key) := by
  unfold Resolution.error
  cases hpath : t.resolution.path with
  | none => exact .noHome (resolve_path_eq_none_iff.mp hpath)
  | some p =>
    refine .notFound ?_ h
    rw [path, hpath, Option.getD_some]

theorem Fault.unreadable {err : LoadError} (h : t.Fault err) :
    t.resolution.found = none ∨ ∀ data, t.world.read t.path ≠ .content data := by
  cases h with
  | noHome h =>
    left
    rw [resolution, resolve_found, resolve_path_eq_none_iff.mpr h, Option.bind_none]
  | notFound _ h => exact .inl h
  | openFailed _ h => exact .inr (by simp [h])
  | readFailed _ h => exact .inr (by simp [h])

private theorem error_isUnreadable (r : Resolution) (name : Bytes) :
    (r.error name).isUnreadable = false := by
  unfold Resolution.error
  split <;> rfl

/-- A load is served by memory, is served by the disk, or fails and drops the key. -/
theorem outcome_cases (t : Attempt) :
    (∃ name lines, firstSource t.world (t.cache.sourceNames t.key t.path) = some (name, lines) ∧
      accesses t.outcome.trace = accesses t.resolution.trace ∧
      t.outcome.value = .ok { witness := t.resolution.found, lines, path := t.path } ∧
      t.outcome.cache = { t.cache with
        entries := (t.cache.entries.erase t.key).set t.key
          { witness := t.resolution.found, lines, path := t.path }
        reverse := t.cache.reverse.set t.path name }) ∨
    (∃ st data, t.memory = none ∧ t.resolution.found = some st ∧
      t.world.read t.path = .content data ∧
      accesses t.outcome.trace = accesses t.resolution.trace ++ [.opened t.path] ∧
      t.outcome.value = .ok { witness := some st, lines := splitLines data, path := t.path } ∧
      t.outcome.cache = { t.cache with
        entries := (t.cache.entries.erase t.key).set t.key
          { witness := some st, lines := splitLines data, path := t.path }
        reverse := if t.cache.reverse.contains t.path then t.cache.reverse
          else t.cache.reverse.set t.path t.key }) ∨
    (∃ err, t.memory = none ∧ t.Fault err ∧
      accesses t.outcome.trace =
        accesses t.resolution.trace ++ (if err.isUnreadable then [.opened t.path] else []) ∧
      t.outcome.value = .error err ∧
      t.outcome.cache = { t.cache with entries := t.cache.entries.erase t.key }) := by
  rw [← firstSource_eq_none_iff]
  cases hs : firstSource t.world (t.cache.sourceNames t.key t.path) with
  | some hit =>
    obtain ⟨name, lines⟩ := hit
    refine .inl ⟨name, lines, rfl, ?_⟩
    simp only [outcome, load, path, resolution] at hs ⊢
    rw [hs]
    exact ⟨by simp, rfl, rfl⟩
  | none =>
    right
    cases hf : t.resolution.found with
    | none =>
      refine .inr ⟨_, rfl, fault_of_notFound hf, ?_⟩
      rw [error_isUnreadable]
      simp only [outcome, load, path, resolution] at hs hf ⊢
      rw [hs, hf]
      exact ⟨by simp, rfl, rfl⟩
    | some st =>
      have hfound : t.resolution.found.isSome := by rw [hf]; rfl
      cases hr : t.world.read t.path with
      | content data =>
        refine .inl ⟨st, data, rfl, rfl, rfl, ?_⟩
        simp only [outcome, load, path, resolution] at hs hf hr ⊢
        rw [hs, hf, hr]
        exact ⟨by simp, rfl, rfl⟩
      | openFailed why =>
        refine .inr ⟨_, rfl, .openFailed hfound hr, ?_⟩
        simp only [outcome, load, path, resolution] at hs hf hr ⊢
        rw [hs, hf, hr]
        exact ⟨by simp [LoadError.isUnreadable], rfl, rfl⟩
      | readFailed got why =>
        refine .inr ⟨_, rfl, .readFailed hfound hr, ?_⟩
        simp only [outcome, load, path, resolution] at hs hf hr ⊢
        rw [hs, hf, hr]
        exact ⟨by simp [LoadError.isUnreadable], rfl, rfl⟩

/-- With lines in memory a load succeeds, and the path is known from then on by the name of the source
that supplied them. -/
theorem served {lines : List Bytes} (h : t.memory = some lines) :
    t.outcome.value = .ok { witness := t.resolution.found, lines, path := t.path } ∧
      ∃ name, t.world.source name = some lines ∧
        t.outcome.cache.reverse = t.cache.reverse.set t.path name := by
  rcases outcome_cases t with
    ⟨name, lines', hs, _, hv, hc⟩ | ⟨_, _, hmem, _⟩ | ⟨_, hmem, _⟩
  · obtain rfl : lines' = lines := Option.some.inj ((memory_eq_some hs).symm.trans h)
    exact ⟨hv, name, firstSource_eq_some hs, by rw [hc]⟩
  · rw [hmem] at h
    cases h
  · rw [hmem] at h
    cases h

/-- Without lines in memory, a file that is found and can be read is loaded, and its path is known from
then on by some name, at first that of the key. -/
theorem readFromDisk {st : Witness} {data : Bytes} (hmem : t.memory = none)
    (hf : t.resolution.found = some st) (hr : t.world.read t.path = .content data) :
    t.outcome.value = .ok { witness := some st, lines := splitLines data, path := t.path } ∧
      t.outcome.cache.reverse.get? t.path = some ((t.cache.reverse.get? t.path).getD t.key) := by
  rcases outcome_cases t with
    ⟨_, _, hs, _⟩ | ⟨st', data', _, hf', hr', _, hv, hc⟩ | ⟨_, _, hfault, _⟩
  · rw [memory_eq_some hs] at hmem
    cases hmem
  · cases hf'.symm.trans hf
    cases hr'.symm.trans hr
    refine ⟨hv, ?_⟩
    rw [hc]
    cases hprev : t.cache.reverse.get? t.path <;> simp [Assoc.contains, hprev]
  · rcases hfault.unreadable with hnone | hne
    · rw [hf] at hnone
      cases hnone
    · exact absurd hr (hne data)

theorem of_opened {q : Bytes} (h : .opened q ∈ t.outcome.trace) : q = t.path ∧ t.memory = none := by
  have hresolve : .opened q ∉ accesses t.resolution.trace := by
    rw [mem_accesses_opened]
    exact resolve_opened _ _ _ q
  rw [← mem_accesses_opened] at h
  rcases outcome_cases t with ⟨_, _, _, ht, _⟩ | ⟨_, _, hmem, _, _, ht, _⟩ | ⟨err, hmem, _, ht, _⟩
  · rw [ht] at h
    exact absurd h hresolve
  · rw [ht, List.mem_append] at h
    have hq : Event.opened q = .opened t.path := List.mem_singleton.mp (h.resolve_left hresolve)
    cases hq
    exact ⟨rfl, hmem⟩
  · rw [ht, List.mem_append] at h
    have hq := h.resolve_left hresolve
    split at hq
    · cases List.mem_singleton.mp hq
      exact ⟨rfl, hmem⟩
    · cases hq

/-- A load may change what its own path is known by, and no other path. -/
theorem reverse_of_ne {p : Bytes} (h : p ≠ t.path) :
    t.outcome.cache.reverse.get? p = t.cache.reverse.get? p := by
  rcases outcome_cases t with ⟨_, _, _, _, _, hc⟩ | ⟨_, _, _, _, _, _, _, hc⟩ | ⟨_, _, _, _, _, hc⟩
  · rw [hc, Assoc.get?_set, if_neg h]
  · rw [hc]
    dsimp only
    split
    · rfl
    · rw [Assoc.get?_set, if_neg h]
  · rw [hc]

end Attempt
end Cache
end LineStore
