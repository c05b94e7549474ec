import LineStore.Cache.Describe
import LineStore.Proofs.Cache.Failure
import LineStore.Proofs.Cache.Provenance
import LineStore.Proofs.Cache.Snapshot
/-!
# Descriptions are whole

A name is described by ensuring it and then asking for its lines, its digest and its metadata one after the
other.  None of these questions loads the name again, so a row is that of one entry, the one the name has
once it is ensured, and describing looks at nothing that ensuring does not look at, `describe_places`.
-/
namespace LineStore

/-- The row of a name that has the entry, with every cell taken from it. -/
def Entry.row (now : Option Time.Instant) (key : Bytes) (e : Entry) : FileRow where
  file := key
  path := e.path
  lines := e.lines.length
  size := match e.witness, now with
    | none, _ => .none
    | some st, some _ => .human (Human.size st.size)
    | some st, none => .bytes st.size
  mtime := match e.witness, now with
    | none, _ => []
    | some st, some now => Human.time now st.mtime
    | some st, none => st.mtime.rfc3339
  digest := Sha1.hexDigest e.lines.flatten

private theorem Human.time_ne_nil (now t : Time.Instant) : Human.time now t ≠ [] := by
  have hnow : utf8 "now" ≠ [] := by decide
  have hfrom : utf8 "from now" ≠ [] := by decide
  have hago : utf8 "ago" ≠ [] := by decide
  -- A text other than `now` ends in one of the two labels.
  have hend : ∀ a : Bytes, a ++ utf8 "from now" ≠ [] ∧ a ++ utf8 "ago" ≠ [] := fun a =>
    ⟨List.append_ne_nil_of_right_ne_nil a hfrom, List.append_ne_nil_of_right_ne_nil a hago⟩
  unfold Human.time
  dsimp only
  split
  · split
    · exact hnow
    · split
      · split
        all_goals exact (hend _).1
      · exact (hend _).1
  · split
    · exact hnow
    · split
      · split
        all_goals exact (hend _).2
      · exact (hend _).2

private theorem Time.Instant.rfc3339_ne_nil (t : Time.Instant) : t.rfc3339 ≠ [] :=
  List.append_ne_nil_of_right_ne_nil _ (List.cons_ne_nil _ _)

private theorem Entry.row_size_eq_none_iff (now : Option Time.Instant) (key : Bytes) (e : Entry) :
    (e.row now key).size = .none ↔ e.witness = none := by
  unfold Entry.row
  cases e.witness <;> cases now <;> simp

private theorem Entry.row_mtime_eq_nil_iff (now : Option Time.Instant) (key : Bytes) (e : Entry) :
    (e.row now key).mtime = [] ↔ e.witness = none := by
  unfold Entry.row
  cases e.witness <;> cases now <;> simp [Human.time_ne_nil, Time.Instant.rfc3339_ne_nil]

namespace Cache

private theorem digest_witness? (c : Cache) (key k : Bytes) :
    (c.digest key).2.witness? k = c.witness? k := by
  rw [witness?, witness?, digest_get?]
  split
  · rw [Option.bind_map]
    rfl
  · rfl

private theorem describeKey_eq (w : World) (now : Option Time.Instant) {c : Cache} {key : Bytes}
    {e : Entry}
    (he : c.entries.get? key = some e)
    (hdigest : ∀ d, e.digest = some d → d = Sha1.hexDigest e.lines.flatten) :
    describeKey w now c key e.path = ⟨e.row now key, (c.digest key).2, []⟩ := by
  have hcount : c.lineCount w key false = ⟨some e.lines.length, c, []⟩ := by
    rw [lineCount, lookup_of_cached w he]
    rfl
  have hsum : (c.digest key).1 = some (Sha1.hexDigest e.lines.flatten) := by
    rw [digest_value, he, Option.map_some, Option.bind_some, Entry.withDigest]
    cases hd : e.digest with
    | none => rfl
    | some d => exact congrArg some (hdigest d hd)
  have hwitness : (c.digest key).2.witness? key = e.witness := by
    rw [digest_witness?, witness?, he, Option.bind_some]
  unfold describeKey Entry.row
  simp only [hcount, Outcome.andThen, hsum, hwitness, Option.getD_some, List.nil_append]
  cases e.witness <;> cases now <;> rfl

/-- A place in a list of names: the name there, and the cache it is ensured in. -/
structure Place where
  name : Bytes
  cache : Cache

namespace Place

variable (w : World) (reload : Bool) (p : Place)

def ensured : Outcome (Option Bytes) := p.cache.ensure w p.name reload

/-- The entry that the name has right after it is ensured. -/
def entry? : Option Entry := (p.ensured w reload).cache.entries.get? p.name

/-- The cache that the next name meets: an entry of this one has its digest filled in. -/
def after : Cache := ((p.ensured w reload).cache.digest p.name).2

private theorem ensured_value : (p.ensured w reload).value = (p.entry? w reload).map Entry.path := by
  change (lookup w p.cache p.name reload).value.map Entry.path =
    ((lookup w p.cache p.name reload).cache.entries.get? p.name).map Entry.path
  rw [lookup_get?]

private theorem ensured_cache : (p.ensured w reload).cache =
    if p.cache.readLoads w p.name reload then (load w p.cache p.name).cache else p.cache :=
  lookup_cache w p.cache p.name reload

end Place

/-- The places of some names that are described one after the other. -/
def places (w : World) (reload : Bool) : List Bytes → Cache → List Place
  | [], _ => []
  | f :: fs, c => ⟨f, c⟩ :: places w reload fs (Place.after w reload ⟨f, c⟩)

private theorem Sourced.ensured {h : List (World × Effect)} {p : Place} (hp : Sourced h p.cache)
    (w : World)
    (reload : Bool) : ∃ h', Sourced h' (p.ensured w reload).cache := by
  rw [Place.ensured_cache]
  split
  · exact ⟨_, hp.apply w (.load p.name)⟩
  · exact ⟨h, hp⟩

private theorem Sourced.after {h : List (World × Effect)} {p : Place} (hp : Sourced h p.cache)
    (w : World)
    (reload : Bool) : ∃ h', Sourced h' (p.after w reload) := by
  obtain ⟨h', hensured⟩ := hp.ensured w reload
  exact ⟨_, hensured.apply w (.digest p.name)⟩

private theorem describe_cons {h : List (World × Effect)} {p : Place} (hp : Sourced h p.cache)
    (w : World)
    (now : Option Time.Instant) (reload : Bool) (names : List Bytes) :
    let rest := describe w now reload names (p.after w reload)
    describe w now reload (p.name :: names) p.cache =
      { value := (((p.entry? w reload).map (Entry.row now p.name)).toList ++ rest.value.1,
          (if (p.ensured w reload).value.isNone then [p.name] else []) ++ rest.value.2)
        cache := rest.cache
        trace := (p.ensured w reload).trace ++ rest.trace } := by
  -- The step: a name adds its row if it has an entry once it is ensured, and itself if it has none,
  -- and what ensuring it looked at.
  intro rest
  obtain ⟨h', hensured⟩ := hp.ensured w reload
  have hvalue := p.ensured_value w reload
  unfold Place.entry? at hvalue
  have hopen : describe w now reload (p.name :: names) p.cache = (p.ensured w reload).andThen _ := rfl
  rw [hopen]
  simp only [rest, Place.after, Place.entry?]
  rcases hp : p.ensured w reload with ⟨value, cache, trace⟩
  rw [hp] at hvalue hensured
  dsimp only at hvalue hensured ⊢
  subst hvalue
  cases he : cache.entries.get? p.name with
  | none =>
    have hafter : (cache.digest p.name).2 = cache := by rw [Cache.digest, he]
    simp only [Option.map_none, hafter]
    rfl
  | some e =>
    obtain ⟨_, _, hin⟩ := hensured p.name e he
    simp only [Option.map_some, Outcome.andThen, describeKey_eq w now he hin.digest]
    rfl

private theorem describe_eq {h : List (World × Effect)} {c : Cache} (hc : Sourced h c) (w : World)
    (now : Option Time.Instant) (reload : Bool) (names : List Bytes) :
    let ps := places w reload names c
    describe w now reload names c =
      { value := (ps.filterMap fun p => (p.entry? w reload).map (Entry.row now p.name),
          (ps.filter fun p => (p.ensured w reload).value.isNone).map Place.name)
        cache := ps.foldl (fun _ p => p.after w reload) c
        trace := ps.flatMap fun p => (p.ensured w reload).trace } := by
  -- The run: each name is described in the cache that those in front of it left.
  induction names generalizing h c with
  | nil => rfl
  | cons f fs ih =>
    intro ps
    let p : Place := ⟨f, c⟩
    obtain ⟨h', hafter⟩ := Sourced.after (p := p) hc w reload
    have hps : ps = p :: places w reload fs (p.after w reload) := rfl
    have hcons := describe_cons (p := p) hc w now reload fs
    rw [ih hafter] at hcons
    rw [hps, show describe w now reload (f :: fs) c = _ from hcons, List.filterMap_cons, List.filter_cons]
    cases hentry : p.entry? w reload <;> cases hvalue : (p.ensured w reload).value <;> rfl

private theorem places_name (w : World) (reload : Bool) (names : List Bytes) (c : Cache) :
    (places w reload names c).map Place.name = names := by
  induction names generalizing c with
  | nil => rfl
  | cons f fs ih => exact congrArg (f :: ·) (ih _)

private theorem places_getElem? {w : World} {reload : Bool} {names : List Bytes} {c : Cache}
    {i : Nat} {p : Place}
    (h : (places w reload names c)[i]? = some p) :
    p.cache = (places w reload (names.take i) c).foldl (fun _ p => p.after w reload) c := by
  induction names generalizing c i with
  | nil => cases h
  | cons f fs ih =>
    cases i with
    | zero =>
      cases h
      rfl
    | succ i => exact ih h

/-- Every place of a list of names gives, in order, the row of one entry or its name as a missing one.  The name
is ensured in the cache that describing those in front of it left; it is missing exactly if that fails, and
otherwise every cell of its row is taken from the one entry it has then: the digest is that of the lines that
are counted, and size and time are absent exactly if the entry has no witness.  Nothing is looked at,
opened or logged but by ensuring the names. -/
theorem describe_places (search : List Bytes) (steps : List (World × Call)) (w : World)
    (now : Option Time.Instant) (reload : Bool) (names : List Bytes) :
    let c := (empty search).run steps
    let o := describe w now reload names c
    let ps := places w reload names c
    (ps.map Place.name = names ∧
      ∀ i p, ps[i]? = some p → p.cache = (describe w now reload (names.take i) c).cache) ∧
    o.value.1 = ps.filterMap (fun p => (p.entry? w reload).map (Entry.row now p.name)) ∧
    o.value.2 = (ps.filter fun p => (p.ensured w reload).value.isNone).map Place.name ∧
    (∀ p ∈ ps, (p.ensured w reload).value = (p.entry? w reload).map Entry.path) ∧
    (∀ (key : Bytes) (e : Entry), ((e.row now key).file = key ∧ (e.row now key).path = e.path ∧
      (e.row now key).lines = e.lines.length ∧
      (e.row now key).digest = Sha1.hexDigest e.lines.flatten) ∧
      ((e.row now key).size = .none ↔ e.witness = none) ∧ ((e.row now key).mtime = [] ↔ e.witness = none)) ∧
    o.trace = ps.flatMap fun p => (p.ensured w reload).trace := by
  intro c o ps
  have hc : Sourced _ c := run_sourced search steps
  have ho : o = _ := describe_eq hc w now reload names
  refine ⟨⟨places_name w reload names c, ?_⟩, by rw [ho], by rw [ho], ?_, ?_, by rw [ho]⟩
  · intro i p hp
    rw [places_getElem? hp, describe_eq hc]
  · intro p _
    exact p.ensured_value w reload
  · intro key e
    exact ⟨⟨rfl, rfl, rfl, rfl⟩, e.row_size_eq_none_iff now key, e.row_mtime_eq_nil_iff now key⟩

end Cache
end LineStore
