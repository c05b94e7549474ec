import LineStore.Cli.Action
import LineStore.Proofs.Cache.Load
/-!
# The candidates of a name

A name leads to the first file among its candidates: its expanded path, then for a bare name one path in each
directory of the search path.  Every path it can lead to is clean, and absolute if those directories are, as
the program makes them.  So an absolute path that a name led to leads to itself whatever is searched,
`resolve_first`.
-/
namespace LineStore

namespace Resolve

/-- Where a name with an expanded path is looked for, in order. -/
def lookups (expanded : Bytes) (search : List Bytes) (name : Bytes) : List Bytes :=
  expanded :: if Path.slash ∈ name then []
    else (search.filter (· ≠ [])).map fun dir => Path.join [dir, Path.base name]

/-- The file at a path, with the path. -/
def fileOf (w : World) (p : Bytes) : Option (Bytes × Witness) := (w.fileAt p).map fun st => (p, st)

private theorem fileOf_eq_some_iff {w : World} {p q : Bytes} {st : Witness} :
    fileOf w q = some (p, st) ↔ q = p ∧ w.fileAt p = some st := by
  simp only [fileOf, Option.map_eq_some_iff, Prod.mk.injEq]
  constructor
  · rintro ⟨st', hat, rfl, rfl⟩
    exact ⟨rfl, hat⟩
  · rintro ⟨rfl, hat⟩
    exact ⟨st, hat, rfl, rfl⟩

private theorem fileOf_eq_none_iff {w : World} {p : Bytes} :
    fileOf w p = none ↔ w.fileAt p = none :=
  Option.map_eq_none_iff

private theorem firstFile_eq (w : World) (ps : List Bytes) :
    (firstFile w ps).1 = ps.findSome? (fileOf w) := by
  induction ps with
  | nil => rfl
  | cons p ps ih =>
    rw [firstFile, List.findSome?_cons, fileOf]
    cases w.fileAt p with
    | some st => rfl
    | none => exact ih

private theorem isBare_iff {name : Bytes} : Path.isBare name = true ↔ Path.slash ∉ name := by
  rw [Path.isBare, Bool.not_eq_true', List.any_eq_false]
  exact ⟨fun h hmem => h _ hmem (beq_self_eq_true _), fun h b hb heq => h (beq_iff_eq.mp heq ▸ hb)⟩

private theorem lookups_eq (expanded : Bytes) (search : List Bytes) (name : Bytes) :
    lookups expanded search name = expanded :: searchCandidates search name := by
  have hfilter : search.filter (· ≠ []) = search.filter (!·.isEmpty) := by
    apply List.filter_congr
    intro dir _
    cases dir <;> rfl
  unfold lookups searchCandidates
  by_cases hbare : Path.slash ∈ name
  · rw [if_pos hbare, if_neg (by rw [isBare_iff]; exact not_not_intro hbare)]
  · rw [if_neg hbare, if_pos (isBare_iff.mpr hbare), hfilter]

end Resolve

open Resolve

private theorem resolve_eq_findSome? {w : World} {name expanded : Bytes} (search : List Bytes)
    (h : expand? w name = some expanded) :
    let hit := (lookups expanded search name).findSome? (fileOf w)
    (resolve w search name).path = some ((hit.map Prod.fst).getD expanded) ∧
      (resolve w search name).found = hit.map Prod.snd := by
  intro hit
  have hhit : hit = match fileOf w expanded with
      | some found => some found
      | none => (firstFile w (searchCandidates search name)).1 := by
    rw [firstFile_eq]
    change (lookups expanded search name).findSome? (fileOf w) = _
    rw [lookups_eq, List.findSome?_cons]
    cases fileOf w expanded <;> rfl
  rw [hhit, resolve, h]
  dsimp only
  rw [fileOf]
  cases w.fileAt expanded with
  | some st => exact ⟨rfl, rfl⟩
  | none =>
    dsimp only
    cases firstFile w (searchCandidates search name) with
    | mk found t => cases found <;> exact ⟨rfl, rfl⟩

private theorem resolve_found_iff {w : World} {name expanded : Bytes} (search : List Bytes)
    (h : expand? w name = some expanded) (p : Bytes) (st : Witness) :
    (resolve w search name).path = some p ∧ (resolve w search name).found = some st ↔
      ∃ front back, lookups expanded search name = front ++ p :: back ∧ w.fileAt p = some st ∧
        ∀ q ∈ front, w.fileAt q = none := by
  obtain ⟨hpath, hfound⟩ := resolve_eq_findSome? search h
  have hhit : (resolve w search name).path = some p ∧ (resolve w search name).found = some st ↔
      (lookups expanded search name).findSome? (fileOf w) = some (p, st) := by
    rw [hpath, hfound]
    cases (lookups expanded search name).findSome? (fileOf w) <;> simp [Prod.ext_iff]
  rw [hhit, List.findSome?_eq_some_iff]
  simp only [fileOf_eq_some_iff, fileOf_eq_none_iff]
  constructor
  · rintro ⟨front, q, back, heq, ⟨rfl, hat⟩, hfront⟩
    exact ⟨front, back, heq, hat, hfront⟩
  · rintro ⟨front, back, heq, hat, hfront⟩
    exact ⟨front, p, back, heq, ⟨rfl, hat⟩, hfront⟩

private theorem resolve_found_eq_none_iff {w : World} {name expanded : Bytes} (search : List Bytes)
    (h : expand? w name = some expanded) :
    (resolve w search name).found = none ↔ ∀ q ∈ lookups expanded search name, w.fileAt q = none := by
  rw [(resolve_eq_findSome? search h).2, Option.map_eq_none_iff, List.findSome?_eq_none_iff]
  exact forall₂_congr fun _ _ => fileOf_eq_none_iff

private theorem resolve_of_missing {w : World} {search : List Bytes} {name expanded : Bytes}
    (h : expand? w name = some expanded) (hmiss : (resolve w search name).found = none) :
    (resolve w search name).path = some expanded ∧ (resolve w search name).error name = .notFound name := by
  obtain ⟨hpath, hfound⟩ := resolve_eq_findSome? search h
  rw [hfound, Option.map_eq_none_iff] at hmiss
  rw [hmiss] at hpath
  exact ⟨hpath, by rw [Resolution.error, hpath]; rfl⟩

/-! ## The paths of names -/

private theorem Resolve.expand?_isAbs {w : World} {name p : Bytes} (hcwd : Path.isAbs w.cwd = true)
    (h : expand? w name = some p) : Path.isAbs p = true ∧ Path.clean p = p := by
  have habs : Path.isAbs p = true := by
    unfold expand? at h
    split at h
    · cases h
      exact Path.isAbs_absolute hcwd _
    · split at h
      · obtain ⟨home, _, rfl⟩ := Option.map_eq_some_iff.mp h
        exact Path.isAbs_absolute hcwd _
      · cases h
        exact Path.isAbs_absolute hcwd _
  refine ⟨habs, (expand?_clean h).resolve_left ?_⟩
  rintro rfl
  cases habs

private theorem resolve_path_cases {w : World} {search : List Bytes} {name p : Bytes}
    (hcwd : Path.isAbs w.cwd = true)
    (h : (resolve w search name).path = some p) :
    Path.isAbs p = true ∧ Path.clean p = p ∨
      ∃ dir ∈ search, dir ≠ [] ∧ p = Path.join [dir, Path.base name] := by
  rcases resolve_cases w search name with
    ⟨_, hp, _⟩ | ⟨expanded, q, _, hx, hmem, hp, _⟩ | ⟨q, hx, hp, _⟩ <;> rw [hp] at h <;> cases h
  · rcases hmem with rfl | hmem
    · exact .inl (expand?_isAbs hcwd hx)
    · unfold searchCandidates at hmem
      split at hmem
      · obtain ⟨dir, hdir, rfl⟩ := List.mem_map.mp hmem
        obtain ⟨hdir, hne⟩ := List.mem_filter.mp hdir
        exact .inr ⟨dir, hdir, by simpa using hne, rfl⟩
      · cases hmem
  · exact .inl (expand?_isAbs hcwd hx)

private theorem resolve_path_clean {w : World} {search : List Bytes} {name p : Bytes}
    (hcwd : Path.isAbs w.cwd = true)
    (h : (resolve w search name).path = some p) : Path.clean p = p := by
  rcases resolve_path_cases hcwd h with ⟨-, hclean⟩ | ⟨dir, -, hne, rfl⟩
  · exact hclean
  · rw [Path.join_of_ne_nil hne, Path.clean_clean]

private theorem resolve_path_isAbs {w : World} {search : List Bytes} {name p : Bytes}
    (hcwd : Path.isAbs w.cwd = true)
    (hsearch : ∀ dir ∈ search, dir ≠ [] → Path.isAbs dir = true)
    (h : (resolve w search name).path = some p) : Path.isAbs p = true := by
  rcases resolve_path_cases hcwd h with ⟨habs, -⟩ | ⟨dir, hdir, hne, rfl⟩
  · exact habs
  · exact Path.isAbs_join_cons (hsearch dir hdir hne) _

namespace Cli

private theorem Action.run_consult_bind {α β : Type} (f : Config → Config.Outcome α)
    (next : α → Action β)
    (st : RunState) :
    (Action.consult f >>= next).run st =
      (next (f st.config).value).run
        { config := (f st.config).config, trace := st.trace ++ (f st.config).trace } := rfl

private theorem isAbs_seenFrom {start : Bytes} (h : Path.isAbs start = true) (d : Bytes) :
    Path.isAbs (if !Path.isAbs d && !start.isEmpty then Path.join [start, d] else d) = true := by
  have hne : start.isEmpty = false := by
    cases start with
    | nil => cases h
    | cons => rfl
  cases hd : Path.isAbs d with
  | true => simpa using hd
  | false =>
    simp only [hne, Bool.not_false, Bool.and_self, if_true]
    exact Path.isAbs_join_cons h [d]

private theorem searchPath_isAbs (h : Host) {start : Bytes} (hstart : Path.isAbs start = true)
    (s : Settings)
    (st : RunState) :
    ∃ dirs st', (searchPath h start s).run st = (.ok dirs, st') ∧ ∀ dir ∈ dirs, Path.isAbs dir = true := by
  have hall : ∀ named : List Bytes,
      ∀ dir ∈ (named.map fun d => if !Path.isAbs d && !start.isEmpty then Path.join [start, d] else d),
        Path.isAbs dir = true := by
    intro named dir hdir
    obtain ⟨d, -, rfl⟩ := List.mem_map.mp hdir
    exact isAbs_seenFrom hstart d
  rw [searchPath, Action.run_consult_bind]
  cases (Config.list h st.config (utf8 "path") [[]]).value with
  | ok more => exact ⟨_, _, rfl, hall _⟩
  | error e => exact ⟨_, _, rfl, hall _⟩

end Cli

/-- A name that can be expanded leads to the first of its candidates that is a file; there is none exactly if it
leads to nothing, and then its path is the expanded one and the error says that it was not found.  The path is
clean, and absolute if the directories searched are, as the program makes them.  An absolute path leads to
itself and to the same file, whatever is searched and wherever it is looked up. -/
theorem resolve_first {w : World} {name expanded : Bytes} (search : List Bytes)
    (h : expand? w name = some expanded) :
    let r := resolve w search name
    let ps := lookups expanded search name
    (∀ p st, r.path = some p ∧ r.found = some st ↔
      ∃ front back, ps = front ++ p :: back ∧ w.fileAt p = some st ∧ ∀ q ∈ front, w.fileAt q = none) ∧
    (r.found = none ↔ ∀ q ∈ ps, w.fileAt q = none) ∧
    (r.found = none → r.path = some expanded ∧ r.error name = .notFound name) ∧
    (Path.isAbs w.cwd = true → ∀ p, r.path = some p → Path.IsClean p ∧ Path.clean p = p ∧
      ((∀ dir ∈ search, dir ≠ [] → Path.isAbs dir = true) → Path.isAbs p = true)) ∧
    (∀ host start settings st, Path.isAbs start = true → ∃ dirs st',
      (Cli.searchPath host start settings).run st = (.ok dirs, st') ∧ ∀ dir ∈ dirs, Path.isAbs dir = true) ∧
    ∀ p, r.path = some p → Path.isAbs p = true → ∀ v : World, v.stat = w.stat → ∀ others,
      (resolve v others p).path = some p ∧ (resolve v others p).found = r.found := by
  intro r ps
  refine ⟨resolve_found_iff search h, resolve_found_eq_none_iff search h, resolve_of_missing h, ?_, ?_, ?_⟩
  · intro hcwd p hp
    have hclean := resolve_path_clean hcwd hp
    exact ⟨hclean ▸ Path.isClean_clean p, hclean, fun hsearch => resolve_path_isAbs hcwd hsearch hp⟩
  · intro host start settings st hstart
    exact Cli.searchPath_isAbs host hstart settings st
  · intro p hp habs v hv others
    have hclean : Path.clean p = p := by
      refine (resolve_clean hp).resolve_left ?_
      rintro rfl
      cases habs
    have hat : v.fileAt p = w.fileAt p := by rw [World.fileAt, hv, World.fileAt]
    obtain ⟨hpath, hfound⟩ := resolve_of_clean v others habs hclean
    refine ⟨hpath, ?_⟩
    change _ = (resolve w search name).found
    rw [hfound, hat, resolve_found w search name, hp, Option.bind_some]

/-- A bare name that is found in the last directory searched, and its path searched for elsewhere. -/
theorem resolve_first_in_directory :
    let path := utf8 "/lib/r.rb"
    let w : World := { World.single path (utf8 "x\n") 1 with cwd := utf8 "/w" }
    let v : World := { w with cwd := utf8 "/", home := some (utf8 "/h") }
    let name := utf8 "r.rb"
    let search := [[], utf8 "/w/../gems", utf8 "//lib/."]
    expand? w name = some (utf8 "/w/r.rb") ∧
      lookups (utf8 "/w/r.rb") search name = [utf8 "/w/r.rb", utf8 "/gems/r.rb", path] ∧
      (resolve w search name).path = some path ∧ (resolve w search name).found = some ⟨2, ⟨1, 0⟩⟩ ∧
      Path.isAbs w.cwd = true ∧ Path.isAbs path = true ∧ Path.IsClean path ∧
      (resolve v [utf8 "rel"] path).path = some path ∧
      (resolve v [utf8 "rel"] path).found = some ⟨2, ⟨1, 0⟩⟩ := by
  intro path w v name search
  have hexpand : expand? w name = some (utf8 "/w/r.rb") := by decide +kernel
  have hlookups : lookups (utf8 "/w/r.rb") search name = [utf8 "/w/r.rb", utf8 "/gems/r.rb", path] := by
    decide +kernel
  have hcwd : Path.isAbs w.cwd = true := by decide +kernel
  have habs : Path.isAbs path = true := by decide +kernel
  obtain ⟨hfirst, -, -, hclean, -, hagain⟩ := resolve_first search hexpand
  have hleads := (hfirst path ⟨2, ⟨1, 0⟩⟩).mpr
    ⟨[utf8 "/w/r.rb", utf8 "/gems/r.rb"], [], hlookups, by decide +kernel, by decide +kernel⟩
  obtain ⟨hform, -, -⟩ := hclean hcwd path hleads.1
  obtain ⟨hpath, hfound⟩ := hagain path hleads.1 habs v rfl [utf8 "rel"]
  exact ⟨hexpand, hlookups, hleads.1, hleads.2, hcwd, habs, hform, hpath, hfound.trans hleads.2⟩

end LineStore
