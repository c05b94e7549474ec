import LineStore.Cache.Resolve
import LineStore.Proofs.File.Path
/-!
# Where names lead

A name leads to its expanded path, or beyond it to a candidate in the search path if there is a file.
Either way the path is clean, so that an absolute path found once leads to itself, `resolve_of_resolved`.
-/
namespace LineStore

namespace Resolve

private theorem firstFile_found {w : World} {ps : List Bytes} {p : Bytes} {st : Witness}
    (h : (firstFile w ps).1 = some (p, st)) : p ∈ ps ∧ w.fileAt p = some st := by
  induction ps with
  | nil => cases h
  | cons q ps ih =>
    rw [firstFile] at h
    cases hq : w.fileAt q with
    | some st' =>
      simp only [hq, Option.some.injEq, Prod.mk.injEq] at h
      rw [← h.1, hq, h.2]
      exact ⟨List.mem_cons_self, rfl⟩
    | none =>
      simp only [hq] at h
      exact ⟨List.mem_cons_of_mem q (ih h).1, (ih h).2⟩

private theorem firstFile_opened (w : World) (ps : List Bytes) (q : Bytes) :
    .opened q ∉ (firstFile w ps).2 := by
  induction ps with
  | nil => exact List.not_mem_nil
  | cons p ps ih => cases hp : w.fileAt p <;> simp [firstFile, hp, ih]

theorem expand?_clean {w : World} {name p : Bytes} (h : expand? w name = some p) :
    p = [] ∨ Path.clean p = p := by
  unfold expand? at h
  split at h
  · cases h
    exact Path.clean_absolute w.cwd []
  · split at h
    · obtain ⟨home, _, rfl⟩ := Option.map_eq_some_iff.mp h
      exact Path.clean_absolute w.cwd _
    · cases h
      exact Path.clean_absolute w.cwd _

private theorem searchCandidates_clean {search : List Bytes} {name p : Bytes}
    (h : p ∈ searchCandidates search name) : p = [] ∨ Path.clean p = p := by
  unfold searchCandidates at h
  split at h
  · obtain ⟨dir, _, rfl⟩ := List.mem_map.mp h
    exact Path.clean_join [dir, Path.base name]
  · cases h

/-- An absolute name never needs a home directory. -/
theorem expand?_of_isAbs (w : World) {p : Bytes} (h : Path.isAbs p = true) :
    expand? w p = some (Path.clean p) := by
  cases p with
  | nil => cases h
  | cons c rest =>
    have hc : c = Path.slash := by simpa [Path.isAbs] using h
    have htilde : ¬ (c = tilde ∧ (rest = [] ∨ rest.head? = some Path.slash)) := by
      rw [hc]
      exact fun ht => absurd ht.1 (by decide)
    rw [expand?, if_neg htilde, Path.absolute, if_pos h]

end Resolve

/-- A name cannot be expanded, leads to a file, or leads to no file. -/
theorem resolve_cases (w : World) (search : List Bytes) (name : Bytes) :
    (Resolve.expand? w name = none ∧ (resolve w search name).path = none ∧
      (resolve w search name).found = none) ∨
    (∃ expanded p st, Resolve.expand? w name = some expanded ∧
      (p = expanded ∨ p ∈ Resolve.searchCandidates search name) ∧
      (resolve w search name).path = some p ∧ (resolve w search name).found = some st ∧
      w.fileAt p = some st) ∨
    (∃ p, Resolve.expand? w name = some p ∧ (resolve w search name).path = some p ∧
      (resolve w search name).found = none ∧ w.fileAt p = none) := by
  unfold resolve
  cases hx : Resolve.expand? w name with
  | none => exact .inl ⟨rfl, rfl, rfl⟩
  | some expanded =>
    right
    cases hf : w.fileAt expanded with
    | some st => exact .inl ⟨expanded, expanded, st, rfl, .inl rfl, by simp [hf], by simp [hf], hf⟩
    | none =>
      cases hs : Resolve.firstFile w (Resolve.searchCandidates search name) with
      | mk hit t =>
        cases hit with
        | none => exact .inr ⟨expanded, rfl, by simp [hf], by simp [hf], hf⟩
        | some found =>
          obtain ⟨p, st⟩ := found
          obtain ⟨hmem, hat⟩ := Resolve.firstFile_found (congrArg Prod.fst hs)
          exact .inl ⟨expanded, p, st, rfl, .inr hmem, by simp [hf], by simp [hf], hat⟩

theorem resolve_path_eq_none_iff {w : World} {search : List Bytes} {name : Bytes} :
    (resolve w search name).path = none ↔ Resolve.expand? w name = none := by
  rcases resolve_cases w search name with
    ⟨hx, hp, _⟩ | ⟨_, _, _, hx, _, hp, _⟩ | ⟨_, hx, hp, _⟩ <;> simp [hx, hp]

/-- What is found is always the file that is at the path. -/
theorem resolve_found (w : World) (search : List Bytes) (name : Bytes) :
    (resolve w search name).found = (resolve w search name).path.bind w.fileAt := by
  rcases resolve_cases w search name with
    ⟨_, hp, hf⟩ | ⟨_, _, _, _, _, hp, hf, hat⟩ | ⟨_, _, hp, hf, hat⟩
  · rw [hp, hf, Option.bind_none]
  · rw [hp, hf, Option.bind_some, hat]
  · rw [hp, hf, Option.bind_some, hat]

theorem resolve_path_of_not_bare (w : World) (search : List Bytes) {name : Bytes}
    (h : Path.isBare name = false) : (resolve w search name).path = Resolve.expand? w name := by
  have hnone : Resolve.searchCandidates search name = [] := by simp [Resolve.searchCandidates, h]
  rcases resolve_cases w search name with
    ⟨hx, hp, _⟩ | ⟨_, _, _, hx, hmem, hp, _⟩ | ⟨_, hx, hp, _⟩
  · rw [hx, hp]
  · rw [hnone] at hmem
    rw [hx, hp, hmem.resolve_right List.not_mem_nil]
  · rw [hx, hp]

theorem resolve_clean {w : World} {search : List Bytes} {name p : Bytes}
    (h : (resolve w search name).path = some p) : p = [] ∨ Path.clean p = p := by
  rcases resolve_cases w search name with
    ⟨_, hp, _⟩ | ⟨expanded, q, _, hx, hmem, hp, _⟩ | ⟨q, hx, hp, _⟩ <;> rw [hp] at h <;> cases h
  · rcases hmem with rfl | hmem
    · exact Resolve.expand?_clean hx
    · exact Resolve.searchCandidates_clean hmem
  · exact Resolve.expand?_clean hx

/-- An absolute path in its clean form leads to itself, and to the file there. -/
theorem resolve_of_clean (w : World) (search : List Bytes) {p : Bytes} (habs : Path.isAbs p = true)
    (hclean : Path.clean p = p) :
    (resolve w search p).path = some p ∧ (resolve w search p).found = w.fileAt p := by
  have hbare : Path.isBare p = false := by
    cases p with
    | nil => cases habs
    | cons c rest =>
      have hc : c = Path.slash := by simpa [Path.isAbs] using habs
      simp [Path.isBare, hc]
  have hpath : (resolve w search p).path = some p := by
    rw [resolve_path_of_not_bare w search hbare, Resolve.expand?_of_isAbs w habs, hclean]
  exact ⟨hpath, by rw [resolve_found, hpath, Option.bind_some]⟩

/-- An absolute path that some name led to leads to itself, and to the same file. -/
theorem resolve_of_resolved {w : World} {search : List Bytes} {name p : Bytes}
    (h : (resolve w search name).path = some p) (habs : Path.isAbs p = true) (search' : List Bytes) :
    (resolve w search' p).path = some p ∧
      (resolve w search' p).found = (resolve w search name).found := by
  have hne : p ≠ [] := by
    rintro rfl
    cases habs
  have hclean : Path.clean p = p := (resolve_clean h).resolve_left hne
  obtain ⟨hpath, hfound⟩ := resolve_of_clean w search' habs hclean
  exact ⟨hpath, by rw [hfound, resolve_found w search name, h, Option.bind_some]⟩

/-- Finding out where a name leads opens no file. -/
theorem resolve_opened (w : World) (search : List Bytes) (name q : Bytes) :
    .opened q ∉ (resolve w search name).trace := by
  unfold resolve
  cases Resolve.expand? w name with
  | none => exact List.not_mem_nil
  | some expanded =>
    cases hf : w.fileAt expanded with
    | some st => simp [hf]
    | none =>
      have hfirst := Resolve.firstFile_opened w (Resolve.searchCandidates search name) q
      cases hs : Resolve.firstFile w (Resolve.searchCandidates search name) with
      | mk hit t =>
        rw [hs] at hfirst
        cases hit <;> simp [hf, hfirst]

end LineStore
