import LineStore.Text.Bytes
/-!
# Pieces of byte strings

Cutting at a separator is that of the standard lists, so cutting and joining undo each other.  A text is found
at the first place where it stands, `indexOf?_eq_some_iff`.
-/
namespace LineStore.Bytes

theorem cut?_eq_some_iff {sep : UInt8} {s x y : Bytes} :
    cut? sep s = some (x, y) ↔ s = x ++ sep :: y ∧ sep ∉ x := by
  refine ⟨cut?_eq_some, ?_⟩
  rintro ⟨rfl, hx⟩
  induction x with
  | nil => rw [List.nil_append, cut?, if_pos rfl]
  | cons b x ih =>
    rw [List.mem_cons, not_or] at hx
    rw [List.cons_append, cut?, if_neg (Ne.symm hx.1), ih hx.2]
    rfl

theorem cut?_eq_none_iff {sep : UInt8} {s : Bytes} : cut? sep s = none ↔ sep ∉ s := by
  refine ⟨cut?_eq_none, fun h => ?_⟩
  cases hcut : cut? sep s with
  | none => rfl
  | some xy =>
    obtain ⟨rfl, -⟩ := cut?_eq_some hcut
    exact absurd (List.mem_append_right _ List.mem_cons_self) h

private theorem splitOn_eq (sep : UInt8) (s : Bytes) : splitOn sep s = List.splitOn sep s := by
  induction s with
  | nil => rw [splitOn, List.splitOn_nil]
  | cons b s ih =>
    have hne : splitOn sep s ≠ [] := ih ▸ List.splitOn_ne_nil sep s
    rw [splitOn, List.splitOn, List.splitOnP_cons_eq_if_modifyHead, ← List.splitOn, ← ih]
    cases hs : splitOn sep s with
    | nil => exact absurd hs hne
    | cons p ps => simp

theorem splitOn_ne_nil (sep : UInt8) (s : Bytes) : splitOn sep s ≠ [] :=
  splitOn_eq sep s ▸ List.splitOn_ne_nil sep s

theorem splitOn_join {sep : UInt8} {parts : List Bytes} (hne : parts ≠ [])
    (h : ∀ p ∈ parts, sep ∉ p) : splitOn sep (join [sep] parts) = parts := by
  rw [splitOn_eq, join, List.splitOn_intercalate sep h hne]

/-- The pieces of two texts with a separator between them are those of the one and of the other. -/
theorem splitOn_append (sep : UInt8) (s t : Bytes) :
    splitOn sep (s ++ [sep] ++ t) = splitOn sep s ++ splitOn sep t := by
  induction s with
  | nil => simp [splitOn]
  | cons b s ih =>
    rw [List.cons_append, List.cons_append, splitOn, splitOn, ih]
    by_cases hb : b = sep
    · rw [if_pos hb, if_pos hb, List.cons_append]
    · rw [if_neg hb, if_neg hb]
      cases hs : splitOn sep s with
      | nil => exact absurd hs (splitOn_ne_nil sep s)
      | cons p ps => rfl

theorem not_mem_of_mem_splitOn {sep : UInt8} {s p : Bytes} (h : p ∈ splitOn sep s) : sep ∉ p := by
  induction s generalizing p with
  | nil =>
    rw [splitOn, List.mem_singleton] at h
    simp [h]
  | cons b s ih =>
    rw [splitOn] at h
    by_cases hb : b = sep
    · rw [if_pos hb, List.mem_cons] at h
      rcases h with rfl | h
      · exact List.not_mem_nil
      · exact ih h
    · rw [if_neg hb] at h
      cases hs : splitOn sep s with
      | nil =>
        rw [hs, List.mem_singleton] at h
        simp [h, Ne.symm hb]
      | cons q qs =>
        rw [hs, List.mem_cons] at h
        rcases h with rfl | h
        -- The first piece grows by a byte that is no separator.
        · have hq : sep ∉ q := ih (hs ▸ List.mem_cons_self)
          simp [Ne.symm hb, hq]
        · exact ih (hs ▸ List.mem_cons_of_mem q h)

theorem join_splitOn (sep : UInt8) (s : Bytes) : join [sep] (splitOn sep s) = s := by
  rw [splitOn_eq, join, List.intercalate_splitOn]

theorem dropStart?_append (s rest : Bytes) : dropStart? s (s ++ rest) = some rest := by
  induction s with
  | nil => rfl
  | cons b s ih => rw [List.cons_append, dropStart?, if_pos rfl, ih]

theorem eq_of_dropStart? {s p rest : Bytes} (h : dropStart? s p = some rest) : p = s ++ rest := by
  induction s generalizing p with
  | nil => simpa [dropStart?] using h
  | cons b s ih =>
    cases p with
    | nil => cases h
    | cons c p =>
      rw [dropStart?] at h
      split at h
      · rename_i hbc
        rw [hbc, ih h, List.cons_append]
      · cases h

/-- A text occurs at a place, and at none before. -/
structure FirstAt (pat s : Bytes) (i : Nat) : Prop where
  here : pat <+: s.drop i
  first : ∀ j < i, ¬ pat <+: s.drop j

theorem startsWith_iff {p s : Bytes} : startsWith p s = true ↔ p <+: s := by
  rw [startsWith, Option.isSome_iff_exists]
  constructor
  · rintro ⟨rest, hrest⟩
    exact ⟨rest, (eq_of_dropStart? hrest).symm⟩
  · rintro ⟨rest, rfl⟩
    exact ⟨rest, dropStart?_append p rest⟩

theorem endsWith_iff {p s : Bytes} : endsWith p s = true ↔ p <:+ s := by
  rw [endsWith, startsWith_iff, List.reverse_prefix]

theorem trimEnd_append (s p : Bytes) : trimEnd p (s ++ p) = s := by
  rw [trimEnd, trimStart, List.reverse_append, dropStart?_append, Option.getD_some, List.reverse_reverse]

theorem indexOf?_eq_some_iff {pat s : Bytes} {i : Nat} : indexOf? pat s = some i ↔ FirstAt pat s i := by
  induction s generalizing i with
  | nil =>
    cases pat with
    | nil =>
      constructor
      · rintro ⟨rfl⟩
        exact ⟨List.nil_prefix, fun j hj => absurd hj (Nat.not_lt_zero j)⟩
      · intro h
        cases i with
        | zero => rfl
        | succ i => exact absurd List.nil_prefix (h.first 0 (Nat.zero_lt_succ i))
    | cons b pat =>
      refine iff_of_false (by simp [indexOf?]) ?_
      intro h
      simpa using h.here
  | cons b s ih =>
    rw [indexOf?]
    by_cases hstart : startsWith pat (b :: s) = true
    · rw [if_pos hstart, Option.some.injEq]
      rw [startsWith_iff] at hstart
      constructor
      · rintro rfl
        exact ⟨hstart, fun j hj => absurd hj (Nat.not_lt_zero j)⟩
      · intro h
        cases i with
        | zero => rfl
        | succ i => exact absurd hstart (h.first 0 (Nat.zero_lt_succ i))
    · rw [if_neg hstart, Option.map_eq_some_iff]
      rw [startsWith_iff] at hstart
      constructor
      · rintro ⟨j, hj, rfl⟩
        obtain ⟨hhere, hfirst⟩ := ih.mp hj
        refine ⟨hhere, ?_⟩
        rintro (_ | k) hk
        · exact hstart
        · exact hfirst k (by omega)
      · intro h
        cases i with
        | zero => exact absurd h.here hstart
        | succ i => exact ⟨i, ih.mpr ⟨h.here, fun j hj => h.first (j + 1) (by omega)⟩, rfl⟩

end LineStore.Bytes
