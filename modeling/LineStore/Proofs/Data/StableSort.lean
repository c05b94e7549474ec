import LineStore.Data.StableSort
import Mathlib.Data.List.Forall2
/-!
# A stable sort sees its elements through the comparison only

Sorting commutes with any map under which the comparison is pulled back, `stableSort_map`, so that two lists
whose elements correspond, and compare alike, stay in correspondence, `stableSort_forall₂`.
-/
namespace LineStore

namespace StableSort

variable {α β : Type} (less : β → β → Bool) (f : α → β)

private theorem insertLast_map (sorted : List α) (x : α) :
    insertLast less (sorted.map f) (f x) =
      (insertLast (fun a b => less (f a) (f b)) sorted x).map f := by
  simp [insertLast, ← List.map_reverse, List.takeWhile_map, List.dropWhile_map, Function.comp_def]

private theorem insertionSort_map (l : List α) :
    insertionSort less (l.map f) = (insertionSort (fun a b => less (f a) (f b)) l).map f := by
  have hfold : ∀ sorted : List α, (l.map f).foldl (insertLast less) (sorted.map f) =
      (l.foldl (insertLast fun a b => less (f a) (f b)) sorted).map f := by
    induction l with
    | nil => exact fun _ => rfl
    | cons x l ih =>
      intro sorted
      rw [List.map_cons, List.foldl_cons, insertLast_map, ih, List.foldl_cons]
  exact hfold []

private theorem any_getElem?_map (p : β → Bool) (l : List α) (i : Nat) :
    (l.map f)[i]?.any p = l[i]?.any fun a => p (f a) := by
  rw [List.getElem?_map]
  cases l[i]? <;> rfl

private theorem testAt_map (l : List α) (p : β → β → Bool) (i j : Nat) :
    testAt (l.map f) p i j = testAt l (fun a b => p (f a) (f b)) i j := by
  unfold testAt
  rw [List.getElem?_map, List.getElem?_map]
  cases l[i]? <;> cases l[j]? <;> rfl

private theorem merge_map (fuel : Nat) (l r : List α) :
    merge less fuel (l.map f) (r.map f) =
      (merge (fun a b => less (f a) (f b)) fuel l r).map f := by
  induction fuel generalizing l r with
  | zero => simp [merge]
  | succ fuel ih =>
    match l, r with
    | [], r => simp [merge]
    | x :: l, [] => simp [merge]
    -- The comparison is asked about elements at an index only, so the places found are the same.
    | [x], y :: r =>
      simp only [merge, List.map_cons, List.map_nil]
      simp only [← List.map_cons, any_getElem?_map, List.length_map, ← List.map_take, ← List.map_drop,
        ← List.map_append]
    | x :: x' :: l, [y] =>
      simp only [merge, List.map_cons, List.map_nil]
      simp only [← List.map_cons, any_getElem?_map, List.length_map, ← List.map_take, ← List.map_drop,
        ← List.map_append]
    | x :: x' :: l, y :: y' :: r =>
      simp only [merge, List.map_cons]
      simp only [← List.map_cons, ← List.map_append, List.length_map, testAt_map, ← List.map_take,
        ← List.map_drop, ih]

private theorem runs_map (fuel : Nat) (l : List α) :
    runs fuel (l.map f) = (runs fuel l).map (List.map f) := by
  induction fuel generalizing l with
  | zero => rfl
  | succ fuel ih =>
    cases l with
    | nil => rfl
    | cons x l =>
      simp only [List.map_cons, runs]
      rw [← List.map_cons, ← List.map_take, ← List.map_drop, ih]

private theorem mergePairs_map (ls : List (List α)) :
    mergePairs less (ls.map (List.map f)) =
      (mergePairs (fun a b => less (f a) (f b)) ls).map (List.map f) := by
  match ls with
  | [] => rfl
  | [l] => rfl
  | a :: b :: rest =>
    simp only [List.map_cons, mergePairs, List.length_map, merge_map, mergePairs_map rest]

private theorem mergeAll_map (fuel : Nat) (ls : List (List α)) :
    mergeAll less fuel (ls.map (List.map f)) =
      (mergeAll (fun a b => less (f a) (f b)) fuel ls).map f := by
  induction fuel generalizing ls with
  | zero => simp [mergeAll, List.map_flatten]
  | succ fuel ih =>
    match ls with
    | [] => rfl
    | [l] => rfl
    | a :: b :: rest =>
      have hpairs := mergePairs_map less f (a :: b :: rest)
      simp only [List.map_cons] at hpairs
      simp only [List.map_cons, mergeAll, hpairs, ih]

end StableSort

theorem stableSort_map {α β : Type} (less : β → β → Bool) (f : α → β) (l : List α) :
    stableSort less (l.map f) = (stableSort (fun a b => less (f a) (f b)) l).map f := by
  have hruns : (StableSort.runs l.length (l.map f)).map (StableSort.insertionSort less) =
      ((StableSort.runs l.length l).map
        (StableSort.insertionSort fun a b => less (f a) (f b))).map (List.map f) := by
    simp [StableSort.runs_map, StableSort.insertionSort_map]
  simp only [stableSort, List.length_map, hruns, StableSort.mergeAll_map]

/-- Lists whose elements are related, by a relation along which the two comparisons agree, have related
elements after sorting. -/
theorem stableSort_forall₂ {α β : Type} {R : α → β → Prop} {less : α → α → Bool}
    {less' : β → β → Bool} (hless : ∀ a b a' b', R a b → R a' b' → less a a' = less' b b')
    {l : List α} {l' : List β} (h : List.Forall₂ R l l') :
    List.Forall₂ R (stableSort less l) (stableSort less' l') := by
  -- Both lists are projections of one list of related pairs, and on those the comparisons are the same.
  let first (p : { p : α × β // R p.1 p.2 }) : α := p.1.1
  let second (p : { p : α × β // R p.1 p.2 }) : β := p.1.2
  obtain ⟨pairs, rfl, rfl⟩ : ∃ pairs : List { p : α × β // R p.1 p.2 },
      pairs.map first = l ∧ pairs.map second = l' := by
    induction h with
    | nil => exact ⟨[], rfl, rfl⟩
    | cons hab _ ih =>
      obtain ⟨pairs, rfl, rfl⟩ := ih
      exact ⟨⟨(_, _), hab⟩ :: pairs, rfl, rfl⟩
  have hsame : (fun p q => less (first p) (first q)) = fun p q => less' (second p) (second q) := by
    funext p q
    exact hless _ _ _ _ p.2 q.2
  rw [stableSort_map less first, stableSort_map less' second, hsame, List.forall₂_map_left_iff,
    List.forall₂_map_right_iff, List.forall₂_same]
  exact fun p _ => p.2

end LineStore
