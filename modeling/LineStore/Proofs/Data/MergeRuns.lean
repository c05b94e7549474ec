import LineStore.Proofs.Data.StableSort
import LineStore.Proofs.Data.StablySorted
import Mathlib.Data.List.TakeWhile
/-!
# Merging sorted runs

Whatever comparison it is given, the stable sort permutes its items, `stableSort_perm`.  Given the order of a
total preorder it sorts them stably, `stableSort_stablySorted`: runs are sorted by insertion, and a merge
cuts two runs at places found by bisection so that what changes places is strictly out of order.
-/
namespace LineStore

open Std (OrientedCmp TransCmp ReflCmp)

namespace StableSort

variable {α : Type}

section Permutation

variable (less : α → α → Bool)

private theorem insertLast_perm (sorted : List α) (x : α) :
    (insertLast less sorted x).Perm (sorted ++ [x]) := by
  have hparts : sorted = (sorted.reverse.dropWhile (less x)).reverse ++
      (sorted.reverse.takeWhile (less x)).reverse := by
    rw [← List.reverse_append, List.takeWhile_append_dropWhile, List.reverse_reverse]
  unfold insertLast
  conv_rhs => rw [hparts, List.append_assoc]
  exact (List.perm_append_singleton x _).symm.append_left _

private theorem insertionSort_perm (l : List α) : (insertionSort less l).Perm l := by
  have hfold : ∀ done : List α, (l.foldl (insertLast less) done).Perm (done ++ l) := by
    induction l with
    | nil => simp
    | cons x l ih =>
      intro done
      rw [List.foldl_cons, List.append_cons]
      exact (ih _).trans ((insertLast_perm less done x).append_right l)
  exact hfold []

private theorem perm_of_cut {l r s₁ s₂ : List α} {i j : Nat} (h₁ : s₁.Perm (l.take i ++ r.take j))
    (h₂ : s₂.Perm (l.drop i ++ r.drop j)) : (s₁ ++ s₂).Perm (l ++ r) := by
  refine (h₁.append h₂).trans ?_
  conv_rhs => rw [← List.take_append_drop i l, ← List.take_append_drop j r]
  rw [List.append_assoc, List.append_assoc]
  exact (List.perm_append_comm_assoc _ _ _).append_left _

private theorem merge_perm (fuel : Nat) (l r : List α) : (merge less fuel l r).Perm (l ++ r) := by
  fun_induction merge less fuel l r with
  | case1 l r => exact .refl _
  | case2 _ r => exact .refl _
  | case3 _ l => rw [List.append_nil]
  | case4 _ x r => exact perm_of_cut (i := 0) (.refl _) (.refl _)
  | case5 _ l y =>
    refine perm_of_cut (j := 0) ?_ (List.perm_append_singleton y _).symm
    rw [List.take_zero, List.append_nil]
  | case6 =>
    rename_i hfirst hsecond
    exact perm_of_cut hfirst hsecond

private theorem mergePairs_perm (ls : List (List α)) :
    (mergePairs less ls).flatten.Perm ls.flatten := by
  match ls with
  | [] => exact .refl _
  | [l] => exact .refl _
  | a :: b :: rest =>
    rw [mergePairs, List.flatten_cons, List.flatten_cons, List.flatten_cons, ← List.append_assoc]
    exact (merge_perm less _ a b).append (mergePairs_perm rest)

private theorem mergeAll_perm (fuel : Nat) (ls : List (List α)) :
    (mergeAll less fuel ls).Perm ls.flatten := by
  induction fuel generalizing ls with
  | zero => exact .refl _
  | succ fuel ih =>
    match ls with
    | [] => exact .refl _
    | [l] => simp [mergeAll]
    | a :: b :: rest => exact (ih _).trans (mergePairs_perm less _)

end Permutation

private theorem flatten_runs {fuel : Nat} {l : List α} (h : l.length ≤ fuel) :
    (runs fuel l).flatten = l := by
  induction fuel generalizing l with
  | zero => rw [List.length_eq_zero_iff.mp (Nat.le_zero.mp h)]; rfl
  | succ fuel ih =>
    cases l with
    | nil => rfl
    | cons x l =>
      rw [runs, List.flatten_cons, ih, List.take_append_drop]
      · simp only [List.length_drop, List.length_cons] at h ⊢
        omega
      · simp

private theorem bisect_spec (p : Nat → Bool) {fuel lo hi : Nat} (hfuel : hi ≤ lo + fuel)
    (h : lo ≤ hi) :
    let i := bisect p fuel lo hi
    lo ≤ i ∧ i ≤ hi ∧ (lo < i → p (i - 1) = false) ∧ (i < hi → p i = true) := by
  induction fuel generalizing lo hi with
  | zero =>
    have heq : hi = lo := by omega
    simp [bisect, heq]
  | succ fuel ih =>
    rw [bisect]
    by_cases hend : hi ≤ lo
    · rw [if_pos hend]
      exact ⟨le_refl lo, h, fun hlt => absurd hlt (lt_irrefl lo), fun hlt => by omega⟩
    · rw [if_neg hend]
      cases hp : p ((lo + hi) / 2) with
      | true =>
        obtain ⟨hlow, hhigh, hfails, hholds⟩ := ih (show (lo + hi) / 2 ≤ lo + fuel by omega) (by omega)
        simp only [hp, if_true]
        refine ⟨hlow, by omega, hfails, fun _ => ?_⟩
        rcases Nat.lt_or_eq_of_le hhigh with hlt | heq
        · exact hholds hlt
        · rw [heq, hp]
      | false =>
        obtain ⟨hlow, hhigh, hfails, hholds⟩ :=
          ih (show hi ≤ (lo + hi) / 2 + 1 + fuel by omega) (by omega)
        simp only [hp, Bool.false_eq_true, if_false]
        refine ⟨by omega, hhigh, fun _ => ?_, hholds⟩
        rcases Nat.lt_or_eq_of_le hlow with hlt | heq
        · exact hfails hlt
        · rw [← heq, Nat.add_sub_cancel, hp]

private theorem bisect_items (l : List α) (p : Nat → Bool) (q : α → Bool)
    (h : ∀ i x, l[i]? = some x → p i = q x) :
    let i := bisect p (l.length + 1) 0 l.length
    i ≤ l.length ∧ (∀ x, 0 < i → l[i - 1]? = some x → q x = false) ∧ ∀ x, l[i]? = some x → q x = true := by
  intro i
  obtain ⟨-, hi, hfails, hholds⟩ :=
    bisect_spec p (show l.length ≤ 0 + (l.length + 1) by omega) (Nat.zero_le _)
  refine ⟨hi, fun x hpos hx => ?_, fun x hx => ?_⟩
  · rw [← h _ x hx]
    exact hfails hpos
  · rw [← h _ x hx]
    exact hholds (List.getElem?_eq_some_iff.mp hx).1

/-- The places at which a merge may cut the first of runs of `m` and `n` items. -/
def cutRange (m n : Nat) : Nat × Nat :=
  if (m + n) / 2 < m then ((m + n) / 2 + m - (m + n), (m + n) / 2) else (0, m)

/-- Where a merge cuts the first of two runs.  The second is cut so that the two first parts together have
half of the items. -/
def cut (less : α → α → Bool) (l r : List α) : Nat :=
  let range := cutRange l.length r.length
  bisect (fun c => testAt (l ++ r) less ((l.length + r.length) / 2 + l.length - 1 - c) c)
    (l.length + r.length + 1) range.1 range.2

private theorem cutRange_spec (m n : Nat) :
    let range := cutRange m n
    range.1 ≤ range.2 ∧ (range.1 = 0 ∧ m ≤ (m + n) / 2 ∨ (m + n) / 2 - range.1 = n) ∧
      (range.2 = m ∧ m ≤ (m + n) / 2 ∨ range.2 = (m + n) / 2 ∧ (m + n) / 2 < m) := by
  intro range
  by_cases hmid : (m + n) / 2 < m
  · have hrange : range = ((m + n) / 2 + m - (m + n), (m + n) / 2) := if_pos hmid
    rw [hrange]
    exact ⟨by omega, .inr (by omega), .inr ⟨rfl, hmid⟩⟩
  · have hrange : range = (0, m) := if_neg hmid
    rw [hrange]
    exact ⟨by omega, .inl ⟨rfl, by omega⟩, .inl ⟨rfl, by omega⟩⟩

private theorem merge_cut (less : α → α → Bool) (fuel : Nat) (x x' y y' : α) (l r : List α) :
    let i := cut less (x :: x' :: l) (y :: y' :: r)
    let j := ((x :: x' :: l).length + (y :: y' :: r).length) / 2 - i
    merge less (fuel + 1) (x :: x' :: l) (y :: y' :: r) =
      merge less fuel ((x :: x' :: l).take i) ((y :: y' :: r).take j) ++
        merge less fuel ((x :: x' :: l).drop i) ((y :: y' :: r).drop j) := by
  intro i j
  simp only [i, j, merge, cut, cutRange, List.length_append]

private theorem testAt_append {l r : List α} {p : α → α → Bool} {i j : Nat} {x y : α}
    (hx : l[i]? = some x)
    (hy : r[j]? = some y) : testAt (l ++ r) p (l.length + j) i = p y x := by
  have hi : i < l.length := (List.getElem?_eq_some_iff.mp hx).1
  rw [testAt, List.getElem?_append_right (Nat.le_add_right _ _), Nat.add_sub_cancel_left, hy,
    List.getElem?_append_left hi, hx]

private theorem cut_spec (less : α → α → Bool) (l r : List α) :
    let i := cut less l r
    let j := (l.length + r.length) / 2 - i
    i ≤ l.length ∧ i ≤ (l.length + r.length) / 2 ∧ j ≤ r.length ∧
      (∀ x y, 0 < i → l[i - 1]? = some x → r[j]? = some y → less y x = false) ∧
      ∀ x y, 0 < j → l[i]? = some x → r[j - 1]? = some y → less y x = true := by
  intro i j
  obtain ⟨hle, hlow, hhigh⟩ := cutRange_spec l.length r.length
  have hcut : i = bisect (fun c => testAt (l ++ r) less ((l.length + r.length) / 2 + l.length - 1 - c) c)
      (l.length + r.length + 1) (cutRange l.length r.length).1 (cutRange l.length r.length).2 := rfl
  have hspec := bisect_spec
    (fun c => testAt (l ++ r) less ((l.length + r.length) / 2 + l.length - 1 - c) c)
    (show (cutRange l.length r.length).2 ≤ (cutRange l.length r.length).1 + (l.length + r.length + 1) by omega)
    hle
  rw [← hcut] at hspec
  obtain ⟨hloi, hihi, hfails, hholds⟩ := hspec
  have hj : j = (l.length + r.length) / 2 - i := rfl
  clear_value i
  refine ⟨by omega, by omega, by omega, ?_, ?_⟩
  · intro x y hpos hx hy
    have hjr : j < r.length := (List.getElem?_eq_some_iff.mp hy).1
    have hplace : (l.length + r.length) / 2 + l.length - 1 - (i - 1) = l.length + j := by omega
    have htest := hfails (by omega)
    simp only [hplace] at htest
    rwa [testAt_append hx hy] at htest
  · intro x y hpos hx hy
    have hil : i < l.length := (List.getElem?_eq_some_iff.mp hx).1
    have hplace : (l.length + r.length) / 2 + l.length - 1 - i = l.length + (j - 1) := by omega
    have htest := hholds (by omega)
    simp only [hplace] at htest
    rwa [testAt_append hx hy] at htest

section Order

variable {cmp : α → α → Ordering} {l r : List α}

private theorem forall_mem_take {P : α → Prop} (hl : l.Pairwise fun a b => (cmp a b).isLE)
    (hP : ∀ a b, (cmp a b).isLE → P b → P a) {i : Nat} (hi : i ≤ l.length)
    (h : ∀ x, 0 < i → l[i - 1]? = some x → P x) : ∀ x ∈ l.take i, P x := by
  intro x hx
  cases i with
  | zero => cases hx
  | succ i =>
    have hlast : P l[i] := h l[i] (Nat.succ_pos i) (List.getElem?_eq_getElem hi)
    rw [List.take_succ_eq_append_getElem hi, List.mem_append, List.mem_singleton] at hx
    rcases hx with hx | rfl
    · refine hP _ _ ?_ hlast
      rw [← List.take_append_drop i l, List.drop_eq_getElem_cons hi] at hl
      exact (List.pairwise_append.mp hl).2.2 x hx _ List.mem_cons_self
    · exact hlast

private theorem forall_mem_drop {P : α → Prop} (hl : l.Pairwise fun a b => (cmp a b).isLE)
    (hP : ∀ a b, (cmp a b).isLE → P a → P b) {i : Nat} (h : ∀ x, l[i]? = some x → P x) :
    ∀ x ∈ l.drop i, P x := by
  intro x hx
  by_cases hi : i < l.length
  · have hfirst : P l[i] := h l[i] (List.getElem?_eq_getElem hi)
    have hsorted := hl.sublist (List.drop_sublist i l)
    rw [List.drop_eq_getElem_cons hi] at hx hsorted
    rcases List.mem_cons.mp hx with rfl | hx
    · exact hfirst
    · exact hP _ _ ((List.pairwise_cons.mp hsorted).1 x hx) hfirst
  · rw [List.drop_eq_nil_of_le (Nat.le_of_not_lt hi)] at hx
    cases hx

variable [TransCmp cmp]

private theorem insertLast_stablySorted {d s : List α} (h : StablySorted cmp d s) (x : α) :
    StablySorted cmp (d ++ [x]) (insertLast (fun a b => cmp a b == .lt) s x) := by
  let above : α → Bool := fun b => cmp x b == .lt
  let low := (s.reverse.dropWhile above).reverse
  let high := (s.reverse.takeWhile above).reverse
  have hparts : s = low ++ high := by
    rw [← List.reverse_append, List.takeWhile_append_dropWhile, List.reverse_reverse]
  have hsorted : (low ++ high).Pairwise fun a b => (cmp a b).isLE := hparts ▸ h.sorted
  have hhigh : ∀ y ∈ high, ∀ z ∈ [x], cmp z y = .lt := by
    intro y hy z hz
    rw [List.mem_singleton.mp hz]
    exact beq_iff_eq.mp (List.mem_takeWhile_imp (p := above) (List.mem_reverse.mp hy))
  have hlow : ∀ y ∈ low, (cmp y x).isLE := by
    intro y hy
    rw [List.mem_reverse] at hy
    have hrest := (List.pairwise_reverse.mpr h.sorted).sublist (List.dropWhile_sublist above)
    have hstop := List.head?_dropWhile_not above s.reverse
    cases hd : s.reverse.dropWhile above with
    | nil => rw [hd] at hy; cases hy
    | cons z rest =>
      rw [hd] at hy hrest hstop
      have hz : (cmp z x).isLE := isLE_of_not_lt fun hlt => by simp [above, hlt] at hstop
      rcases List.mem_cons.mp hy with rfl | hy
      · exact hz
      · exact TransCmp.isLE_trans ((List.pairwise_cons.mp hrest).1 y hy) hz
  have hfirst : StablySorted cmp (low ++ [x]) (low ++ [x]) :=
    .of_sorted (List.pairwise_append.mpr ⟨(List.pairwise_append.mp hsorted).1, List.pairwise_singleton _ x,
      fun y hy z hz => List.mem_singleton.mp hz ▸ hlow y hy⟩)
  have hsecond : StablySorted cmp (high ++ []) high := by
    rw [List.append_nil]
    exact .of_sorted (List.pairwise_append.mp hsorted).2.1
  have hwhole := StablySorted.interleave hsorted (by simp) hfirst hsecond
    (fun _ _ _ hy => absurd hy List.not_mem_nil) hhigh
  rw [← hparts, List.append_nil, List.append_assoc] at hwhole
  exact h.append_congr (.of_sorted (List.pairwise_singleton _ x)) hwhole

private theorem insertionSort_stablySorted (l : List α) :
    StablySorted cmp l (insertionSort (fun a b => cmp a b == .lt) l) := by
  have hfold : ∀ d s : List α, StablySorted cmp d s →
      StablySorted cmp (d ++ l) (l.foldl (insertLast fun a b => cmp a b == .lt) s) := by
    induction l with
    | nil =>
      intro d s h
      rwa [List.append_nil]
    | cons x l ih =>
      intro d s h
      rw [List.append_cons, List.foldl_cons]
      exact ih _ _ (insertLast_stablySorted h x)
  exact hfold [] [] (.of_sorted List.Pairwise.nil)

private theorem stablySorted_of_cut {i j : Nat} {s₁ s₂ : List α}
    (hl : l.Pairwise fun a b => (cmp a b).isLE) (hr : r.Pairwise fun a b => (cmp a b).isLE)
    (hi : i ≤ l.length) (hj : j ≤ r.length) (h₁ : StablySorted cmp (l.take i ++ r.take j) s₁)
    (h₂ : StablySorted cmp (l.drop i ++ r.drop j) s₂)
    (hle : ∀ x y, 0 < i → l[i - 1]? = some x → r[j]? = some y → ¬ cmp y x = .lt)
    (hlt : ∀ x y, 0 < j → l[i]? = some x → r[j - 1]? = some y → cmp y x = .lt) :
    StablySorted cmp (l ++ r) (s₁ ++ s₂) := by
  have hlow : ∀ x ∈ l.take i, ∀ y ∈ r.drop j, (cmp x y).isLE := by
    refine forall_mem_take hl (fun a b hab hb y hy => TransCmp.isLE_trans hab (hb y hy)) hi ?_
    intro x hpos hx
    exact forall_mem_drop (P := fun y => (cmp x y).isLE) hr (fun a b hab ha => TransCmp.isLE_trans ha hab)
      fun y hy => isLE_of_not_lt (hle x y hpos hx hy)
  have hhigh : ∀ x ∈ l.drop i, ∀ y ∈ r.take j, cmp y x = .lt := by
    refine forall_mem_drop hl (fun a b hab ha y hy => TransCmp.lt_of_lt_of_isLE (ha y hy) hab) ?_
    intro x hx
    exact forall_mem_take hr (fun a b hab hb => TransCmp.lt_of_isLE_of_lt hab hb) hj
      fun y hpos hy => hlt x y hpos hx hy
  have hwhole := StablySorted.interleave (by rwa [List.take_append_drop]) (by rwa [List.take_append_drop])
    h₁ h₂ hlow hhigh
  rwa [List.take_append_drop, List.take_append_drop] at hwhole

private theorem insertFirst_stablySorted {x : α} {i : Nat}
    (hr : r.Pairwise fun a b => (cmp a b).isLE)
    (hi : i ≤ r.length) (hlt : ∀ y, 0 < i → r[i - 1]? = some y → cmp y x = .lt)
    (hle : ∀ y, r[i]? = some y → ¬ cmp y x = .lt) :
    StablySorted cmp ([x] ++ r) (r.take i ++ x :: r.drop i) := by
  have hhigh : ∀ y ∈ r.drop i, (cmp x y).isLE :=
    forall_mem_drop (P := fun y => (cmp x y).isLE) hr (fun a b hab ha => TransCmp.isLE_trans ha hab)
      fun y hy => isLE_of_not_lt (hle y hy)
  have hrest := List.pairwise_cons.mpr ⟨hhigh, hr.sublist (List.drop_sublist i r)⟩
  refine stablySorted_of_cut (i := 0) (j := i) (List.pairwise_singleton _ x) hr (Nat.zero_le 1) hi
    (.of_sorted (hr.sublist (List.take_sublist i r))) (.of_sorted hrest)
    (fun _ _ h => absurd h (lt_irrefl 0)) ?_
  intro z y hpos hz hy
  rw [← Option.some.inj hz]
  exact hlt y hpos hy

private theorem insertAfter_stablySorted {y : α} {i : Nat}
    (hl : l.Pairwise fun a b => (cmp a b).isLE)
    (hi : i ≤ l.length) (hle : ∀ x, 0 < i → l[i - 1]? = some x → ¬ cmp y x = .lt)
    (hlt : ∀ x, l[i]? = some x → cmp y x = .lt) :
    StablySorted cmp (l ++ [y]) (l.take i ++ y :: l.drop i) := by
  have hlow : ∀ x ∈ l.take i, (cmp x y).isLE :=
    forall_mem_take hl (fun a b hab hb => TransCmp.isLE_trans hab hb) hi
      fun x hpos hx => isLE_of_not_lt (hle x hpos hx)
  have hfirst : (l.take i ++ [y]).Pairwise fun a b => (cmp a b).isLE := by
    refine List.pairwise_append.mpr
      ⟨hl.sublist (List.take_sublist i l), List.pairwise_singleton _ y, fun x hx z hz => ?_⟩
    rw [List.mem_singleton.mp hz]
    exact hlow x hx
  have hsecond : StablySorted cmp (l.drop i ++ []) (l.drop i) := by
    rw [List.append_nil]
    exact .of_sorted (hl.sublist (List.drop_sublist i l))
  rw [List.append_cons (l.take i) y]
  refine stablySorted_of_cut (i := i) (j := 1) hl (List.pairwise_singleton _ y) hi (Nat.le_refl 1)
    (.of_sorted hfirst) hsecond (fun _ _ _ _ h => nomatch h) ?_
  intro x z _ hx hz
  rw [← Option.some.inj hz]
  exact hlt x hx

private theorem merge_stablySorted {fuel : Nat} (hfuel : l.length + r.length ≤ fuel)
    (hl : l.Pairwise fun a b => (cmp a b).isLE) (hr : r.Pairwise fun a b => (cmp a b).isLE) :
    StablySorted cmp (l ++ r) (merge (fun a b => cmp a b == .lt) fuel l r) := by
  induction fuel generalizing l r with
  | zero =>
    have hnil : l = [] ∧ r = [] := by
      rw [← List.length_eq_zero_iff, ← List.length_eq_zero_iff]
      omega
    rw [hnil.1, hnil.2]
    exact .of_sorted List.Pairwise.nil
  | succ fuel ih =>
    match l, r with
    | [], r => simpa [merge] using StablySorted.of_sorted hr
    | x :: l, [] => simpa [merge] using StablySorted.of_sorted hl
    | [x], y :: r =>
      obtain ⟨hi, hfails, hholds⟩ := bisect_items (y :: r) (fun i => !((y :: r)[i]?.any (cmp · x == .lt)))
        (fun z => !(cmp z x == .lt)) fun i z hz => by rw [hz]; rfl
      exact insertFirst_stablySorted hr hi (fun z hpos hz => by simpa using hfails z hpos hz)
        fun z hz => by simpa using hholds z hz
    | x :: x' :: l, [y] =>
      obtain ⟨hi, hfails, hholds⟩ := bisect_items (x :: x' :: l)
        (fun i => (x :: x' :: l)[i]?.any (cmp y · == .lt)) (cmp y · == .lt) fun i z hz => by rw [hz]; rfl
      exact insertAfter_stablySorted hl hi (fun z hpos hz => by simpa using hfails z hpos hz)
        fun z hz => by simpa using hholds z hz
    | x :: x' :: l, y :: y' :: r =>
      obtain ⟨hi, himid, hj, hle, hlt⟩ :=
        cut_spec (fun a b => cmp a b == .lt) (x :: x' :: l) (y :: y' :: r)
      simp only [List.length_cons] at hfuel hi himid hj
      rw [merge_cut]
      refine stablySorted_of_cut hl hr hi hj (ih ?_ ?_ ?_) (ih ?_ ?_ ?_) ?_ ?_
      · simp only [List.length_take, List.length_cons]
        omega
      · exact hl.sublist (List.take_sublist _ _)
      · exact hr.sublist (List.take_sublist _ _)
      · simp only [List.length_drop, List.length_cons]
        omega
      · exact hl.sublist (List.drop_sublist _ _)
      · exact hr.sublist (List.drop_sublist _ _)
      · simpa using hle
      · simpa using hlt

private theorem mergePairs_stablySorted {bs ls : List (List α)}
    (h : List.Forall₂ (StablySorted cmp) bs ls) :
    ∃ cs, cs.flatten = bs.flatten ∧
      List.Forall₂ (StablySorted cmp) cs (mergePairs (fun a b => cmp a b == .lt) ls) := by
  match h with
  | .nil => exact ⟨[], rfl, .nil⟩
  | .cons (a := b) h .nil => exact ⟨[b], rfl, .cons h .nil⟩
  | .cons (a := b₁) h₁ (.cons (a := b₂) h₂ h) =>
    obtain ⟨cs, hflat, hcs⟩ := mergePairs_stablySorted h
    have hmerged := merge_stablySorted (Nat.le_refl _) h₁.sorted h₂.sorted
    refine ⟨(b₁ ++ b₂) :: cs, ?_, .cons (h₁.append_congr h₂ hmerged) hcs⟩
    rw [List.flatten_cons, hflat, List.append_assoc, List.flatten_cons, List.flatten_cons]

private theorem length_mergePairs_le (less : α → α → Bool) (ls : List (List α)) :
    (mergePairs less ls).length ≤ (ls.length + 1) / 2 := by
  match ls with
  | [] => exact Nat.zero_le _
  | [_] => simp [mergePairs]
  | _ :: _ :: rest =>
    have hrest := length_mergePairs_le less rest
    simp only [mergePairs, List.length_cons]
    omega

private theorem mergeAll_stablySorted {fuel : Nat} {bs ls : List (List α)}
    (hfuel : ls.length ≤ fuel)
    (h : List.Forall₂ (StablySorted cmp) bs ls) :
    StablySorted cmp bs.flatten (mergeAll (fun a b => cmp a b == .lt) fuel ls) := by
  -- Each round leaves half of the runs, so as many rounds as there are runs leave one.
  induction fuel generalizing bs ls with
  | zero =>
    rw [List.length_eq_zero_iff.mp (Nat.le_zero.mp hfuel)] at h ⊢
    cases h
    exact .of_sorted List.Pairwise.nil
  | succ fuel ih =>
    match ls, h with
    | [], .nil => exact .of_sorted List.Pairwise.nil
    | [l], .cons (a := b) h .nil => simpa [mergeAll] using h
    | l₁ :: l₂ :: rest, h =>
      obtain ⟨cs, hflat, hcs⟩ := mergePairs_stablySorted h
      have hle := length_mergePairs_le (fun a b => cmp a b == .lt) (l₁ :: l₂ :: rest)
      simp only [List.length_cons] at hle hfuel
      rw [← hflat]
      exact ih (by omega) hcs

end Order

end StableSort

theorem stableSort_perm {α : Type} (less : α → α → Bool) (l : List α) : (stableSort less l).Perm l := by
  have hruns : ∀ rs : List (List α), (rs.map (StableSort.insertionSort less)).flatten.Perm rs.flatten := by
    intro rs
    induction rs with
    | nil => exact .refl _
    | cons r rs ih => exact (StableSort.insertionSort_perm less r).append ih
  have hsplit := hruns (StableSort.runs l.length l)
  rw [StableSort.flatten_runs (Nat.le_refl _)] at hsplit
  exact (StableSort.mergeAll_perm less _ _).trans hsplit

theorem stableSort_stablySorted {α : Type} {cmp : α → α → Ordering} [TransCmp cmp] (l : List α) :
    StablySorted cmp l (stableSort (fun a b => cmp a b == .lt) l) := by
  have hruns : ∀ rs : List (List α), List.Forall₂ (StablySorted cmp) rs
      (rs.map (StableSort.insertionSort fun a b => cmp a b == .lt)) := by
    intro rs
    induction rs with
    | nil => exact .nil
    | cons r rs ih => exact .cons (StableSort.insertionSort_stablySorted r) ih
  have hsorted := StableSort.mergeAll_stablySorted (Nat.le_refl _) (hruns (StableSort.runs l.length l))
  rwa [StableSort.flatten_runs (Nat.le_refl _)] at hsorted

end LineStore
