import Mathlib.Data.List.Basic
import Mathlib.Data.List.Lemmas
import Mathlib.Data.List.Perm.Basic
/-!
# Stably sorted lists

A list is stably sorted into another one when that holds the same items in order, and items that the
comparison holds level stand in it as they stood before.  There is one list only of this kind,
`StablySorted.unique`, and sorting by one comparison and then by another sorts by the second first,
`StablySorted.andThen`.
-/
namespace LineStore

open Std

variable {α β : Type}

/-- The items that a comparison holds level with `a`. -/
def levelWith (cmp : α → α → Ordering) (a : α) : α → Bool := fun b => cmp a b == .eq

structure StablySorted (cmp : α → α → Ordering) (l s : List α) : Prop where
  perm : s.Perm l
  sorted : s.Pairwise fun a b => (cmp a b).isLE
  stable : ∀ a ∈ l, s.filter (levelWith cmp a) = l.filter (levelWith cmp a)

theorem isLE_of_not_lt {cmp : α → α → Ordering} [OrientedCmp cmp] {a b : α} (h : ¬ cmp b a = .lt) :
    (cmp a b).isLE := by
  have hswap : cmp a b = (cmp b a).swap := OrientedCmp.eq_swap
  cases hba : cmp b a <;> simp_all

@[simp] theorem levelWith_eq_true {cmp : α → α → Ordering} {a b : α} :
    levelWith cmp a b = true ↔ cmp a b = .eq := beq_iff_eq

private theorem levelWith_congr {cmp : α → α → Ordering} [TransCmp cmp] {a b : α}
    (h : cmp a b = .eq) :
    levelWith cmp a = levelWith cmp b := by
  funext c
  rw [levelWith, levelWith, TransCmp.congr_left h]

private theorem levelWith_compareLex (cmp₁ cmp₂ : α → α → Ordering) (a : α) :
    levelWith (compareLex cmp₁ cmp₂) a = fun b => levelWith cmp₂ a b && levelWith cmp₁ a b := by
  funext b
  rw [Bool.eq_iff_iff]
  simp [compareLex, Ordering.then_eq_eq, and_comm]

namespace StablySorted

variable {cmp cmp₁ cmp₂ : α → α → Ordering} {l m s t : List α}

theorem of_sorted (h : l.Pairwise fun a b => (cmp a b).isLE) : StablySorted cmp l l :=
  ⟨.refl l, h, fun _ _ => rfl⟩

private theorem filter_eq [TransCmp cmp] (h : StablySorted cmp l s) (a : α) :
    s.filter (levelWith cmp a) = l.filter (levelWith cmp a) := by
  -- Of items level with one that is not in the list there may be some all the same.
  by_cases hlevel : ∃ b ∈ l, cmp a b = .eq
  · obtain ⟨b, hb, hab⟩ := hlevel
    rw [levelWith_congr hab]
    exact h.stable b hb
  · have hnone : ∀ b ∈ l, ¬ levelWith cmp a b = true := fun b hb hab =>
      hlevel ⟨b, hb, levelWith_eq_true.mp hab⟩
    rw [List.filter_eq_nil_iff.mpr hnone,
      List.filter_eq_nil_iff.mpr fun b hb => hnone b (h.perm.mem_iff.mp hb)]

private theorem eq_of_filter_eq [TransCmp cmp] (hs : s.Pairwise fun a b => (cmp a b).isLE)
    (ht : t.Pairwise fun a b => (cmp a b).isLE)
    (h : ∀ a, s.filter (levelWith cmp a) = t.filter (levelWith cmp a)) : s = t := by
  have hmem : ∀ {s t : List α}, (∀ a, s.filter (levelWith cmp a) = t.filter (levelWith cmp a)) →
      ∀ x ∈ s, x ∈ t := by
    intro s t h x hx
    have hx' : x ∈ s.filter (levelWith cmp x) := List.mem_filter.mpr ⟨hx, by simp [ReflCmp.compare_self]⟩
    exact (List.mem_filter.mp (h x ▸ hx')).1
  induction s generalizing t with
  | nil =>
    cases t with
    | nil => rfl
    | cons y t => cases hmem (fun a => (h a).symm) y List.mem_cons_self
  | cons x s ih =>
    cases t with
    | nil => cases hmem h x List.mem_cons_self
    | cons y t =>
      rw [List.pairwise_cons] at hs ht
      have hxy : (cmp x y).isLE := by
        rcases List.mem_cons.mp (hmem (fun a => (h a).symm) y List.mem_cons_self) with rfl | hy
        · simp [ReflCmp.compare_self]
        · exact hs.1 y hy
      have hyx : (cmp y x).isLE := by
        rcases List.mem_cons.mp (hmem h x List.mem_cons_self) with rfl | hx
        · simp [ReflCmp.compare_self]
        · exact ht.1 x hx
      have hlevel : cmp x y = .eq := by
        have hswap : cmp y x = (cmp x y).swap := OrientedCmp.eq_swap
        cases hc : cmp x y with
        | eq => rfl
        | lt => simp [hswap, hc] at hyx
        | gt => simp [hc] at hxy
      -- The two heads are level, so they head the same class.
      have hclass := h x
      rw [List.filter_cons_of_pos (by simp [ReflCmp.compare_self]),
        List.filter_cons_of_pos (by simp [hlevel]), List.cons.injEq] at hclass
      obtain ⟨rfl, -⟩ := hclass
      refine congrArg (x :: ·) (ih hs.2 ht.2 fun a => ?_)
      have ha := h a
      rw [List.filter_cons, List.filter_cons] at ha
      split at ha
      · exact (List.cons.inj ha).2
      · exact ha

theorem unique [TransCmp cmp] (hs : StablySorted cmp l s) (ht : StablySorted cmp l t) : s = t :=
  eq_of_filter_eq hs.sorted ht.sorted fun a => (hs.filter_eq a).trans (ht.filter_eq a).symm

private theorem isLE_total [TransCmp cmp] (a b : α) :
    ((cmp a b).isLE || (cmp b a).isLE) = true := by
  have hswap : cmp b a = (cmp a b).swap := OrientedCmp.eq_swap
  rw [hswap]
  cases cmp a b <;> rfl

/-- The merge sort of the standard lists sorts stably. -/
theorem mergeSort [TransCmp cmp] (l : List α) :
    StablySorted cmp l (l.mergeSort fun a b => (cmp a b).isLE) := by
  refine ⟨List.mergeSort_perm l _, List.pairwise_mergeSort (fun _ _ _ => TransCmp.isLE_trans) isLE_total l,
    fun a _ => ?_⟩
  have hlevel : (l.filter (levelWith cmp a)).Pairwise fun b c => (cmp b c).isLE := by
    refine List.pairwise_of_forall_mem_list fun b hb c hc => ?_
    have hb : cmp a b = .eq := levelWith_eq_true.mp (List.mem_filter.mp hb).2
    have hc : cmp a c = .eq := levelWith_eq_true.mp (List.mem_filter.mp hc).2
    rw [TransCmp.eq_trans (OrientedCmp.eq_symm hb) hc]
    rfl
  -- A class stays together, and there is no more of it after sorting than before.
  have hsub := (List.sublist_mergeSort (fun _ _ _ => TransCmp.isLE_trans) isLE_total hlevel
    List.filter_sublist).filter (levelWith cmp a)
  simp only [List.filter_filter, Bool.and_self] at hsub
  exact (hsub.eq_of_length ((List.mergeSort_perm l _).filter _).length_eq.symm).symm

/-- Items that stand in order already keep their places among each other. -/
theorem sublist [TransCmp cmp] (h : StablySorted cmp l s) {c : List α} (hc : c.Sublist l)
    (hsorted : c.Pairwise fun a b => (cmp a b).isLE) : c.Sublist s := by
  rw [h.unique (mergeSort l)]
  exact List.sublist_mergeSort (fun _ _ _ => TransCmp.isLE_trans) isLE_total hsorted hc

theorem andThen [TransCmp cmp₁] [TransCmp cmp₂] (h₂ : StablySorted cmp₂ l m)
    (h₁ : StablySorted cmp₁ m s) : StablySorted (compareLex cmp₁ cmp₂) l s := by
  refine ⟨h₁.perm.trans h₂.perm, ?_, ?_⟩
  · rw [List.pairwise_iff_forall_sublist]
    intro a b hab
    have hle : (cmp₁ a b).isLE := List.pairwise_iff_forall_sublist.mp h₁.sorted hab
    rw [compareLex, Ordering.isLE_then_iff_or]
    cases hc : cmp₁ a b with
    | lt => exact .inl rfl
    | gt => rw [hc] at hle; cases hle
    | eq =>
      -- Level items stand as the second comparison left them.
      have hclass : [a, b].Sublist (s.filter (levelWith cmp₁ a)) := by
        have hfilter := hab.filter (levelWith cmp₁ a)
        rwa [List.filter_cons_of_pos (by simp [ReflCmp.compare_self]),
          List.filter_cons_of_pos (by simp [hc]), List.filter_nil] at hfilter
      rw [h₁.filter_eq] at hclass
      exact .inr ⟨rfl, List.pairwise_iff_forall_sublist.mp h₂.sorted (hclass.trans List.filter_sublist)⟩
  · intro a _
    rw [levelWith_compareLex]
    calc s.filter (fun b => levelWith cmp₂ a b && levelWith cmp₁ a b)
        = (s.filter (levelWith cmp₁ a)).filter (levelWith cmp₂ a) := List.filter_filter.symm
      _ = (m.filter (levelWith cmp₁ a)).filter (levelWith cmp₂ a) := by rw [h₁.filter_eq]
      _ = (m.filter (levelWith cmp₂ a)).filter (levelWith cmp₁ a) := List.filter_comm _ _ m
      _ = (l.filter (levelWith cmp₂ a)).filter (levelWith cmp₁ a) := by rw [h₂.filter_eq]
      _ = (l.filter (levelWith cmp₁ a)).filter (levelWith cmp₂ a) := List.filter_comm _ _ l
      _ = l.filter (fun b => levelWith cmp₂ a b && levelWith cmp₁ a b) := List.filter_filter

/-- Sorting sees its items through the comparison only. -/
theorem map {cmp : β → β → Ordering} {f : α → β} (h : StablySorted (fun a b => cmp (f a) (f b)) l s) :
    StablySorted cmp (l.map f) (s.map f) := by
  refine ⟨h.perm.map f, List.pairwise_map.mpr h.sorted, ?_⟩
  intro b hb
  obtain ⟨a, ha, rfl⟩ := List.mem_map.mp hb
  rw [List.filter_map, List.filter_map]
  exact congrArg (List.map f) (h.stable a ha)

theorem of_map {cmp : β → β → Ordering} {f : α → β} (hf : Function.Injective f)
    (h : StablySorted cmp (l.map f) (s.map f)) : StablySorted (fun a b => cmp (f a) (f b)) l s := by
  refine ⟨(List.map_perm_map_iff hf).mp h.perm, List.pairwise_map.mp h.sorted, fun a ha => ?_⟩
  have hstable := h.stable (f a) (List.mem_map_of_mem ha)
  rw [List.filter_map, List.filter_map] at hstable
  exact List.map_injective_iff.mpr hf hstable

variable {l₁ l₂ r₁ r₂ s₁ s₂ : List α}

/-- What is sorted in parts may be sorted as a whole. -/
theorem append_congr [TransCmp cmp] (h₁ : StablySorted cmp l₁ s₁) (h₂ : StablySorted cmp l₂ s₂)
    (h : StablySorted cmp (s₁ ++ s₂) s) : StablySorted cmp (l₁ ++ l₂) s := by
  refine ⟨h.perm.trans (h₁.perm.append h₂.perm), h.sorted, fun a _ => ?_⟩
  rw [h.filter_eq, List.filter_append, List.filter_append, h₁.filter_eq, h₂.filter_eq]

/-- Two lists in order are sorted by cutting each in two and sorting the first parts together and the second
parts together, if what changes places is strictly out of order. -/
theorem interleave [TransCmp cmp] (hl : (l₁ ++ l₂).Pairwise fun a b => (cmp a b).isLE)
    (hr : (r₁ ++ r₂).Pairwise fun a b => (cmp a b).isLE) (h₁ : StablySorted cmp (l₁ ++ r₁) s₁)
    (h₂ : StablySorted cmp (l₂ ++ r₂) s₂) (hle : ∀ x ∈ l₁, ∀ y ∈ r₂, (cmp x y).isLE)
    (hlt : ∀ x ∈ l₂, ∀ y ∈ r₁, cmp y x = .lt) :
    StablySorted cmp ((l₁ ++ l₂) ++ (r₁ ++ r₂)) (s₁ ++ s₂) := by
  have hlow := (List.pairwise_append.mp hl).2.2
  have hhigh := (List.pairwise_append.mp hr).2.2
  refine ⟨?_, ?_, fun a _ => ?_⟩
  · refine (h₁.perm.append h₂.perm).trans ?_
    rw [List.append_assoc, List.append_assoc]
    exact (List.perm_append_comm_assoc r₁ l₂ r₂).append_left l₁
  · refine List.pairwise_append.mpr ⟨h₁.sorted, h₂.sorted, fun x hx y hy => ?_⟩
    rcases List.mem_append.mp (h₁.perm.mem_iff.mp hx) with hx | hx <;>
      rcases List.mem_append.mp (h₂.perm.mem_iff.mp hy) with hy | hy
    · exact hlow x hx y hy
    · exact hle x hx y hy
    · rw [hlt y hy x hx]
      rfl
    · exact hhigh x hx y hy
  · -- Of the two parts that change places, one at most has items level with `a`.
    have hswap : r₁.filter (levelWith cmp a) ++ l₂.filter (levelWith cmp a) =
        l₂.filter (levelWith cmp a) ++ r₁.filter (levelWith cmp a) := by
      by_cases hr₁ : r₁.filter (levelWith cmp a) = []
      · rw [hr₁, List.nil_append, List.append_nil]
      · obtain ⟨y, hy⟩ := List.exists_mem_of_ne_nil _ hr₁
        obtain ⟨hy, hay⟩ := List.mem_filter.mp hy
        have hl₂ : l₂.filter (levelWith cmp a) = [] := by
          refine List.filter_eq_nil_iff.mpr fun x hx hax => ?_
          have hyx := hlt x hx y hy
          rw [← TransCmp.congr_left (levelWith_eq_true.mp hay), levelWith_eq_true.mp hax] at hyx
          cases hyx
        rw [hl₂, List.nil_append, List.append_nil]
    simp only [List.filter_append, h₁.filter_eq, h₂.filter_eq, List.append_assoc]
    rw [← List.append_assoc (r₁.filter _), hswap, List.append_assoc]

end StablySorted
end LineStore
