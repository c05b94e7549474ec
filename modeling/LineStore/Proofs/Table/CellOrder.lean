import LineStore.Proofs.Data.StablySorted
import LineStore.Table.Sort
import Mathlib
/-!
# The order of cells

Which of two cells comes first is settled by values if both are numbers and by texts if not, so a text can
stand between two numbers that their values put the other way round.  Nothing else keeps the order of cells
from being transitive: it is on just those columns in which no text stands so, `order_trans_iff`.
-/
namespace LineStore

open Std (OrientedCmp TransCmp ReflCmp)

private theorem compare_eq_then {α : Type} {cmp : α → α → Ordering} [TransCmp cmp] {a b c : α}
    (hab : (cmp a b).isLE)
    (hbc : (cmp b c).isLE) : cmp a c = (cmp a b).then (cmp b c) := by
  cases h : cmp a b with
  | lt => exact TransCmp.lt_of_lt_of_isLE h hbc
  | eq => exact TransCmp.congr_left h
  | gt => simp [h] at hab

theorem Bytes.order_isLE_iff (a b : Bytes) : (Bytes.order a b).isLE = true ↔ a ≤ b := by
  rw [Bytes.order, ← List.not_lt]
  by_cases hab : a < b
  · rw [if_pos hab]
    exact iff_of_true rfl (List.lt_asymm hab)
  · rw [if_neg hab]
    by_cases hba : b < a
    · rw [if_pos hba]
      exact iff_of_false Bool.false_ne_true (not_not_intro hba)
    · rw [if_neg hba]
      exact iff_of_true rfl hba

instance : TransCmp Bytes.order where
  eq_swap {a b} := by
    rw [Bytes.order, Bytes.order]
    by_cases hab : a < b
    · rw [if_pos hab, if_neg (List.lt_asymm hab), if_pos hab]
      rfl
    · rw [if_neg hab, if_neg hab]
      split <;> rfl
  isLE_trans {a b c} hab hbc := by
    rw [Bytes.order_isLE_iff] at hab hbc ⊢
    exact List.le_trans hab hbc

namespace Number

/-- Where a number stands among all of them; nothing is said of a NaN. -/
def place : Number → WithBot (WithTop ℤ)
  | infinite true => ⊥
  | infinite false => (⊤ : WithTop ℤ)
  | x => ((x.units : WithTop ℤ) : WithBot (WithTop ℤ))

private theorem lt_iff_place {x y : Number} (hx : x ≠ nan) (hy : y ≠ nan) :
    x.lt y = true ↔ x.place < y.place := by
  match x, y with
  | nan, _ => exact absurd rfl hx
  | _, nan => exact absurd rfl hy
  | infinite a, infinite b => cases a <;> cases b <;> simp [lt, place]
  | infinite a, finite n m e => cases a <;> simp [lt, place, not_lt.mpr le_top]
  | finite n m e, infinite b =>
    cases b with
    | true => simp [lt, place]
    | false =>
      have hlt : (((finite n m e).units : WithTop ℤ) : WithBot (WithTop ℤ)) < (⊤ : WithTop ℤ) :=
        WithBot.coe_lt_coe.mpr (WithTop.coe_lt_top _)
      exact iff_of_true rfl hlt
  | finite n m e, finite n' m' e' => simp [lt, place]

private theorem order_eq_compare {x y : Number} (hx : x ≠ nan) (hy : y ≠ nan) :
    x.order y = compare x.place y.place := by
  rw [order]
  simp only [lt_iff_place hx hy, lt_iff_place hy hx]
  rcases lt_trichotomy x.place y.place with hlt | heq | hgt
  · rw [if_pos hlt, compare_lt_iff_lt.mpr hlt]
  · rw [heq, if_neg (lt_irrefl _), if_neg (lt_irrefl _), compare_eq_iff_eq.mpr rfl]
  · rw [if_neg hgt.le.not_gt, if_pos hgt, compare_gt_iff_gt.mpr hgt]

theorem order_isLE_iff {x y : Number} (hx : x ≠ nan) (hy : y ≠ nan) :
    (x.order y).isLE = true ↔ x.place ≤ y.place := by
  rw [order_eq_compare hx hy, Ordering.isLE_iff_ne_gt, ← not_lt, ← compare_gt_iff_gt]

private theorem order_swap (x y : Number) : x.order y = (y.order x).swap := by
  by_cases hx : x = nan
  · cases y <;> simp [order, lt, hx]
  · by_cases hy : y = nan
    · cases x <;> simp [order, lt, hy]
    · rw [order_eq_compare hx hy, order_eq_compare hy hx]
      exact OrientedCmp.eq_swap

end Number

namespace Value

/-- The text that a cell is sorted by unless it meets a number as a number. -/
def sortText (caseSensitive : Bool) (v : Value) : Bytes :=
  if caseSensitive then v.display else Case.lower v.display

def SortsByText (v : Value) : Prop := v ≠ null ∧ v.toNumber? = none

theorem isNull_iff {v : Value} : v.isNull = true ↔ v = null := by
  cases v <;> simp [isNull]

theorem ne_null_of_number {v : Value} {x : Number} (h : v.toNumber? = some x) : v ≠ null := by
  rintro rfl
  cases h

variable (cs : Bool) {a b c : Value}

@[simp] theorem order_null_left (v : Value) : (order cs null v).isLE = true := by
  cases v <;> simp [order, isNull]

theorem order_null_right : (order cs a null).isLE = true ↔ a = null := by
  cases a <;> simp [order, isNull]

theorem order_of_numbers {x y : Number} (ha : a.toNumber? = some x) (hb : b.toNumber? = some y) :
    order cs a b = x.order y := by
  have hna := mt isNull_iff.mp (ne_null_of_number ha)
  have hnb := mt isNull_iff.mp (ne_null_of_number hb)
  simp [order, hna, hnb, ha, hb]

theorem order_of_text (ha : a ≠ null) (hb : b ≠ null) (h : a.toNumber? = none ∨ b.toNumber? = none) :
    order cs a b = Bytes.order (a.sortText cs) (b.sortText cs) := by
  have hna := mt isNull_iff.mp ha
  have hnb := mt isNull_iff.mp hb
  rcases h with h | h <;> cases cs <;> simp [order, hna, hnb, h, sortText]

theorem order_swap (a b : Value) : order cs a b = (order cs b a).swap := by
  by_cases ha : a = null
  · cases b <;> simp [order, ha, isNull]
  · by_cases hb : b = null
    · cases a <;> simp_all [order, isNull]
    · cases hx : a.toNumber? with
      | none =>
        rw [order_of_text cs ha hb (.inl hx), order_of_text cs hb ha (.inr hx)]
        exact OrientedCmp.eq_swap
      | some x =>
        cases hy : b.toNumber? with
        | none =>
          rw [order_of_text cs ha hb (.inr hy), order_of_text cs hb ha (.inl hy)]
          exact OrientedCmp.eq_swap
        | some y =>
          rw [order_of_numbers cs hx hy, order_of_numbers cs hy hx]
          exact x.order_swap y

/-- Two numbers, if a text of the cells stands between theirs, are in the order of their texts. -/
def Coherent (cells : List Value) : Prop :=
  ∀ v ∈ cells, ∀ w ∈ cells, ∀ t ∈ cells, ∀ x y, v.toNumber? = some x → w.toNumber? = some y →
    t.SortsByText → (Bytes.order (v.sortText cs) (t.sortText cs)).isLE →
    (Bytes.order (t.sortText cs) (w.sortText cs)).isLE →
    x.order y = Bytes.order (v.sortText cs) (w.sortText cs)

def NoNan (cells : List Value) : Prop := ∀ v ∈ cells, v.toNumber? ≠ some .nan

variable {cs} {cells : List Value}

private theorem NoNan.ne (h : NoNan cells) (ha : a ∈ cells) {x : Number}
    (hx : a.toNumber? = some x) : x ≠ .nan := by
  rintro rfl
  exact h a ha hx

section Transitive

variable (hnan : NoNan cells) (hcoherent : Coherent cs cells) (ha : a ∈ cells) (hb : b ∈ cells)
  (hc : c ∈ cells)
include hcoherent ha hb hc

private theorem order_trans_number {x y : Number} (hx : a.toNumber? = some x)
    (hy : b.toNumber? = some y)
    (ht : c.SortsByText) (hab : (order cs a b).isLE) (hbc : (order cs b c).isLE) :
    (order cs a c).isLE := by
  have hna := ne_null_of_number hx
  have hnb := ne_null_of_number hy
  rw [order_of_text cs hna ht.1 (.inr ht.2)]
  rw [order_of_text cs hnb ht.1 (.inr ht.2)] at hbc
  refine isLE_of_not_lt fun hlt => ?_
  have hyx := hcoherent b hb a ha c hc y x hy hx ht hbc (by rw [hlt]; rfl)
  rw [TransCmp.lt_of_isLE_of_lt hbc hlt] at hyx
  rw [order_swap, order_of_numbers cs hy hx, hyx] at hab
  cases hab

private theorem order_trans_text {x y : Number} (ht : a.SortsByText) (hx : b.toNumber? = some x)
    (hy : c.toNumber? = some y) (hab : (order cs a b).isLE) (hbc : (order cs b c).isLE) :
    (order cs a c).isLE := by
  have hnb := ne_null_of_number hx
  have hnc := ne_null_of_number hy
  rw [order_of_text cs ht.1 hnc (.inl ht.2)]
  rw [order_of_text cs ht.1 hnb (.inl ht.2)] at hab
  refine isLE_of_not_lt fun hlt => ?_
  have hyx := hcoherent c hc b hb a ha y x hy hx ht (by rw [hlt]; rfl) hab
  rw [TransCmp.lt_of_lt_of_isLE hlt hab] at hyx
  rw [order_swap, order_of_numbers cs hy hx, hyx] at hbc
  cases hbc

include hnan in
theorem order_trans (hab : (order cs a b).isLE) (hbc : (order cs b c).isLE) : (order cs a c).isLE := by
  by_cases hna : a = null
  · rw [hna]
    exact order_null_left cs c
  by_cases hnb : b = null
  · rw [hnb, order_null_right] at hab
    exact absurd hab hna
  by_cases hnc : c = null
  · rw [hnc, order_null_right] at hbc
    exact absurd hbc hnb
  -- Which of the three are numbers settles how each pair is compared.
  cases hx : a.toNumber? with
  | none =>
    cases hy : b.toNumber? with
    | none =>
      rw [order_of_text cs hna hnb (.inl hx)] at hab
      rw [order_of_text cs hnb hnc (.inl hy)] at hbc
      rw [order_of_text cs hna hnc (.inl hx)]
      exact TransCmp.isLE_trans hab hbc
    | some y =>
      cases hz : c.toNumber? with
      | none =>
        rw [order_of_text cs hna hnb (.inl hx)] at hab
        rw [order_of_text cs hnb hnc (.inr hz)] at hbc
        rw [order_of_text cs hna hnc (.inl hx)]
        exact TransCmp.isLE_trans hab hbc
      | some z => exact order_trans_text hcoherent ha hb hc ⟨hna, hx⟩ hy hz hab hbc
  | some x =>
    cases hy : b.toNumber? with
    | none =>
      rw [order_of_text cs hna hnb (.inr hy)] at hab
      rw [order_of_text cs hnb hnc (.inl hy)] at hbc
      have htext := TransCmp.isLE_trans hab hbc
      cases hz : c.toNumber? with
      | none => rwa [order_of_text cs hna hnc (.inr hz)]
      | some z => rwa [order_of_numbers cs hx hz, hcoherent a ha c hc b hb x z hx hz ⟨hnb, hy⟩ hab hbc]
    | some y =>
      cases hz : c.toNumber? with
      | none => exact order_trans_number hcoherent ha hb hc hx hy ⟨hnc, hz⟩ hab hbc
      | some z =>
        have hx' := hnan.ne ha hx
        have hy' := hnan.ne hb hy
        have hz' := hnan.ne hc hz
        rw [order_of_numbers cs hx hy, Number.order_eq_compare hx' hy'] at hab
        rw [order_of_numbers cs hy hz, Number.order_eq_compare hy' hz'] at hbc
        rw [order_of_numbers cs hx hz, Number.order_eq_compare hx' hz']
        exact TransCmp.isLE_trans hab hbc

end Transitive

theorem order_trans_iff (hnan : NoNan cells) :
    (∀ a ∈ cells, ∀ b ∈ cells, ∀ c ∈ cells, (order cs a b).isLE → (order cs b c).isLE →
      (order cs a c).isLE) ↔ Coherent cs cells := by
  refine ⟨fun htrans v hv w hw t ht x y hx hy htext hvt htw => ?_,
    fun h a ha b hb c hc => order_trans hnan h ha hb hc⟩
  have htransCmp : TransCmp fun a b : { v // v ∈ cells } => order cs a.1 b.1 :=
    { eq_swap := order_swap cs _ _, isLE_trans := fun hab hbc => htrans _ (Subtype.property _) _
        (Subtype.property _) _ (Subtype.property _) hab hbc }
  have hnv := ne_null_of_number hx
  have hnw := ne_null_of_number hy
  have hleft := order_of_text cs hnv htext.1 (.inr htext.2)
  have hright := order_of_text cs htext.1 hnw (.inl htext.2)
  have hstep : order cs v w = (order cs v t).then (order cs t w) :=
    @compare_eq_then _ _ htransCmp ⟨v, hv⟩ ⟨t, ht⟩ ⟨w, hw⟩ (by rwa [hleft]) (by rwa [hright])
  rw [← order_of_numbers cs hx hy, hstep, hleft, hright, compare_eq_then hvt htw]

theorem order_cycle :
    let ten := number (Number.ofInt 10)
    let five := text (utf8 "5")
    let nine := number (Number.ofInt 9)
    (order false ten five).isLE ∧ (order false five nine).isLE ∧ ¬ (order false ten nine).isLE := by
  decide +kernel

end Value
end LineStore
