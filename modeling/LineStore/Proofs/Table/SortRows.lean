import LineStore.Proofs.Data.MergeRuns
import LineStore.Proofs.Table.CellOrder
/-!
# Sorting rows

Rows whose columns are coherent have a total preorder for each list of keys, so there is one stably sorted
list of them and sorting finds it.  The order is looked at on the rows given, `orderWithin`: among others it
need not be one.
-/
namespace LineStore

open Std (OrientedCmp TransCmp ReflCmp)

private theorem eq_iff_not_lt {α : Type} {cmp : α → α → Ordering} [OrientedCmp cmp] {a b : α} :
    cmp a b = .eq ↔ ¬ cmp a b = .lt ∧ ¬ cmp b a = .lt := by
  have hswap : cmp b a = (cmp a b).swap := OrientedCmp.eq_swap
  cases hab : cmp a b <;> simp_all

private theorem isStrictWeakOrder_lt {α : Type} (cmp : α → α → Ordering) [TransCmp cmp] :
    IsStrictWeakOrder α fun a b => cmp a b = .lt where
  irrefl a := (eq_iff_not_lt.mp ReflCmp.compare_self).1
  trans _ _ _ hab hbc := TransCmp.lt_trans hab hbc
  incomp_trans a b c hab hbc := by
    rw [← eq_iff_not_lt] at hab hbc ⊢
    exact TransCmp.eq_trans hab hbc

instance transCmp_eq {α : Type} : TransCmp fun _ _ : α => Ordering.eq where
  eq_swap := rfl
  isLE_trans _ _ := rfl

namespace SortKey

/-- The column that a key sorts by. -/
def cells (k : SortKey) (rows : List Row) : List Value := rows.map (·.cell k.column)

theorem cell_mem_cells (k : SortKey) {rows : List Row} {r : Row} (h : r ∈ rows) :
    r.cell k.column ∈ k.cells rows := List.mem_map_of_mem h

/-- A falling column is compared the other way round. -/
theorem order_eq (k : SortKey) (a b : Row) :
    k.order a b = if k.descending then Value.order k.caseSensitive (b.cell k.column) (a.cell k.column)
      else Value.order k.caseSensitive (a.cell k.column) (b.cell k.column) := by
  rw [Value.order_swap k.caseSensitive (b.cell k.column)]
  rfl

theorem order_swap (k : SortKey) (a b : Row) : k.order a b = (k.order b a).swap := by
  rw [order_eq, order_eq]
  split <;> exact Value.order_swap _ _ _

theorem rowOrder_cons (k : SortKey) (ks : List SortKey) :
    rowOrder (k :: ks) = compareLex k.order (rowOrder ks) := by
  funext a b
  rw [rowOrder, compareLex]
  cases k.order a b <;> rfl

private theorem rowOrder_append (ks ls : List SortKey) :
    rowOrder (ks ++ ls) = compareLex (rowOrder ks) (rowOrder ls) := by
  induction ks with
  | nil => rfl
  | cons k ks ih =>
    rw [List.cons_append, rowOrder_cons, rowOrder_cons, ih]
    funext a b
    exact (Ordering.then_assoc _ _ _).symm

end SortKey

open SortKey

/-- Every column that a key names is free of NaNs and coherent. -/
def Sortable (keys : List SortKey) (rows : List Row) : Prop :=
  ∀ k ∈ keys, Value.NoNan (k.cells rows) ∧ Value.Coherent k.caseSensitive (k.cells rows)

section Preorder

variable {keys : List SortKey} {rows : List Row}

private theorem SortKey.transCmp_order {k : SortKey} (hnan : Value.NoNan (k.cells rows))
    (h : Value.Coherent k.caseSensitive (k.cells rows)) :
    TransCmp fun a b : { r // r ∈ rows } => k.order a.1 b.1 where
  eq_swap := k.order_swap _ _
  isLE_trans {a b c} hab hbc := by
    have ha := k.cell_mem_cells a.2
    have hb := k.cell_mem_cells b.2
    have hc := k.cell_mem_cells c.2
    rw [order_eq] at hab hbc ⊢
    cases hd : k.descending with
    | false =>
      rw [hd] at hab hbc
      exact Value.order_trans hnan h ha hb hc hab hbc
    | true =>
      rw [hd] at hab hbc
      exact Value.order_trans hnan h hc hb ha hbc hab

/-- The order of the keys on the given rows. -/
def orderWithin (rows : List Row) (keys : List SortKey) (a b : { r // r ∈ rows }) : Ordering :=
  rowOrder keys a.1 b.1

def sortWithin (keys : List SortKey) (l : List { r // r ∈ rows }) : List { r // r ∈ rows } :=
  stableSort (fun a b => orderWithin rows keys a b == .lt) l

private theorem orderWithin_cons (rows : List Row) (k : SortKey) (ks : List SortKey) :
    orderWithin rows (k :: ks) = compareLex (fun a b => k.order a.1 b.1) (orderWithin rows ks) := by
  funext a b
  rw [orderWithin, rowOrder_cons]
  rfl

private theorem orderWithin_append (rows : List Row) (ks ls : List SortKey) :
    orderWithin rows (ks ++ ls) = compareLex (orderWithin rows ks) (orderWithin rows ls) := by
  funext a b
  rw [orderWithin, rowOrder_append]
  rfl

private theorem transCmp_orderWithin (h : Sortable keys rows) :
    TransCmp (orderWithin rows keys) := by
  induction keys with
  | nil => exact transCmp_eq
  | cons k ks ih =>
    have hk := SortKey.transCmp_order (h k List.mem_cons_self).1 (h k List.mem_cons_self).2
    have hks := ih fun l hl => h l (List.mem_cons_of_mem k hl)
    rw [orderWithin_cons]
    infer_instance

private theorem sortWithin_stablySorted (h : Sortable keys rows) (l : List { r // r ∈ rows }) :
    StablySorted (orderWithin rows keys) l (sortWithin keys l) :=
  have := transCmp_orderWithin h
  stableSort_stablySorted l

theorem sortRows_eq (keys : List SortKey) (rows : List Row) :
    sortRows keys rows = stableSort (fun a b => rowOrder keys a b == .lt) rows := by
  cases keys with
  | cons k ks => rfl
  | nil =>
    have hkept : StablySorted (fun _ _ => Ordering.eq) rows rows :=
      .of_sorted (List.pairwise_of_forall fun _ _ => rfl)
    exact hkept.unique (stableSort_stablySorted rows)

private theorem sortRows_map_val (keys : List SortKey) (l : List { r // r ∈ rows }) :
    sortRows keys (l.map Subtype.val) = (sortWithin keys l).map Subtype.val := by
  rw [sortRows_eq, stableSort_map]
  rfl

private theorem sortRows_attach (keys : List SortKey) (rows : List Row) :
    sortRows keys rows = (sortWithin keys rows.attach).map Subtype.val := by
  have hsort := sortRows_map_val keys rows.attach
  rwa [List.attach_map_subtype_val] at hsort

theorem sortRows_stablySorted (h : Sortable keys rows) :
    StablySorted (rowOrder keys) rows (sortRows keys rows) := by
  have hmap : StablySorted (rowOrder keys) (rows.attach.map Subtype.val) _ :=
    StablySorted.map (f := Subtype.val) (sortWithin_stablySorted h rows.attach)
  rwa [← sortRows_attach, List.attach_map_subtype_val] at hmap

private theorem eq_sortRows_of_stablySorted (h : Sortable keys rows) {s : List Row}
    (hs : StablySorted (rowOrder keys) rows s) : s = sortRows keys rows := by
  have := transCmp_orderWithin h
  obtain ⟨l, rfl⟩ : ∃ l : List { r // r ∈ rows }, l.map Subtype.val = s :=
    ⟨s.attachWith (· ∈ rows) fun _ hr => hs.perm.mem_iff.mp hr, List.attachWith_map_subtype_val _⟩
  have hl : StablySorted (orderWithin rows keys) rows.attach l := by
    refine StablySorted.of_map (f := Subtype.val) Subtype.val_injective ?_
    rwa [List.attach_map_subtype_val]
  rw [sortRows_attach, hl.unique (sortWithin_stablySorted h rows.attach)]

/-- Rows that stand in order already are not moved past each other. -/
theorem sublist_sortRows (h : Sortable keys rows) {c : List Row} (hc : c.Sublist rows)
    (hsorted : c.Pairwise fun a b => (rowOrder keys a b).isLE) : c.Sublist (sortRows keys rows) := by
  have := transCmp_orderWithin h
  have hval : c.Sublist (rows.attach.map Subtype.val) := by rwa [List.attach_map_subtype_val]
  obtain ⟨d, hd, rfl⟩ := List.sublist_map_iff.mp hval
  have hsub := (sortWithin_stablySorted h rows.attach).sublist hd (List.pairwise_map.mp hsorted)
  rw [sortRows_attach]
  exact hsub.map _

/-- Sorting by some keys after others is sorting by them before the others. -/
theorem sortRows_append {ks ls : List SortKey} (hks : Sortable ks rows) (hls : Sortable ls rows) :
    sortRows ks (sortRows ls rows) = sortRows (ks ++ ls) rows := by
  have := transCmp_orderWithin hks
  have := transCmp_orderWithin hls
  have hthen := (sortWithin_stablySorted hls rows.attach).andThen (sortWithin_stablySorted hks _)
  have hboth : StablySorted (compareLex (orderWithin rows ks) (orderWithin rows ls)) _ _ :=
    orderWithin_append rows ks ls ▸
      sortWithin_stablySorted (List.forall_mem_append.mpr ⟨hks, hls⟩) rows.attach
  rw [sortRows_attach ls, sortRows_map_val, hthen.unique hboth, sortRows_attach]

theorem sortRows_sortRows (h : Sortable keys rows) :
    sortRows keys (sortRows keys rows) = sortRows keys rows := by
  have := transCmp_orderWithin h
  have hsorted := sortWithin_stablySorted h rows.attach
  have hagain := (StablySorted.of_sorted hsorted.sorted).unique (sortWithin_stablySorted h _)
  rw [sortRows_attach keys rows, sortRows_map_val, ← hagain]

/-- Each pair of cells is ordered by its own kind: null first, numbers by value, any others by text.  Whether
cells, and with them rows, have a definite order is a question of coherence. -/
theorem order_preorder :
    (∀ cs, Value.order cs .null .null = .eq ∧
      (∀ a, a ≠ .null → Value.order cs .null a = .lt ∧ Value.order cs a .null = .gt) ∧
      (∀ a b x y, a.toNumber? = some x → b.toNumber? = some y → Value.order cs a b = x.order y) ∧
      ∀ a b, a ≠ .null → b ≠ .null → (a.toNumber? = none ∨ b.toNumber? = none) →
        Value.order cs a b = Bytes.order (a.sortText cs) (b.sortText cs)) ∧
    (∀ cs a b, Value.order cs a b = (Value.order cs b a).swap) ∧
    (∀ cs cells, Value.NoNan cells →
      ((∀ a ∈ cells, ∀ b ∈ cells, ∀ c ∈ cells, (Value.order cs a b).isLE → (Value.order cs b c).isLE →
        (Value.order cs a c).isLE) ↔ Value.Coherent cs cells)) ∧
    ∀ keys rows, Sortable keys rows →
      IsStrictWeakOrder { r // r ∈ rows } (fun a b => rowOrder keys a.1 b.1 = .lt) ∧
      ∀ s, StablySorted (rowOrder keys) rows s ↔ s = sortRows keys rows := by
  refine ⟨fun cs => ⟨rfl, ?_, ?_, ?_⟩, Value.order_swap, fun cs cells hnan => ?_,
    fun keys rows h => ⟨?_, fun s => ⟨?_, ?_⟩⟩⟩
  · intro a ha
    cases a with
    | null => exact absurd rfl ha
    | _ => exact ⟨rfl, rfl⟩
  · intro a b x y hx hy
    exact Value.order_of_numbers cs hx hy
  · intro a b ha hb htext
    exact Value.order_of_text cs ha hb htext
  · exact Value.order_trans_iff hnan
  · have := transCmp_orderWithin h
    exact isStrictWeakOrder_lt (orderWithin rows keys)
  · exact eq_sortRows_of_stablySorted h
  · rintro rfl
    exact sortRows_stablySorted h

theorem order_preorder_mixed :
    let cells := [.number (Number.ofInt 7), .text (utf8 "5"), .null, .number (Number.ofInt 3)]
    let rows : List Row := cells.map fun v => ⟨[([0x6e], v)]⟩
    let keys : List SortKey := [{ column := [0x6e] }]
    Value.NoNan cells ∧ Value.Coherent false cells ∧ Sortable keys rows ∧
      IsStrictWeakOrder { r // r ∈ rows } (fun a b => rowOrder keys a.1 b.1 = .lt) ∧
      StablySorted (rowOrder keys) rows (sortRows keys rows) := by
  intro cells rows keys
  obtain ⟨-, -, hcells, hrows⟩ := order_preorder
  have hnan : Value.NoNan cells := by
    unfold Value.NoNan
    decide +kernel
  have hcoherent : Value.Coherent false cells := (hcells false cells hnan).mp (by decide +kernel)
  have hsortable : Sortable keys rows := by
    intro k hk
    rw [List.mem_singleton.mp hk]
    exact ⟨hnan, hcoherent⟩
  obtain ⟨hweak, hsorted⟩ := hrows keys rows hsortable
  exact ⟨hnan, hcoherent, hsortable, hweak, (hsorted _).mpr rfl⟩

end Preorder

end LineStore
