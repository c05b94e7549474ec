import LineStore.Table.Dataset
import LineStore.Proofs.Data.Assoc
/-!
# What becomes of an item

An item that passes the filters becomes a row with a cell for each attribute, and each cell goes through the
transform of its attribute once, `transformRow_cases`.  With distinct columns no attribute sees the cell of
another, and without time letters the attributes stay as they are from row to row.
-/
namespace LineStore

theorem Row.cell_set (row : Row) (k k' : Bytes) (v : Value) :
    Row.cell (row.set k v) k' = if k' = k then v else row.cell k' := by
  rw [Row.cell, Assoc.get?_set]
  split
  · rfl
  · rw [Row.cell]

/-- A row with some columns and no others. -/
def Row.only (columns : List Bytes) (row : Row) : Row := ⟨columns.map fun k => (k, row.cell k)⟩

theorem Row.only_get? (columns : List Bytes) (row : Row) (k : Bytes) :
    (Row.only columns row).get? k = if k ∈ columns then some (row.cell k) else none := by
  change Assoc.lookup k (columns.map fun k => (k, row.cell k)) = _
  induction columns with
  | nil => rfl
  | cons c columns ih =>
    rw [List.map_cons, Assoc.lookup, ih]
    by_cases hk : k = c <;> simp [hk]

theorem Row.only_distinct {columns : List Bytes} (h : columns.Nodup) (row : Row) :
    (Row.only columns row).Distinct := by
  rw [Assoc.Distinct, Row.only, List.map_map]
  exact (List.map_id columns).symm ▸ h

namespace Transform

variable (zone : Option Time.Zone) {a : Attribute}

private theorem apply_attr (h : a.transform.any isTime = false) (v : Value) :
    (apply zone a v).attr = a ∧ (apply zone a v).log = [] := by
  cases v with
  | text s =>
    have htime : ∀ s, timeStep zone a.transform s = (s, a.transform, []) := by
      intro s
      simp [timeStep, h]
    simp only [apply, applyText, htime]
    cases lengthLimit? a.transform <;> exact ⟨rfl, rfl⟩
  | _ => exact ⟨rfl, rfl⟩

theorem apply_of_isEmpty (h : a.transform.isEmpty = true) (v : Value) :
    (apply zone a v).value = .ok v := by
  have hnil : a.transform = [] := List.isEmpty_iff.mp h
  cases v with
  | text s =>
    simp only [apply, hnil]
    rfl
  | _ => rfl

end Transform

namespace Dataset

/-- Does the value that an item has for a filter, as it is in the document, satisfy the filter?  A filter
on a column that does not exist is satisfied. -/
def passes (attrs : List Attribute) (item : Json.Part) (f : Filter) : Bool :=
  match queryOf? attrs f.key with
  | none => true
  | some query => (f.checkValue (item.get query).value).accepted

theorem judge_accepted (attrs : List Attribute) (item : Json.Part) (filters : List Filter) :
    (judge attrs item filters).accepted = filters.all (passes attrs item) := by
  induction filters with
  | nil => rfl
  | cons f filters ih =>
    rw [judge, List.all_cons, passes]
    cases queryOf? attrs f.key with
    | none => rw [Bool.true_and, ← ih]
    | some query =>
      cases hv : (f.checkValue (item.get query).value).accepted with
      | true => simp [hv, ih]
      | false => simp [hv]

theorem rowsOf_eq (attrs : List Attribute) (filters : List Filter) (items : List Json.Part) :
    (rowsOf attrs filters items).1 =
      (items.filter fun item => filters.all (passes attrs item)).map (project attrs) := by
  induction items with
  | nil => rfl
  | cons item items ih =>
    rw [rowsOf, List.filter_cons, ← judge_accepted]
    cases (judge attrs item filters).accepted <;> simp [ih]

/-- With distinct columns a row has its cells in the order of the attributes. -/
theorem project_eq {attrs : List Attribute} (hcolumns : (attrs.map Attribute.column).Nodup)
    (item : Json.Part) :
    project attrs item =
      ⟨(attrs.filter fun a => !a.isWildcard).map fun a => (a.column, (item.get a.key).value)⟩ := by
  have hfold : ∀ row : Row, (∀ a ∈ attrs, row.get? a.column = none) →
      (attrs.foldl (fun row a =>
        if a.isWildcard then row else row.set a.column (item.get a.key).value) row).pairs =
      row.pairs ++
        (attrs.filter fun a => !a.isWildcard).map fun a => (a.column, (item.get a.key).value) := by
    induction attrs with
    | nil => exact fun row _ => (List.append_nil row.pairs).symm
    | cons a attrs ih =>
      intro row hrow
      obtain ⟨hfirst, hrest⟩ := List.forall_mem_cons.mp hrow
      obtain ⟨ha, hcolumns⟩ := List.nodup_cons.mp hcolumns
      rw [List.foldl_cons, List.filter_cons]
      cases hw : a.isWildcard with
      | true => exact ih hcolumns row hrest
      | false =>
        have hnew : ∀ b ∈ attrs, (row.set a.column (item.get a.key).value).get? b.column = none := by
          intro b hb
          have hne : b.column ≠ a.column := fun h => ha (h ▸ List.mem_map_of_mem hb)
          rw [Assoc.get?_set, if_neg hne, hrest b hb]
        rw [if_neg Bool.false_ne_true, ih hcolumns _ hnew, Assoc.set, Assoc.erase_of_get?_none hfirst]
        simp
  rw [project]
  exact congrArg Assoc.mk ((hfold .empty fun _ _ => rfl).trans (List.nil_append _))

/-- A row after the transforms of some attributes: their columns hold the transformed cells and all else is
as it was. -/
structure Turned (zone : Option Time.Zone) (attrs : List Attribute) (row row' : Row) : Prop where
  cell : ∀ a ∈ attrs, (Transform.apply zone a (row.cell a.column)).value = .ok (row'.cell a.column)
  frame : ∀ k, k ∉ attrs.map Attribute.column → row'.get? k = row.get? k
  keeps : ∀ k, (row.get? k).isSome → (row'.get? k).isSome
  distinct : row.Distinct → row'.Distinct

variable {zone : Option Time.Zone}

private theorem Turned.cons {a : Attribute} {attrs : List Attribute} {row row' : Row} {v : Value}
    (ha : a.column ∉ attrs.map Attribute.column)
    (hv : (Transform.apply zone a (row.cell a.column)).value = .ok v)
    (h : Turned zone attrs (row.set a.column v) row') : Turned zone (a :: attrs) row row' := by
  refine ⟨List.forall_mem_cons.mpr ⟨?_, ?_⟩, ?_, ?_, fun hrow => h.distinct (hrow.set a.column v)⟩
  · rw [hv, Row.cell, h.frame _ ha, Assoc.get?_set_self]
    rfl
  · intro b hb
    have hne : b.column ≠ a.column := fun heq => ha (heq ▸ List.mem_map_of_mem hb)
    have hcell := h.cell b hb
    rwa [Row.cell_set, if_neg hne] at hcell
  · intro k hk
    rw [List.map_cons, List.mem_cons, not_or] at hk
    rw [h.frame k hk.2, Assoc.get?_set, if_neg hk.1]
  · intro k hk
    refine h.keeps k ?_
    rw [Assoc.get?_set]
    split
    · rfl
    · exact hk

private theorem Turned.skip {a : Attribute} {attrs : List Attribute} {row row' : Row}
    (ha : a.column ∉ attrs.map Attribute.column) (hempty : a.transform.isEmpty = true)
    (h : Turned zone attrs row row') : Turned zone (a :: attrs) row row' := by
  refine ⟨List.forall_mem_cons.mpr ⟨?_, h.cell⟩, ?_, h.keeps, h.distinct⟩
  · rw [Transform.apply_of_isEmpty zone hempty, Row.cell, Row.cell, h.frame _ ha]
  · intro k hk
    rw [List.map_cons, List.mem_cons, not_or] at hk
    exact h.frame k hk.2

/-- Transforming a row fails because one of its cells cannot be transformed, or transforms them all. -/
theorem transformRow_cases (zone : Option Time.Zone) {attrs : List Attribute}
    (hcolumns : (attrs.map Attribute.column).Nodup)
    (htime : ∀ a ∈ attrs, a.transform.any Transform.isTime = false) (row : Row) :
    let r := transformRow zone attrs row
    (r.attrs = attrs ∧ r.log = []) ∧
      ((∃ e, r.value = .error e ∧
          ∃ a ∈ attrs, (Transform.apply zone a (row.cell a.column)).value = .error e) ∨
        ∃ row', r.value = .ok row' ∧ Turned zone attrs row row') := by
  induction attrs generalizing row with
  | nil => exact ⟨⟨rfl, rfl⟩, .inr ⟨row, rfl, by simp, fun _ _ => rfl, fun _ h => h, fun h => h⟩⟩
  | cons a attrs ih =>
    obtain ⟨ha, hcolumns⟩ := List.nodup_cons.mp hcolumns
    obtain ⟨hfirst, hrest⟩ := List.forall_mem_cons.mp htime
    obtain ⟨hattr, hlog⟩ := Transform.apply_attr zone hfirst (row.cell a.column)
    simp only [transformRow]
    cases hempty : a.transform.isEmpty with
    | true =>
      obtain ⟨⟨hattrs, hlogs⟩, hvalue⟩ := ih hcolumns hrest row
      refine ⟨⟨congrArg (a :: ·) hattrs, hlogs⟩, hvalue.imp ?_ ?_⟩
      · rintro ⟨e, he, b, hb, hfault⟩
        exact ⟨e, he, b, List.mem_cons_of_mem a hb, hfault⟩
      · rintro ⟨row', hrow', h⟩
        exact ⟨row', hrow', h.skip ha hempty⟩
    | false =>
      cases hv : (Transform.apply zone a (row.cell a.column)).value with
      | error e => simp [hv, hattr, hlog]
      | ok v =>
        obtain ⟨⟨hattrs, hlogs⟩, hvalue⟩ := ih hcolumns hrest (row.set a.column v)
        simp only [hattr, hlog, hattrs, hlogs, Bool.false_eq_true, if_false, List.append_nil,
          true_and, and_true]
        refine hvalue.imp ?_ ?_
        · rintro ⟨e, he, b, hb, hfault⟩
          have hne : b.column ≠ a.column := fun heq => ha (heq ▸ List.mem_map_of_mem hb)
          rw [Row.cell_set, if_neg hne] at hfault
          exact ⟨e, he, b, List.mem_cons_of_mem a hb, hfault⟩
        · rintro ⟨row', hrow', h⟩
          exact ⟨row', hrow', h.cons ha hv⟩

end Dataset
end LineStore
