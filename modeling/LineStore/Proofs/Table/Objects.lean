import LineStore.Proofs.Data.StableSort
import LineStore.Proofs.Table.Rows
/-!
# Rows as they are to be

The stages of the output share rows that are keyed by column while attributes are keyed by what they look
for, and columns that are not shown stay until the rows are sorted.  `objects` says what is to come out row
by row: the items that pass the filters, each cell transformed once, sorted, and then the columns that are
shown.  A row of the stages mirrors such a row from its first cells to the end.
-/
namespace LineStore

/-- Two computations fail alike, or have related results. -/
inductive Agree {ε α β : Type} (R : α → β → Prop) : Except ε α → Except ε β → Prop
  | error (e : ε) : Agree R (.error e) (.error e)
  | ok {a : α} {b : β} (h : R a b) : Agree R (.ok a) (.ok b)

theorem Agree.map {ε α β α' β' : Type} {R : α → β → Prop} {S : α' → β' → Prop} {x : Except ε α}
    {y : Except ε β} {f : α → α'} {g : β → β'} (h : Agree R x y) (hfg : ∀ a b, R a b → S (f a) (g b)) :
    Agree S (x.map f) (y.map g) := by
  cases h with
  | error e => exact .error e
  | ok hab => exact .ok (hfg _ _ hab)

theorem Agree.trans {ε α β γ : Type} {R : α → β → Prop} {S : β → γ → Prop} {T : α → γ → Prop} {x : Except ε α}
    {y : Except ε β} {z : Except ε γ} (hxy : Agree R x y) (hyz : Agree S y z)
    (h : ∀ a b c, R a b → S b c → T a c) : Agree T x z := by
  cases hxy with
  | error e =>
    cases hyz
    exact .error e
  | ok hab =>
    cases hyz with
    | ok hbc => exact .ok (h _ _ _ hab hbc)

theorem Agree.bind {ε α β α' β' : Type} {R : α → β → Prop} {S : α' → β' → Prop} {x : Except ε α}
    {y : Except ε β} {f : α → Except ε α'} {g : β → Except ε β'} (h : Agree R x y)
    (hfg : ∀ a b, x = .ok a → y = .ok b → R a b → Agree S (f a) (g b)) :
    Agree S (x >>= f) (y >>= g) := by
  cases h with
  | error e => exact .error e
  | ok hab => exact hfg _ _ rfl rfl hab

theorem Agree.of_map {ε α β α' β' : Type} {R : α' → β' → Prop} {x : Except ε α} {y : Except ε β} {f : α → α'}
    {g : β → β'} (h : Agree R (x.map f) (y.map g)) : Agree (fun a b => R (f a) (g b)) x y := by
  cases x with
  | error e =>
    cases y with
    | error e' =>
      cases h
      exact .error e
    | ok b => cases h
  | ok a =>
    cases y with
    | error e => cases h
    | ok b =>
      cases h with
      | ok hab => exact .ok hab

section mapM

variable {ε α β : Type} {f : α → Except ε β} {l : List α}

private theorem mapM_eq_map {g : α → β} (h : ∀ a ∈ l, f a = .ok (g a)) :
    l.mapM f = .ok (l.map g) := by
  induction l with
  | nil => rfl
  | cons a l ih =>
    obtain ⟨ha, hl⟩ := List.forall_mem_cons.mp h
    rw [List.mapM_cons, ha, ih hl]
    rfl

private theorem mapM_eq_error (h : ∃ a ∈ l, ∃ e, f a = .error e) : ∃ e, l.mapM f = .error e := by
  induction l with
  | nil => simp at h
  | cons a l ih =>
    rw [List.mapM_cons]
    cases ha : f a with
    | error e => exact ⟨e, rfl⟩
    | ok b =>
      obtain ⟨a', hmem, e, he⟩ := h
      have hl : a' ∈ l := by
        refine (List.mem_cons.mp hmem).resolve_left ?_
        rintro rfl
        rw [ha] at he
        cases he
      obtain ⟨e', he'⟩ := ih ⟨a', hl, e, he⟩
      exact ⟨e', by rw [he']; rfl⟩

theorem exists_of_mapM {l : List α} {l' : List β} (h : l.mapM f = .ok l') {b : β} (hb : b ∈ l') :
    ∃ a ∈ l, f a = .ok b := by
  induction l generalizing l' with
  | nil =>
    cases h
    cases hb
  | cons a l ih =>
    rw [List.mapM_cons] at h
    cases ha : f a with
    | error e =>
      rw [ha] at h
      cases h
    | ok x =>
      cases hl : l.mapM f with
      | error e =>
        rw [ha, hl] at h
        cases h
      | ok xs =>
        rw [ha, hl] at h
        cases h
        rcases List.mem_cons.mp hb with rfl | hb
        · exact ⟨a, List.mem_cons_self, ha⟩
        · obtain ⟨a', hmem, ha'⟩ := ih hl hb
          exact ⟨a', List.mem_cons_of_mem a hmem, ha'⟩

theorem mapM_congr {f' : α → Except ε β} {l : List α} (h : ∀ a ∈ l, f a = f' a) :
    l.mapM f = l.mapM f' := by
  induction l with
  | nil => rfl
  | cons a l ih =>
    obtain ⟨ha, hl⟩ := List.forall_mem_cons.mp h
    rw [List.mapM_cons, List.mapM_cons, ha, ih hl]

theorem map_mapM {γ : Type} (g : β → γ) (l : List α) :
    (l.mapM f).map (List.map g) = l.mapM fun a => (f a).map g := by
  induction l with
  | nil => rfl
  | cons a l ih =>
    rw [List.mapM_cons, List.mapM_cons, ← ih]
    cases f a with
    | error e => rfl
    | ok b => cases l.mapM f <;> rfl

/-- With one way to fail the order of a list is that of its results and nothing else. -/
theorem mapM_perm [Subsingleton ε] {l l' : List α} (h : l.Perm l') :
    Agree List.Perm (l.mapM f) (l'.mapM f) := by
  induction h with
  | nil => exact .ok .nil
  | cons a _ ih =>
    rw [List.mapM_cons, List.mapM_cons]
    cases f a with
    | error e => exact .error e
    | ok b => exact ih.map fun _ _ h => h.cons b
  | swap a b l =>
    simp only [List.mapM_cons]
    cases f b with
    | error e =>
      cases f a with
      | error e' =>
        rw [Subsingleton.elim e' e]
        exact .error e
      | ok y => exact .error e
    | ok x =>
      cases f a with
      | error e => exact .error e
      | ok y =>
        cases l.mapM f with
        | error e => exact .error e
        | ok ys => exact .ok (.swap y x ys)
  | trans _ _ ih ih' => exact ih.trans ih' fun _ _ _ => List.Perm.trans

end mapM

namespace Dataset

/-- The cell of an attribute in the row of an item: what its key finds there, transformed. -/
def cellOf (zone : Option Time.Zone) (item : Json.Part) (a : Attribute) : Except Transform.Error Value :=
  (Transform.apply zone a (item.get a.key).value).value

/-- Keys that find nothing are empty cells, whatever their transform. -/
theorem cellOf_of_missing (zone : Option Time.Zone) {item : Json.Part} {a : Attribute}
    (h : (item.get a.key).exists = false) : cellOf zone item a = .ok .null := by
  rw [cellOf]
  generalize item.get a.key = p at h
  obtain ⟨kind, raw, text, number⟩ := p
  obtain ⟨rfl, rfl⟩ : kind = .null ∧ raw = [] := by simpa [Json.Part.exists] using h
  rfl

/-- The whole row of an item: columns that are not shown too, but none for `*`. -/
def fullRow (zone : Option Time.Zone) (attrs : List Attribute) (item : Json.Part) :
    Except Transform.Error Row :=
  ((attrs.filter fun a => !a.isWildcard).mapM fun a => (cellOf zone item a).map (a.column, ·)).map Assoc.mk

/-- The columns that are shown. -/
def shownColumns (attrs : List Attribute) : List Bytes :=
  (attrs.filter Attribute.included).map Attribute.column

/-- The items that pass the filters, as whole rows, sorted, and then what is shown of them. -/
def objects (zone : Option Time.Zone) (attrs : List Attribute) (filters : List Filter)
    (keys : List SortKey) (items : List Json.Part) : Except Transform.Error (List Row) :=
  ((items.filter fun item => filters.all (passes attrs item)).mapM (fullRow zone attrs)).map
    fun rows => (sortRows keys rows).map (Row.only (shownColumns attrs))

/-- A row of the stages has the cells of a whole row, and has all that is shown.  What else it has are
cells of its attributes. -/
structure Mirrors (attrs : List Attribute) (row full : Row) : Prop where
  distinct : row.Distinct
  cell : ∀ k, row.cell k = full.cell k
  has : ∀ k ∈ shownColumns attrs, (row.get? k).isSome
  columns : ∀ k, (row.get? k).isSome → k ∈ attrs.map Attribute.column

/-- The columns of the attributes but `*`. -/
def plainColumns (attrs : List Attribute) : List Bytes :=
  (attrs.filter fun a => !a.isWildcard).map Attribute.column

section row

variable {zone : Option Time.Zone} {attrs : List Attribute}
  (hcolumns : (attrs.map Attribute.column).Nodup)
  (hhidden : ∀ a ∈ attrs, a.isWildcard = true → a.included = false)
  (item : Json.Part)

private theorem fullRow_of_cell_error {a : Attribute} {e : Transform.Error} (ha : a ∈ attrs)
    (hplain : a.isWildcard = false) (he : cellOf zone item a = .error e) :
    ∃ e', fullRow zone attrs item = .error e' := by
  have hmem : a ∈ attrs.filter fun a => !a.isWildcard :=
    List.mem_filter.mpr ⟨ha, by simpa using hplain⟩
  obtain ⟨e', he'⟩ := mapM_eq_error (f := fun a => (cellOf zone item a).map (a.column, ·))
    ⟨a, hmem, e, by rw [he]; rfl⟩
  exact ⟨e', by rw [fullRow, he']; rfl⟩

include hcolumns

private theorem plainColumns_nodup : (plainColumns attrs).Nodup :=
  hcolumns.sublist (List.filter_sublist.map _)

private theorem mem_plainColumns_iff {a : Attribute} (ha : a ∈ attrs) :
    a.column ∈ plainColumns attrs ↔ a.isWildcard = false := by
  constructor
  · intro h
    obtain ⟨b, hb, hcolumn⟩ := List.mem_map.mp h
    obtain ⟨hb, hplain⟩ := List.mem_filter.mp hb
    obtain rfl := List.inj_on_of_nodup_map hcolumns hb ha hcolumn
    simpa using hplain
  · intro hplain
    exact List.mem_map_of_mem (List.mem_filter.mpr ⟨ha, by simpa using hplain⟩)

private theorem project_distinct : (project attrs item).Distinct := by
  rw [project_eq hcolumns, Assoc.Distinct, List.map_map]
  exact plainColumns_nodup hcolumns

private theorem project_get? {a : Attribute} (ha : a ∈ attrs) (hplain : a.isWildcard = false) :
    (project attrs item).get? a.column = some (item.get a.key).value := by
  rw [← Assoc.mem_pairs_iff (project_distinct hcolumns item), project_eq hcolumns]
  exact List.mem_map_of_mem (List.mem_filter.mpr ⟨ha, by simpa using hplain⟩)

private theorem project_get?_eq_none {k : Bytes} (hk : k ∉ plainColumns attrs) :
    (project attrs item).get? k = none := by
  rw [Assoc.get?_eq_none_iff, project_eq hcolumns, List.map_map]
  exact hk

/-- A whole row has the cell of each attribute in the column of the attribute. -/
theorem fullRow_cell {full : Row} (h : fullRow zone attrs item = .ok full) {a : Attribute} (ha : a ∈ attrs)
    (hplain : a.isWildcard = false) : cellOf zone item a = .ok (full.cell a.column) := by
  let plain := attrs.filter fun a => !a.isWildcard
  let pair (b : Attribute) : Bytes × Value := (b.column, (cellOf zone item b).toOption.getD .null)
  have hcells : ∀ b ∈ plain, ∃ v, cellOf zone item b = .ok v := by
    intro b hb
    cases hv : cellOf zone item b with
    | ok v => exact ⟨v, rfl⟩
    | error e =>
      obtain ⟨hb, hplain⟩ := List.mem_filter.mp hb
      obtain ⟨e', he'⟩ := fullRow_of_cell_error item hb (by simpa using hplain) hv
      rw [he'] at h
      cases h
  have hpairs : plain.mapM (fun a => (cellOf zone item a).map (a.column, ·)) = .ok (plain.map pair) := by
    refine mapM_eq_map fun b hb => ?_
    obtain ⟨v, hv⟩ := hcells b hb
    simp [pair, hv, Except.map, Except.toOption]
  rw [fullRow, hpairs] at h
  cases h
  have hmem : a ∈ plain := List.mem_filter.mpr ⟨ha, by simpa using hplain⟩
  have hdistinct : (Assoc.mk (plain.map pair)).Distinct := by
    rw [Assoc.Distinct, List.map_map]
    exact plainColumns_nodup hcolumns
  have hget : (Assoc.mk (plain.map pair)).get? a.column = some (pair a).2 :=
    (Assoc.mem_pairs_iff hdistinct).mp (List.mem_map_of_mem hmem)
  obtain ⟨v, hv⟩ := hcells a hmem
  rw [Row.cell, hget, Option.getD_some, hv]
  simp [pair, hv, Except.toOption]

private theorem fullRow_of_turned {row : Row} (h : Turned zone attrs (project attrs item) row) :
    fullRow zone attrs item = .ok (Row.only (plainColumns attrs) row) := by
  rw [fullRow, mapM_eq_map (g := fun a => (a.column, row.cell a.column)), Row.only, plainColumns,
    List.map_map]
  · rfl
  · intro a ha
    obtain ⟨ha, hplain⟩ := List.mem_filter.mp ha
    have hcell := h.cell a ha
    rw [Row.cell, project_get? hcolumns item ha (by simpa using hplain), Option.getD_some] at hcell
    rw [cellOf, hcell]
    rfl

private theorem fullRow_of_fault {e : Transform.Error} (h : ∃ a ∈ attrs,
    (Transform.apply zone a ((project attrs item).cell a.column)).value = .error e) :
    fullRow zone attrs item = .error e := by
  obtain ⟨a, ha, he⟩ := h
  have hplain : a.isWildcard = false := by
    rw [← mem_plainColumns_iff hcolumns ha]
    refine Decidable.byContradiction fun hnot => ?_
    rw [Row.cell, project_get?_eq_none hcolumns item hnot] at he
    cases he
  rw [Row.cell, project_get? hcolumns item ha hplain, Option.getD_some] at he
  obtain ⟨e', he'⟩ := fullRow_of_cell_error item ha hplain he
  -- There is but one way to fail.
  cases e
  cases e'
  exact he'

include hhidden

private theorem mirrors_of_turned {row : Row} (h : Turned zone attrs (project attrs item) row) :
    Mirrors attrs row (Row.only (plainColumns attrs) row) := by
  refine ⟨h.distinct (project_distinct hcolumns item), ?_, ?_, ?_⟩
  · intro k
    rw [Row.cell.eq_1 (Row.only _ _), Row.only_get?]
    by_cases hk : k ∈ plainColumns attrs
    · rw [if_pos hk, Option.getD_some]
    · rw [if_neg hk, Option.getD_none]
      have hnone := project_get?_eq_none hcolumns item hk
      by_cases hmem : k ∈ attrs.map Attribute.column
      -- The cell of `*` is empty, and its transform leaves it so.
      · obtain ⟨a, ha, rfl⟩ := List.mem_map.mp hmem
        have hcell := h.cell a ha
        rw [Row.cell, hnone] at hcell
        exact (Except.ok.inj hcell).symm
      · rw [Row.cell, h.frame k hmem, hnone, Option.getD_none]
  · intro k hk
    obtain ⟨a, ha, rfl⟩ := List.mem_map.mp hk
    obtain ⟨ha, hincluded⟩ := List.mem_filter.mp ha
    have hplain : a.isWildcard = false := by
      rw [← Bool.not_eq_true]
      intro hwild
      rw [hhidden a ha hwild] at hincluded
      cases hincluded
    exact h.keeps _ (by rw [project_get? hcolumns item ha hplain]; rfl)
  · intro k hk
    refine Decidable.byContradiction fun hmem => ?_
    have hplain : k ∉ plainColumns attrs := fun h => hmem ((List.filter_sublist.map _).subset h)
    rw [h.frame k hmem, project_get?_eq_none hcolumns item hplain] at hk
    cases hk

variable (zone) (htime : ∀ a ∈ attrs, a.transform.any Transform.isTime = false)

include htime

private theorem transformRow_agree :
    let r := transformRow zone attrs (project attrs item)
    (r.attrs = attrs ∧ r.log = []) ∧ Agree (Mirrors attrs) r.value (fullRow zone attrs item) := by
  intro r
  obtain ⟨hkept, ⟨e, he, hfault⟩ | ⟨row, hrow, hturned⟩⟩ :=
    transformRow_cases zone hcolumns htime (project attrs item)
  · refine ⟨hkept, ?_⟩
    rw [he, fullRow_of_fault hcolumns item hfault]
    exact .error e
  · refine ⟨hkept, ?_⟩
    rw [hrow, fullRow_of_turned hcolumns item hturned]
    exact .ok (mirrors_of_turned hcolumns hhidden item hturned)

omit item

theorem transformRows_agree (items : List Json.Part) :
    let r := transformRows zone attrs (items.map (project attrs))
    (r.attrs = attrs ∧ r.log = []) ∧
      Agree (List.Forall₂ (Mirrors attrs)) r.value (items.mapM (fullRow zone attrs)) := by
  induction items with
  | nil => exact ⟨⟨rfl, rfl⟩, .ok .nil⟩
  | cons item items ih =>
    obtain ⟨⟨hattrs, hlog⟩, hfirst⟩ := transformRow_agree zone hcolumns hhidden item htime
    obtain ⟨⟨hattrs', hlog'⟩, hrest⟩ := ih
    rw [List.map_cons, List.mapM_cons]
    simp only [transformRows]
    generalize fullRow zone attrs item = full at hfirst ⊢
    generalize items.mapM (fullRow zone attrs) = fulls at hrest ⊢
    generalize (transformRow zone attrs (project attrs item)).value = row at hfirst ⊢
    cases hfirst with
    | error e => exact ⟨⟨hattrs, hlog⟩, .error e⟩
    | ok hrow =>
      simp only [hattrs, hlog, hattrs', hlog', List.append_nil, true_and, and_true]
      exact hrest.map fun rows fulls h => .cons hrow h

end row

private theorem rowOrder_congr {keys : List SortKey} {a b a' b' : Row}
    (ha : ∀ k, a.cell k = a'.cell k)
    (hb : ∀ k, b.cell k = b'.cell k) : SortKey.rowOrder keys a b = SortKey.rowOrder keys a' b' := by
  induction keys with
  | nil => rfl
  | cons k keys ih => rw [SortKey.rowOrder, SortKey.rowOrder, SortKey.order, SortKey.order, ha, hb, ih]

/-- Sorting sees the cells of rows and nothing else. -/
theorem sortRows_mirrors {attrs : List Attribute} (keys : List SortKey) {rows fulls : List Row}
    (h : List.Forall₂ (Mirrors attrs) rows fulls) :
    List.Forall₂ (Mirrors attrs) (sortRows keys rows) (sortRows keys fulls) := by
  unfold sortRows
  split
  · exact h
  · refine stableSort_forall₂ ?_ h
    intro a b a' b' hab hab'
    rw [rowOrder_congr hab.cell hab'.cell]

/-- The columns that only attributes that are not shown have. -/
def hiddenColumns (attrs : List Attribute) : List Bytes :=
  (attrs.filter fun a =>
    !a.included && !attrs.any fun b => b.included && b.column == a.column).map Attribute.column

theorem dropExcluded_eq (attrs : List Attribute) (rows : List Row) :
    dropExcluded attrs rows = rows.map ((hiddenColumns attrs).foldl Assoc.erase) := rfl

private theorem mem_hiddenColumns_iff {attrs : List Attribute} {k : Bytes} :
    k ∈ hiddenColumns attrs ↔ k ∈ attrs.map Attribute.column ∧ k ∉ shownColumns attrs := by
  constructor
  · intro h
    obtain ⟨a, ha, rfl⟩ := List.mem_map.mp h
    obtain ⟨ha, hhidden⟩ := List.mem_filter.mp ha
    refine ⟨List.mem_map_of_mem ha, fun hshown => ?_⟩
    obtain ⟨b, hb, hcolumn⟩ := List.mem_map.mp hshown
    obtain ⟨hb, hincluded⟩ := List.mem_filter.mp hb
    simp only [Bool.and_eq_true, Bool.not_eq_true', List.any_eq_false] at hhidden
    exact hhidden.2 b hb (by simp [hincluded, hcolumn])
  · rintro ⟨h, hshown⟩
    obtain ⟨a, ha, rfl⟩ := List.mem_map.mp h
    have hnone : ∀ b ∈ attrs, b.included = true → b.column ≠ a.column := fun b hb hincluded hcolumn =>
      hshown (hcolumn ▸ List.mem_map_of_mem (List.mem_filter.mpr ⟨hb, hincluded⟩))
    refine List.mem_map_of_mem (List.mem_filter.mpr ⟨ha, ?_⟩)
    have ha' : a.included = false := by
      rw [← Bool.not_eq_true]
      exact fun hincluded => hnone a ha hincluded rfl
    simpa [ha'] using hnone

/-- What is left of a row has the columns that are shown, with the cells of the whole row. -/
theorem Mirrors.dropped {attrs : List Attribute} {row full : Row} (h : Mirrors attrs row full) (k : Bytes) :
    ((hiddenColumns attrs).foldl Assoc.erase row).get? k = (Row.only (shownColumns attrs) full).get? k := by
  rw [Assoc.get?_foldl_erase, Row.only_get?]
  by_cases hshown : k ∈ shownColumns attrs
  · have hkept : k ∉ hiddenColumns attrs := fun hk => (mem_hiddenColumns_iff.mp hk).2 hshown
    obtain ⟨v, hv⟩ := Option.isSome_iff_exists.mp (h.has k hshown)
    rw [if_neg hkept, if_pos hshown, hv, ← h.cell k, Row.cell, hv, Option.getD_some]
  · rw [if_neg hshown]
    by_cases hhidden : k ∈ hiddenColumns attrs
    · rw [if_pos hhidden]
    · rw [if_neg hhidden, ← Option.not_isSome_iff_eq_none]
      exact fun hk => hhidden (mem_hiddenColumns_iff.mpr ⟨h.columns k hk, hshown⟩)

theorem shownColumns_nodup {attrs : List Attribute} (hcolumns : (attrs.map Attribute.column).Nodup) :
    (shownColumns attrs).Nodup :=
  hcolumns.sublist (List.filter_sublist.map _)

end Dataset

end LineStore
