import LineStore.Proofs.Table.Columns
import LineStore.Proofs.Table.Objects
/-!
# Columns that do not depend on the order of rows

A column is settled if below a text that was refused as a time stamp no text is read as one.  Then each cell is
transformed as if it stood alone, `turnColumn_get?`, and the same rows in another order are transformed to the
same rows, `transformRows_sameRows`.  Rows are the same here if they say the same of every column.
-/
namespace LineStore

/-- What a row says of each column. -/
abbrev Cells := Bytes → Option Value

namespace Dataset

open Transform

/-- The same rows in some order, as far as their columns tell them apart. -/
def SameRows (rows rows' : List Row) : Prop := (rows.map Assoc.get?).Perm (rows'.map Assoc.get?)

theorem SameRows.of_perm {rows rows' : List Row} (h : rows.Perm rows') : SameRows rows rows' := h.map _

/-- Below a text of a column that was refused no text is read as a time stamp. -/
def Settled (zone : Option Time.Zone) (a : Attribute) (rows : List Row) : Prop :=
  ∀ p ∈ rows.zip rows.inits, (p.2.any fun row => refused zone a (row.cell a.column)) = true →
    (p.1.cell a.column).text?.isSome = true → refused zone a (p.1.cell a.column) = true

instance (zone : Option Time.Zone) (a : Attribute) (rows : List Row) : Decidable (Settled zone a rows) :=
  inferInstanceAs (Decidable (∀ p ∈ rows.zip rows.inits, _ → _ → _))

/-- So it is in every column, when its turn comes. -/
def AllSettled (zone : Option Time.Zone) : List Attribute → List Row → Prop
  | [], _ => True
  | a :: rest, rows =>
    Settled zone a rows ∧
      match turnColumn zone a rows with
      | .ok rows' => AllSettled zone rest rows'
      | .error _ => True

instance decidableAllSettled (zone : Option Time.Zone) :
    ∀ attrs rows, Decidable (AllSettled zone attrs rows)
  | [], _ => .isTrue trivial
  | a :: rest, rows =>
    let : Decidable (match turnColumn zone a rows with
        | .ok rows' => AllSettled zone rest rows'
        | .error _ => True) :=
      match turnColumn zone a rows with
      | .ok rows' => decidableAllSettled zone rest rows'
      | .error _ => .isTrue trivial
    inferInstanceAs (Decidable (Settled zone a rows ∧ _))

/-- A column is in every row or in none. -/
def Rectangular (rows : List Cells) : Prop :=
  ∀ k, (∀ f ∈ rows, (f k).isSome = true) ∨ ∀ f ∈ rows, f k = none

/-- One cell of a row transformed, for a row that is its cells. -/
def turnCells (zone : Option Time.Zone) (a : Attribute) (f : Cells) : Except Transform.Error Cells :=
  if a.transform.isEmpty then .ok f
  else (apply zone a ((f a.column).getD .null)).value.map fun v => Function.update f a.column (some v)

section

variable {zone : Option Time.Zone} {a : Attribute} {rows : List Row}

private theorem turnCell_get? (row : Row) :
    (turnCell zone a row).map Assoc.get? = turnCells zone a row.get? := by
  rw [turnCell, turnCells]
  cases a.transform.isEmpty with
  | true => rfl
  | false =>
    change ((apply zone a (row.cell a.column)).value.map _).map _ =
      (apply zone a (row.cell a.column)).value.map _
    cases (apply zone a (row.cell a.column)).value with
    | error e => rfl
    | ok v =>
      refine congrArg Except.ok (funext fun k => ?_)
      exact (Assoc.get?_set row a.column k v).trans (Function.update_apply ..).symm

private theorem turnCells_of_present {f : Cells} {v : Value} (h : f a.column = some v) :
    turnCells zone a f = (apply zone a v).value.map fun v => Function.update f a.column (some v) := by
  rw [turnCells, h, Option.getD_some]
  cases hempty : a.transform.isEmpty with
  | true =>
    rw [if_pos rfl, apply_of_isEmpty zone hempty]
    have hsame : Function.update f a.column (some v) = f := h ▸ Function.update_eq_self a.column f
    exact congrArg Except.ok hsame.symm
  | false => rw [if_neg Bool.false_ne_true]

private theorem turnCells_below (hrect : Rectangular (rows.map Assoc.get?))
    (hsettled : Settled zone a rows)
    {row : Row} {above : List Row} (h : (row, above) ∈ rows.zip rows.inits) :
    turnCells zone (below zone a above) row.get? = turnCells zone a row.get? := by
  rw [below]
  cases hany : above.any fun row => refused zone a (row.cell a.column) with
  | false => rfl
  | true =>
    have habove : above <+: rows := (List.mem_inits above rows).mp (List.of_mem_zip h).2
    obtain ⟨r, hr, hrefused⟩ := List.any_eq_true.mp hany
    -- A refused cell is a text, so every row has the column.
    have hpresent : ∀ row ∈ rows, (row.get? a.column).isSome = true := by
      rcases hrect a.column with hall | hnone
      · exact fun row hrow => hall _ (List.mem_map_of_mem hrow)
      · rw [Row.cell, hnone _ (List.mem_map_of_mem (habove.subset hr))] at hrefused
        cases hrefused
    obtain ⟨v, hv⟩ := Option.isSome_iff_exists.mp (hpresent row (List.of_mem_zip h).1)
    have hcell : row.cell a.column = v := by rw [Row.cell, hv, Option.getD_some]
    have hvalue : (apply zone a.untimed v).value = (apply zone a v).value := by
      have hs := hsettled _ h hany
      rw [hcell] at hs
      cases v with
      | text s => exact apply_untimed (hs rfl)
      | _ => rfl
    rw [if_pos rfl, turnCells_of_present (a := a) hv, turnCells_of_present (a := a.untimed) hv, hvalue]
    rfl

private theorem turnColumn_get? (hrect : Rectangular (rows.map Assoc.get?))
    (hsettled : Settled zone a rows) :
    (turnColumn zone a rows).map (List.map Assoc.get?) =
      (rows.map Assoc.get?).mapM (turnCells zone a) := by
  have hcells : ∀ p ∈ rows.zip rows.inits,
      (turnCell zone (below zone a p.2) p.1).map Assoc.get? = turnCells zone a p.1.get? := by
    intro p hp
    rw [turnCell_get?, turnCells_below hrect hsettled hp]
  have hfst : (rows.zip rows.inits).map (·.1) = rows :=
    List.map_fst_zip (by rw [List.length_inits]; exact Nat.le_succ _)
  rw [turnColumn, map_mapM, mapM_congr hcells]
  conv_rhs => rw [← hfst, List.map_map, List.mapM_map]
  rfl

end

theorem Rectangular.of_perm {rows rows' : List Cells} (h : Rectangular rows) (hperm : rows.Perm rows') :
    Rectangular rows' := by
  intro k
  simpa only [hperm.mem_iff] using h k

section

variable {zone : Option Time.Zone} {a : Attribute}

private theorem eq_of_turnCells {f f' : Cells} (h : turnCells zone a f = .ok f') :
    if a.transform.isEmpty then f' = f else ∃ v, f' = Function.update f a.column (some v) := by
  rw [turnCells] at h
  split at h <;> rename_i hempty
  · cases h
    rw [if_pos hempty]
  · rw [if_neg hempty]
    cases hv : (apply zone a ((f a.column).getD .null)).value with
    | error e =>
      rw [hv] at h
      cases h
    | ok v =>
      rw [hv] at h
      cases h
      exact ⟨v, rfl⟩

private theorem turnCells_keeps {f f' : Cells} (h : turnCells zone a f = .ok f') {k : Bytes}
    (hk : (f k).isSome = true) : (f' k).isSome = true := by
  have hf' := eq_of_turnCells h
  split at hf'
  · rwa [hf']
  · obtain ⟨v, rfl⟩ := hf'
    rw [Function.update_apply]
    split
    · rfl
    · exact hk

variable {rows rows' : List Cells}

private theorem Rectangular.mapM (h : Rectangular rows)
    (hrows : rows.mapM (turnCells zone a) = .ok rows') :
    Rectangular rows' := by
  intro k
  rcases h k with hall | hnone
  · refine .inl fun f' hf' => ?_
    obtain ⟨f, hf, hturn⟩ := exists_of_mapM hrows hf'
    exact turnCells_keeps hturn (hall f hf)
  · by_cases hset : k = a.column ∧ a.transform.isEmpty = false
    · refine .inl fun f' hf' => ?_
      obtain ⟨f, hf, hturn⟩ := exists_of_mapM hrows hf'
      have hv := eq_of_turnCells hturn
      rw [hset.2] at hv
      obtain ⟨v, rfl⟩ := hv
      rw [hset.1, Function.update_self]
      rfl
    · refine .inr fun f' hf' => ?_
      obtain ⟨f, hf, hturn⟩ := exists_of_mapM hrows hf'
      have hv := eq_of_turnCells hturn
      split at hv
      · rw [hv]
        exact hnone f hf
      · rename_i hempty
        obtain ⟨v, rfl⟩ := hv
        have hne : k ≠ a.column := fun heq => hset ⟨heq, by simpa using hempty⟩
        rw [Function.update_of_ne hne]
        exact hnone f hf

end

/-- Two attributes for a column that do the same to it.  An attribute without a transform leaves a column
missing that another one fills in, so they are the same where the column may be missing. -/
structure Exchangeable (zone : Option Time.Zone) (rows : List Cells) (a a' : Attribute) : Prop where
  column : a.column = a'.column
  value : ∀ v, (apply zone a v).value = (apply zone a' v).value
  missing : a = a' ∨ ∀ f ∈ rows, (f a.column).isSome = true

theorem Exchangeable.refl (zone : Option Time.Zone) (rows : List Cells) (a : Attribute) :
    Exchangeable zone rows a a := ⟨rfl, fun _ => rfl, .inl rfl⟩

theorem Exchangeable.symm {zone : Option Time.Zone} {rows : List Cells} {a a' : Attribute}
    (h : Exchangeable zone rows a a') : Exchangeable zone rows a' a :=
  ⟨h.column.symm, fun v => (h.value v).symm, h.missing.imp Eq.symm fun hall => h.column ▸ hall⟩

private theorem Exchangeable.mapM {zone : Option Time.Zone} {rows rows' : List Cells}
    {a a' b : Attribute}
    (h : Exchangeable zone rows a a') (hrows : rows.mapM (turnCells zone b) = .ok rows') :
    Exchangeable zone rows' a a' := by
  refine ⟨h.column, h.value, h.missing.imp_right fun hall f' hf' => ?_⟩
  obtain ⟨f, hf, hturn⟩ := exists_of_mapM hrows hf'
  exact turnCells_keeps hturn (hall f hf)

private theorem Exchangeable.turnCells {zone : Option Time.Zone} {rows : List Cells}
    {a a' : Attribute}
    (h : Exchangeable zone rows a a') {f : Cells} (hf : f ∈ rows) :
    turnCells zone a f = Dataset.turnCells zone a' f := by
  rcases h.missing with rfl | hall
  · rfl
  · obtain ⟨v, hv⟩ := Option.isSome_iff_exists.mp (hall f hf)
    rw [turnCells_of_present hv, turnCells_of_present (h.column ▸ hv), h.value, h.column]

private theorem turnColumn_sameRows {zone : Option Time.Zone} {a a' : Attribute}
    {rows rows' : List Row}
    (hsame : SameRows rows rows') (hrect : Rectangular (rows.map Assoc.get?))
    (ha : Exchangeable zone (rows.map Assoc.get?) a a') (hsettled : Settled zone a rows)
    (hsettled' : Settled zone a' rows') :
    Agree SameRows (turnColumn zone a rows) (turnColumn zone a' rows') := by
  -- The step: a settled column of the same rows in another order.
  have hturn : (rows'.map Assoc.get?).mapM (turnCells zone a) =
      (rows'.map Assoc.get?).mapM (turnCells zone a') :=
    mapM_congr fun f hf => ha.turnCells (hsame.mem_iff.mpr hf)
  have hperm : Agree List.Perm _ ((rows'.map Assoc.get?).mapM (turnCells zone a)) :=
    mapM_perm (f := turnCells zone a) hsame
  rw [hturn, ← turnColumn_get? hrect hsettled,
    ← turnColumn_get? (hrect.of_perm hsame) hsettled'] at hperm
  exact hperm.of_map

/-- The run: attributes that do the same to the same rows in another order leave the same rows. -/
theorem transformRows_sameRows {zone : Option Time.Zone} {attrs attrs' : List Attribute}
    {rows rows' : List Row} (hsame : SameRows rows rows') (hrect : Rectangular (rows.map Assoc.get?))
    (hattrs : List.Forall₂ (Exchangeable zone (rows.map Assoc.get?)) attrs attrs')
    (hsettled : AllSettled zone attrs rows) (hsettled' : AllSettled zone attrs' rows') :
    Agree SameRows (transformRows zone attrs rows).value (transformRows zone attrs' rows').value := by
  rw [transformRows_eq, transformRows_eq]
  induction attrs generalizing attrs' rows rows' with
  | nil =>
    cases hattrs
    exact .ok hsame
  | cons a attrs ih =>
    obtain ⟨a', tail, ha, htail, rfl⟩ := List.forall₂_cons_left_iff.mp hattrs
    obtain ⟨hfirst, hrest⟩ := hsettled
    obtain ⟨hfirst', hrest'⟩ := hsettled'
    rw [List.foldlM_cons, List.foldlM_cons]
    apply (turnColumn_sameRows hsame hrect ha hfirst hfirst').bind
    intro next next' hturned hturned' hnext
    rw [hturned] at hrest
    rw [hturned'] at hrest'
    have hcells : (rows.map Assoc.get?).mapM (turnCells zone a) = .ok (next.map Assoc.get?) := by
      rw [← turnColumn_get? hrect hfirst, hturned]
      rfl
    exact ih hnext (hrect.mapM hcells) (htail.imp fun _ _ h => h.mapM hcells) hrest hrest'

end Dataset

end LineStore
