import LineStore.Proofs.Table.Rows
import LineStore.Proofs.Table.Marks
import Mathlib.Data.List.Infix
/-!
# Rows column by column

Rows are transformed one after the other, and a text that cannot be read as a time stamp takes the time letters
out of its attribute for the rows below it.  Nothing else is handed down, so the same comes out column by column:
each cell is transformed by its attribute, without time letters if a text above it was refused,
`transformRows_eq`.
-/
namespace LineStore

/-- An attribute that has lost its time letters. -/
def Attribute.untimed (a : Attribute) : Attribute :=
  { a with transform := Transform.withoutTime a.transform }

namespace Transform

instance : Subsingleton Error where
  allEq := by
    rintro ⟨⟩ ⟨⟩
    rfl

/-- Is this a text that is to be read as a time stamp and is none? -/
def refused (zone : Option Time.Zone) (a : Attribute) : Value → Bool
  | .text s =>
    zone.isSome && a.transform.any isTime &&
      (Time.parse? (if a.transform.any isChomp then chomp s else s)).isNone
  | _ => false

private theorem any_isTime_withoutTime (spec : Bytes) : (withoutTime spec).any isTime = false := by
  simp [withoutTime]

private theorem any_isChomp_withoutTime (spec : Bytes) :
    (withoutTime spec).any isChomp = spec.any isChomp := by
  induction spec with
  | nil => rfl
  | cons b spec ih =>
    rw [withoutTime, List.filter_cons, List.any_cons, ← ih, withoutTime]
    cases htime : isTime b with
    | false => rfl
    | true =>
      have hchomp : isChomp b = false := by
        simp only [isTime, Bool.or_eq_true, beq_iff_eq] at htime
        rcases htime with rfl | rfl <;> rfl
      simp [hchomp]

variable (zone : Option Time.Zone) (a : Attribute)

private theorem refused_untimed (v : Value) : refused zone a.untimed v = false := by
  cases v with
  | text s => simp [refused, Attribute.untimed, any_isTime_withoutTime]
  | _ => rfl

theorem refused_of_idle (h : zone = none ∨ a.transform.any isTime = false) (v : Value) :
    refused zone a v = false := by
  cases v with
  | text s => rcases h with rfl | h <;> simp [refused, *]
  | _ => rfl

variable {zone a}

private theorem timeStep_of_refused {s : Bytes} (h : refused zone a (.text s) = true) :
    let t := if a.transform.any isChomp then chomp s else s
    ∃ log, timeStep zone a.transform t = (t, withoutTime a.transform, log) := by
  intro t
  simp only [refused, Bool.and_eq_true, Option.isNone_iff_eq_none] at h
  obtain ⟨⟨hzone, htime⟩, hparse⟩ := h
  obtain ⟨z, rfl⟩ := Option.isSome_iff_exists.mp hzone
  exact ⟨_, timeStep_refused t htime hparse⟩

private theorem timeStep_of_not_refused {s : Bytes} (h : refused zone a (.text s) = false) :
    (timeStep zone a.transform (if a.transform.any isChomp then chomp s else s)).2.1 = a.transform := by
  generalize ht : (if a.transform.any isChomp then chomp s else s) = t
  rw [refused, ht] at h
  cases htime : a.transform.any isTime with
  | false => rw [timeStep_idle t (.inr htime)]
  | true =>
    cases zone with
    | none => rw [timeStep_idle t (.inl rfl)]
    | some z =>
      cases hparse : Time.parse? t with
      | none => simp [htime, hparse] at h
      | some i => rw [timeStep_read t htime hparse]

private theorem apply_attr_eq (v : Value) :
    (apply zone a v).attr = if refused zone a v then a.untimed else a := by
  cases v with
  | text s =>
    have hattr : (apply zone a (.text s)).attr = { a with transform :=
        (timeStep zone a.transform (if a.transform.any isChomp then chomp s else s)).2.1 } := by
      simp only [apply, applyText]
      cases lengthLimit? _ <;> rfl
    rw [hattr]
    cases h : refused zone a (.text s) with
    | false => rw [timeStep_of_not_refused h, if_neg Bool.false_ne_true]
    | true =>
      obtain ⟨log, hstep⟩ := timeStep_of_refused h
      rw [hstep, if_pos rfl]
      rfl
  | _ => rfl

/-- A refused text is treated as if there were no time letters. -/
theorem apply_untimed {v : Value} (h : refused zone a v = true) :
    (apply zone a.untimed v).value = (apply zone a v).value := by
  cases v with
  | text s =>
    obtain ⟨log, hstep⟩ := timeStep_of_refused h
    have hidle : ∀ t, timeStep zone (withoutTime a.transform) t = (t, withoutTime a.transform, []) :=
      fun t => timeStep_idle t (.inr (any_isTime_withoutTime a.transform))
    have hbefore : beforeLimit zone (withoutTime a.transform) s = beforeLimit zone a.transform s := by
      rw [beforeLimit, beforeLimit, any_isChomp_withoutTime, hstep, hidle]
    rw [apply_text_value, apply_text_value, applyText_value, applyText_value, Attribute.untimed, hbefore]
  | _ => rfl

end Transform

namespace Dataset

open Transform

/-- The attribute that a row meets below some others. -/
def below (zone : Option Time.Zone) (a : Attribute) (above : List Row) : Attribute :=
  if above.any fun row => refused zone a (row.cell a.column) then a.untimed else a

/-- One cell of a row transformed; without a transform the row is not touched. -/
def turnCell (zone : Option Time.Zone) (a : Attribute) (row : Row) : Except Transform.Error Row :=
  if a.transform.isEmpty then .ok row
  else (apply zone a (row.cell a.column)).value.map (row.set a.column)

/-- One column transformed, each cell after the rows above it. -/
def turnColumn (zone : Option Time.Zone) (a : Attribute) (rows : List Row) :
    Except Transform.Error (List Row) :=
  (rows.zip rows.inits).mapM fun (row, above) => turnCell zone (below zone a above) row

variable (zone : Option Time.Zone) (a : Attribute)

private theorem below_nil : below zone a [] = a := rfl

private theorem below_cons (row : Row) (above : List Row) :
    below zone a (row :: above) = below zone (below zone a [row]) above := by
  cases hrow : refused zone a (row.cell a.column) with
  | false => simp [below, hrow]
  | true => simp [below, hrow, refused_untimed]

private theorem turnColumn_cons (row : Row) (rows : List Row) :
    turnColumn zone a (row :: rows) = turnCell zone a row >>= fun row' =>
      turnColumn zone (below zone a [row]) rows >>= fun rows' => .ok (row' :: rows') := by
  rw [turnColumn, List.inits_cons, List.zip_cons_cons, List.mapM_cons, List.zip_map_right, List.mapM_map]
  simp only [below_nil, turnColumn]
  congr 1
  funext row'
  congr 2
  funext ⟨r, above⟩
  exact congrArg (turnCell zone · r) (below_cons zone a row above)

private theorem transformRow_cons (rest : List Attribute) (row : Row) :
    (transformRow zone (a :: rest) row).value =
      turnCell zone a row >>= fun row' => (transformRow zone rest row').value := by
  rw [transformRow, turnCell]
  cases a.transform.isEmpty with
  | true => rfl
  | false =>
    simp only [Bool.false_eq_true, if_false]
    cases (apply zone a (row.cell a.column)).value <;> rfl

private theorem transformRow_attrs {rest : List Attribute} {row row' : Row}
    (h : turnCell zone a row = .ok row') :
    (transformRow zone (a :: rest) row).attrs =
      below zone a [row] :: (transformRow zone rest row').attrs := by
  have hbelow : below zone a [row] = (apply zone a (row.cell a.column)).attr := by
    rw [apply_attr_eq, below, List.any_cons, List.any_nil, Bool.or_false]
  rw [transformRow, hbelow]
  rw [turnCell] at h
  cases hempty : a.transform.isEmpty with
  | true =>
    have hnone : a.transform.any isTime = false := by
      rw [List.isEmpty_iff.mp hempty]
      rfl
    rw [hempty] at h
    cases h
    rw [if_pos rfl, apply_attr_eq, refused_of_idle zone a (.inr hnone)]
    rfl
  | false =>
    rw [hempty] at h
    simp only [Bool.false_eq_true, if_false] at h ⊢
    cases hv : (apply zone a (row.cell a.column)).value with
    | error e =>
      rw [hv] at h
      cases h
    | ok v =>
      rw [hv] at h
      cases h
      rfl

private theorem transformRows_row (attrs : List Attribute) (row : Row) (rows : List Row) :
    (transformRows zone attrs (row :: rows)).value = (transformRow zone attrs row).value >>= fun row' =>
      (transformRows zone (transformRow zone attrs row).attrs rows).value.map (row' :: ·) := by
  rw [transformRows]
  cases (transformRow zone attrs row).value <;> rfl

private theorem transformRows_cons (rest : List Attribute) (rows : List Row) :
    (transformRows zone (a :: rest) rows).value =
      turnColumn zone a rows >>= fun rows' => (transformRows zone rest rows').value := by
  -- The step: the column of the first attribute goes first. Where both a row further down and a
  -- cell further right fail, the failures are the same.
  induction rows generalizing a rest with
  | nil => rfl
  | cons row rows ih =>
    rw [transformRows_row, turnColumn_cons, transformRow_cons]
    cases hcell : turnCell zone a row with
    | error e => rfl
    | ok row' =>
      rw [transformRow_attrs zone a hcell]
      simp only [ih, bind, Except.bind]
      cases hcolumn : turnColumn zone (below zone a [row]) rows with
      | error e =>
        cases (transformRow zone rest row').value with
        | error e' => rw [Subsingleton.elim e' e]
        | ok row'' => rfl
      | ok rows' =>
        simp only [transformRows_row]
        rfl

private theorem transformRows_nil (rows : List Row) :
    (transformRows zone [] rows).value = .ok rows := by
  induction rows with
  | nil => rfl
  | cons row rows ih =>
    rw [transformRows_row]
    change (transformRows zone [] rows).value.map (row :: ·) = .ok (row :: rows)
    rw [ih]
    rfl

/-- Rows are transformed column by column. -/
theorem transformRows_eq (attrs : List Attribute) (rows : List Row) :
    (transformRows zone attrs rows).value = attrs.foldlM (fun rows a => turnColumn zone a rows) rows := by
  induction attrs generalizing rows with
  | nil => exact transformRows_nil zone rows
  | cons a attrs ih =>
    rw [transformRows_cons, List.foldlM_cons]
    congr 1
    funext rows'
    exact ih rows'

end Dataset
end LineStore
