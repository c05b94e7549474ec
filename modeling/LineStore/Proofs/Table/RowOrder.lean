import LineStore.Table.Output
import LineStore.Proofs.Table.Settled
import LineStore.Proofs.Table.SortSpec
/-!
# The order of the rows of a document

Documents with the same items in another order give the same rows before the transforms.  They give the same
transformed rows if the first rows say the same of which columns are times, and no time stamp stands below a
text of its column that was refused, `rowsOf_reordered`.  Otherwise a time stamp may be shown as it is.
-/
namespace LineStore

deriving instance DecidableEq for Json.Part

namespace Dataset

open Transform

/-- Does a column of the first row hold a time stamp? -/
def stamped (column : Bytes) : List Row → Bool
  | [] => false
  | row :: _ =>
    match row.cell column with
    | .text s => (Time.parse? s).isSome
    | _ => false

/-- An attribute with the letter of a time. -/
def timeMarked (a : Attribute) : Attribute := { a with transform := a.transform ++ [0x74] }

/-- The attributes that rows are transformed by. -/
def marked (localTime : Bool) (attrs : List Attribute) (rows : List Row) : List Attribute :=
  if localTime then markTimes attrs rows else attrs

/-- Are the texts of a column read as times? -/
def timed (zone : Option Time.Zone) (localTime : Bool) (rows : List Row) (a : Attribute) : Bool :=
  zone.isSome && (a.transform.any isTime || localTime && stamped a.column rows)

private theorem marked_eq (localTime : Bool) (attrs : List Attribute) (rows : List Row) :
    marked localTime attrs rows =
      attrs.map fun a => if localTime && stamped a.column rows then timeMarked a else a := by
  cases localTime with
  | false => simp [marked]
  | true =>
    cases rows with
    | nil => simp [marked, markTimes, stamped]
    | cons row rows =>
      refine List.map_congr_left fun a _ => ?_
      simp only [stamped, Bool.true_and]
      cases row.cell a.column with
      | text s => rfl
      | _ => rfl

private theorem marks_timeMarked (a : Attribute) :
    marks (timeMarked a).transform = marks a.transform := by
  have hapart : Apart a.transform [0x74] := Apart.of_head (by decide +kernel)
  have hnumerals : numerals (a.transform ++ [0x74]) = numerals a.transform := by
    rw [numerals_append hapart, numerals_of_no_digit (s := [0x74]) (by decide +kernel), List.append_nil]
  simp only [timeMarked, marks, hnumerals, List.any_append, List.filter_append]
  simp [isChomp, isCaseMark, isLowerMark, isUpperMark]

private theorem apply_timeMarked {zone : Option Time.Zone} {a : Attribute}
    (h : zone = none ∨ a.transform.any isTime = true) (v : Value) :
    (apply zone (timeMarked a) v).value = (apply zone a v).value := by
  rcases h with rfl | htime
  · cases v with
    | text s =>
      rw [apply_text_value, apply_text_value, applyText_eq_perform s (.inl rfl),
        applyText_eq_perform s (.inl rfl), marks_timeMarked]
    | _ => rfl
  · have halike : Alike (timeMarked a).transform a.transform := by
      refine ⟨marks_timeMarked a, ?_, ?_⟩
      · simp [timeMarked, htime]
      · congr 1
        simp [timeMarked, withoutTime, isTime]
    exact halike.apply zone v

private theorem present_of_stamped {rows : List Row} {column : Bytes}
    (hrect : Rectangular (rows.map Assoc.get?))
    (h : stamped column rows = true) : ∀ f ∈ rows.map Assoc.get?, (f column).isSome = true := by
  cases rows with
  | nil => cases h
  | cons row rows =>
    refine (hrect column).resolve_right fun hnone => ?_
    have hcell : row.cell column = .null := by
      rw [Row.cell, hnone row.get? List.mem_cons_self, Option.getD_none]
    simp only [stamped, hcell] at h
    cases h

private theorem exchangeable_timeMarked {zone : Option Time.Zone} {rows : List Cells}
    {a : Attribute}
    (h : zone = none ∨ a.transform.any isTime = true) (hpresent : ∀ f ∈ rows, (f a.column).isSome = true) :
    Exchangeable zone rows (timeMarked a) a := ⟨rfl, apply_timeMarked h, .inr hpresent⟩

private theorem idle_of_timed_eq {zone : Option Time.Zone} {localTime : Bool}
    {rows rows' : List Row} {a : Attribute}
    (htimed : timed zone localTime rows a = timed zone localTime rows' a)
    (hne : (localTime && stamped a.column rows) ≠ (localTime && stamped a.column rows')) :
    zone = none ∨ a.transform.any isTime = true := by
  cases zone with
  | none => exact .inl rfl
  | some z =>
    cases hany : a.transform.any isTime with
    | true => exact .inr rfl
    | false =>
      rw [timed, timed, hany] at htimed
      exact absurd htimed hne

private theorem exchangeable_marked {zone : Option Time.Zone} {localTime : Bool}
    {attrs : List Attribute}
    {rows rows' : List Row} (hrect : Rectangular (rows.map Assoc.get?)) (hsame : SameRows rows rows')
    (htimed : ∀ a ∈ attrs, timed zone localTime rows a = timed zone localTime rows' a) :
    List.Forall₂ (Exchangeable zone (rows.map Assoc.get?)) (marked localTime attrs rows)
      (marked localTime attrs rows') := by
  rw [marked_eq, marked_eq, List.forall₂_map_left_iff, List.forall₂_map_right_iff, List.forall₂_same]
  intro a ha
  have hidle := idle_of_timed_eq (htimed a ha)
  have hpresent : stamped a.column rows = true → ∀ f ∈ rows.map Assoc.get?, (f a.column).isSome = true :=
    present_of_stamped hrect
  have hpresent' : stamped a.column rows' = true → ∀ f ∈ rows.map Assoc.get?, (f a.column).isSome = true :=
    fun h f hf => present_of_stamped (hrect.of_perm hsame) h f (hsame.mem_iff.mp hf)
  cases h : localTime && stamped a.column rows <;> cases h' : localTime && stamped a.column rows'
  · exact .refl zone _ a
  · rw [h, h'] at hidle
    exact (exchangeable_timeMarked (hidle (by decide)) (hpresent' (Bool.and_eq_true_iff.mp h').2)).symm
  · rw [h, h'] at hidle
    exact exchangeable_timeMarked (hidle (by decide)) (hpresent (Bool.and_eq_true_iff.mp h).2)
  · exact .refl zone _ (timeMarked a)

private theorem project_has (attrs : List Attribute) (item : Json.Part) (k : Bytes) :
    ((project attrs item).get? k).isSome = attrs.any fun a => !a.isWildcard && a.column == k := by
  have hfold : ∀ row : Row, ((attrs.foldl (fun row a =>
      if a.isWildcard then row else row.set a.column (item.get a.key).value) row).get? k).isSome =
      ((row.get? k).isSome || attrs.any fun a => !a.isWildcard && a.column == k) := by
    induction attrs with
    | nil => exact fun row => (Bool.or_false _).symm
    | cons a attrs ih =>
      intro row
      rw [List.foldl_cons, ih, List.any_cons, ← Bool.or_assoc]
      congr 1
      cases a.isWildcard with
      | true => simp
      | false =>
        rw [if_neg Bool.false_ne_true, Assoc.get?_set]
        by_cases hk : k = a.column
        · simp [hk]
        · simp [hk, Ne.symm hk]
  exact hfold .empty

private theorem rectangular_project (attrs : List Attribute) (items : List Json.Part) :
    Rectangular ((items.map (project attrs)).map Assoc.get?) := by
  intro k
  rw [List.map_map]
  cases h : attrs.any fun a => !a.isWildcard && a.column == k with
  | true =>
    refine .inl (List.forall_mem_map.mpr fun item _ => ?_)
    exact (project_has attrs item k).trans h
  | false =>
    refine .inr (List.forall_mem_map.mpr fun item _ => ?_)
    exact Option.isNone_iff_eq_none.mp (by simpa using (project_has attrs item k).trans h)

private theorem allSettled_of_idle {zone : Option Time.Zone} {attrs : List Attribute}
    (h : zone = none ∨ ∀ a ∈ attrs, a.transform.any isTime = false) (rows : List Row) :
    AllSettled zone attrs rows := by
  induction attrs generalizing rows with
  | nil => trivial
  | cons a attrs ih =>
    constructor
    · intro p _ hany
      have hnone : ∀ v, refused zone a v = false :=
        refused_of_idle zone a (h.imp_right fun h => h a List.mem_cons_self)
      simp [hnone] at hany
    · cases turnColumn zone a rows with
      | error e => trivial
      | ok rows' => exact ih (h.imp_right fun h b hb => h b (List.mem_cons_of_mem a hb)) rows'

end Dataset

namespace Output

open Dataset

variable (h : Host) (opts : OutputOptions) (attrs : List Attribute)

/-- The rows of the items that pass the filters. -/
def chosen (doc : Json.Part) : List Row := (Dataset.select h.filterDelimiter opts.filter attrs doc).1

private theorem rowsOf_value (doc : Json.Part) :
    (rowsOf h opts attrs doc).1 =
      (transformRows h.zone? (marked opts.localTime attrs (chosen h opts attrs doc))
        (chosen h opts attrs doc)).value.map (sortRows (SortKey.parseAll opts.sort)) := rfl

private theorem chosen_eq (doc : Json.Part) :
    chosen h opts attrs doc = (doc.rows.filter fun item =>
      (Filter.build h.filterDelimiter opts.filter).filters.all (passes attrs item)).map (project attrs) :=
  Dataset.rowsOf_eq attrs _ doc.rows

variable {h opts attrs}

private theorem chosen_perm {doc doc' : Json.Part} (hperm : doc.rows.Perm doc'.rows) :
    (chosen h opts attrs doc).Perm (chosen h opts attrs doc') := by
  rw [chosen_eq, chosen_eq]
  exact (hperm.filter _).map _

private theorem rowsOf_sameRows {doc doc' : Json.Part} (hperm : doc.rows.Perm doc'.rows)
    (htimed : ∀ a ∈ attrs, timed h.zone? opts.localTime (chosen h opts attrs doc) a =
      timed h.zone? opts.localTime (chosen h opts attrs doc') a)
    (hsettled : ∀ d ∈ [doc, doc'],
      AllSettled h.zone? (marked opts.localTime attrs (chosen h opts attrs d)) (chosen h opts attrs d)) :
    Agree SameRows (rowsOf h opts attrs doc).1 (rowsOf h opts attrs doc').1 := by
  have hsame : SameRows (chosen h opts attrs doc) (chosen h opts attrs doc') := .of_perm (chosen_perm hperm)
  have hrect : Rectangular ((chosen h opts attrs doc).map Assoc.get?) := by
    rw [chosen_eq]
    exact rectangular_project attrs _
  rw [rowsOf_value, rowsOf_value]
  apply (transformRows_sameRows hsame hrect (exchangeable_marked hrect hsame htimed)
    (hsettled doc (by simp)) (hsettled doc' (by simp))).map
  intro rows rows' hrows
  have hsorted := SameRows.of_perm (sortRows_perm (SortKey.parseAll opts.sort) rows)
  have hsorted' := SameRows.of_perm (sortRows_perm (SortKey.parseAll opts.sort) rows')
  exact (List.Perm.trans hsorted hrows).trans hsorted'.symm

/-- Documents with the same items in another order give the same rows before the transforms, whatever these are.

What a cell is turned into depends on the cell, its attribute, whether the first row has a time stamp in that
column when times are to be local, and whether a text above it in the column was refused as a time stamp.  So the
transformed rows are the same too if the first rows agree on which columns are times, and below a text that was
refused no text is read as one.  That is so without a time zone, and where no time letter is in play. -/
theorem rowsOf_reordered (h : Host) (opts : OutputOptions) (attrs : List Attribute) {doc doc' : Json.Part}
    (hperm : doc.rows.Perm doc'.rows) :
    (chosen h opts attrs doc).Perm (chosen h opts attrs doc') ∧
      (∀ d, (rowsOf h opts attrs d).1 =
        ((marked opts.localTime attrs (chosen h opts attrs d)).foldlM
          (fun rows a => turnColumn h.zone? a rows) (chosen h opts attrs d)).map
          (sortRows (SortKey.parseAll opts.sort))) ∧
      ((∀ a ∈ attrs, timed h.zone? opts.localTime (chosen h opts attrs doc) a =
          timed h.zone? opts.localTime (chosen h opts attrs doc') a) →
        (∀ d ∈ [doc, doc'], AllSettled h.zone?
          (marked opts.localTime attrs (chosen h opts attrs d)) (chosen h opts attrs d)) →
        Agree SameRows (rowsOf h opts attrs doc).1 (rowsOf h opts attrs doc').1) ∧
      (h.zone? = none ∨ opts.localTime = false ∧ (∀ a ∈ attrs, a.transform.any Transform.isTime = false) →
        Agree SameRows (rowsOf h opts attrs doc).1 (rowsOf h opts attrs doc').1) := by
  refine ⟨chosen_perm hperm, fun d => ?_, rowsOf_sameRows hperm, fun hidle => ?_⟩
  · rw [rowsOf_value, transformRows_eq]
  · apply rowsOf_sameRows hperm
    · intro a ha
      rcases hidle with hzone | ⟨hlocal, -⟩
      · rw [timed, timed, hzone]
        rfl
      · rw [timed, timed, hlocal, Bool.false_and, Bool.false_and]
    · intro d _
      apply allSettled_of_idle
      refine hidle.imp_right fun ⟨hlocal, htime⟩ => ?_
      rwa [marked, hlocal]

/-- A column of times with a cell that is missing, and a column that has no times. -/
theorem rowsOf_reordered_two_columns :
    let h : Host := { stat := fun _ => none, read := fun _ => .openFailed [],
                      env := Assoc.empty.set (utf8 "TZ") (utf8 "UTC"), cwd := [0x2f] }
    let attrs : List Attribute := [{ key := utf8 "t", column := utf8 "t", transform := utf8 "t" },
      { key := utf8 "n", column := utf8 "n", transform := utf8 "tu" }]
    let first := "\x7b\"n\":\"a\",\"t\":\"2024-01-15T10:00:00Z\"\x7d"
    let second := "\x7b\"n\":\"b\"\x7d"
    let doc := source [] (utf8 ("[" ++ first ++ "," ++ second ++ "]"))
    let doc' := source [] (utf8 ("[" ++ second ++ "," ++ first ++ "]"))
    doc.rows.Perm doc'.rows ∧
      (∀ a ∈ attrs, timed h.zone? false (chosen h {} attrs doc) a =
        timed h.zone? false (chosen h {} attrs doc') a) ∧
      (∀ d ∈ [doc, doc'],
        AllSettled h.zone? (marked false attrs (chosen h {} attrs d)) (chosen h {} attrs d)) ∧
      Agree SameRows (rowsOf h {} attrs doc).1 (rowsOf h {} attrs doc').1 := by
  intro h attrs first second doc doc'
  have hperm : doc.rows.Perm doc'.rows := by decide +kernel
  have htimed : ∀ a ∈ attrs, timed h.zone? false (chosen h {} attrs doc) a =
      timed h.zone? false (chosen h {} attrs doc') a := by decide +kernel
  have hsettled : ∀ d ∈ [doc, doc'],
      AllSettled h.zone? (marked false attrs (chosen h {} attrs d)) (chosen h {} attrs d) := by
    decide +kernel
  obtain ⟨-, -, hsame, -⟩ := rowsOf_reordered h {} attrs hperm
  exact ⟨hperm, htimed, hsettled, hsame htimed hsettled⟩

/-- The texts that rows have in a column. -/
def textsOf (column : Bytes) (rows : Except Transform.Error (List Row)) : List (Option Bytes) :=
  (rows.toOption.getD []).map fun row => (row.cell column).text?

private theorem textsOf_perm {rows rows' : Except Transform.Error (List Row)}
    (hsame : Agree SameRows rows rows')
    (column : Bytes) : (textsOf column rows).Perm (textsOf column rows') := by
  cases hsame with
  | error e => exact .nil
  | ok hrows =>
    have htexts := hrows.map fun f : Cells => ((f column).getD .null).text?
    rwa [List.map_map, List.map_map] at htexts

/-- A time stamp is in local time above a text that is none and stays as it is below it.  Where times are to be
local, it is in local time if it is in the first row and stays as it is if that row has none. -/
theorem rowsOf_not_reordered :
    let h : Host := { stat := fun _ => none, read := fun _ => .openFailed [],
                      env := Assoc.empty.set (utf8 "TZ") (utf8 "UTC"), cwd := [0x2f] }
    let attrs (transform : Bytes) : List Attribute := [{ key := utf8 "t", column := utf8 "t", transform }]
    let item (t : String) := "\x7b\"t\":" ++ t ++ "\x7d"
    let doc (first second : String) := source [] (utf8 ("[" ++ item first ++ "," ++ item second ++ "]"))
    let time := "\"2024-01-15T10:00:00Z\""
    let differ (opts : OutputOptions) (transform : Bytes) (d d' : Json.Part) : Prop :=
      d.rows.Perm d'.rows ∧
        ¬ Agree SameRows (rowsOf h opts (attrs transform) d).1 (rowsOf h opts (attrs transform) d').1
    differ {} (utf8 "t") (doc "\"x\"" time) (doc time "\"x\"") ∧
      differ { localTime := true } [] (doc "null" time) (doc time "null") := by
  intro h attrs item doc time differ
  have hdiffer : ∀ (opts : OutputOptions) (transform : Bytes) (d d' : Json.Part), d.rows.Perm d'.rows →
      ¬ (textsOf (utf8 "t") (rowsOf h opts (attrs transform) d).1).Perm
        (textsOf (utf8 "t") (rowsOf h opts (attrs transform) d').1) → differ opts transform d d' :=
    fun _ _ _ _ hperm htexts => ⟨hperm, fun hsame => htexts (textsOf_perm hsame _)⟩
  exact ⟨hdiffer _ _ _ _ (by decide +kernel) (by decide +kernel),
    hdiffer _ _ _ _ (by decide +kernel) (by decide +kernel)⟩

end Output

end LineStore
