import LineStore.Table.Output
import LineStore.Proofs.Json.Printer
import LineStore.Proofs.Table.Objects
/-!
# What a document is written as

Filtering, projecting, transforming, sorting and leaving out what is not shown, one after the other, give the
rows that `Dataset.objects` describes item by item, `emit_eq_objects`.
-/
namespace LineStore

namespace Output

open Dataset

/-- The rows that are handed to an encoder: sorted, and without the columns that are not shown. -/
def encoded (h : Host) (opts : OutputOptions) (attrs : List Attribute) (doc : Json.Part) :
    Except Transform.Error (List Row) :=
  (rowsOf h opts attrs doc).1.map (dropExcluded (rowsOf h opts attrs doc).2.1)

/-- Rows as a JSON text. -/
def jsonText (rows : List Row) : Except Json.PrintError Bytes :=
  Json.print (.list (rows.map fun r => .object r.pairs))

/-- What comes of rows that are to be written as JSON, after some events. -/
def jsonResult (c : Config) (t : List Event) : Except Transform.Error (List Row) → Result
  | .error e => ⟨.error (.cut e), c, t⟩
  | .ok rows =>
    match jsonText rows with
    | .ok s => ⟨.ok (), c, t ++ [.printed (s ++ [0x0a])]⟩
    | .error e => ⟨.error (.json e), c, t⟩

private theorem emit_json (h : Host) (c : Config) {opts : OutputOptions}
    (houtput : opts.output = utf8 "json")
    (attrs : List Attribute) (parent raw : Bytes) :
    emit h c opts attrs parent raw .ok =
      jsonResult c (rowsOf h opts attrs (source parent raw)).2.2
        (encoded h opts attrs (source parent raw)) := by
  have hraw : opts.output ≠ utf8 "raw" := by
    rw [houtput]
    decide
  rw [emit, if_neg hraw, encoded]
  cases rowsOf h opts attrs (source parent raw) with
  | mk rows rest =>
    cases rows with
    | error e => rfl
    | ok rows =>
      simp only [write, if_pos houtput]
      change _ = jsonResult c rest.2 (.ok (dropExcluded rest.1 rows))
      rw [jsonResult, jsonText]
      cases Json.print (.list ((dropExcluded rest.1 rows).map fun r => .object r.pairs)) <;> simp

/-- A row that is handed to an encoder, as it is to be: with the pairs of an object in some order, and the
columns that are shown. -/
structure Encodes (attrs : List Attribute) (row object : Row) : Prop where
  distinct : row.Distinct
  pairs : row.pairs.Perm object.pairs
  columns : ∀ k, (row.get? k).isSome ↔ ∃ a ∈ attrs, a.included = true ∧ a.column = k
  wildcard : ∀ a ∈ attrs, a.isWildcard = true → row.get? a.column = none

private theorem jsonResult_congr {attrs : List Attribute}
    {rows objects : Except Transform.Error (List Row)}
    (h : Agree (List.Forall₂ (Encodes attrs)) rows objects) (c : Config) (t : List Event) :
    jsonResult c t rows = jsonResult c t objects := by
  cases h with
  | error e => rfl
  | ok hrows =>
    rw [jsonResult, jsonResult, jsonText, jsonText, Json.print_list_congr]
    rw [List.forall₂_map_left_iff, List.forall₂_map_right_iff]
    exact hrows.imp fun row object hrow => Json.print_object_perm hrow.pairs hrow.distinct

section

variable (h : Host) {opts : OutputOptions} (hlocal : opts.localTime = false) {attrs : List Attribute}
  (hcolumns : (attrs.map Attribute.column).Nodup)
  (hhidden : ∀ a ∈ attrs, a.isWildcard = true → a.included = false)
  (htime : ∀ a ∈ attrs, a.transform.any Transform.isTime = false) (doc : Json.Part)

include hlocal hcolumns hhidden htime

private theorem rowsOf_agree :
    let filters := (Filter.build h.filterDelimiter opts.filter).filters
    let items := doc.rows.filter fun item => filters.all (passes attrs item)
    let r := rowsOf h opts attrs doc
    (r.2.1 = attrs ∧ r.2.2 = (Dataset.select h.filterDelimiter opts.filter attrs doc).2) ∧
      Agree (List.Forall₂ (Mirrors attrs)) r.1
        ((items.mapM (fullRow h.zone? attrs)).map (sortRows (SortKey.parseAll opts.sort))) := by
  intro filters items r
  have hselect : (Dataset.select h.filterDelimiter opts.filter attrs doc).1 = items.map (project attrs) :=
    Dataset.rowsOf_eq attrs filters doc.rows
  obtain ⟨⟨hattrs, hlog⟩, hrows⟩ := transformRows_agree h.zone? hcolumns hhidden htime items
  have hr : r = rowsOf h opts attrs doc := rfl
  rw [rowsOf, hlocal] at hr
  simp only [Bool.false_eq_true, if_false, hselect] at hr
  rw [hr]
  refine ⟨⟨hattrs, ?_⟩, hrows.map fun _ _ => sortRows_mirrors _⟩
  rw [hlog, List.map_nil, List.append_nil]

omit hlocal htime in
private theorem encodes_of_mirrors {row full : Row} (hrow : Mirrors attrs row full) :
    Encodes attrs ((hiddenColumns attrs).foldl Assoc.erase row) (Row.only (shownColumns attrs) full) := by
  have hdistinct := hrow.distinct.foldl_erase (hiddenColumns attrs)
  have hsome : ∀ k, (((hiddenColumns attrs).foldl Assoc.erase row).get? k).isSome ↔
      ∃ a ∈ attrs, a.included = true ∧ a.column = k := by
    intro k
    have hmem : k ∈ shownColumns attrs ↔ ∃ a ∈ attrs, a.included = true ∧ a.column = k := by
      simp [shownColumns, and_assoc]
    rw [hrow.dropped, Row.only_get?, ← hmem]
    by_cases hk : k ∈ shownColumns attrs <;> simp [hk]
  refine ⟨hdistinct, ?_, hsome, ?_⟩
  · exact hdistinct.perm (Row.only_distinct (shownColumns_nodup hcolumns) full) hrow.dropped
  · intro a ha hwild
    rw [← Option.not_isSome_iff_eq_none, hsome]
    rintro ⟨b, hb, hincluded, hcolumn⟩
    rw [List.inj_on_of_nodup_map hcolumns hb ha hcolumn, hhidden a ha hwild] at hincluded
    cases hincluded

private theorem encoded_agree :
    Agree (List.Forall₂ (Encodes attrs)) (encoded h opts attrs doc)
      (objects h.zone? attrs (Filter.build h.filterDelimiter opts.filter).filters
        (SortKey.parseAll opts.sort) doc.rows) := by
  obtain ⟨⟨hattrs, _⟩, hrows⟩ := rowsOf_agree h hlocal hcolumns hhidden htime doc
  have hencoded : encoded h opts attrs doc = (rowsOf h opts attrs doc).1.map (dropExcluded attrs) := by
    rw [encoded, hattrs]
  have hobjects : ∀ (rows : Except Transform.Error (List Row)) (f : List Row → List Row) (g : Row → Row),
      rows.map (fun rows => (f rows).map g) = (rows.map f).map (List.map g) := by
    intro rows f g
    cases rows <;> rfl
  rw [hencoded, objects, hobjects]
  refine hrows.map ?_
  intro rows fulls hmirrors
  rw [dropExcluded_eq, List.forall₂_map_left_iff, List.forall₂_map_right_iff]
  exact hmirrors.imp fun row full => encodes_of_mirrors hcolumns hhidden

end

/-- A document that is written as JSON, with distinct columns, no time letters, and every `*` excluded.

The rows that are handed to the encoder are those of `Dataset.objects`, as maps from columns to values: the
items that pass every filter on their values as they are, each value that a key finds transformed once, in
the order of whole rows, and of these the columns that are shown.  A row has the columns that are shown and
no others, so none of `*`, and a key that finds nothing is null there.  A transform that fails fails for
both, and what is written is the JSON text of those rows. -/
theorem emit_eq_objects (h : Host) (c : Config) (opts : OutputOptions) (attrs : List Attribute)
    (parent raw : Bytes) (houtput : opts.output = utf8 "json") (hlocal : opts.localTime = false)
    (hcolumns : (attrs.map Attribute.column).Nodup)
    (hhidden : ∀ a ∈ attrs, a.isWildcard = true → a.included = false)
    (htime : ∀ a ∈ attrs, a.transform.any Transform.isTime = false) :
    let doc := source parent raw
    let objects := Dataset.objects h.zone? attrs (Filter.build h.filterDelimiter opts.filter).filters
      (SortKey.parseAll opts.sort) doc.rows
    Agree (List.Forall₂ (Encodes attrs)) (encoded h opts attrs doc) objects ∧
      (∀ item full, fullRow h.zone? attrs item = .ok full → ∀ a ∈ attrs, a.isWildcard = false →
        cellOf h.zone? item a = .ok (full.cell a.column) ∧
        ((item.get a.key).exists = false → full.cell a.column = .null)) ∧
      emit h c opts attrs parent raw .ok =
        jsonResult c (Dataset.select h.filterDelimiter opts.filter attrs doc).2 objects := by
  intro doc objects
  have hagree : Agree _ (encoded h opts attrs doc) objects :=
    encoded_agree h hlocal hcolumns hhidden htime doc
  refine ⟨hagree, ?_, ?_⟩
  · intro item full hfull a ha hplain
    have hcell := fullRow_cell hcolumns item hfull ha hplain
    refine ⟨hcell, fun hmissing => ?_⟩
    exact Except.ok.inj (hcell.symm.trans (cellOf_of_missing h.zone? hmissing))
  · obtain ⟨⟨_, htrace⟩, _⟩ := rowsOf_agree h hlocal hcolumns hhidden htime doc
    rw [emit_json h c houtput, htrace]
    exact jsonResult_congr hagree c _

/-- Rows are filtered and sorted by a column that is not shown, and `*` has a transform but no column.  A row
without the column that is shown has null there. -/
theorem emit_eq_objects_hidden_column :
    let h : Host := { stat := fun _ => none, read := fun _ => .openFailed [], env := .empty, cwd := [0x2f] }
    let c : Config := {}
    let opts : OutputOptions := { output := utf8 "json", filter := utf8 "n>0", sort := utf8 "n" }
    let attrs : List Attribute :=
      [{ key := Attribute.wildcard, column := Attribute.wildcard, included := false, transform := utf8 "u" },
        { key := utf8 "a", column := utf8 "A", transform := utf8 "u" },
        { key := utf8 "n", column := utf8 "n", included := false }]
    let raw := utf8 "[\x7b\"a\":\"x\",\"n\":2\x7d,\x7b\"n\":1\x7d,\x7b\"a\":\"y\",\"n\":0\x7d]"
    (opts.output = utf8 "json" ∧ opts.localTime = false ∧ (attrs.map Attribute.column).Nodup ∧
      (∀ a ∈ attrs, a.isWildcard = true → a.included = false) ∧
      ∀ a ∈ attrs, a.transform.any Transform.isTime = false) ∧
    (∃ rows, encoded h opts attrs (source [] raw) = .ok rows ∧ rows.length = 2 ∧
      ∀ row ∈ rows, row.get? Attribute.wildcard = none) ∧
    (emit h c opts attrs [] raw .ok).trace =
      [.printed (utf8 "[\x7b\"A\":null\x7d,\x7b\"A\":\"X\"\x7d]\n")] := by
  intro h c opts attrs raw
  have hcolumns : (attrs.map Attribute.column).Nodup := by decide
  have hhidden : ∀ a ∈ attrs, a.isWildcard = true → a.included = false := by decide
  have htime : ∀ a ∈ attrs, a.transform.any Transform.isTime = false := by decide
  obtain ⟨hagree, _, hemit⟩ := emit_eq_objects h c opts attrs [] raw rfl rfl hcolumns hhidden htime
  refine ⟨⟨rfl, rfl, hcolumns, hhidden, htime⟩, ?_, ?_⟩
  · have hlength : (Dataset.objects h.zone? attrs (Filter.build h.filterDelimiter opts.filter).filters
        (SortKey.parseAll opts.sort) (source [] raw).rows).toOption.map List.length = some 2 := by
      decide +kernel
    revert hagree hlength
    generalize Dataset.objects h.zone? attrs _ _ _ = objects
    generalize encoded h opts attrs (source [] raw) = rows
    rintro (_ | hrows) hlength
    · cases hlength
    · refine ⟨_, rfl, hrows.length_eq.trans (Option.some.inj hlength), ?_⟩
      have hwildcard := (List.forall₂_and_left _ _).mp (hrows.imp fun row object hrow =>
        ⟨hrow.wildcard _ List.mem_cons_self rfl, hrow⟩)
      exact hwildcard.1
  · rw [hemit]
    decide +kernel

end Output
end LineStore
