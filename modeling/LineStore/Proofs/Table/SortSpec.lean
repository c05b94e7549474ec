import LineStore.Proofs.Table.SortRows
import LineStore.Proofs.Text.Bytes
/-!
# What a sort text asks for

The fields of the text are keys, each a column with marks in front.  Where the cells of each column, missing
ones apart, are all numbers or none of them is, the rows stand after sorting in the order that the keys
describe, `InOrder`, and sorting by one text and then by another is sorting by both.
-/
namespace LineStore

namespace SortKey

private theorem parseAll_append (s t : Bytes) :
    parseAll (s ++ [0x2c] ++ t) = parseAll s ++ parseAll t := by
  rw [parseAll, Bytes.splitOn_append, List.filterMap_append]
  rfl

/-- The marks in front of the name in a field, whatever their order, and a field without a name is no key. -/
def Marked (field : Bytes) (k : Option SortKey) : Prop :=
  ∃ marks name, Space.trim field = marks ++ name ∧ (∀ b ∈ marks, b = 0x2d ∨ b = 0x21) ∧
    (∀ b ∈ name.head?, ¬ (b = 0x2d ∨ b = 0x21)) ∧
    k = if name = [] then none
      else some { column := name, descending := 0x2d ∈ marks, caseSensitive := 0x21 ∈ marks }

private theorem readMarks_append (k : SortKey) {marks name : Bytes}
    (hmarks : ∀ b ∈ marks, b = 0x2d ∨ b = 0x21)
    (hname : ∀ b ∈ name.head?, ¬ (b = 0x2d ∨ b = 0x21)) :
    readMarks k (marks ++ name) =
      { column := if name = [] then k.column else name
        descending := k.descending || decide (0x2d ∈ marks)
        caseSensitive := k.caseSensitive || decide (0x21 ∈ marks) } := by
  induction marks generalizing k with
  | nil =>
    cases name with
    | nil => simp [readMarks]
    | cons b name =>
      have hb := not_or.mp (hname b rfl)
      simp [readMarks, hb.1, hb.2]
  | cons b marks ih =>
    have hrest := fun k => ih k fun b hb => hmarks b (List.mem_cons_of_mem _ hb)
    rcases hmarks b List.mem_cons_self with rfl | rfl
    · simp [readMarks, hrest]
    · simp [readMarks, hrest]

private theorem parse?_marked (field : Bytes) : Marked field (parse? field) := by
  let isMark : UInt8 → Bool := fun b => b = 0x2d ∨ b = 0x21
  let marks := (Space.trim field).takeWhile isMark
  let name := (Space.trim field).dropWhile isMark
  have hsplit : Space.trim field = marks ++ name := List.takeWhile_append_dropWhile.symm
  have hmarks : ∀ b ∈ marks, b = 0x2d ∨ b = 0x21 := by
    intro b hb
    simpa [isMark] using List.mem_takeWhile_imp hb
  have hname : ∀ b ∈ name.head?, ¬ (b = 0x2d ∨ b = 0x21) := by
    intro b hb
    have hstop := List.head?_dropWhile_not isMark (Space.trim field)
    simp only [name] at hb
    rw [Option.mem_def.mp hb] at hstop
    simpa [isMark] using hstop
  refine ⟨marks, name, hsplit, hmarks, hname, ?_⟩
  rw [parse?, hsplit]
  simp only [readMarks_append _ hmarks hname, Bool.false_or]
  by_cases hn : name = [] <;> simp [hn]

end SortKey

namespace Value

/-- May the first cell stand before the second in a rising column? -/
inductive AtMost (cs : Bool) : Value → Value → Prop
  | missing (w : Value) : AtMost cs null w
  | number {v w : Value} {x y : Number} (hv : v.toNumber? = some x) (hw : w.toNumber? = some y)
      (h : x.place ≤ y.place) : AtMost cs v w
  | text {v w : Value} (hv : v.SortsByText) (hw : w.SortsByText) (h : v.sortText cs ≤ w.sortText cs) :
      AtMost cs v w

/-- Besides missing cells there are numbers only, or none. -/
def Uniform (cells : List Value) : Prop :=
  (∀ v ∈ cells, v ≠ null → ∃ x, v.toNumber? = some x ∧ x ≠ .nan) ∨ ∀ v ∈ cells, v.toNumber? = none

private theorem number_or_null_iff (v : Value) : (v ≠ null → ∃ x, v.toNumber? = some x ∧ x ≠ .nan) ↔
    v.isNull = true ∨ v.toNumber?.any (· ≠ .nan) = true := by
  rw [isNull_iff, Option.any_eq_true]
  by_cases hv : v = null <;> simp [hv]

instance (cells : List Value) : Decidable (Uniform cells) :=
  decidable_of_iff ((∀ v ∈ cells, v.isNull = true ∨ v.toNumber?.any (· ≠ .nan) = true) ∨
    ∀ v ∈ cells, v.toNumber? = none) (by simp only [Uniform, number_or_null_iff])

variable {cs : Bool} {cells : List Value}

private theorem Uniform.noNan (h : Uniform cells) : NoNan cells := by
  intro v hv hnan
  rcases h with hnumbers | hnone
  · obtain ⟨x, hx, hne⟩ := hnumbers v hv (ne_null_of_number hnan)
    rw [hnan] at hx
    exact hne (Option.some.inj hx).symm
  · rw [hnone v hv] at hnan
    cases hnan

private theorem Uniform.coherent (h : Uniform cells) : Coherent cs cells := by
  intro v hv w hw t ht x y hx hy htext _ _
  rcases h with hnumbers | hnone
  · obtain ⟨z, hz, -⟩ := hnumbers t ht htext.1
    rw [htext.2] at hz
    cases hz
  · rw [hnone v hv] at hx
    cases hx

private theorem order_isLE_iff_atMost (h : Uniform cells) {v w : Value} (hv : v ∈ cells)
    (hw : w ∈ cells) :
    (order cs v w).isLE ↔ AtMost cs v w := by
  by_cases hvn : v = null
  · rw [hvn]
    exact iff_of_true (order_null_left cs w) (.missing w)
  by_cases hwn : w = null
  · rw [hwn, order_null_right]
    refine iff_of_false hvn fun hle => ?_
    cases hle with
    | missing => exact hvn rfl
    | number _ hw => cases hw
    | text _ hw => exact hw.1 rfl
  rcases h with hnumbers | hnone
  · obtain ⟨x, hx, hxn⟩ := hnumbers v hv hvn
    obtain ⟨y, hy, hyn⟩ := hnumbers w hw hwn
    rw [order_of_numbers cs hx hy, Number.order_isLE_iff hxn hyn]
    refine ⟨.number hx hy, fun hle => ?_⟩
    cases hle with
    | missing => exact absurd rfl hvn
    | number hx' hy' hle =>
      cases hx.symm.trans hx'
      cases hy.symm.trans hy'
      exact hle
    | text hv' => cases hx.symm.trans hv'.2
  · rw [order_of_text cs hvn hwn (.inl (hnone v hv)), Bytes.order_isLE_iff]
    refine ⟨.text ⟨hvn, hnone v hv⟩ ⟨hwn, hnone w hw⟩, fun hle => ?_⟩
    cases hle with
    | missing => exact absurd rfl hvn
    | number hv' => cases (hnone v hv).symm.trans hv'
    | text _ _ hle => exact hle

end Value

/-- May the first row stand before the second as far as a key goes? -/
def SortKey.AtMost (k : SortKey) (a b : Row) : Prop :=
  if k.descending then Value.AtMost k.caseSensitive (b.cell k.column) (a.cell k.column)
  else Value.AtMost k.caseSensitive (a.cell k.column) (b.cell k.column)

private theorem SortKey.order_isLE_iff {k : SortKey} {rows : List Row}
    (h : Value.Uniform (k.cells rows)) {a b : Row}
    (ha : a ∈ rows) (hb : b ∈ rows) : (k.order a b).isLE ↔ k.AtMost a b := by
  have hca := k.cell_mem_cells ha
  have hcb := k.cell_mem_cells hb
  rw [order_eq, SortKey.AtMost]
  cases k.descending with
  | false => exact Value.order_isLE_iff_atMost h hca hcb
  | true => exact Value.order_isLE_iff_atMost h hcb hca

/-- Each key is asked if those before it hold the rows level. -/
def InOrder : List SortKey → Row → Row → Prop
  | [], _, _ => True
  | k :: ks, a, b => k.AtMost a b ∧ (k.AtMost b a → InOrder ks a b)

def Level (keys : List SortKey) (a b : Row) : Prop := ∀ k ∈ keys, k.AtMost a b ∧ k.AtMost b a

private theorem Level.inOrder {keys : List SortKey} {a b : Row} (h : Level keys a b) :
    InOrder keys a b := by
  induction keys with
  | nil => trivial
  | cons k ks ih =>
    exact ⟨(h k List.mem_cons_self).1, fun _ => ih fun l hl => h l (List.mem_cons_of_mem k hl)⟩

section Rows

open SortKey

variable {keys : List SortKey} {rows : List Row} (h : ∀ k ∈ keys, Value.Uniform (k.cells rows))
include h

private theorem sortable_of_uniform : Sortable keys rows :=
  fun k hk => ⟨(h k hk).noNan, (h k hk).coherent⟩

private theorem rowOrder_isLE_iff {a b : Row} (ha : a ∈ rows) (hb : b ∈ rows) :
    (rowOrder keys a b).isLE ↔ InOrder keys a b := by
  induction keys with
  | nil => exact iff_of_true rfl trivial
  | cons k ks ih =>
    have hab := SortKey.order_isLE_iff (h k List.mem_cons_self) ha hb
    have hba := SortKey.order_isLE_iff (h k List.mem_cons_self) hb ha
    have hks := ih fun l hl => h l (List.mem_cons_of_mem k hl)
    rw [InOrder, ← hab, ← hba, ← hks, rowOrder_cons, compareLex, k.order_swap b a]
    cases k.order a b <;> simp

end Rows

theorem sortRows_perm (keys : List SortKey) (rows : List Row) : (sortRows keys rows).Perm rows := by
  rw [sortRows_eq]
  exact stableSort_perm _ rows

/-- Sorting rows by a text permutes them.  If the columns that the text names are uniform the rows stand in
the order of its keys, and those that all keys hold level stand as before. -/
theorem sortRows_sorts (spec : Bytes) (rows : List Row) :
    let keys := SortKey.parseAll spec
    let sorted := sortRows keys rows
    (∀ field, SortKey.Marked field (SortKey.parse? field)) ∧ sorted.Perm rows ∧ (keys = [] → sorted = rows) ∧
      ((∀ k ∈ keys, Value.Uniform (k.cells rows)) → sorted.Pairwise (InOrder keys) ∧
        ∀ c : List Row, c.Sublist rows → c.Pairwise (Level keys) → c.Sublist sorted) := by
  intro keys sorted
  refine ⟨SortKey.parse?_marked, sortRows_perm keys rows, fun hkeys => ?_,
    fun h => ⟨?_, fun c hc hlevel => ?_⟩⟩
  · simp only [sorted, hkeys]
    rfl
  · have hsorted := (sortRows_stablySorted (sortable_of_uniform h)).sorted
    refine hsorted.imp_of_mem fun ha hb hle => ?_
    exact (rowOrder_isLE_iff h ((sortRows_perm keys rows).mem_iff.mp ha)
      ((sortRows_perm keys rows).mem_iff.mp hb)).mp hle
  · refine sublist_sortRows (sortable_of_uniform h) hc (hlevel.imp_of_mem fun ha hb hab => ?_)
    exact (rowOrder_isLE_iff h (hc.subset ha) (hc.subset hb)).mpr hab.inOrder

theorem sortRows_sorts_two_keys :
    let row (n : Int) (f : Bytes) : Row := ⟨[([0x6e], .number (Number.ofInt n)), ([0x66], .text f)]⟩
    let rows : List Row := [row 1 [0x62], ⟨[([0x6e], .null)]⟩, row 2 [0x61], row 1 [0x42]]
    let keys : List SortKey := [{ column := [0x6e], descending := true }, { column := [0x66] }]
    let sorted := sortRows (SortKey.parseAll (utf8 "-n, f")) rows
    SortKey.parseAll (utf8 "-n, f") = keys ∧ (∀ k ∈ keys, Value.Uniform (k.cells rows)) ∧
      sorted.Pairwise (InOrder keys) ∧ [row 1 [0x62], row 1 [0x42]].Sublist sorted := by
  intro row rows keys sorted
  have hkeys : SortKey.parseAll (utf8 "-n, f") = keys := by decide +kernel
  have huniform : ∀ k ∈ keys, Value.Uniform (k.cells rows) := by decide +kernel
  have hlevel : Level keys (row 1 [0x62]) (row 1 [0x42]) := by
    intro k hk
    rcases List.mem_pair.mp hk with rfl | rfl
    · exact ⟨.number rfl rfl (le_refl _), .number rfl rfl (le_refl _)⟩
    · have htext : ∀ s, (Value.text s).SortsByText := fun s => ⟨Value.noConfusion, rfl⟩
      exact ⟨.text (htext _) (htext _) (by decide +kernel), .text (htext _) (htext _) (by decide +kernel)⟩
  obtain ⟨-, -, -, hsorts⟩ := sortRows_sorts (utf8 "-n, f") rows
  have hsorted : sorted = sortRows keys rows := congrArg (sortRows · rows) hkeys
  rw [hkeys] at hsorts
  obtain ⟨horder, hkept⟩ := hsorts huniform
  rw [hsorted]
  refine ⟨hkeys, huniform, horder, hkept _ ?_ ?_⟩
  · exact .cons_cons _ (.cons _ (.cons _ (.refl _)))
  · exact List.pairwise_pair.mpr hlevel

/-- Sorting by one text after another is sorting by the two joined with a comma. -/
theorem sortRows_comma (s : Bytes) (rows : List Row)
    (hs : ∀ k ∈ SortKey.parseAll s, Value.Uniform (k.cells rows)) :
    (∀ t, (∀ k ∈ SortKey.parseAll t, Value.Uniform (k.cells rows)) →
      sortRows (SortKey.parseAll s) (sortRows (SortKey.parseAll t) rows) =
        sortRows (SortKey.parseAll (s ++ [0x2c] ++ t)) rows) ∧
    sortRows (SortKey.parseAll s) (sortRows (SortKey.parseAll s) rows) =
      sortRows (SortKey.parseAll s) rows := by
  refine ⟨fun t ht => ?_, sortRows_sortRows (sortable_of_uniform hs)⟩
  rw [SortKey.parseAll_append]
  exact sortRows_append (sortable_of_uniform hs) (sortable_of_uniform ht)

theorem sortRows_comma_two_keys :
    let row (n : Int) (f : Bytes) : Row := ⟨[([0x6e], .number (Number.ofInt n)), ([0x66], .text f)]⟩
    let rows : List Row := [row 2 [0x62], row 1 [0x61], ⟨[([0x6e], .null)]⟩, row 1 [0x62]]
    (∀ k ∈ SortKey.parseAll (utf8 "f"), Value.Uniform (k.cells rows)) ∧
      (∀ k ∈ SortKey.parseAll (utf8 "!-n"), Value.Uniform (k.cells rows)) ∧
      sortRows (SortKey.parseAll (utf8 "f")) (sortRows (SortKey.parseAll (utf8 "!-n")) rows) =
        sortRows (SortKey.parseAll (utf8 "f,!-n")) rows := by
  intro row rows
  have hf : ∀ k ∈ SortKey.parseAll (utf8 "f"), Value.Uniform (k.cells rows) := by decide +kernel
  have hn : ∀ k ∈ SortKey.parseAll (utf8 "!-n"), Value.Uniform (k.cells rows) := by decide +kernel
  have hjoined : utf8 "f,!-n" = utf8 "f" ++ [0x2c] ++ utf8 "!-n" := by decide +kernel
  rw [hjoined]
  exact ⟨hf, hn, (sortRows_comma (utf8 "f") rows hf).1 (utf8 "!-n") hn⟩

end LineStore
