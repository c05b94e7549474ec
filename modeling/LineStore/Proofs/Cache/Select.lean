import LineStore.Cache.Select
import LineStore.Proofs.Cache.Failure
import LineStore.Proofs.Cache.Snapshot
import LineStore.Proofs.Number.Int64
import LineStore.Proofs.Text.Bytes
import LineStore.Proofs.Text.Space
/-!
# A selection selects what it says

The texts that are selections, and the bounds each of them reads as, are those of `Selection.Reads`; 64-bit
arithmetic wraps on the way to the last line of a count, and comes out at the largest number all the same.
What is selected is cut out of the lines a read of the file gives, `select_exact`.
-/
namespace LineStore

namespace Selection

/-- The number that one part of a selection stands for. -/
def StandsFor (s : Bytes) (n : Int) : Prop := ∃ t, Space.Trims s t ∧ Int64.Denotes t n ∧ 1 ≤ n

/-- The bounds a text reads as: nothing, `FIRST-LAST`, `FIRST:COUNT` or `N`.  A dash is looked for before a
colon, and either of them from the left. -/
inductive Reads : Bytes → Int → Int → Prop where
  | all : Reads [] 0 0
  | range {a b : Bytes} {first last : Int} (hdash : 0x2d ∉ a) (hfirst : StandsFor a first)
      (hlast : StandsFor b last) (hle : first ≤ last) : Reads (a ++ 0x2d :: b) first last
  | counted {a b : Bytes} {first count : Int} (hdash : 0x2d ∉ a ++ 0x3a :: b) (hcolon : 0x3a ∉ a)
      (hfirst : StandsFor a first) (hcount : StandsFor b count) :
      Reads (a ++ 0x3a :: b) first (min (first + count - 1) Int64.maxValue)
  | single {s : Bytes} {n : Int} (hdash : 0x2d ∉ s) (hcolon : 0x3a ∉ s) (hn : StandsFor s n) : Reads s n n

private theorem positive?_eq_some_iff {s : Bytes} {n : Int} :
    positive? s = some n ↔ StandsFor s n := by
  have htrim : StandsFor s n ↔ Int64.read? (Space.trim s) = some n ∧ 1 ≤ n := by
    constructor
    · rintro ⟨t, ht, hn⟩
      rwa [Space.trim_eq_iff.mpr ht, Int64.read?_eq_some_iff]
    · rintro ⟨hread, hn⟩
      exact ⟨_, Space.trim_eq_iff.mp rfl, Int64.read?_eq_some_iff.mp hread, hn⟩
  rw [htrim, positive?]
  cases hread : Int64.read? (Space.trim s) with
  | none => simp
  | some m =>
    by_cases hm : m < 1
    · simp only [if_pos hm, Option.some.injEq]
      constructor
      · intro h
        cases h
      · rintro ⟨rfl, hn⟩
        omega
    · simp only [if_neg hm, Option.some.injEq]
      constructor
      · rintro rfl
        exact ⟨rfl, by omega⟩
      · exact And.left

private theorem StandsFor.inRange {s : Bytes} {n : Int} (h : StandsFor s n) :
    1 ≤ n ∧ n ≤ Int64.maxValue := by
  obtain ⟨t, -, hn, hpos⟩ := h
  refine ⟨hpos, ?_⟩
  cases hn with
  | plain _ hfits => exact hfits
  | plus _ hfits => exact hfits
  | minus _ _ => omega

private theorem countedLast_eq {first count : Int} (hfirst : 1 ≤ first ∧ first ≤ Int64.maxValue)
    (hcount : 1 ≤ count ∧ count ≤ Int64.maxValue) :
    countedLast first count = min (first + count - 1) Int64.maxValue := by
  have hmin : Int64.minValue ≤ 0 := by decide
  have hroom : Int64.wrap (Int64.maxValue - first) = Int64.maxValue - first :=
    Int64.wrap_of_inRange (by omega) (by omega)
  unfold countedLast
  rw [hroom]
  by_cases hover : Int64.maxValue - first < count
  · have hcut : Int64.wrap (Int64.maxValue - first + 1) = Int64.maxValue - first + 1 :=
      Int64.wrap_of_inRange (by omega) (by omega)
    have hsum : first + (Int64.maxValue - first + 1) = Int64.maxValue + 1 := by omega
    simp only [if_pos hover]
    rw [hcut, hsum, Int64.wrap_maxValue_add_one, Int64.wrap_minValue_sub_one]
    omega
  · have hsum : Int64.wrap (first + count) = first + count :=
      Int64.wrap_of_inRange (by omega) (by omega)
    have hlast : Int64.wrap (first + count - 1) = first + count - 1 :=
      Int64.wrap_of_inRange (by omega) (by omega)
    simp only [if_neg hover]
    rw [hsum, hlast]
    omega

private theorem reads_of_parse {spec : Bytes} {s : Selection} (h : parse spec = .ok s) :
    Reads spec s.first s.last := by
  unfold parse at h
  by_cases hempty : spec.isEmpty = true
  · rw [if_pos hempty] at h
    cases h
    rw [List.isEmpty_iff.mp hempty]
    exact .all
  rw [if_neg hempty] at h
  cases hdash : Bytes.cut? 0x2d spec with
  | some ab =>
    obtain ⟨a, b⟩ := ab
    obtain ⟨rfl, ha⟩ := Bytes.cut?_eq_some hdash
    cases hfirst : positive? a with
    | none => simp [hdash, hfirst] at h
    | some first =>
      cases hlast : positive? b with
      | none => simp [hdash, hfirst, hlast] at h
      | some last =>
        simp only [hdash, hfirst, hlast] at h
        by_cases hlt : last < first
        · rw [if_pos hlt] at h
          cases h
        · rw [if_neg hlt] at h
          cases h
          exact .range ha (positive?_eq_some_iff.mp hfirst) (positive?_eq_some_iff.mp hlast)
            (Int.not_lt.mp hlt)
  | none =>
    have hnodash := Bytes.cut?_eq_none hdash
    cases hcolon : Bytes.cut? 0x3a spec with
    | some ab =>
      obtain ⟨a, b⟩ := ab
      obtain ⟨rfl, ha⟩ := Bytes.cut?_eq_some hcolon
      cases hfirst : positive? a <;> cases hcount : positive? b <;> simp [hdash, hcolon, hfirst, hcount] at h
      have hfirst := positive?_eq_some_iff.mp hfirst
      have hcount := positive?_eq_some_iff.mp hcount
      rw [← h, countedLast_eq hfirst.inRange hcount.inRange]
      exact .counted hnodash ha hfirst hcount
    | none =>
      cases hn : positive? spec <;> simp [hdash, hcolon, hn] at h
      rw [← h]
      exact .single hnodash (Bytes.cut?_eq_none hcolon) (positive?_eq_some_iff.mp hn)

private theorem parse_of_reads {spec : Bytes} {first last : Int} (h : Reads spec first last) :
    ∃ s, parse spec = .ok s ∧ s.first = first ∧ s.last = last := by
  cases h with
  | all => exact ⟨.all, rfl, rfl, rfl⟩
  | @range a b _ _ hdash hfirst hlast hle =>
    have hcut : Bytes.cut? 0x2d (a ++ 0x2d :: b) = some (a, b) := Bytes.cut?_eq_some_iff.mpr ⟨rfl, hdash⟩
    have hfirst := positive?_eq_some_iff.mpr hfirst
    have hlast := positive?_eq_some_iff.mpr hlast
    exact ⟨.span first last, by simp [parse, hcut, hfirst, hlast, hle], rfl, rfl⟩
  | @counted a b _ count hdash hcolon hfirst hcount =>
    have hnone := Bytes.cut?_eq_none_iff.mpr hdash
    have hcut : Bytes.cut? 0x3a (a ++ 0x3a :: b) = some (a, b) := Bytes.cut?_eq_some_iff.mpr ⟨rfl, hcolon⟩
    have hlast := countedLast_eq hfirst.inRange hcount.inRange
    have hfirst := positive?_eq_some_iff.mpr hfirst
    have hcount := positive?_eq_some_iff.mpr hcount
    exact ⟨.span first (countedLast first count), by simp [parse, hnone, hcut, hfirst, hcount], rfl, hlast⟩
  | single hdash hcolon hn =>
    have hnodash := Bytes.cut?_eq_none_iff.mpr hdash
    have hnocolon := Bytes.cut?_eq_none_iff.mpr hcolon
    have hn := positive?_eq_some_iff.mpr hn
    have hne : spec ≠ [] := by
      rintro rfl
      cases hn
    exact ⟨.span first first, by simp [parse, hne, hnodash, hnocolon, hn], rfl, rfl⟩

private theorem parse_bounds_iff {spec : Bytes} {first last : Int} :
    (parse spec).toOption.map (fun s => (s.first, s.last)) = some (first, last) ↔ Reads spec first last := by
  constructor
  · intro h
    cases hs : parse spec with
    | error e => rw [hs] at h; cases h
    | ok s =>
      rw [hs] at h
      cases h
      exact reads_of_parse hs
  · intro h
    obtain ⟨s, hs, rfl, rfl⟩ := parse_of_reads h
    rw [hs]
    rfl

private theorem Reads.ordered {spec : Bytes} {first last : Int} (h : Reads spec first last) :
    spec = [] ∨ 1 ≤ first ∧ first ≤ last := by
  cases h with
  | all => exact .inl rfl
  | range _ hfirst _ hle => exact .inr ⟨hfirst.inRange.1, hle⟩
  | counted _ _ hfirst hcount =>
    have hfirst := hfirst.inRange
    have hcount := hcount.inRange
    exact .inr ⟨hfirst.1, by omega⟩
  | single _ _ hn => exact .inr ⟨hn.inRange.1, le_refl _⟩

private theorem eq_all_iff_of_parse {spec : Bytes} {s : Selection} (h : parse spec = .ok s) :
    s = .all ↔ spec = [] := by
  constructor
  · rintro rfl
    exact (reads_of_parse h).ordered.resolve_right (by decide)
  · rintro rfl
    cases h
    rfl

/-- What a selection makes of the lines of a file. -/
def choose : Selection → List Bytes → Except Error (List Bytes × Int)
  | all, ls => .ok (ls, 1)
  | span first last, ls =>
    if first < 1 ∨ ls.length < first ∨ last < first then .error (.outOfRange first)
    else .ok ((ls.take last.toNat).drop (first.toNat - 1), first)

private theorem choose_of_parse {spec : Bytes} {s : Selection} (h : parse spec = .ok s)
    (ls : List Bytes) :
    s.choose ls =
      if spec = [] then .ok (ls, 1)
      else if s.first ≤ ls.length then
        .ok ((ls.take (min s.last ls.length).toNat).drop (s.first - 1).toNat, s.first)
      else .error (.outOfRange s.first) := by
  have hall := eq_all_iff_of_parse h
  have hordered := (reads_of_parse h).ordered
  cases s with
  | all => rw [if_pos (hall.mp rfl), choose]
  | span first last =>
    have hne : spec ≠ [] := fun hnil => by cases hall.mpr hnil
    obtain ⟨hpos, hle⟩ := hordered.resolve_left hne
    rw [if_neg hne]
    by_cases hfirst : first ≤ ls.length
    · have hin : ¬ (first < 1 ∨ ls.length < first ∨ last < first) := by
        rintro (h | h | h) <;> simp only [Selection.first, Selection.last] at hpos hle <;> omega
      -- A last line past the end takes no more than there is.
      have htake : ls.take (min last ls.length).toNat = ls.take last.toNat := by
        rw [List.take_eq_take_iff]
        omega
      rw [choose, if_neg hin, Selection.first, Selection.last, if_pos hfirst, htake]
      congr 3
      omega
    · rw [choose, if_pos (.inr (.inl (Int.not_le.mp hfirst))), Selection.first, if_neg hfirst]

end Selection

namespace Cache

private theorem line_eq_lineRange (w : World) (c : Cache) (key : Bytes) (n : Int) (reload : Bool) :
    (c.line w key n reload).value.map ([·]) = (c.lineRange w key n n reload).value := by
  unfold line lineRange Outcome.map
  cases (lookup w c key reload).value with
  | none => rfl
  | some e =>
    simp only [Option.bind_some]
    by_cases hlow : n < 1
    · rw [if_pos hlow, if_pos (.inl hlow)]
      rfl
    · rw [if_neg hlow]
      obtain ⟨i, hi⟩ : ∃ i : Nat, n = i + 1 := ⟨(n - 1).toNat, by omega⟩
      have hindex : n.toNat = i + 1 := by omega
      rw [hindex, Nat.add_sub_cancel]
      by_cases hhigh : i < e.lines.length
      · rw [if_neg (by omega), List.getElem?_eq_getElem hhigh, List.drop_take, Nat.add_sub_cancel_left,
          List.drop_eq_getElem_cons hhigh]
        rfl
      · rw [if_pos (by omega), List.getElem?_eq_none (by omega)]
        rfl

private theorem select_value (w : World) (c : Cache) (key : Bytes) (s : Selection) (reload : Bool) :
    (c.select w key s reload).value =
      match (c.lines w key reload).value with
      | none => .error (.noFile key)
      | some ls => s.choose ls := by
  have hkept := lookup_get? w c key reload
  unfold select ensure lines
  cases he : (lookup w c key reload).value with
  | none => simp [Outcome.andThen, Outcome.map, he]
  | some e =>
    -- What was found stays cached, so every further read is answered from the same entry.
    rw [he] at hkept
    have hagain := lookup_of_cached w hkept
    cases s with
    | all => simp [Outcome.andThen, Outcome.map, he, hagain, Selection.choose]
    | span first last =>
      have hrange : (lineRange w (lookup w c key reload).cache key first last false).value =
          if first < 1 ∨ e.lines.length < first ∨ last < first then none
          else some ((e.lines.take last.toNat).drop (first.toNat - 1)) := by
        simp only [lineRange, hagain, Outcome.map, Option.bind_some]
      simp only [Outcome.andThen, Outcome.map, he, Option.map_some, Selection.choose]
      by_cases hout : first < 1 ∨ e.lines.length < first ∨ last < first
      · rw [if_pos hout] at hrange ⊢
        by_cases hone : first = last
        · subst hone
          have hline : (line w (lookup w c key reload).cache key first false).value = none := by
            rw [← Option.map_eq_none_iff, line_eq_lineRange, hrange]
          simp [hline]
        · simp [hone, hrange]
      · rw [if_neg hout] at hrange ⊢
        by_cases hone : first = last
        · subst hone
          have hlines := (line_eq_lineRange w _ key first false).trans hrange
          obtain ⟨l, hline, hl⟩ := Option.map_eq_some_iff.mp hlines
          simp [hline, hl]
        · simp [hone, hrange]

/-- A text is a selection exactly when it reads as bounds, and the selection has these bounds.  It then gives
the lines from the first bound to the last or to the end of the file, numbered from the first, or refuses a
first line that the file has not; only the empty text gives the whole file, even one without lines.  One line
may be asked for as a line or as a range. -/
theorem select_exact (spec : Bytes) :
    (∀ first last,
      (Selection.parse spec).toOption.map (fun s => (s.first, s.last)) = some (first, last) ↔
        Selection.Reads spec first last) ∧
    (∀ s, Selection.parse spec = .ok s → (s = .all ↔ spec = []) ∧
      ∀ (w : World) (c : Cache) (key : Bytes) (reload : Bool) (ls : List Bytes),
        (c.lines w key reload).value = some ls →
        (c.select w key s reload).value.mapError Selection.Error.message =
          if spec = [] then .ok (ls, 1)
          else if s.first ≤ ls.length then
            .ok ((ls.take (min s.last ls.length).toNat).drop (s.first - 1).toNat, s.first)
          else .error (utf8 "line " ++ Bytes.ofInt s.first ++ utf8 " out of range")) ∧
    ∀ (w : World) (c : Cache) (key : Bytes) (n : Int) (reload : Bool),
      (c.line w key n reload).value.map ([·]) = (c.lineRange w key n n reload).value := by
  refine ⟨fun _ _ => Selection.parse_bounds_iff, ?_, line_eq_lineRange⟩
  intro s hs
  refine ⟨Selection.eq_all_iff_of_parse hs, ?_⟩
  intro w c key reload ls hls
  have hvalue : (c.select w key s reload).value = s.choose ls := by rw [select_value, hls]
  rw [hvalue, Selection.choose_of_parse hs]
  split
  · rfl
  · split <;> rfl

/-- A count that leads far past the largest number, on a file of three lines, the last without a newline. -/
theorem select_exact_overflow :
    let key : Bytes := [0x2f, 0x61]
    let w := World.single key (utf8 "x\ny\nz") 1
    let spec := utf8 "+02: 9223372036854775807"
    Selection.parse spec = .ok (.span 2 Int64.maxValue) ∧
      ((empty []).lines w key false).value = some [utf8 "x\n", utf8 "y\n", utf8 "z"] ∧
      ((empty []).select w key (.span 2 Int64.maxValue) false).value.mapError Selection.Error.message =
        .ok ([utf8 "y\n", utf8 "z"], 2) := by
  intro key w spec
  have hparse : Selection.parse spec = .ok (.span 2 Int64.maxValue) := by decide +kernel
  have hlines : ((empty []).lines w key false).value = some [utf8 "x\n", utf8 "y\n", utf8 "z"] := by
    decide +kernel
  have hselect := ((select_exact spec).2.1 _ hparse).2 w (empty []) key false _ hlines
  exact ⟨hparse, hlines, hselect.trans (by decide +kernel)⟩

end Cache
end LineStore
