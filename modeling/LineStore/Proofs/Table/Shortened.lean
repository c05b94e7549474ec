import LineStore.Proofs.Table.Chop
import Mathlib.Data.List.Forall2
/-!
# What shortening does, in whatever order it counts

The next directories are counted in a table, and the table may be gone through in any order: the walk finds the
same directories, because the most frequent entry with the least name is one only.  Half of the paths have the
directories it finds and no further one is as frequent; only the rows that start with them change, and those by
no more than that start, `rowsBy_shortens`.
-/
namespace LineStore.Chop

variable {column p d : Bytes} {dirs items : List Bytes} {lists : List (List Bytes)} {t : Nat}

/-! ## Counting -/

/-- One more occurrence of an item. -/
def countIn (m : Assoc Nat) (d : Bytes) : Assoc Nat := m.set d ((m.get? d).getD 0 + 1)

/-- How often each item occurs. -/
def tally (items : List Bytes) : Assoc Nat := items.foldl countIn .empty

/-- An order in which the counts are gone through at each step of the walk. -/
structure Visit where
  entries : Nat → Assoc Nat → List (Bytes × Nat)
  perm : ∀ step counts, (entries step counts).Perm counts.pairs

/-- The better one of the best entry so far and the next one. -/
def betterEntry (best entry : Bytes × Nat) : Bytes × Nat :=
  if best.2 < entry.2 ∨ (best.2 = entry.2 ∧ entry.1 < best.1) then entry else best

/-- The walk that goes through its counts in a given order. -/
def extendBy (visit : Visit) (t : Nat) (lists : List (List Bytes)) : Nat → List Bytes → List Bytes
  | 0, dirs => dirs
  | fuel + 1, dirs =>
    let best := (visit.entries dirs.length (tally (nextDirectories dirs lists))).foldl betterEntry ([], 0)
    if best.2 < t then dirs else extendBy visit t lists fuel (dirs ++ [best.1])

def sharedBy (visit : Visit) (paths : List Bytes) : List Bytes :=
  let lists := paths.map directories
  extendBy visit ((paths.length + 1) / 2) lists ((lists.map List.length).foldl max 0) []

/-- Shortens the texts of a column, with the counts gone through in a given order. -/
def rowsBy (visit : Visit) (column : Bytes) (rs : List Row) : List Row :=
  let dirs := sharedBy visit (texts column rs)
  if names dirs < 2 then rs else rs.map (shorten column (start dirs))

private theorem get?_foldl_countIn (items : List Bytes) (m : Assoc Nat) (d : Bytes) :
    (items.foldl countIn m).get? d =
      if d ∈ items then some ((m.get? d).getD 0 + items.count d) else m.get? d := by
  induction items generalizing m with
  | nil => simp
  | cons x items ih =>
    have hx : (countIn m x).get? d = if d = x then some ((m.get? x).getD 0 + 1) else m.get? d :=
      Assoc.get?_set m x d _
    rw [List.foldl_cons, ih, hx]
    by_cases hd : d = x
    · subst hd
      by_cases hmem : d ∈ items
      · simp [hmem]
        omega
      · simp [hmem, List.count_eq_zero_of_not_mem hmem]
    · simp [hd, Ne.symm hd]

private theorem get?_tally (items : List Bytes) (d : Bytes) :
    (tally items).get? d = if d ∈ items then some (items.count d) else none := by
  rw [tally, get?_foldl_countIn]
  simp

private theorem distinct_tally (items : List Bytes) : (tally items).Distinct := by
  have hrun : ∀ m : Assoc Nat, m.Distinct → (items.foldl countIn m).Distinct := by
    induction items with
    | nil => exact fun m hm => hm
    | cons x items ih => exact fun m hm => ih _ (hm.set x _)
  exact hrun .empty Assoc.distinct_empty

private theorem mem_tally_iff {items : List Bytes} {entry : Bytes × Nat} :
    entry ∈ (tally items).pairs ↔ entry.1 ∈ items ∧ entry.2 = items.count entry.1 := by
  obtain ⟨d, n⟩ := entry
  rw [Assoc.mem_pairs_iff (distinct_tally items), get?_tally]
  by_cases hd : d ∈ items
  · simp [hd, eq_comm]
  · simp [hd]

/-! ## The best entry -/

private theorem Foremost.unique {d' : Bytes} {n n' : Nat} (h : Foremost items items d n)
    (h' : Foremost items items d' n') : (d, n) = (d', n') := by
  have hd := h.ahead d' h'.mem
  have hd' := h'.ahead d h.mem
  rw [h.count] at hd'
  rw [h'.count] at hd
  have hn : n = n' := by omega
  have hle : d ≤ d' := by
    rcases hd with hlt | heq
    · omega
    · exact heq.2
  have hle' : d' ≤ d := by
    rcases hd' with hlt | heq
    · omega
    · exact heq.2
  rw [hn, List.le_antisymm hle hle']

private theorem foldl_betterEntry {entries : List (Bytes × Nat)}
    (h : ∀ e ∈ entries, e.2 = items.count e.1)
    (best : Bytes × Nat) :
    some (entries.foldl betterEntry best) = (entries.map Prod.fst).foldl (better items) (some best) := by
  induction entries generalizing best with
  | nil => rfl
  | cons e entries ih =>
    obtain ⟨he, hrest⟩ := List.forall_mem_cons.mp h
    have hstep : better items (some best) e.1 = some (betterEntry best e) := by
      rw [better, betterEntry, ← he]
      split <;> rfl
    rw [List.foldl_cons, List.map_cons, List.foldl_cons, hstep, ih hrest]

private theorem best_eq_mostFrequent {entries : List (Bytes × Nat)}
    (h : entries.Perm (tally items).pairs) :
    entries.foldl betterEntry ([], 0) = (mostFrequent items).getD ([], 0) := by
  have hmem : ∀ e, e ∈ entries ↔ e.1 ∈ items ∧ e.2 = items.count e.1 := fun e => h.mem_iff.trans mem_tally_iff
  have hkeys : ∀ d, d ∈ entries.map Prod.fst ↔ d ∈ items := by
    intro d
    rw [List.mem_map]
    constructor
    · rintro ⟨e, he, rfl⟩
      exact ((hmem e).mp he).1
    · intro hd
      exact ⟨(d, items.count d), (hmem _).mpr ⟨hd, rfl⟩, rfl⟩
  have hheld := held_mostFrequent items
  cases entries with
  | nil =>
    have hnone : items = [] := List.eq_nil_iff_forall_not_mem.mpr fun d hd => List.not_mem_nil ((hkeys d).mpr hd)
    rw [hnone]
    rfl
  | cons e entries =>
    obtain ⟨he, hcount⟩ := (hmem e).mp List.mem_cons_self
    have hpos : 0 < e.2 := by
      rw [hcount]
      exact List.count_pos_iff.mpr he
    have hfirst : betterEntry ([], 0) e = e := if_pos (Or.inl hpos)
    have hstart : better items none e.1 = some e := by rw [better, ← hcount]
    have hfold : some (entries.foldl betterEntry e) =
        ((e :: entries).map Prod.fst).foldl (better items) none := by
      rw [foldl_betterEntry (fun x hx => ((hmem x).mp (List.mem_cons_of_mem e hx)).2), List.map_cons,
        List.foldl_cons, hstart]
    have hnothing : Held items [] none := rfl
    have hrun := hnothing.run ((e :: entries).map Prod.fst) fun d hd => (hkeys d).mp hd
    rw [← hfold, List.nil_append] at hrun
    have hbest : Foremost items items _ _ :=
      ⟨hrun.mem, hrun.count, fun x hx => hrun.ahead x ((hkeys x).mpr hx)⟩
    rw [List.foldl_cons, hfirst]
    cases hmost : mostFrequent items with
    | none =>
      rw [hmost] at hheld
      have hempty : items = [] := hheld
      rw [hempty] at he
      cases he
    | some dn =>
      rw [hmost] at hheld
      exact hbest.unique hheld

private theorem extendBy_eq (visit : Visit) (ht : 0 < t) (lists : List (List Bytes)) (fuel : Nat)
    (dirs : List Bytes) :
    extendBy visit t lists fuel dirs = extend t lists fuel dirs := by
  -- The step and the run: in any order of its counts the walk is the same.
  induction fuel generalizing dirs with
  | zero => rfl
  | succ fuel ih =>
    have hbest := best_eq_mostFrequent (visit.perm dirs.length (tally (nextDirectories dirs lists)))
    rw [extendBy, extend, hbest]
    cases mostFrequent (nextDirectories dirs lists) with
    | none => exact if_pos ht
    | some dn =>
      by_cases hn : t ≤ dn.2
      · simp [hn, Nat.not_lt.mpr hn, ih]
      · simp [hn, Nat.lt_of_not_le hn]

private theorem sharedBy_eq (visit : Visit) (paths : List Bytes) :
    sharedBy visit paths = shared paths := by
  cases paths with
  | nil => rfl
  | cons p paths =>
    have hhalf : 0 < ((p :: paths).length + 1) / 2 := by
      simp only [List.length_cons]
      omega
    exact extendBy_eq visit hhalf _ _ []

private theorem rows_eq_ite (column : Bytes) (rs : List Row) :
    rows column rs =
      if names (shared (texts column rs)) < 2 then rs
      else rs.map (shorten column (start (shared (texts column rs)))) := by
  rw [rows_eq, start?_eq]
  by_cases hfew : names (shared (texts column rs)) < 2
  · rw [if_pos hfew, if_pos hfew]
  · rw [if_neg hfew, if_neg hfew]

private theorem rowsBy_eq (visit : Visit) (column : Bytes) (rs : List Row) :
    rowsBy visit column rs = rows column rs := by
  rw [rowsBy, sharedBy_eq, rows_eq_ite]

/-! ## Where the walk ends -/

private theorem sharing_extend_lt (ht : 0 < t) (fuel : Nat)
    (hfuel : ∀ l ∈ lists, l.length ≤ dirs.length + fuel)
    (d : Bytes) : sharing (extend t lists fuel dirs ++ [d]) lists < t := by
  induction fuel generalizing dirs with
  | zero =>
    have hnone : sharing (dirs ++ [d]) lists = 0 := by
      rw [sharing, List.countP_eq_zero]
      intro l hl hprefix
      have hlong := (List.isPrefixOf_iff_prefix.mp hprefix).length_le
      have hshort := hfuel l hl
      simp only [List.length_append, List.length_singleton] at hlong
      omega
    rw [extend, hnone]
    exact ht
  | succ fuel ih =>
    have hheld := held_mostFrequent (nextDirectories dirs lists)
    rw [extend]
    cases hbest : mostFrequent (nextDirectories dirs lists) with
    | none =>
      rw [hbest] at hheld
      have hnone : nextDirectories dirs lists = [] := hheld
      rw [← count_nextDirectories, hnone]
      exact ht
    | some en =>
      obtain ⟨e, n⟩ := en
      rw [hbest] at hheld
      have hfirst : Foremost _ _ e n := hheld
      dsimp only
      split
      · apply ih
        intro l hl
        have := hfuel l hl
        simp only [List.length_append, List.length_singleton]
        omega
      · rename_i hfew
        rw [← count_nextDirectories]
        by_cases hd : d ∈ nextDirectories dirs lists
        · have hmost := hfirst.ahead d hd
          omega
        · rw [List.count_eq_zero_of_not_mem hd]
          exact ht

private theorem sharing_shared_lt {paths : List Bytes} (hpos : paths ≠ []) (d : Bytes) :
    sharing (shared paths ++ [d]) (paths.map directories) < (paths.length + 1) / 2 := by
  have hlen : 0 < paths.length := List.length_pos_iff.mpr hpos
  apply sharing_extend_lt (by omega)
  intro l hl
  rw [List.length_nil, Nat.zero_add]
  exact length_le_longest hl

/-! ## What is taken off -/

private theorem slash_not_mem_of_sharing (h : 0 < sharing dirs lists)
    (hlists : ∀ l ∈ lists, ∀ d ∈ l, Path.slash ∉ d) :
    ∀ d ∈ dirs, Path.slash ∉ d := by
  intro d hd
  obtain ⟨l, hl, hprefix⟩ := List.countP_pos_iff.mp h
  exact hlists l hl d ((List.isPrefixOf_iff_prefix.mp hprefix).subset hd)

private theorem slash_not_mem_directories {paths : List Bytes} :
    ∀ l ∈ paths.map directories, ∀ d ∈ l, Path.slash ∉ d := by
  intro l hl d hd
  obtain ⟨p, -, rfl⟩ := List.mem_map.mp hl
  exact Bytes.not_mem_of_mem_splitOn ((List.dropLast_sublist _).subset hd)

private theorem splitOn_start_append (hne : dirs ≠ []) (hfree : ∀ d ∈ dirs, Path.slash ∉ d)
    (rest : Bytes) :
    Bytes.splitOn Path.slash (start dirs ++ rest) = dirs ++ Bytes.splitOn Path.slash rest := by
  rw [start, Bytes.splitOn_append, Bytes.splitOn_join hne hfree]

private theorem startsWith_start_iff (hne : dirs ≠ []) (hfree : ∀ d ∈ dirs, Path.slash ∉ d)
    (p : Bytes) :
    Bytes.startsWith (start dirs) p = true ↔ dirs <+: directories p := by
  rw [Bytes.startsWith_iff]
  constructor
  · rintro ⟨rest, rfl⟩
    rw [directories, splitOn_start_append hne hfree,
      List.dropLast_append_of_ne_nil (Bytes.splitOn_ne_nil Path.slash rest)]
    exact List.prefix_append dirs _
  · intro h
    obtain ⟨rest, rfl⟩ := eq_start_append hne h
    exact List.prefix_append _ rest

private theorem countP_startsWith (hne : dirs ≠ []) (hfree : ∀ d ∈ dirs, Path.slash ∉ d)
    (paths : List Bytes) :
    paths.countP (Bytes.startsWith (start dirs)) = sharing dirs (paths.map directories) := by
  rw [sharing, List.countP_map]
  apply List.countP_congr
  intro p _
  rw [startsWith_start_iff hne hfree, Function.comp_apply, List.isPrefixOf_iff_prefix]

/-- A row that starts with `dirs` has `..` in their place and is else as it was; any other row is not changed. -/
structure Shortens (column : Bytes) (dirs : List Bytes) (r r' : Row) : Prop where
  cell : ∀ rest, r.cell column = .text (start dirs ++ rest) → r'.cell column = .text (utf8 "../" ++ rest)
  changed : ∀ rest, r.cell column = .text (start dirs ++ rest) → r'.cell column ≠ r.cell column
  last : ∀ rest, r.cell column = .text (start dirs ++ rest) →
    (Bytes.splitOn Path.slash rest).getLast? = (Bytes.splitOn Path.slash (start dirs ++ rest)).getLast?
  frame : ∀ k, k ≠ column → r'.get? k = r.get? k
  kept : (∀ rest, r.cell column ≠ .text (start dirs ++ rest)) → r' = r

private theorem shortens_shorten (hnames : 2 ≤ names dirs) (hfree : ∀ d ∈ dirs, Path.slash ∉ d)
    (r : Row) :
    Shortens column dirs r (shorten column (start dirs) r) := by
  have hne : dirs ≠ [] := ne_nil_of_names hnames
  have hcell : ∀ rest, r.cell column = .text (start dirs ++ rest) →
      (shorten column (start dirs) r).cell column = .text (utf8 "../" ++ rest) := by
    intro rest hrest
    simp only [shorten, hrest, Bytes.dropStart?_append]
    rw [Row.cell, Assoc.get?_set_self, Option.getD_some]
  refine ⟨hcell, ?_, ?_, ?_, ?_⟩
  · intro rest hrest
    rw [hcell rest hrest, hrest]
    intro heq
    exact dots_ne_start hnames rest (Value.text.inj heq)
  · intro rest _
    rw [splitOn_start_append hne hfree,
      List.getLast?_append_of_ne_nil _ (Bytes.splitOn_ne_nil Path.slash rest)]
  · intro k hk
    unfold shorten
    split
    · split
      · rw [Assoc.get?_set, if_neg hk]
      · rfl
    · rfl
  · intro hother
    unfold shorten
    split
    · rename_i p hp
      split
      · rename_i rest hrest
        exact absurd (hp.trans (congrArg Value.text (Bytes.eq_of_dropStart? hrest))) (hother rest)
      · rfl
    · rfl

/-- In whatever order the counts are gone through the rows come out the same.  The walk ends at directories that
lead and that half of the paths share, but no further one.  With two names among them, the rows that start with
their text have it replaced, half of the rows at least, and no other row or cell changes; else nothing does. -/
theorem rowsBy_shortens (visit : Visit) (column : Bytes) (rs : List Row) :
    let paths := texts column rs
    let lists := paths.map directories
    let half := (paths.length + 1) / 2
    rowsBy visit column rs = rows column rs ∧
    ∃ dirs, (Leading lists dirs ∧ half ≤ sharing dirs lists ∧
        (paths ≠ [] → ∀ d, sharing (dirs ++ [d]) lists < half)) ∧
      (names dirs < 2 ∧ rows column rs = rs ∨
        2 ≤ names dirs ∧ List.Forall₂ (Shortens column dirs) rs (rows column rs) ∧
          half ≤ paths.countP (Bytes.startsWith (start dirs)) ∧
          ∀ d, Path.slash ∉ d → paths.countP (Bytes.startsWith (start (dirs ++ [d]))) < half) := by
  intro paths lists half
  obtain ⟨hlead, hhalf⟩ := shared_leading paths
  have hrows := rows_eq_ite column rs
  refine ⟨rowsBy_eq visit column rs, shared paths, ⟨hlead, hhalf, sharing_shared_lt⟩, ?_⟩
  by_cases hfew : names (shared paths) < 2
  · rw [if_pos hfew] at hrows
    exact .inl ⟨hfew, hrows⟩
  · rw [if_neg hfew] at hrows
    have hnames : 2 ≤ names (shared paths) := Nat.le_of_not_lt hfew
    have hpaths : paths ≠ [] := by
      intro hnil
      rw [hnil] at hfew
      exact hfew (by decide)
    have hpos : 0 < half := by
      have := List.length_pos_iff.mpr hpaths
      omega
    have hne : shared paths ≠ [] := ne_nil_of_names hnames
    have hfree : ∀ d ∈ shared paths, Path.slash ∉ d :=
      slash_not_mem_of_sharing (Nat.lt_of_lt_of_le hpos hhalf) slash_not_mem_directories
    refine .inr ⟨hnames, ?_, ?_, ?_⟩
    · rw [hrows, List.forall₂_map_right_iff]
      exact List.forall₂_same.mpr fun r _ => shortens_shorten hnames hfree r
    · rw [countP_startsWith hne hfree]
      exact hhalf
    · intro d hd
      have hmore : ∀ e ∈ shared paths ++ [d], Path.slash ∉ e := by
        intro e he
        rcases List.mem_append.mp he with he | he
        · exact hfree e he
        · exact List.mem_singleton.mp he ▸ hd
      rw [countP_startsWith (List.append_ne_nil_of_left_ne_nil hne _) hmore]
      exact sharing_shared_lt hpaths d

/-- The counts gone through from the last one to the first. -/
def Visit.backwards : Visit := ⟨fun _ counts => counts.pairs.reverse, fun _ counts => counts.pairs.reverse_perm⟩

/-- Two of four texts go on to one directory and two to another, and the lesser name is taken either way. -/
theorem rowsBy_shortens_backwards :
    let column := utf8 "path"
    let row (v : Value) : Row := Assoc.empty.set column v
    let rs := ["/a/c/f", "/a/b/d/f", "/a/c/g", "/a/b/e/f"].map (fun p => row (.text (utf8 p))) ++ [row .null]
    rowsBy .backwards column rs = rows column rs ∧
      texts column (rows column rs) = ["/a/c/f", "../d/f", "/a/c/g", "../e/f"].map utf8 := by
  intro column row rs
  obtain ⟨hsame, -⟩ := rowsBy_shortens .backwards column rs
  refine ⟨hsame, ?_⟩
  rw [← hsame]
  decide +kernel

end LineStore.Chop
