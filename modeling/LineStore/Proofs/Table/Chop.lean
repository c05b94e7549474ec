import LineStore.Table.Chop
import LineStore.Proofs.Data.Assoc
import LineStore.Proofs.Text.Bytes
import Mathlib.Data.List.Basic
/-!
# When common directories are taken off

The walk from the root takes the most frequent next directory.  A run of directories that half of the
paths share is reached unless an equally frequent directory with a lesser name stands beside one of its
own: then the walk takes that one, and what half of the paths share further down is never seen.  More
than half leave no such rival, `half_chopped_iff`.
-/
namespace LineStore.Chop

variable {column p d : Bytes} {dirs more : List Bytes} {lists : List (List Bytes)} {t : Nat}

/-- How many lists start with `dirs`. -/
def sharing (dirs : List Bytes) (lists : List (List Bytes)) : Nat :=
  lists.countP (dirs.isPrefixOf ·)

/-- How many of the directories have a name: the one in front of a leading slash has none. -/
def names (dirs : List Bytes) : Nat := dirs.countP (!·.isEmpty)

/-- No list leaves `dirs` for a lesser directory that as many lists have. -/
def Leading (lists : List (List Bytes)) (dirs : List Bytes) : Prop :=
  ∀ l ∈ lists, ∀ q d d', q ++ [d] <+: dirs → q ++ [d'] <+: l → d' < d →
    sharing (q ++ [d']) lists < sharing (q ++ [d]) lists

/-- The text of the directories in front of what they hold. -/
def start (dirs : List Bytes) : Bytes := Bytes.join [Path.slash] dirs ++ [Path.slash]

/-- The texts of a column. -/
def texts (column : Bytes) (rs : List Row) : List Bytes :=
  rs.filterMap fun r => (r.cell column).text?

/-- The second row has `..` in place of the first one's directories. -/
def shortened (column : Bytes) (dirs : List Bytes) (r r' : Row) : Bool :=
  match r.cell column, r'.cell column with
  | .text p, .text p' => (Bytes.dropStart? (start dirs) p).any (utf8 "../" ++ · == p')
  | _, _ => false

/-- How many rows have `dirs` replaced. -/
def chopped (column : Bytes) (dirs : List Bytes) (rs : List Row) : Nat :=
  (rs.zip (rows column rs)).countP fun (r, r') => shortened column dirs r r'

/-! ## Lists that start alike -/

private theorem dropShared?_eq_some_iff {l rest : List Bytes} :
    dropShared? dirs l = some rest ↔ l = dirs ++ rest := by
  induction dirs generalizing l with
  | nil => simp [dropShared?, eq_comm]
  | cons d dirs ih =>
    cases l with
    | nil => simp [dropShared?]
    | cons e l =>
      rw [dropShared?, List.cons_append, List.cons.injEq]
      by_cases he : d = e
      · simp [he, ih]
      · simp [he, Ne.symm he]

private theorem next_eq_iff {l : List Bytes} :
    (dropShared? dirs l).bind List.head? = some d ↔ dirs ++ [d] <+: l := by
  rw [Option.bind_eq_some_iff]
  constructor
  · rintro ⟨rest, hrest, hd⟩
    obtain ⟨tail, rfl⟩ := List.head?_eq_some_iff.mp hd
    exact ⟨tail, by rw [dropShared?_eq_some_iff.mp hrest, List.append_assoc, List.singleton_append]⟩
  · rintro ⟨tail, rfl⟩
    refine ⟨d :: tail, dropShared?_eq_some_iff.mpr ?_, rfl⟩
    rw [List.append_assoc, List.singleton_append]

private theorem mem_nextDirectories_iff :
    d ∈ nextDirectories dirs lists ↔ ∃ l ∈ lists, dirs ++ [d] <+: l := by
  simp only [nextDirectories, List.mem_filterMap, next_eq_iff]

/-- A directory is next as often as lists go on with it. -/
theorem count_nextDirectories (dirs : List Bytes) (d : Bytes) (lists : List (List Bytes)) :
    (nextDirectories dirs lists).count d = sharing (dirs ++ [d]) lists := by
  rw [nextDirectories, List.count_eq_countP, List.countP_filterMap, sharing]
  apply List.countP_congr
  intro l _
  have hnext : (dropShared? dirs l).bind List.head? = some d ↔ dirs ++ [d] <+: l := next_eq_iff
  cases hd : (dropShared? dirs l).bind List.head? with
  | none => simpa [hd] using hnext
  | some e => simpa [hd] using hnext

private theorem sharing_anti (h : dirs <+: more) (lists : List (List Bytes)) :
    sharing more lists ≤ sharing dirs lists := by
  apply List.countP_mono_left
  intro l _ hl
  rw [List.isPrefixOf_iff_prefix] at hl ⊢
  exact h.trans hl

private theorem sharing_fork {d' : Bytes} (hne : d ≠ d') (dirs : List Bytes)
    (lists : List (List Bytes)) :
    sharing (dirs ++ [d]) lists + sharing (dirs ++ [d']) lists ≤ lists.length := by
  induction lists with
  | nil => exact Nat.le_refl 0
  | cons l lists ih =>
    have hone : ¬ (dirs ++ [d] <+: l ∧ dirs ++ [d'] <+: l) := by
      rintro ⟨h, h'⟩
      have hsame : some d = some d' := (next_eq_iff.mpr h).symm.trans (next_eq_iff.mpr h')
      exact hne (Option.some.inj hsame)
    rw [← List.isPrefixOf_iff_prefix, ← List.isPrefixOf_iff_prefix] at hone
    simp only [sharing, List.countP_cons, List.length_cons] at ih ⊢
    split <;> split <;> first | omega | exact absurd ⟨‹_›, ‹_›⟩ hone

private theorem leading_of_majority (h : lists.length < 2 * sharing dirs lists) :
    Leading lists dirs := by
  intro _ _ q d d' hd _ hlt
  have hmost : sharing dirs lists ≤ sharing (q ++ [d]) lists := sharing_anti hd lists
  have hne : d ≠ d' := by
    rintro rfl
    exact List.lt_irrefl d hlt
  have hfork := sharing_fork hne q lists
  omega

/-! ## The most frequent next directory -/

/-- `d` occurs in `items` `n` times, no item of `seen` occurs more often, and none that occurs as often
is less. -/
structure Foremost (items seen : List Bytes) (d : Bytes) (n : Nat) : Prop where
  mem : d ∈ items
  count : items.count d = n
  ahead : ∀ x ∈ seen, items.count x < n ∨ items.count x = n ∧ d ≤ x

private theorem Foremost.step {items seen : List Bytes} {n : Nat} {x : Bytes}
    (h : Foremost items seen d n)
    (hx : x ∈ items) :
    if n < items.count x ∨ (n = items.count x ∧ x < d) then
      Foremost items (seen ++ [x]) x (items.count x)
    else Foremost items (seen ++ [x]) d n := by
  split
  · rename_i hbetter
    refine ⟨hx, rfl, ?_⟩
    intro y hy
    rw [List.mem_append, List.mem_singleton] at hy
    rcases hy with hy | rfl
    · rcases hbetter with hmore | ⟨hsame, hless⟩
      · have hle : items.count y ≤ n := (h.ahead y hy).elim Nat.le_of_lt fun heq => Nat.le_of_eq heq.1
        exact Or.inl (by omega)
      · rcases h.ahead y hy with hlt | ⟨heq, hle⟩
        · exact Or.inl (by omega)
        · exact Or.inr ⟨by omega, List.le_trans (List.le_of_lt hless) hle⟩
    · exact Or.inr ⟨rfl, List.le_refl y⟩
  · rename_i hbest
    rw [not_or, not_and] at hbest
    refine ⟨h.mem, h.count, ?_⟩
    intro y hy
    rw [List.mem_append, List.mem_singleton] at hy
    rcases hy with hy | rfl
    · exact h.ahead y hy
    · by_cases heq : items.count y = n
      · exact Or.inr ⟨heq, List.not_lt.mp (hbest.2 heq.symm)⟩
      · exact Or.inl (by omega)

/-- How one more item changes the best so far. -/
def better (items : List Bytes) (best : Option (Bytes × Nat)) (x : Bytes) : Option (Bytes × Nat) :=
  match best with
  | none => some (x, items.count x)
  | some (y, m) =>
    if m < items.count x ∨ (m = items.count x ∧ x < y) then some (x, items.count x) else some (y, m)

private theorem mostFrequent_eq (items : List Bytes) :
    mostFrequent items = items.foldl (better items) none := by
  unfold mostFrequent
  congr 1
  funext best x
  cases best <;> rfl

/-- What the search holds after the items `seen`. -/
def Held (items seen : List Bytes) : Option (Bytes × Nat) → Prop
  | none => seen = []
  | some (d, n) => Foremost items seen d n

private theorem Held.step {items seen : List Bytes} {best : Option (Bytes × Nat)} {x : Bytes}
    (h : Held items seen best) (hx : x ∈ items) :
    Held items (seen ++ [x]) (better items best x) := by
  cases best with
  | none =>
    have hseen : seen = [] := h
    subst hseen
    refine ⟨hx, rfl, ?_⟩
    intro y hy
    rw [List.nil_append, List.mem_singleton] at hy
    exact Or.inr ⟨by rw [hy], hy ▸ List.le_refl y⟩
  | some yn =>
    obtain ⟨y, n⟩ := yn
    have hstep := Foremost.step h hx
    unfold better
    dsimp only
    split at hstep <;> rename_i hc
    · rw [if_pos hc]
      exact hstep
    · rw [if_neg hc]
      exact hstep

theorem Held.run {items seen : List Bytes} {best : Option (Bytes × Nat)} (h : Held items seen best)
    (rest : List Bytes) (hrest : rest ⊆ items) :
    Held items (seen ++ rest) (rest.foldl (better items) best) := by
  induction rest generalizing seen best with
  | nil => simpa using h
  | cons x rest ih =>
    rw [List.cons_subset] at hrest
    have hnext := ih (h.step hrest.1) hrest.2
    rwa [List.append_assoc, List.singleton_append] at hnext

theorem held_mostFrequent (items : List Bytes) : Held items items (mostFrequent items) := by
  have hstart : Held items [] none := rfl
  have hrun := hstart.run items (List.Subset.refl items)
  rwa [← mostFrequent_eq, List.nil_append] at hrun

/-! ## The walk -/

private theorem Leading.snoc {n : Nat} (h : Leading lists dirs)
    (hbest : mostFrequent (nextDirectories dirs lists) = some (d, n)) :
    Leading lists (dirs ++ [d]) := by
  have hfirst : Foremost _ _ d n := hbest ▸ held_mostFrequent (nextDirectories dirs lists)
  intro l hl q e e' he hl' hlt
  rcases List.prefix_concat_iff.mp he with heq | hold
  · obtain ⟨rfl, heq⟩ := List.append_inj' heq rfl
    obtain rfl : e = d := by simpa using heq
    have hrival := hfirst.ahead e' (mem_nextDirectories_iff.mpr ⟨l, hl, hl'⟩)
    have hown := hfirst.count
    rw [count_nextDirectories] at hrival hown
    rw [hown]
    rcases hrival with hless | ⟨-, hle⟩
    · exact hless
    · exact absurd hlt (List.not_lt.mpr hle)
  · exact h l hl q e e' hold hl' hlt

private theorem extend_shared (fuel : Nat) (h : Leading lists dirs) (ht : t ≤ sharing dirs lists) :
    Leading lists (extend t lists fuel dirs) ∧ t ≤ sharing (extend t lists fuel dirs) lists := by
  -- The walk keeps what it has: a leading run that `t` lists share.
  induction fuel generalizing dirs with
  | zero => exact ⟨h, ht⟩
  | succ fuel ih =>
    rw [extend]
    split
    · rename_i d n hbest
      have hfirst : Foremost _ _ d n := hbest ▸ held_mostFrequent (nextDirectories dirs lists)
      split
      · rename_i hn
        apply ih (h.snoc hbest)
        rwa [← count_nextDirectories, hfirst.count]
      · exact ⟨h, ht⟩
    · exact ⟨h, ht⟩

private theorem prefix_extend (t : Nat) (lists : List (List Bytes)) (fuel : Nat)
    (dirs : List Bytes) :
    dirs <+: extend t lists fuel dirs := by
  induction fuel generalizing dirs with
  | zero => exact List.prefix_refl dirs
  | succ fuel ih =>
    rw [extend]
    split
    · split
      · exact (List.prefix_append dirs _).trans (ih _)
      · exact List.prefix_refl dirs
    · exact List.prefix_refl dirs

private theorem mostFrequent_of_leading (h : Leading lists (dirs ++ [d])) (hpos : lists ≠ [])
    (hhalf : (lists.length + 1) / 2 ≤ sharing (dirs ++ [d]) lists) :
    mostFrequent (nextDirectories dirs lists) = some (d, sharing (dirs ++ [d]) lists) := by
  have hlen : 0 < lists.length := List.length_pos_iff.mpr hpos
  have hd : d ∈ nextDirectories dirs lists := by
    rw [← List.count_pos_iff, count_nextDirectories]
    omega
  have hheld := held_mostFrequent (nextDirectories dirs lists)
  cases hbest : mostFrequent (nextDirectories dirs lists) with
  | none =>
    rw [hbest] at hheld
    have hnone : nextDirectories dirs lists = [] := hheld
    rw [hnone] at hd
    cases hd
  | some en =>
    obtain ⟨e, n⟩ := en
    have hfirst : Foremost _ _ e n := hbest ▸ hheld
    have hn := hfirst.count
    rw [count_nextDirectories] at hn
    by_cases hed : e = d
    · rw [← hn, hed]
    · have hfork := sharing_fork hed dirs lists
      obtain ⟨l, hl, hle⟩ := mem_nextDirectories_iff.mp hfirst.mem
      have hrival := hfirst.ahead d hd
      rw [count_nextDirectories] at hrival
      -- Both have exactly half of the lists, so the lesser name decides.
      rcases hrival with hless | ⟨heq, hle'⟩
      · omega
      · rcases List.le_iff_lt_or_eq.mp hle' with hlt | heq'
        · have := h l hl dirs d e (List.prefix_refl _) hle hlt
          omega
        · exact absurd heq' hed

private theorem prefix_extend_of_leading {fuel : Nat} (h : Leading lists more) (hpos : lists ≠ [])
    (hhalf : (lists.length + 1) / 2 ≤ sharing more lists) (hmore : dirs <+: more)
    (hfuel : more.length ≤ dirs.length + fuel) :
    more <+: extend ((lists.length + 1) / 2) lists fuel dirs := by
  induction fuel generalizing dirs with
  | zero =>
    have hsame : dirs = more := hmore.eq_of_length_le hfuel
    exact hsame ▸ List.prefix_refl dirs
  | succ fuel ih =>
    obtain ⟨tail, rfl⟩ := hmore
    cases tail with
    | nil =>
      rw [List.append_nil]
      exact prefix_extend _ lists _ dirs
    | cons d tail =>
      have hnext : dirs ++ [d] <+: dirs ++ d :: tail :=
        ⟨tail, by rw [List.append_assoc, List.singleton_append]⟩
      have hshare := Nat.le_trans hhalf (sharing_anti hnext lists)
      have hbest := mostFrequent_of_leading (fun l hl q e e' he => h l hl q e e' (he.trans hnext))
        hpos hshare
      rw [extend, hbest]
      dsimp only
      rw [if_pos hshare]
      apply ih hnext
      simp only [List.length_append, List.length_cons, List.length_nil] at hfuel ⊢
      omega

theorem length_le_longest {l : List Bytes} (hl : l ∈ lists) :
    l.length ≤ (lists.map List.length).foldl max 0 := by
  have hmem : l.length ∈ lists.map List.length := List.mem_map_of_mem hl
  rw [List.foldl_max_eq_max (List.ne_nil_of_mem hmem)]
  exact Nat.le_trans (List.le_max_of_mem hmem) (Nat.le_max_right _ _)

/-- The directories found for some paths lead, and half of the paths share them. -/
theorem shared_leading (paths : List Bytes) :
    Leading (paths.map directories) (shared paths) ∧
      (paths.length + 1) / 2 ≤ sharing (shared paths) (paths.map directories) := by
  apply extend_shared
  · intro _ _ q d _ hd
    rw [List.prefix_nil] at hd
    exact absurd hd (List.append_ne_nil_of_right_ne_nil q (List.cons_ne_nil d []))
  · have hall : sharing [] (paths.map directories) = paths.length := by simp [sharing]
    omega

private theorem prefix_shared {paths : List Bytes} (hpos : paths ≠ [])
    (h : Leading (paths.map directories) dirs)
    (hhalf : (paths.length + 1) / 2 ≤ sharing dirs (paths.map directories)) :
    dirs <+: shared paths := by
  have hlen : (paths.map directories).length = paths.length := List.length_map _
  have hpaths : 0 < paths.length := List.length_pos_iff.mpr hpos
  have hsome : 0 < sharing dirs (paths.map directories) := by omega
  obtain ⟨l, hl, hdirs⟩ := List.countP_pos_iff.mp hsome
  have hfuel := length_le_longest hl
  rw [List.isPrefixOf_iff_prefix] at hdirs
  rw [← hlen] at hhalf
  rw [shared, ← hlen]
  apply prefix_extend_of_leading h (by simpa using hpos) hhalf List.nil_prefix
  have := hdirs.length_le
  simp only [List.length_nil]
  omega

/-! ## Rows -/

/-- A path with the directories `dirs` starts with their text. -/
theorem eq_start_append (hne : dirs ≠ []) (h : dirs <+: directories p) :
    ∃ rest, p = start dirs ++ rest := by
  obtain ⟨more, hmore⟩ := h
  have hpieces : Bytes.splitOn Path.slash p ≠ [] := Bytes.splitOn_ne_nil Path.slash p
  obtain ⟨rest, hne', hsplit⟩ : ∃ rest, rest ≠ [] ∧ Bytes.splitOn Path.slash p = dirs ++ rest := by
    refine ⟨more ++ [(Bytes.splitOn Path.slash p).getLast hpieces], by simp, ?_⟩
    rw [← List.append_assoc, hmore, directories, List.dropLast_append_getLast]
  have hfree : ∀ d ∈ dirs ++ rest, Path.slash ∉ d := by
    rw [← hsplit]
    exact fun d hd => Bytes.not_mem_of_mem_splitOn hd
  have hjoin : Bytes.splitOn Path.slash (start dirs ++ Bytes.join [Path.slash] rest) = dirs ++ rest := by
    rw [start, Bytes.splitOn_append, Bytes.splitOn_join hne, Bytes.splitOn_join hne']
    · exact fun d hd => hfree d (List.mem_append_right _ hd)
    · exact fun d hd => hfree d (List.mem_append_left _ hd)
  refine ⟨Bytes.join [Path.slash] rest, ?_⟩
  rw [← Bytes.join_splitOn Path.slash p, hsplit, ← hjoin, Bytes.join_splitOn]

theorem start?_eq (paths : List Bytes) :
    start? paths =
      if names (shared paths) < 2 then none else some (start (shared paths)) := by
  rw [start?, names, List.countP_eq_length_filter]
  rfl

private theorem names_mono (h : dirs <+: more) : names dirs ≤ names more := h.sublist.countP_le

private theorem names_add_length_le (hne : dirs ≠ []) :
    names dirs + dirs.length ≤ (start dirs).length := by
  induction dirs with
  | nil => exact absurd rfl hne
  | cons d dirs ih =>
    have hd : names (d :: dirs) ≤ d.length + names dirs := by
      rw [names, List.countP_cons]
      cases d with
      | nil => exact Nat.le_add_left ..
      | cons b d =>
        simp only [names, List.length_cons, List.isEmpty_cons, Bool.not_false, if_true]
        omega
    cases dirs with
    | nil =>
      have hlen : (start [d]).length = d.length + 1 := by simp [start, Bytes.join]
      have hnil : names ([] : List Bytes) = 0 := rfl
      simp only [List.length_cons, List.length_nil]
      omega
    | cons e dirs =>
      have hstart : start (d :: e :: dirs) = d ++ [Path.slash] ++ start (e :: dirs) := by
        rw [start, Bytes.join, List.intercalate_cons_cons, List.append_assoc, start, Bytes.join]
      have hrest := ih (List.cons_ne_nil e dirs)
      rw [hstart]
      simp only [List.length_append, List.length_cons, List.length_nil] at hrest ⊢
      omega

theorem ne_nil_of_names (hnames : 2 ≤ names dirs) : dirs ≠ [] := by
  rintro rfl
  exact absurd hnames (by decide)

/-- Two names are longer than `..`. -/
theorem dots_ne_start (hnames : 2 ≤ names dirs) (rest : Bytes) : utf8 "../" ++ rest ≠ start dirs ++ rest := by
  have hle : names dirs ≤ dirs.length := List.countP_le_length
  have hlong := names_add_length_le (ne_nil_of_names hnames)
  have hdots : (utf8 "../").length = 3 := by decide
  intro h
  have hlen := congrArg List.length h
  rw [List.length_append, List.length_append] at hlen
  omega

private theorem shortened_self (hnames : 2 ≤ names dirs) (column : Bytes) (r : Row) :
    shortened column dirs r r = false := by
  unfold shortened
  cases r.cell column with
  | text p =>
    cases hrest : Bytes.dropStart? (start dirs) p with
    | none => simp [hrest]
    | some rest =>
      have hp : p = start dirs ++ rest := Bytes.eq_of_dropStart? hrest
      have hshort : utf8 "../" ++ rest ≠ p := hp ▸ dots_ne_start hnames rest
      simpa [hrest] using hshort
  | _ => rfl

/-- A row without the directories in front of a text of a column. -/
def shorten (column start : Bytes) (r : Row) : Row :=
  match r.cell column with
  | .text p =>
    match Bytes.dropStart? start p with
    | some rest => r.set column (.text (utf8 "../" ++ rest))
    | none => r
  | _ => r

theorem rows_eq (column : Bytes) (rs : List Row) :
    rows column rs = match start? (texts column rs) with
      | none => rs
      | some s => rs.map (shorten column s) := rfl

private theorem chopped_eq_zero {rs : List Row} (hnone : start? (texts column rs) = none)
    (hnames : 2 ≤ names dirs) : chopped column dirs rs = 0 := by
  have hpairs : rs.zip rs = rs.map fun r => (r, r) := by
    simpa using (List.map_prod_left_eq_zip (l := rs) (f := id)).symm
  rw [chopped, rows_eq, hnone]
  dsimp only
  rw [hpairs, List.countP_map, List.countP_eq_zero]
  intro r _
  simp [shortened_self hnames]

private theorem shortened_shorten {r : Row} (hp : r.cell column = .text (start dirs ++ p)) :
    shortened column dirs r (shorten column (start dirs) r) = true := by
  have hcell : (shorten column (start dirs) r).cell column = .text (utf8 "../" ++ p) := by
    simp only [shorten, hp, Bytes.dropStart?_append]
    rw [Row.cell, Assoc.get?_set_self, Option.getD_some]
  simp only [shortened, hp, hcell, Bytes.dropStart?_append, Option.any_some, beq_self_eq_true]

private theorem sharing_le_chopped {rs : List Row} (hnames : 2 ≤ names (shared (texts column rs))) :
    sharing (shared (texts column rs)) ((texts column rs).map directories) ≤
      chopped column (shared (texts column rs)) rs := by
  have hne : shared (texts column rs) ≠ [] := by
    intro hnil
    rw [hnil] at hnames
    exact absurd hnames (by decide)
  have hstart : start? (texts column rs) = some (start (shared (texts column rs))) := by
    rw [start?_eq, if_neg (by omega)]
  rw [chopped, rows_eq, hstart]
  dsimp only
  rw [← List.map_prod_left_eq_zip, List.countP_map, sharing, List.countP_map, texts,
    List.countP_filterMap]
  apply List.countP_mono_left
  intro r _ hr
  cases hcell : r.cell column with
  | text p =>
    rw [hcell] at hr
    have hdirs : shared (texts column rs) <+: directories p := List.isPrefixOf_iff_prefix.mp hr
    obtain ⟨rest, rfl⟩ := eq_start_append hne hdirs
    exact shortened_shorten hcell
  | _ =>
    rw [hcell] at hr
    cases hr

/-- Half of the rows with a text lose a run of directories exactly when half of them share a leading run
with two names; what more than half share always leads. -/
theorem half_chopped_iff (column : Bytes) (rs : List Row) :
    let lists := (texts column rs).map directories
    let half := (lists.length + 1) / 2
    ((∃ dirs, 2 ≤ names dirs ∧ half ≤ chopped column dirs rs) ↔
        ∃ dirs, 2 ≤ names dirs ∧ half ≤ sharing dirs lists ∧ Leading lists dirs) ∧
      ∀ dirs, lists.length < 2 * sharing dirs lists → Leading lists dirs := by
  intro lists half
  have hlen : lists.length = (texts column rs).length := List.length_map _
  obtain ⟨hleads, hhalf⟩ := shared_leading (texts column rs)
  rw [← hlen] at hhalf
  refine ⟨⟨?_, ?_⟩, fun dirs => leading_of_majority⟩
  · rintro ⟨dirs, hnames, hchopped⟩
    by_cases hfew : names (shared (texts column rs)) < 2
    -- Nothing is taken off, so the column has no texts.
    · have hzero := chopped_eq_zero (by rw [start?_eq, if_pos hfew]) hnames
      have hempty : lists = [] := List.length_eq_zero_iff.mp (by omega)
      refine ⟨dirs, hnames, by omega, ?_⟩
      rw [hempty]
      exact fun l hl => absurd hl List.not_mem_nil
    · exact ⟨shared (texts column rs), by omega, hhalf, hleads⟩
  · rintro ⟨dirs, hnames, hshare, hlead⟩
    by_cases hempty : texts column rs = []
    · have hzero : half = 0 := by
        have : lists.length = 0 := by rw [hlen, hempty]; rfl
        omega
      exact ⟨dirs, hnames, by omega⟩
    · have hprefix : dirs <+: shared (texts column rs) :=
        prefix_shared hempty hlead (by rwa [← hlen])
      have hmore := Nat.le_trans hnames (names_mono hprefix)
      exact ⟨_, hmore, Nat.le_trans hhalf (sharing_le_chopped hmore)⟩

/-- Two paths of four share `/x/y/`.  The walk goes to `/a/`, which two of them share as well, and finds
no second name there. -/
theorem equal_halves_unchopped :
    let column := utf8 "path"
    let rs : List Row := ["/a/b1/f", "/a/b2/f", "/x/y/f", "/x/y/g"].map fun p =>
      Assoc.empty.set column (.text (utf8 p))
    let dirs := [utf8 "", utf8 "x", utf8 "y"]
    2 ≤ names dirs ∧
      ((texts column rs).length + 1) / 2 ≤ sharing dirs ((texts column rs).map directories) ∧
      rows column rs = rs := by
  intro column rs dirs
  have hstart : start? (texts column rs) = none := by decide +kernel
  refine ⟨by decide, by decide +kernel, ?_⟩
  rw [rows_eq, hstart]

end LineStore.Chop
