import LineStore.File.Path
import LineStore.Proofs.Text.Bytes
import Mathlib.Tactic.SplitIfs
/-!
# Clean paths

Cleaning a path leaves segments that cleaning would keep: none is empty or `.`, and `..` stands only at
the start of a relative path, `isClean_clean`.  So a clean path is its own clean form, `clean_clean`.
-/
namespace LineStore.Path

/-- Segments as cleaning keeps them, last one first. -/
def Kept (rooted : Bool) : List Bytes → Prop
  | [] => True
  | s :: below =>
    (slash ∉ s ∧ s ≠ [] ∧ s ≠ dot ∧ (s = dotdot → rooted = false ∧ ∀ t ∈ below, t = dotdot)) ∧
      Kept rooted below

private theorem Kept.of_append {rooted : Bool} {l below : List Bytes}
    (h : Kept rooted (l ++ below)) :
    Kept rooted below := by
  induction l with
  | nil => exact h
  | cons s l ih => exact ih h.2

private theorem Kept.mem {rooted : Bool} {l : List Bytes} (h : Kept rooted l) {s : Bytes}
    (hs : s ∈ l) :
    slash ∉ s ∧ s ≠ [] := by
  induction l with
  | nil => cases hs
  | cons t l ih =>
    rcases List.mem_cons.mp hs with rfl | hs
    · exact ⟨h.1.1, h.1.2.1⟩
    · exact ih h.2 hs

/-- The segments kept once a `..` has been looked at. -/
def up (rooted : Bool) : List Bytes → List Bytes
  | [] => if rooted then [] else [dotdot]
  | top :: below => if top = dotdot then dotdot :: top :: below else below

/-- The segments kept once `s` has been looked at. -/
def push (rooted : Bool) (kept : List Bytes) (s : Bytes) : List Bytes :=
  if s = [] ∨ s = dot then kept else if s = dotdot then up rooted kept else s :: kept

theorem reduce_eq_foldl (rooted : Bool) (kept segments : List Bytes) :
    reduce rooted kept segments = (segments.foldl (push rooted) kept).reverse := by
  induction segments generalizing kept with
  | nil => rfl
  | cons s rest ih =>
    rw [List.foldl_cons, ← ih, push]
    cases kept with
    | nil =>
      simp only [reduce, up]
      split_ifs <;> rfl
    | cons top below =>
      simp only [reduce, up]
      split_ifs <;> rfl

private theorem Kept.up {rooted : Bool} {kept : List Bytes} (h : Kept rooted kept) :
    Kept rooted (up rooted kept) := by
  have hup : slash ∉ dotdot ∧ dotdot ≠ [] ∧ dotdot ≠ dot := by decide
  cases kept with
  | nil =>
    cases rooted with
    | true => exact h
    | false => exact ⟨⟨hup.1, hup.2.1, hup.2.2, fun _ => ⟨rfl, List.forall_mem_nil _⟩⟩, trivial⟩
  | cons top below =>
    rw [Path.up]
    by_cases htop : top = dotdot
    -- Below a kept `..` there are only such segments, so one more may follow.
    · obtain ⟨hrooted, hbelow⟩ := h.1.2.2.2 htop
      have hall : ∀ t ∈ top :: below, t = dotdot := List.forall_mem_cons.mpr ⟨htop, hbelow⟩
      rw [if_pos htop]
      exact ⟨⟨hup.1, hup.2.1, hup.2.2, fun _ => ⟨hrooted, hall⟩⟩, h⟩
    · rw [if_neg htop]
      exact h.2

private theorem Kept.push {rooted : Bool} {kept : List Bytes} (h : Kept rooted kept) {s : Bytes}
    (hs : slash ∉ s) : Kept rooted (push rooted kept s) := by
  unfold Path.push
  split_ifs with hskip hup
  · exact h
  · exact h.up
  · obtain ⟨hne, hdot⟩ := not_or.mp hskip
    exact ⟨⟨hs, hne, hdot, fun he => absurd he hup⟩, h⟩

private theorem push_of_kept {rooted : Bool} {kept : List Bytes} {s : Bytes}
    (h : Kept rooted (s :: kept)) :
    push rooted kept s = s :: kept := by
  obtain ⟨⟨_, hne, hdot, hup⟩, _⟩ := h
  rw [push, if_neg (not_or.mpr ⟨hne, hdot⟩)]
  by_cases hs : s = dotdot
  · obtain ⟨hrooted, hkept⟩ := hup hs
    rw [if_pos hs, hs]
    cases kept with
    | nil => exact if_neg (by simp [hrooted])
    | cons top below => exact if_pos (hkept top List.mem_cons_self)
  · rw [if_neg hs]

private theorem Kept.foldl {rooted : Bool} {kept : List Bytes} (hkept : Kept rooted kept)
    {segments : List Bytes} (h : ∀ s ∈ segments, slash ∉ s) :
    Kept rooted (segments.foldl (Path.push rooted) kept) := by
  induction segments generalizing kept with
  | nil => exact hkept
  | cons s rest ih =>
    obtain ⟨hs, hrest⟩ := List.forall_mem_cons.mp h
    exact ih (hkept.push hs) hrest

private theorem foldl_of_kept {rooted : Bool} {kept segments : List Bytes}
    (h : Kept rooted (segments.reverse ++ kept)) :
    segments.foldl (push rooted) kept = segments.reverse ++ kept := by
  induction segments generalizing kept with
  | nil => rfl
  | cons s rest ih =>
    rw [List.reverse_cons, List.append_assoc, List.singleton_append] at h ⊢
    rw [List.foldl_cons, push_of_kept h.of_append, ih h]

/-- The segments of the clean form of a path. -/
def segments (p : Bytes) : List Bytes := reduce (isAbs p) [] (Bytes.splitOn slash p)

theorem kept_segments (p : Bytes) : Kept (isAbs p) (segments p).reverse := by
  have hnil : Kept (isAbs p) [] := trivial
  rw [segments, reduce_eq_foldl, List.reverse_reverse]
  exact hnil.foldl fun _ hs => Bytes.not_mem_of_mem_splitOn hs

private theorem reduce_segments (p : Bytes) : reduce (isAbs p) [] (segments p) = segments p := by
  have hkept : Kept (isAbs p) ((segments p).reverse ++ []) := by
    rw [List.append_nil]
    exact kept_segments p
  rw [reduce_eq_foldl, foldl_of_kept hkept, List.append_nil, List.reverse_reverse]

theorem not_mem_of_mem_segments {p s : Bytes} (hs : s ∈ segments p) : slash ∉ s ∧ s ≠ [] :=
  (kept_segments p).mem (List.mem_reverse.mpr hs)

private theorem isAbs_join {s : Bytes} {rest : List Bytes} (hs : slash ∉ s) (hne : s ≠ []) :
    isAbs (Bytes.join [slash] (s :: rest)) = false := by
  cases s with
  | nil => exact absurd rfl hne
  | cons b s =>
    have hb : b ≠ slash := fun he => hs (he ▸ List.mem_cons_self)
    cases rest <;> simp [isAbs, Bytes.join, hb]

theorem clean_of_isAbs {p : Bytes} (h : isAbs p = true) :
    clean p = slash :: Bytes.join [slash] (segments p) := by
  rw [clean, if_pos h, segments]

theorem clean_of_not_isAbs {p : Bytes} (h : isAbs p = false) :
    clean p = if (segments p).isEmpty then dot else Bytes.join [slash] (segments p) := by
  rw [clean, segments, h]
  rfl

theorem clean_clean (p : Bytes) : clean (clean p) = clean p := by
  cases habs : isAbs p with
  | true =>
    have hreduce := reduce_segments p
    rw [habs] at hreduce
    have hsplit : reduce true [] (Bytes.splitOn slash (clean p)) = segments p := by
      rw [clean_of_isAbs habs, Bytes.splitOn, if_pos rfl, Path.reduce, if_pos (.inl rfl)]
      by_cases hempty : segments p = []
      · rw [hempty]
        rfl
      · rw [Bytes.splitOn_join hempty fun s hs => (not_mem_of_mem_segments hs).1, hreduce]
    have hclean : isAbs (clean p) = true := by rw [clean_of_isAbs habs]; rfl
    rw [clean_of_isAbs hclean, segments, hclean, hsplit, ← clean_of_isAbs habs]
  | false =>
    have hreduce := reduce_segments p
    rw [habs] at hreduce
    have hclean := clean_of_not_isAbs habs
    cases hsegments : segments p with
    | nil =>
      rw [hclean, hsegments]
      rfl
    | cons s rest =>
      have hmem : ∀ t ∈ s :: rest, slash ∉ t ∧ t ≠ [] := fun t ht =>
        not_mem_of_mem_segments (hsegments ▸ ht)
      obtain ⟨hs, hne⟩ := hmem s List.mem_cons_self
      rw [hsegments] at hclean hreduce
      have hjoin : clean p = Bytes.join [slash] (s :: rest) := hclean
      rw [hjoin, clean, isAbs_join hs hne,
        Bytes.splitOn_join (List.cons_ne_nil s rest) fun t ht => (hmem t ht).1, hreduce]
      rfl

theorem clean_join (parts : List Bytes) : join parts = [] ∨ clean (join parts) = join parts := by
  unfold join
  split
  · exact .inl rfl
  · exact .inr (clean_clean _)

theorem clean_absolute (cwd p : Bytes) :
    absolute cwd p = [] ∨ clean (absolute cwd p) = absolute cwd p := by
  unfold absolute
  split
  · exact .inr (clean_clean p)
  · exact clean_join [cwd, p]

/-! ## The form of clean paths -/

/-- A segment that leads down to something. -/
def IsName (s : Bytes) : Prop := slash ∉ s ∧ s ≠ [] ∧ s ≠ dot ∧ s ≠ dotdot

instance (s : Bytes) : Decidable (IsName s) :=
  inferInstanceAs (Decidable (slash ∉ s ∧ s ≠ [] ∧ s ≠ dot ∧ s ≠ dotdot))

/-- Paths in their shortest form. -/
inductive IsClean : Bytes → Prop where
  | dot : IsClean dot
  | rooted {names : List Bytes} : (∀ s ∈ names, IsName s) → IsClean (slash :: Bytes.join [slash] names)
  /-- A relative path may go up first. -/
  | relative {ups : Nat} {names : List Bytes} : (∀ s ∈ names, IsName s) →
      List.replicate ups dotdot ++ names ≠ [] →
      IsClean (Bytes.join [slash] (List.replicate ups dotdot ++ names))

theorem Kept.exists_names {rooted : Bool} {l : List Bytes} (h : Kept rooted l) :
    ∃ ups names, l.reverse = List.replicate ups dotdot ++ names ∧ (∀ s ∈ names, IsName s) ∧
      (rooted = true → ups = 0) := by
  induction l with
  | nil => exact ⟨0, [], rfl, List.forall_mem_nil _, fun _ => rfl⟩
  | cons s below ih =>
    obtain ⟨⟨hslash, hne, hdot, hup⟩, hbelow⟩ := h
    by_cases hs : s = dotdot
    · obtain ⟨hrooted, hall⟩ := hup hs
      have hsame : below = List.replicate below.length dotdot := List.eq_replicate_iff.mpr ⟨rfl, hall⟩
      refine ⟨below.length + 1, [], ?_, List.forall_mem_nil _, fun htrue => by rw [hrooted] at htrue; cases htrue⟩
      rw [List.reverse_cons, hsame, hs, List.reverse_replicate, List.length_replicate, List.append_nil,
        List.replicate_succ']
    · obtain ⟨ups, names, heq, hnames, hups⟩ := ih hbelow
      refine ⟨ups, names ++ [s], ?_, ?_, hups⟩
      · rw [List.reverse_cons, heq, List.append_assoc]
      · rw [List.forall_mem_append, List.forall_mem_singleton]
        exact ⟨hnames, hslash, hne, hdot, hs⟩

theorem isClean_clean (p : Bytes) : IsClean (clean p) := by
  obtain ⟨ups, names, heq, hnames, hups⟩ := (kept_segments p).exists_names
  rw [List.reverse_reverse] at heq
  cases habs : isAbs p with
  | true =>
    rw [clean_of_isAbs habs, heq, hups habs]
    exact .rooted hnames
  | false =>
    rw [clean_of_not_isAbs habs]
    split
    · exact .dot
    · rename_i hne
      rw [heq] at hne ⊢
      exact .relative hnames fun hnil => hne (by rw [hnil]; rfl)

private theorem isAbs_clean {p : Bytes} (h : isAbs p = true) : isAbs (clean p) = true := by
  rw [clean_of_isAbs h]
  rfl

theorem join_of_ne_nil {dir : Bytes} (h : dir ≠ []) (parts : List Bytes) :
    join (dir :: parts) = clean (Bytes.join [slash] (dir :: parts)) := by
  rw [join, List.dropWhile_cons_of_neg (by simpa using h)]

theorem isAbs_join_cons {dir : Bytes} (h : isAbs dir = true) (parts : List Bytes) :
    isAbs (join (dir :: parts)) = true := by
  cases dir with
  | nil => cases h
  | cons b dir =>
    rw [join_of_ne_nil (List.cons_ne_nil b dir)]
    apply isAbs_clean
    cases parts <;> simpa [Bytes.join, List.intercalate, isAbs] using h

theorem isAbs_absolute {cwd : Bytes} (h : isAbs cwd = true) (p : Bytes) : isAbs (absolute cwd p) = true := by
  unfold absolute
  split
  · rename_i hp
    exact isAbs_clean hp
  · exact isAbs_join_cons h [p]

end LineStore.Path
