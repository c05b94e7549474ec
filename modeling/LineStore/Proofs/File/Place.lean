import LineStore.File.Disk
import LineStore.Proofs.File.Path
/-!
# Where paths lead

A path leads from the root directory down by names; what it holds in front of them stays there.  Putting a
name behind such a path leads one name further, `Leads.child`, and all paths below a root lead on from the
same place, `leads_join`.
-/
namespace LineStore

private theorem Bytes.join_concat {sep : UInt8} {l : List Bytes} (hne : l ≠ []) (x : Bytes) :
    join [sep] (l ++ [x]) = join [sep] l ++ [sep] ++ x := by
  induction l with
  | nil => exact absurd rfl hne
  | cons s l ih =>
    cases l with
    | nil => simp [join, List.intercalate]
    | cons t l =>
      have hl := ih (List.cons_ne_nil t l)
      simp only [join, List.intercalate, List.cons_append, List.intersperse_cons_cons, List.flatten_cons] at hl ⊢
      rw [hl]
      simp

namespace Path

private theorem push_name {rooted : Bool} {kept : List Bytes} {s : Bytes} (hs : IsName s) :
    push rooted kept s = s :: kept := by
  obtain ⟨-, hne, hdot, hup⟩ := hs
  rw [push, if_neg (not_or.mpr ⟨hne, hdot⟩), if_neg hup]

private theorem foldl_names {rooted : Bool} {kept names : List Bytes} (h : ∀ s ∈ names, IsName s) :
    names.foldl (push rooted) kept = names.reverse ++ kept := by
  induction names generalizing kept with
  | nil => rfl
  | cons s names ih =>
    obtain ⟨hs, hnames⟩ := List.forall_mem_cons.mp h
    rw [List.foldl_cons, push_name hs, ih hnames, List.reverse_cons, List.append_assoc, List.singleton_append]

theorem IsName.segment {s : Bytes} (hs : IsName s) : slash ∉ s ∧ s ≠ [] := ⟨hs.1, hs.2.1⟩

private theorem IsName.forall_reverse {x : Bytes} (hx : IsName x) :
    ∀ b ∈ x.reverse, (b != slash) = true := by
  intro b hb
  exact bne_iff_ne.mpr fun he => hx.1 (he ▸ List.mem_reverse.mp hb)

private theorem isAbs_append {p : Bytes} (hp : p ≠ []) (q : Bytes) : isAbs (p ++ q) = isAbs p := by
  cases p with
  | nil => exact absurd rfl hp
  | cons b p => rfl

private theorem segments_of_split {p : Bytes} {front names : List Bytes}
    (hsplit : Bytes.splitOn slash p = front ++ names) (h : ∀ s ∈ names, IsName s) :
    segments p = reduce (isAbs p) [] front ++ names := by
  rw [segments, hsplit, reduce_eq_foldl, reduce_eq_foldl, List.foldl_append, foldl_names h,
    List.reverse_append, List.reverse_reverse]

private theorem segments_append {p : Bytes} (hp : p ≠ []) {names : List Bytes} (hne : names ≠ [])
    (h : ∀ s ∈ names, IsName s) :
    segments (p ++ [slash] ++ Bytes.join [slash] names) = segments p ++ names := by
  have hsplit : Bytes.splitOn slash (p ++ [slash] ++ Bytes.join [slash] names) =
      Bytes.splitOn slash p ++ names := by
    rw [Bytes.splitOn_append, Bytes.splitOn_join hne fun s hs => (h s hs).1]
  rw [segments_of_split hsplit h, List.append_assoc, isAbs_append hp, ← segments]

private theorem clean_slash {p : Bytes} (hp : p ≠ []) : clean (p ++ [slash]) = clean p := by
  have hsplit : Bytes.splitOn slash (p ++ [slash]) = Bytes.splitOn slash p ++ [[]] := by
    have happend := Bytes.splitOn_append slash p []
    rwa [List.append_nil] at happend
  have hsegments : reduce (isAbs p) [] (Bytes.splitOn slash p ++ [[]]) =
      reduce (isAbs p) [] (Bytes.splitOn slash p) := by
    rw [reduce_eq_foldl, reduce_eq_foldl, List.foldl_append]
    rfl
  rw [clean, clean, hsplit, isAbs_append hp, hsegments]

private theorem clean_child {p x : Bytes} (hp : p ≠ []) (hsegments : segments p ≠ [])
    (hx : IsName x) :
    clean (p ++ [slash] ++ x) = clean p ++ [slash] ++ x := by
  have hone : Bytes.join [slash] [x] = x := by simp [Bytes.join, List.intercalate]
  have hsegs := segments_append hp (List.cons_ne_nil x []) (List.forall_mem_singleton.mpr hx)
  rw [hone] at hsegs
  have hsame : isAbs (p ++ [slash] ++ x) = isAbs p := by rw [List.append_assoc, isAbs_append hp]
  cases habs : isAbs p with
  | true =>
    rw [clean_of_isAbs (hsame.trans habs), clean_of_isAbs habs, hsegs, Bytes.join_concat hsegments]
    rfl
  | false =>
    rw [clean_of_not_isAbs (hsame.trans habs), clean_of_not_isAbs habs, hsegs, Bytes.join_concat hsegments]
    simp [hsegments]

theorem base_child {x : Bytes} (hx : IsName x) (p : Bytes) : base (p ++ [slash] ++ x) = x := by
  have hlast : (p ++ [slash] ++ x).reverse.dropWhile (· == slash) = (p ++ [slash] ++ x).reverse := by
    rw [List.reverse_append]
    cases hrev : x.reverse with
    | nil => exact absurd (List.reverse_eq_nil_iff.mp hrev) hx.2.1
    | cons b rest =>
      have hb : (b == slash) = false := by
        simpa [bne] using hx.forall_reverse b (hrev ▸ List.mem_cons_self)
      rw [List.cons_append, List.dropWhile_cons_of_neg (by simp [hb])]
  have htake : afterLastSlash (p ++ [slash] ++ x) = x := by
    rw [afterLastSlash, List.reverse_append, List.takeWhile_append_of_pos hx.forall_reverse,
      List.reverse_append]
    simp
  simp only [base, hlast, List.reverse_reverse, htake]
  simp

/-- A clean path that leads from the root directory down by some names, at least one. -/
structure Leads (p : Bytes) (names : List Bytes) : Prop where
  clean : Path.clean p = p
  /-- What stands in front of the names does not leave the root directory. -/
  split : ∃ ups, Bytes.splitOn slash p = ups ++ names ∧ ∀ s ∈ ups, s = [] ∨ s = dotdot
  ne_nil : names ≠ []
  names : ∀ s ∈ names, IsName s

namespace Leads

variable {p x : Bytes} {names : List Bytes}

/-- The names, the last one first, are segments of a place. -/
theorem segments_place (h : Leads p names) : ∀ s ∈ names.reverse, slash ∉ s ∧ s ≠ [] :=
  fun s hs => (h.names s (List.mem_reverse.mp hs)).segment

theorem path_ne_nil (h : Leads p names) : p ≠ [] := by
  intro hp
  have hclean := h.clean
  rw [hp] at hclean
  cases hclean

private theorem segments_ne_nil (h : Leads p names) : segments p ≠ [] := by
  obtain ⟨ups, hsplit, -⟩ := h.split
  rw [segments_of_split hsplit h.names]
  exact List.append_ne_nil_of_right_ne_nil _ h.ne_nil

theorem child (h : Leads p names) (hx : IsName x) : Leads (p ++ [slash] ++ x) (names ++ [x]) where
  clean := by rw [clean_child h.path_ne_nil h.segments_ne_nil hx, h.clean]
  split := by
    obtain ⟨ups, hsplit, hups⟩ := h.split
    refine ⟨ups, ?_, hups⟩
    rw [Bytes.splitOn_append, hsplit, Bytes.splitOn_of_not_mem hx.1, List.append_assoc]
  names := List.forall_mem_append.mpr ⟨h.names, List.forall_mem_singleton.mpr hx⟩
  ne_nil := List.append_ne_nil_of_right_ne_nil _ (List.cons_ne_nil x [])

theorem join_name (h : Leads p names) (hx : IsName x) : join [p, x] = p ++ [slash] ++ x := by
  have htwo : Bytes.join [slash] [p, x] = p ++ [slash] ++ x :=
    Bytes.join_concat (List.cons_ne_nil p []) x |>.trans (by simp [Bytes.join, List.intercalate])
  rw [join_of_ne_nil h.path_ne_nil, htwo, (h.child hx).clean]

theorem parent_child (h : Leads p names) (hx : IsName x) : parent (p ++ [slash] ++ x) = p := by
  have hdrop : (p ++ [slash] ++ x).reverse.dropWhile (· != slash) = (p ++ [slash]).reverse := by
    rw [List.reverse_append, List.dropWhile_append_of_pos hx.forall_reverse, List.reverse_append]
    rfl
  rw [parent, hdrop, List.reverse_reverse, clean_slash h.path_ne_nil, h.clean]

/-- Seen from the root directory, the path is one of its segments in front of the names. -/
theorem split_full (h : Leads p names) : ∃ ups,
    Bytes.splitOn slash (if isAbs p then p else [slash] ++ [slash] ++ p) = ups ++ names ∧
      ∀ s ∈ ups, s = [] ∨ s = dotdot := by
  obtain ⟨ups, hsplit, hups⟩ := h.split
  split
  · exact ⟨ups, hsplit, hups⟩
  · refine ⟨[[], []] ++ ups, ?_, ?_⟩
    · rw [Bytes.splitOn_append, hsplit, List.append_assoc]
      rfl
    · rw [List.forall_mem_append]
      exact ⟨by simp, hups⟩

private theorem absolute_eq (h : Leads p names) :
    absolute [slash] p = slash :: Bytes.join [slash] names := by
  obtain ⟨ups, hsplit, hups⟩ := h.split_full
  have hfront : reduce true [] ups = [] := by
    clear hsplit
    induction ups with
    | nil => rfl
    | cons s ups ih =>
      obtain ⟨hs, hrest⟩ := List.forall_mem_cons.mp hups
      rcases hs with rfl | rfl
      · exact ih hrest
      · exact ih hrest
  cases habs : isAbs p with
  | true =>
    rw [habs, if_pos rfl] at hsplit
    rw [absolute, habs, if_pos rfl, clean_of_isAbs habs, segments_of_split hsplit h.names, habs, hfront]
    rfl
  | false =>
    rw [habs, if_neg Bool.false_ne_true] at hsplit
    have htwo : Bytes.join [slash] [[slash], p] = [slash] ++ [slash] ++ p := by
      simp [Bytes.join, List.intercalate]
    have hroot : isAbs ([slash] ++ [slash] ++ p) = true := rfl
    rw [absolute, habs, if_neg Bool.false_ne_true, join_of_ne_nil (List.cons_ne_nil _ _), htwo,
      clean_of_isAbs hroot, segments_of_split hsplit h.names, hroot, hfront]
    rfl

end Leads

private theorem leads_clean {p : Bytes} {ups : Nat} {names : List Bytes}
    (hsegments : segments p = List.replicate ups dotdot ++ names) (h : ∀ s ∈ names, IsName s)
    (hne : names ≠ []) : Leads (clean p) names where
  clean := clean_clean p
  split := by
    have hsegments_ne : segments p ≠ [] := hsegments ▸ List.append_ne_nil_of_right_ne_nil _ hne
    have hsplit : Bytes.splitOn slash (Bytes.join [slash] (segments p)) = segments p :=
      Bytes.splitOn_join hsegments_ne fun s hs => (not_mem_of_mem_segments hs).1
    cases habs : isAbs p with
    | true =>
      refine ⟨[] :: List.replicate ups dotdot, ?_, ?_⟩
      · rw [clean_of_isAbs habs, Bytes.splitOn, if_pos rfl, hsplit, hsegments, List.cons_append]
      · rw [List.forall_mem_cons]
        exact ⟨.inl rfl, fun s hs => .inr (List.eq_of_mem_replicate hs)⟩
    | false =>
      refine ⟨List.replicate ups dotdot, ?_, fun s hs => .inr (List.eq_of_mem_replicate hs)⟩
      rw [clean_of_not_isAbs habs, if_neg (by simpa using hsegments_ne), hsplit, hsegments]
  names := h
  ne_nil := hne

/-- Paths below a root all lead on from where the root itself leads. -/
theorem leads_join (root : Bytes) : ∃ above : List Bytes, (∀ s ∈ above, IsName s) ∧
    ∀ names : List Bytes, names ≠ [] → (∀ s ∈ names, IsName s) →
      Leads (join [root, Bytes.join [slash] names]) (above ++ names) := by
  obtain ⟨ups, above, heq, habove, -⟩ := (kept_segments root).exists_names
  rw [List.reverse_reverse] at heq
  refine ⟨above, habove, ?_⟩
  intro names hne hnames
  have hall : ∀ s ∈ above ++ names, IsName s := List.forall_mem_append.mpr ⟨habove, hnames⟩
  have hjoin : ∃ t, join [root, Bytes.join [slash] names] = clean t ∧ segments t = segments root ++ names := by
    cases root with
    | nil =>
      have hsplit : Bytes.splitOn slash (Bytes.join [slash] names) = [] ++ names :=
        Bytes.splitOn_join hne fun s hs => (hnames s hs).1
      refine ⟨Bytes.join [slash] names, ?_, segments_of_split hsplit hnames⟩
      have hnil : Bytes.join [slash] names ≠ [] := by
        intro hnil
        rw [hnil] at hsplit
        have hmem : [] ∈ names := by
          rw [List.nil_append] at hsplit
          exact hsplit ▸ List.mem_singleton_self []
        exact (hnames [] hmem).2.1 rfl
      rw [join, List.dropWhile_cons_of_pos rfl, List.dropWhile_cons_of_neg (by simpa using hnil)]
      simp [Bytes.join, List.intercalate]
    | cons b root =>
      refine ⟨(b :: root) ++ [slash] ++ Bytes.join [slash] names, ?_,
        segments_append (List.cons_ne_nil b root) hne hnames⟩
      rw [join_of_ne_nil (List.cons_ne_nil b root)]
      simp [Bytes.join, List.intercalate]
  obtain ⟨t, ht, hsegments⟩ := hjoin
  rw [ht]
  apply leads_clean (hsegments.trans (by rw [heq, List.append_assoc])) hall
  exact List.append_ne_nil_of_right_ne_nil _ hne

end Path

namespace Disk

open LineStore.Path

theorem pathOf_cons {place : List Bytes} (hne : place ≠ []) (s : Bytes) :
    pathOf (s :: place) = pathOf place ++ [slash] ++ s := by
  rw [pathOf, List.reverse_cons, Bytes.join_concat (by simpa using hne)]
  rfl

private theorem splitOn_pathOf {place : List Bytes} (h : ∀ s ∈ place, slash ∉ s) :
    Bytes.splitOn slash (pathOf place) = [] :: if place = [] then [[]] else place.reverse := by
  rw [pathOf, Bytes.splitOn, if_pos rfl]
  split
  · rename_i hnil
    rw [hnil]
    rfl
  · rename_i hne
    rw [Bytes.splitOn_join (by simpa using hne) fun s hs => h s (List.mem_reverse.mp hs)]

/-- Places are told apart by their paths. -/
theorem eq_of_pathOf {place place' : List Bytes} (h : ∀ s ∈ place, slash ∉ s ∧ s ≠ [])
    (h' : ∀ s ∈ place', slash ∉ s ∧ s ≠ []) (heq : pathOf place = pathOf place') : place = place' := by
  have hsplit := congrArg (Bytes.splitOn slash) heq
  rw [splitOn_pathOf fun s hs => (h s hs).1, splitOn_pathOf fun s hs => (h' s hs).1, List.cons.injEq] at hsplit
  -- No segment is empty, so the root directory has a path of its own.
  have hnot : ∀ {l : List Bytes}, (∀ s ∈ l, slash ∉ s ∧ s ≠ []) → [[]] ≠ l.reverse := by
    intro l hl hnil
    have hmem : [] ∈ l.reverse := hnil ▸ List.mem_singleton_self []
    exact (hl [] (List.mem_reverse.mp hmem)).2 rfl
  by_cases hnil : place = []
  · by_cases hnil' : place' = []
    · rw [hnil, hnil']
    · rw [if_pos hnil, if_neg hnil'] at hsplit
      exact absurd hsplit.2 (hnot h')
  · by_cases hnil' : place' = []
    · rw [if_neg hnil, if_pos hnil'] at hsplit
      exact absurd hsplit.2.symm (hnot h)
    · rw [if_neg hnil, if_neg hnil'] at hsplit
      exact List.reverse_inj.mp hsplit.2

theorem pathOf_ne_root {place : List Bytes} (h : ∀ s ∈ place, slash ∉ s ∧ s ≠ []) (hne : place ≠ []) :
    pathOf place ≠ [slash] := by
  intro heq
  have hempty : ∀ s ∈ ([] : List Bytes), slash ∉ s ∧ s ≠ [] := List.forall_mem_nil _
  exact hne (eq_of_pathOf h hempty heq)

theorem leads_pathOf {place : List Bytes} (h : ∀ s ∈ place, IsName s) (hne : place ≠ []) :
    Leads (pathOf place) place.reverse := by
  have hnames : ∀ s ∈ place.reverse, IsName s := fun s hs => h s (List.mem_reverse.mp hs)
  have hsplit : Bytes.splitOn slash (pathOf place) = [[]] ++ place.reverse := by
    rw [splitOn_pathOf fun s hs => (h s hs).1, if_neg hne]
    rfl
  refine ⟨?_, ⟨[[]], hsplit, by simp⟩, by simpa using hne, hnames⟩
  have habs : isAbs (pathOf place) = true := rfl
  rw [clean_of_isAbs habs, segments_of_split hsplit hnames, habs]
  rfl

theorem segmentsOf_pathOf {place : List Bytes} (h : ∀ s ∈ place, slash ∉ s ∧ s ≠ []) :
    segmentsOf (pathOf place) = place := by
  rw [segmentsOf, splitOn_pathOf fun s hs => (h s hs).1]
  split
  · rename_i hnil
    rw [hnil]
    rfl
  · have hfilter : place.reverse.filter (!·.isEmpty) = place.reverse := by
      refine List.filter_eq_self.mpr ?_
      intro s hs
      simpa using (h s (List.mem_reverse.mp hs)).2
    rw [List.filter_cons_of_neg (by simp), hfilter, List.reverse_reverse]

/-- Seen from the root directory, a path is that of the place it leads to. -/
theorem absolute_of_leads {p : Bytes} {names : List Bytes} (h : Leads p names) :
    absolute [slash] p = pathOf names.reverse := by
  rw [h.absolute_eq, pathOf, List.reverse_reverse]

end Disk
end LineStore
