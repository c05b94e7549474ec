import LineStore.Proofs.Data.Assoc
import LineStore.Proofs.File.Place
/-!
# Files and directories

What a path leads to below a directory is what stands at its place, `readFile_child`, and a file is written
there, `writeFile_child`.  A change of a disk that puts no file in the place of a directory keeps every
directory, and what it does not touch, `Frame`.
-/
namespace LineStore.Disk

open LineStore.Path

variable {d d' : Disk} {p x : Bytes} {names place : List Bytes}

/-- A place is a directory, and so is every place above it. -/
def IsDir (d : Disk) : List Bytes → Prop
  | [] => True
  | s :: above => d.nodeAt (s :: above) = some .dir ∧ d.IsDir above

theorem IsDir.nodeAt (h : d.IsDir place) : d.nodeAt place = some .dir := by
  cases place with
  | nil => rfl
  | cons s above => exact h.1

private theorem IsDir.of_append {l : List Bytes} (h : d.IsDir (l ++ place)) : d.IsDir place := by
  induction l with
  | nil => exact h
  | cons s l ih => exact ih h.2

/-! ## Walking -/

private theorem walk_ups {ups : List Bytes} (h : ∀ s ∈ ups, s = [] ∨ s = dotdot)
    (rest : List Bytes) :
    d.walk [] (ups ++ rest) = d.walk [] rest := by
  induction ups with
  | nil => rfl
  | cons s ups ih =>
    obtain ⟨hs, hups⟩ := List.forall_mem_cons.mp h
    rw [← ih hups, List.cons_append, walk]
    rcases hs with rfl | rfl <;> rfl

private theorem walk_name (hdir : d.nodeAt place = some .dir) (hx : IsName x) (rest : List Bytes) :
    d.walk place (x :: rest) =
      match d.nodeAt (x :: place) with
      | none => .error .notExist
      | some _ => d.walk (x :: place) rest := by
  obtain ⟨-, hne, hdot, hup⟩ := hx
  cases hnode : d.nodeAt (x :: place) <;>
    simp only [walk, hdir, if_neg (not_or.mpr ⟨hne, hdot⟩), if_neg hup, hnode]

private theorem walk_dirs (h : ∀ s ∈ names, IsName s) (hdir : d.IsDir (names.reverse ++ place))
    (rest : List Bytes) :
    d.walk place (names ++ rest) = d.walk (names.reverse ++ place) rest := by
  induction names generalizing place with
  | nil => rfl
  | cons s names ih =>
    obtain ⟨hs, hnames⟩ := List.forall_mem_cons.mp h
    rw [List.reverse_cons, List.append_assoc, List.singleton_append] at hdir ⊢
    have hbelow : d.IsDir (s :: place) := hdir.of_append
    rw [List.cons_append, walk_name hbelow.2.nodeAt hs, hbelow.1]
    exact ih hnames hdir

private theorem isDir_of_walk {place' : List Bytes} (h : ∀ s ∈ names, IsName s)
    (hdir : d.IsDir place)
    (hwalk : d.walk place names = .ok place') (hnode : d.nodeAt place' = some .dir) :
    place' = names.reverse ++ place ∧ d.IsDir place' := by
  induction names generalizing place with
  | nil =>
    cases hwalk
    exact ⟨rfl, hdir⟩
  | cons s names ih =>
    obtain ⟨hs, hnames⟩ := List.forall_mem_cons.mp h
    rw [walk_name hdir.nodeAt hs] at hwalk
    cases hs' : d.nodeAt (s :: place) with
    | none =>
      rw [hs'] at hwalk
      cases hwalk
    | some node =>
      simp only [hs'] at hwalk
      have hnext : node = .dir := by
        cases names with
        | nil =>
          cases hwalk
          exact Option.some.inj (hs'.symm.trans hnode)
        | cons t names =>
          -- The walk goes on from a directory only.
          rw [walk, hs'] at hwalk
          cases node with
          | file data mtime => cases hwalk
          | dir => rfl
      rw [hnext] at hs'
      have hbelow : d.IsDir (s :: place) := ⟨hs', hdir⟩
      obtain ⟨rfl, hends⟩ := ih hnames hbelow hwalk
      rw [List.reverse_cons, List.append_assoc, List.singleton_append]
      exact ⟨rfl, hends⟩

/-! ## Finding -/

private theorem find_eq (h : Leads p names) : d.find [slash] p =
    match d.walk [] names with
    | .error e => .error e
    | .ok place =>
      match d.nodeAt place with
      | some n => .ok (pathOf place, n)
      | none => .error .notExist := by
  obtain ⟨ups, hsplit, hups⟩ := h.split_full
  have hempty : ¬ p.isEmpty = true := by simpa using h.path_ne_nil
  cases hwalk : d.walk [] names with
  | error e => simp only [find, if_neg hempty, hsplit, walk_ups hups, hwalk]
  | ok place =>
    cases hnode : d.nodeAt place <;>
      simp only [find, if_neg hempty, hsplit, walk_ups hups, hwalk, hnode]

private theorem find_dir (h : Leads p names) (hdir : d.IsDir names.reverse) :
    d.find [slash] p = .ok (pathOf names.reverse, .dir) := by
  have hwalk : d.walk [] (names ++ []) = d.walk (names.reverse ++ []) [] :=
    walk_dirs h.names (by rwa [List.append_nil]) []
  rw [List.append_nil, List.append_nil] at hwalk
  rw [find_eq h, hwalk, walk]
  simp only [hdir.nodeAt]

private theorem isDir_of_find {full : Bytes} (h : Leads p names)
    (hfind : d.find [slash] p = .ok (full, .dir)) :
    full = pathOf names.reverse ∧ d.IsDir names.reverse := by
  rw [find_eq h] at hfind
  cases hwalk : d.walk [] names with
  | error e =>
    rw [hwalk] at hfind
    cases hfind
  | ok place =>
    simp only [hwalk] at hfind
    cases hnode : d.nodeAt place with
    | none =>
      rw [hnode] at hfind
      cases hfind
    | some n =>
      rw [hnode] at hfind
      cases hfind
      have hroot : d.IsDir [] := trivial
      obtain ⟨rfl, hdir⟩ := isDir_of_walk h.names hroot hwalk hnode
      rw [List.append_nil] at hdir ⊢
      exact ⟨rfl, hdir⟩

private theorem find_child (h : Leads p names) (hdir : d.IsDir names.reverse) (hx : IsName x) :
    d.find [slash] (join [p, x]) =
      match d.nodeAt (x :: names.reverse) with
      | some n => .ok (pathOf (x :: names.reverse), n)
      | none => .error .notExist := by
  have hwalk : d.walk [] (names ++ [x]) = d.walk (names.reverse ++ []) [x] :=
    walk_dirs h.names (by rwa [List.append_nil]) [x]
  rw [List.append_nil, walk_name hdir.nodeAt hx] at hwalk
  rw [h.join_name hx, find_eq (h.child hx), hwalk]
  cases hnode : d.nodeAt (x :: names.reverse) with
  | none => rfl
  | some n => simp only [walk, hnode]

theorem readFile_child (h : Leads p names) (hdir : d.IsDir names.reverse) (hx : IsName x) :
    d.readFile [slash] (join [p, x]) =
      match d.nodeAt (x :: names.reverse) with
      | some (.file data _) => .ok data
      | some .dir => .error (utf8 "read", .isDir)
      | none => .error (utf8 "open", .notExist) := by
  rw [readFile, find_child h hdir hx]
  cases d.nodeAt (x :: names.reverse) with
  | none => rfl
  | some n => cases n <;> rfl

private theorem list_dir (h : Leads p names) (hdir : d.IsDir names.reverse) :
    d.list [slash] p = .ok (d.children (pathOf names.reverse)) := by
  rw [list, find_dir h hdir]

theorem isDir_of_list {entries : List (Bytes × DiskNode)} (h : Leads p names)
    (hlist : d.list [slash] p = .ok entries) : d.IsDir names.reverse := by
  rw [list] at hlist
  split at hlist
  · rename_i hfind
    exact (isDir_of_find h hfind).2
  · cases hlist
  · cases hlist

/-! ## Putting something at a place -/

/-- The disk with something at a place. -/
def withNode (d : Disk) (place : List Bytes) (n : DiskNode) : Disk := ⟨d.nodes.set (pathOf place) n⟩

theorem nodeAt_withNode (hne : place ≠ []) (n : DiskNode) : (d.withNode place n).nodeAt place = some n := by
  rw [nodeAt, if_neg (by simpa using hne), withNode, Assoc.get?_set_self]

/-- What changes between two disks: no directory goes, and nothing does at the places that are not touched. -/
structure Frame (touched : List Bytes → Prop) (d d' : Disk) : Prop where
  dirs : ∀ place, d.IsDir place → d'.IsDir place
  nodes : ∀ place, (∀ s ∈ place, slash ∉ s ∧ s ≠ []) → ¬ touched place → d'.nodeAt place = d.nodeAt place
  children : ∀ place, place ≠ [] → (∀ s ∈ place, slash ∉ s ∧ s ≠ []) → (∀ x, ¬ touched (x :: place)) →
    d'.children (pathOf place) = d.children (pathOf place)

namespace Frame

variable {touched touched' : List Bytes → Prop}

theorem refl (touched : List Bytes → Prop) (d : Disk) : Frame touched d d :=
  ⟨fun _ h => h, fun _ _ _ => rfl, fun _ _ _ _ => rfl⟩

theorem trans {d₁ d₂ d₃ : Disk} (h : Frame touched d₁ d₂) (h' : Frame touched d₂ d₃) :
    Frame touched d₁ d₃ where
  dirs place hdir := h'.dirs place (h.dirs place hdir)
  nodes place hplace hnot := (h'.nodes place hplace hnot).trans (h.nodes place hplace hnot)
  children place hne hplace hnot :=
    (h'.children place hne hplace hnot).trans (h.children place hne hplace hnot)

theorem mono (h : Frame touched d d') (hle : ∀ place, touched place → touched' place) :
    Frame touched' d d' where
  dirs := h.dirs
  nodes place hplace hnot := h.nodes place hplace fun ht => hnot (hle place ht)
  children place hne hplace hnot := h.children place hne hplace fun x ht => hnot x (hle _ ht)

theorem readFile_child (hframe : Frame touched d d') (h : Leads p names) (hdir : d.IsDir names.reverse)
    (hx : IsName x) (hnot : ¬ touched (x :: names.reverse)) :
    d'.readFile [slash] (join [p, x]) = d.readFile [slash] (join [p, x]) := by
  have hplace : ∀ s ∈ x :: names.reverse, slash ∉ s ∧ s ≠ [] :=
    List.forall_mem_cons.mpr ⟨hx.segment, h.segments_place⟩
  rw [Disk.readFile_child h hdir hx, Disk.readFile_child h (hframe.dirs _ hdir) hx, hframe.nodes _ hplace hnot]

/-- A directory nothing is touched in is listed as it was. -/
theorem list_eq (hframe : Frame touched d d') (h : Leads p names) (hdir : d.IsDir names.reverse)
    (hnot : ∀ x, ¬ touched (x :: names.reverse)) : d'.list [slash] p = d.list [slash] p := by
  have hne : names.reverse ≠ [] := by simpa using h.ne_nil
  rw [list_dir h hdir, list_dir h (hframe.dirs _ hdir), hframe.children _ hne h.segments_place hnot]

end Frame

private theorem childOf?_eq_some {q name : Bytes} {n m : DiskNode} (hne : place ≠ []) :
    childOf? (pathOf place ++ [slash]) (q, m) = some (name, n) ↔
      q = pathOf (name :: place) ∧ m = n ∧ slash ∉ name ∧ name ≠ [] := by
  rw [pathOf_cons hne, childOf?]
  constructor
  · intro h
    split at h
    · rename_i name' hdrop
      split at h
      · cases h
      · rename_i hname
        cases h
        rw [Bool.or_eq_true, not_or] at hname
        refine ⟨Bytes.eq_of_dropStart? hdrop, rfl, ?_, by simpa using hname.1⟩
        intro hmem
        exact hname.2 (List.any_eq_true.mpr ⟨slash, hmem, beq_self_eq_true slash⟩)
    · cases h
  · rintro ⟨rfl, rfl, hslash, hname⟩
    have hany : name.any (· == slash) = false := by
      rw [List.any_eq_false]
      intro b hb
      simpa using fun he : b = slash => hslash (he ▸ hb)
    have hempty : name.isEmpty = false := by simpa using hname
    rw [Bytes.dropStart?_append]
    simp only [hempty, hany, Bool.or_self, Bool.false_eq_true, if_false]

private theorem children_eq (hplace : ∀ s ∈ place, slash ∉ s ∧ s ≠ []) (hne : place ≠ []) :
    d.children (pathOf place) =
      (Assoc.mk (d.nodes.pairs.filterMap (childOf? (pathOf place ++ [slash])))).sorted := by
  rw [children, if_neg (pathOf_ne_root hplace hne)]

theorem frame_withNode {n : DiskNode} (hplace : ∀ s ∈ place, slash ∉ s ∧ s ≠ [])
    (hnot : d.nodes.get? (pathOf place) ≠ some .dir ∨ n = .dir) : Frame (· = place) d (d.withNode place n) where
  dirs place' hdir := by
    induction place' with
    | nil => trivial
    | cons s above ih =>
      obtain ⟨hnode, habove⟩ := hdir
      refine ⟨?_, ih habove⟩
      have hget : d.nodes.get? (pathOf (s :: above)) = some .dir := hnode
      change (d.nodes.set (pathOf place) n).get? (pathOf (s :: above)) = some .dir
      rw [Assoc.get?_set]
      split
      · rename_i heq
        rcases hnot with hnot | rfl
        · exact absurd (heq ▸ hget) hnot
        · rfl
      · exact hget
  nodes place' hplace' hne := by
    have hpath : pathOf place' ≠ pathOf place := fun heq => hne (eq_of_pathOf hplace' hplace heq)
    rw [nodeAt, nodeAt, withNode, Assoc.get?_set, if_neg hpath]
  children dir hne hdir hbelow := by
    have hnone : ∀ m, childOf? (pathOf dir ++ [slash]) (pathOf place, m) = none := by
      intro m
      rw [Option.eq_none_iff_forall_ne_some]
      rintro ⟨name, k⟩ hsome
      obtain ⟨heq, -, hname⟩ := (childOf?_eq_some hne).mp hsome
      exact hbelow name (eq_of_pathOf (List.forall_mem_cons.mpr ⟨hname, hdir⟩) hplace heq.symm)
    rw [children_eq hdir hne, children_eq hdir hne, withNode, Assoc.filterMap_set hnone]

/-! ## Making directories -/

private theorem frame_addDirs (hplace : ∀ s ∈ place, slash ∉ s ∧ s ≠ []) :
    Frame (fun q => q ≠ [] ∧ q <:+ place) d (d.addDirs place) := by
  induction place with
  | nil => exact .refl _ d
  | cons s above ih =>
    have habove := ih fun t ht => hplace t (List.mem_cons_of_mem s ht)
    have hfirst : Frame (fun q => q ≠ [] ∧ q <:+ s :: above) d (d.addDirs above) :=
      habove.mono fun q hq => ⟨hq.1, hq.2.trans (List.suffix_cons s above)⟩
    rw [addDirs]
    split
    · exact hfirst
    · have hlast : Frame (· = s :: above) (d.addDirs above) ((d.addDirs above).withNode (s :: above) .dir) :=
        frame_withNode hplace (.inr rfl)
      refine hfirst.trans (hlast.mono ?_)
      rintro q rfl
      exact ⟨List.cons_ne_nil s above, List.suffix_rfl⟩

private theorem nodeAt_addDirs (d : Disk) (place q : List Bytes) :
    (d.addDirs place).nodeAt q = d.nodeAt q ∨ (d.addDirs place).nodeAt q = some .dir := by
  induction place with
  | nil => exact .inl rfl
  | cons s above ih =>
    rw [addDirs]
    split
    · exact ih
    · rw [nodeAt, nodeAt] at ih ⊢
      split
      · exact .inl rfl
      · rename_i hq
        rw [if_neg hq, if_neg hq] at ih
        rw [Assoc.get?_set]
        split
        · exact .inr rfl
        · exact ih

private theorem isDir_addDirs (hplace : ∀ s ∈ place, slash ∉ s ∧ s ≠ [])
    (hfree : d.fileInWay? place = none) :
    (d.addDirs place).IsDir place := by
  induction place with
  | nil => trivial
  | cons s above ih =>
    rw [fileInWay?] at hfree
    cases habove : d.fileInWay? above with
    | some file =>
      rw [habove] at hfree
      cases hfree
    | none =>
      rw [habove] at hfree
      have hfile : d.isFileAt (s :: above) = false := by simpa using hfree
      have hdir := ih (fun t ht => hplace t (List.mem_cons_of_mem s ht)) habove
      rw [addDirs]
      split
      · rename_i hsome
        refine ⟨?_, hdir⟩
        rcases nodeAt_addDirs d above (s :: above) with hsame | hnew
        · rw [hsame] at hsome ⊢
          cases hnode : d.nodeAt (s :: above) with
          | none =>
            rw [hnode] at hsome
            cases hsome
          | some n =>
            cases n with
            | file data mtime =>
              rw [isFileAt, hnode] at hfile
              cases hfile
            | dir => rfl
        · exact hnew
      · have hlast : Frame (· = s :: above) (d.addDirs above) ((d.addDirs above).withNode (s :: above) .dir) :=
          frame_withNode hplace (.inr rfl)
        exact ⟨nodeAt_withNode (List.cons_ne_nil s above) .dir, hlast.dirs above hdir⟩

private theorem fileInWay?_of_isDir (hdir : d.IsDir place) : d.fileInWay? place = none := by
  induction place with
  | nil => rfl
  | cons s above ih =>
    rw [fileInWay?, ih hdir.2]
    have hfile : d.isFileAt (s :: above) = false := by rw [isFileAt, hdir.1]
    simp [hfile]

private theorem addDirs_of_isDir (hdir : d.IsDir place) : d.addDirs place = d := by
  induction place with
  | nil => rfl
  | cons s above ih =>
    rw [addDirs, ih hdir.2, hdir.1]
    rfl

private theorem makeDirs_eq (h : Leads p names) : d.makeDirs [slash] p =
    match d.fileInWay? names.reverse with
    | some file => (some (Nat.repeat parent (names.length - file.length) p), d)
    | none => (none, d.addDirs names.reverse) := by
  have hsegments : segmentsOf (absolute [slash] p) = names.reverse := by
    rw [absolute_of_leads h, segmentsOf_pathOf h.segments_place]
  cases hfree : d.fileInWay? names.reverse <;>
    simp only [makeDirs, hsegments, List.length_reverse, hfree]

/-- Making directories that are there changes nothing. -/
theorem makeDirs_of_isDir (h : Leads p names) (hdir : d.IsDir names.reverse) :
    d.makeDirs [slash] p = (none, d) := by
  rw [makeDirs_eq h, fileInWay?_of_isDir hdir, addDirs_of_isDir hdir]

/-- Directories that could be made are there, and nothing else is changed. -/
theorem isDir_of_makeDirs (h : Leads p names) (hmake : d.makeDirs [slash] p = (none, d')) :
    d'.IsDir names.reverse ∧ Frame (fun q => q ≠ [] ∧ q <:+ names.reverse) d d' := by
  rw [makeDirs_eq h] at hmake
  cases hfree : d.fileInWay? names.reverse with
  | some file =>
    rw [hfree] at hmake
    cases hmake
  | none =>
    rw [hfree] at hmake
    cases hmake
    exact ⟨isDir_addDirs h.segments_place hfree, frame_addDirs h.segments_place⟩

/-! ## Writing -/

/-- A file that was written is in the place of no directory. -/
theorem writeFile_child {data : Bytes} (h : Leads p names) (hdir : d.IsDir names.reverse) (hx : IsName x)
    (hwrite : d.writeFile [slash] (join [p, x]) data = .ok d') :
    d.nodeAt (x :: names.reverse) ≠ some .dir ∧
      ∃ mtime, d' = d.withNode (x :: names.reverse) (.file data mtime) := by
  have hne : names.reverse ≠ [] := by simpa using h.ne_nil
  rw [writeFile, find_child h hdir hx] at hwrite
  cases hnode : d.nodeAt (x :: names.reverse) with
  | none =>
    rw [hnode, h.join_name hx, h.parent_child hx, find_dir h hdir, base_child hx] at hwrite
    simp only [if_neg (pathOf_ne_root h.segments_place hne)] at hwrite
    rw [← pathOf_cons hne] at hwrite
    cases hwrite
    exact ⟨nofun, ⟨0, 0⟩, rfl⟩
  | some n =>
    rw [hnode] at hwrite
    cases n with
    | file old mtime =>
      cases hwrite
      exact ⟨nofun, mtime, rfl⟩
    | dir => cases hwrite

/-! ## Well-formed disks -/

/-- Every path is there once, in a directory. -/
structure IsTree (d : Disk) : Prop where
  distinct : d.nodes.Distinct
  inside : ∀ e ∈ d.nodes.pairs, parent e.1 = [slash] ∨ d.nodes.get? (parent e.1) = some .dir

instance (d : Disk) : Decidable d.IsTree :=
  decidable_of_iff (d.nodes.Distinct ∧
      ∀ e ∈ d.nodes.pairs, parent e.1 = [slash] ∨ d.nodes.get? (parent e.1) = some .dir)
    ⟨fun h => ⟨h.1, h.2⟩, fun h => ⟨h.distinct, h.inside⟩⟩

theorem IsTree.isDir (h : d.IsTree) (hplace : ∀ s ∈ place, IsName s) (hnode : d.nodeAt place = some .dir) :
    d.IsDir place := by
  induction place with
  | nil => trivial
  | cons s above ih =>
    obtain ⟨hs, habove⟩ := List.forall_mem_cons.mp hplace
    refine ⟨hnode, ?_⟩
    by_cases hne : above = []
    · rw [hne]
      trivial
    · have hmem : (pathOf (s :: above), DiskNode.dir) ∈ d.nodes.pairs :=
        (Assoc.mem_pairs_iff h.distinct).mpr hnode
      have hparent : parent (pathOf (s :: above)) = pathOf above := by
        rw [pathOf_cons hne, (leads_pathOf habove hne).parent_child hs]
      have hinside := h.inside _ hmem
      rw [hparent] at hinside
      apply ih habove
      rcases hinside with hroot | hget
      · exact absurd hroot (pathOf_ne_root (fun t ht => (habove t ht).segment) hne)
      · rwa [nodeAt, if_neg (by simpa using hne)]

theorem slash_not_mem_of_mem_list {entries : List (Bytes × DiskNode)} {e : Bytes × DiskNode} (h : Leads p names)
    (hlist : d.list [slash] p = .ok entries) (hmem : e ∈ entries) : slash ∉ e.1 := by
  have hne : names.reverse ≠ [] := by simpa using h.ne_nil
  rw [list_dir h (isDir_of_list h hlist)] at hlist
  cases hlist
  rw [children_eq h.segments_place hne, Assoc.sorted, List.mem_mergeSort, List.mem_filterMap] at hmem
  obtain ⟨⟨q, n⟩, -, hchild⟩ := hmem
  obtain ⟨-, -, hslash, -⟩ := (childOf?_eq_some hne).mp hchild
  exact hslash

/-- The files of a directory are read as they are listed. -/
theorem IsTree.readFile_of_mem_list {entries : List (Bytes × DiskNode)} {data : Bytes} {mtime : Time.Instant}
    (htree : d.IsTree) (h : Leads p names) (hx : IsName x) (hlist : d.list [slash] p = .ok entries)
    (hmem : (x, .file data mtime) ∈ entries) : d.readFile [slash] (join [p, x]) = .ok data := by
  have hdir := isDir_of_list h hlist
  have hne : names.reverse ≠ [] := by simpa using h.ne_nil
  rw [list_dir h hdir] at hlist
  cases hlist
  rw [children_eq h.segments_place hne, Assoc.sorted, List.mem_mergeSort, List.mem_filterMap] at hmem
  obtain ⟨⟨q, n⟩, hpair, hchild⟩ := hmem
  obtain ⟨rfl, rfl, -⟩ := (childOf?_eq_some hne).mp hchild
  have hnode : d.nodeAt (x :: names.reverse) = some (.file data mtime) :=
    (Assoc.mem_pairs_iff htree.distinct).mp hpair
  rw [readFile_child h hdir hx, hnode]

end LineStore.Disk
