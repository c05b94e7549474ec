import LineStore.Docs.Generate
import LineStore.Proofs.File.Disk
/-!
# Generating documents twice

Where the pages of a tree of documents could be generated, every document has both its pages, and generating
them once more finds nothing to do, `generate_again`.  The pages of a document are nobody else's, and no
document is among them: what is read and written stands in three directories.
-/
namespace LineStore.Docs

open LineStore.Path Disk

variable {manual : Bytes → Bytes} {l : Layout} {c m p : List Bytes} {d d' : Disk} {t t' : Tree}

/-! ## One file -/

/-- A file holds a text, up to white space at its ends. -/
def Holds (d : Disk) (path data : Bytes) : Prop :=
  ∃ old, d.readFile origin path = .ok old ∧ Space.trim old = Space.trim data

private theorem update_of_holds {path data : Bytes} (h : Holds t.disk path data) :
    update true t path data = .ok t := by
  obtain ⟨old, hread, htrim⟩ := h
  simp only [update, Bool.not_true, Bool.false_eq_true, if_false, hread, if_pos htrim]

private theorem put_ok {path data : Bytes} (h : put t path data = .ok t') :
    t.disk.writeFile origin path data = .ok t'.disk := by
  rw [put] at h
  split at h
  · rename_i disk hwrite
    cases h
    exact hwrite
  · cases h

private theorem update_cases {path data : Bytes} (h : update true t path data = .ok t') :
    t' = t ∧ Holds t.disk path data ∨ t.disk.writeFile origin path data = .ok t'.disk := by
  simp only [update, Bool.not_true, Bool.false_eq_true, if_false] at h
  split at h
  · exact .inr (put_ok h)
  · cases h
  · rename_i old hread
    split at h
    · rename_i htrim
      cases h
      exact .inl ⟨rfl, old, hread, htrim⟩
    · exact .inr (put_ok h)

private theorem update_ok {dir x data : Bytes} {names : List Bytes} (hleads : Path.Leads dir names)
    (hdir : t.disk.IsDir names.reverse) (hx : IsName x) (h : update true t (join [dir, x]) data = .ok t') :
    Holds t'.disk (join [dir, x]) data ∧ Frame (· = x :: names.reverse) t.disk t'.disk := by
  rcases update_cases h with ⟨rfl, hholds⟩ | hwrite
  · exact ⟨hholds, .refl _ _⟩
  · obtain ⟨hnot, mtime, hdisk⟩ := writeFile_child hleads hdir hx hwrite
    have hplace : ∀ s ∈ x :: names.reverse, slash ∉ s ∧ s ≠ [] :=
      List.forall_mem_cons.mpr ⟨hx.segment, hleads.segments_place⟩
    have hframe : Frame (· = x :: names.reverse) t.disk t'.disk := by
      rw [hdisk]
      exact frame_withNode hplace (.inl hnot)
    refine ⟨⟨data, ?_, rfl⟩, hframe⟩
    rw [origin, readFile_child hleads (hframe.dirs _ hdir) hx, hdisk,
      nodeAt_withNode (List.cons_ne_nil x names.reverse)]

private theorem Holds.frame {dir x data : Bytes} {names : List Bytes} {touched : List Bytes → Prop}
    (h : Holds d (join [dir, x]) data) (hframe : Frame touched d d') (hleads : Path.Leads dir names)
    (hdir : d.IsDir names.reverse) (hx : IsName x) (hnot : ¬ touched (x :: names.reverse)) :
    Holds d' (join [dir, x]) data := by
  obtain ⟨old, hread, htrim⟩ := h
  exact ⟨old, (hframe.readFile_child hleads hdir hx hnot).trans hread, htrim⟩

/-! ## Names of pages -/

/-- Names of the files that are documents. -/
structure IsDocument (name : Bytes) : Prop where
  bare : slash ∉ name
  ends : utf8 ".md" <:+ name

private theorem isName_of_length {x : Bytes} (hslash : slash ∉ x) (hlen : 2 < x.length) :
    IsName x := by
  refine ⟨hslash, ?_, ?_, ?_⟩
  all_goals
    rintro rfl
    exact absurd hlen (by decide)

namespace IsDocument

variable {name name' : Bytes}

private theorem isName (h : IsDocument name) : IsName name := by
  have hlen : (utf8 ".md").length ≤ name.length := h.ends.length_le
  exact isName_of_length h.bare hlen

private theorem isName_page (h : IsDocument name) {front back : Bytes} (hfront : slash ∉ front)
    (hback : slash ∉ back) (hlen : 2 < front.length) :
    IsName (front ++ Bytes.trimEnd (utf8 ".md") name ++ back) := by
  obtain ⟨command, rfl⟩ := h.ends
  have hbare := h.bare
  rw [List.mem_append, not_or] at hbare
  rw [Bytes.trimEnd_append]
  apply isName_of_length
  · simp [hfront, hback, hbare.1]
  · simp only [List.length_append]
    omega

private theorem page_inj (h : IsDocument name) (h' : IsDocument name') {front back : Bytes}
    (heq : front ++ Bytes.trimEnd (utf8 ".md") name ++ back =
      front ++ Bytes.trimEnd (utf8 ".md") name' ++ back) : name = name' := by
  obtain ⟨command, rfl⟩ := h.ends
  obtain ⟨command', rfl⟩ := h'.ends
  rw [Bytes.trimEnd_append, Bytes.trimEnd_append] at heq
  rw [List.append_cancel_left (List.append_cancel_right heq)]

private theorem isName_manualName (h : IsDocument name) : IsName (manualName name) :=
  h.isName_page (by decide +kernel) (by decide +kernel) (by decide +kernel)

private theorem isName_pageName (h : IsDocument name) : IsName (pageName name) :=
  h.isName_page (by decide +kernel) (by decide +kernel) (by decide +kernel)

private theorem manualName_inj (h : IsDocument name) (h' : IsDocument name')
    (heq : manualName name = manualName name') :
    name = name' := h.page_inj h' heq

private theorem pageName_inj (h : IsDocument name) (h' : IsDocument name')
    (heq : pageName name = pageName name') :
    name = name' := h.page_inj h' heq

end IsDocument

/-! ## One document -/

/-- The directories of a layout lead to three places; that of the documents is not above the others. -/
structure Layout.Leads (l : Layout) (c m p : List Bytes) : Prop where
  commands : Path.Leads l.commands c
  manuals : Path.Leads l.manuals m
  pages : Path.Leads l.pages p
  commands_manuals : ¬ c <+: m
  commands_pages : ¬ c <+: p
  manuals_pages : m ≠ p

private theorem Layout.exists_leads (root : Bytes) : ∃ c m p, (Layout.of root).Leads c m p := by
  obtain ⟨above, -, hbelow⟩ := leads_join root
  refine ⟨above ++ [utf8 "docs", utf8 "commands"],
    above ++ [utf8 "docs", utf8 "man", utf8 "share", utf8 "man1"],
    above ++ [utf8 "docs", utf8 "tldr"], ?_, ?_, ?_, ?_, ?_, ?_⟩
  · exact hbelow [utf8 "docs", utf8 "commands"] (by decide) (by decide +kernel)
  · exact hbelow [utf8 "docs", utf8 "man", utf8 "share", utf8 "man1"] (by decide) (by decide +kernel)
  · exact hbelow [utf8 "docs", utf8 "tldr"] (by decide) (by decide +kernel)
  · rw [List.prefix_append_right_inj]
    decide +kernel
  · rw [List.prefix_append_right_inj]
    decide +kernel
  · rw [Ne, List.append_cancel_left_eq]
    decide +kernel

/-- The three directories are there. -/
structure Ready (c m p : List Bytes) (d : Disk) : Prop where
  commands : d.IsDir c.reverse
  manuals : d.IsDir m.reverse
  pages : d.IsDir p.reverse

private theorem Ready.frame {touched : List Bytes → Prop} (h : Ready c m p d)
    (hframe : Frame touched d d') :
    Ready c m p d' :=
  ⟨hframe.dirs _ h.commands, hframe.dirs _ h.manuals, hframe.dirs _ h.pages⟩

/-- A document has both its pages, up to white space at their ends. -/
def Documented (manual : Bytes → Bytes) (l : Layout) (d : Disk) (name : Bytes) : Prop :=
  ∃ md content, d.readFile origin (join [l.commands, name]) = .ok md ∧ Page.content md = .ok content ∧
    Holds d (join [l.manuals, manualName name]) (manual md) ∧
    Holds d (join [l.pages, pageName name]) (Page.render (Bytes.trimEnd (utf8 ".md") name) content)

/-- Where the pages of a document are. -/
def Touched (m p : List Bytes) (name : Bytes) (place : List Bytes) : Prop :=
  place = manualName name :: m.reverse ∨ place = pageName name :: p.reverse

private theorem not_touched_commands (hl : l.Leads c m p) (name x : Bytes) :
    ¬ Touched m p name (x :: c.reverse) := by
  rintro (heq | heq)
  · exact hl.commands_manuals (List.reverse_inj.mp (List.cons.inj heq).2 ▸ List.prefix_rfl)
  · exact hl.commands_pages (List.reverse_inj.mp (List.cons.inj heq).2 ▸ List.prefix_rfl)

private theorem Documented.frame {name name' : Bytes} (h : Documented manual l d name')
    (hl : l.Leads c m p)
    (hready : Ready c m p d) (hname : IsDocument name) (hname' : IsDocument name') (hne : name' ≠ name)
    (hframe : Frame (Touched m p name) d d') : Documented manual l d' name' := by
  obtain ⟨md, content, hread, hcontent, hmanual, hpage⟩ := h
  have hother : ¬ Touched m p name (manualName name' :: m.reverse) := by
    rintro (heq | heq)
    · exact hne (hname'.manualName_inj hname (List.cons.inj heq).1)
    · exact hl.manuals_pages (List.reverse_inj.mp (List.cons.inj heq).2)
  have hother' : ¬ Touched m p name (pageName name' :: p.reverse) := by
    rintro (heq | heq)
    · exact hl.manuals_pages (List.reverse_inj.mp (List.cons.inj heq).2).symm
    · exact hne (hname'.pageName_inj hname (List.cons.inj heq).1)
  refine ⟨md, content, ?_, hcontent, ?_, ?_⟩
  · rw [← hread]
    exact hframe.readFile_child hl.commands hready.commands hname'.isName (not_touched_commands hl name name')
  · exact hmanual.frame hframe hl.manuals hready.manuals hname'.isName_manualName hother
  · exact hpage.frame hframe hl.pages hready.pages hname'.isName_pageName hother'

private theorem generateOne_of_documented {name : Bytes} (h : Documented manual l t.disk name) :
    generateOne manual true l t name = (.ok (), t) := by
  obtain ⟨md, content, hread, hcontent, hmanual, hpage⟩ := h
  simp only [generateOne, hread, update_of_holds hmanual, hcontent, update_of_holds hpage]

private theorem generateOne_ok {name : Bytes} (hl : l.Leads c m p) (hready : Ready c m p t.disk)
    (hname : IsDocument name) (h : generateOne manual true l t name = (.ok (), t')) :
    Documented manual l t'.disk name ∧ Frame (Touched m p name) t.disk t'.disk := by
  simp only [generateOne] at h
  split at h
  · cases h
  · rename_i md hread
    split at h
    · cases h
    · rename_i t₁ hfirst
      split at h
      · cases h
      · rename_i content hcontent
        split at h
        · cases h
        · rename_i t₂ hsecond
          cases h
          obtain ⟨hmanual, hframe₁⟩ := update_ok hl.manuals hready.manuals hname.isName_manualName hfirst
          have hready₁ := hready.frame hframe₁
          obtain ⟨hpage, hframe₂⟩ := update_ok hl.pages hready₁.pages hname.isName_pageName hsecond
          have hframe : Frame (Touched m p name) t.disk t'.disk :=
            (hframe₁.mono fun _ => .inl).trans (hframe₂.mono fun _ => .inr)
          refine ⟨⟨md, content, ?_, hcontent, ?_, hpage⟩, hframe⟩
          · rw [← hread]
            exact hframe.readFile_child hl.commands hready.commands hname.isName
              (not_touched_commands hl name name)
          · exact hmanual.frame hframe₂ hl.manuals hready₁.manuals hname.isName_manualName
              fun heq => hl.manuals_pages (List.reverse_inj.mp (List.cons.inj heq).2)

/-! ## All documents -/

private theorem generateAll_of_documented {names : List Bytes}
    (h : ∀ name ∈ names, Documented manual l t.disk name)
    (n : Nat) : generateAll manual true l names n t = { processed := n + names.length, tree := t } := by
  induction names generalizing n with
  | nil => rfl
  | cons name names ih =>
    obtain ⟨hname, hnames⟩ := List.forall_mem_cons.mp h
    rw [generateAll, generateOne_of_documented hname]
    dsimp only
    rw [ih hnames, List.length_cons, Nat.add_assoc, Nat.add_comm 1]

private theorem generateAll_ok {names : List Bytes} {n : Nat} (hl : l.Leads c m p)
    (hready : Ready c m p t.disk)
    (hnames : ∀ name ∈ names, IsDocument name) (h : (generateAll manual true l names n t).error = none) :
    (generateAll manual true l names n t).processed = n + names.length ∧
      Frame (fun place => ∃ name ∈ names, Touched m p name place) t.disk
        (generateAll manual true l names n t).tree.disk ∧
      ∀ name, IsDocument name → name ∈ names ∨ Documented manual l t.disk name →
        Documented manual l (generateAll manual true l names n t).tree.disk name := by
  induction names generalizing n t with
  | nil =>
    refine ⟨rfl, .refl _ _, ?_⟩
    intro name _ hname
    exact hname.resolve_left List.not_mem_nil
  | cons first names ih =>
    obtain ⟨hfirst, hrest⟩ := List.forall_mem_cons.mp hnames
    rw [generateAll] at h ⊢
    cases hone : generateOne manual true l t first with
    | mk result t₁ =>
      rw [hone] at h
      cases result with
      | error e => cases h
      | ok =>
        obtain ⟨hdone, hframe₁⟩ := generateOne_ok hl hready hfirst hone
        obtain ⟨hcount, hframe₂, hall⟩ := ih (hready.frame hframe₁) hrest h
        refine ⟨?_, ?_, ?_⟩
        · rw [List.length_cons, ← Nat.add_assoc, Nat.add_right_comm]
          exact hcount
        · refine (hframe₁.mono ?_).trans (hframe₂.mono ?_)
          · exact fun place hplace => ⟨first, List.mem_cons_self, hplace⟩
          · rintro place ⟨name, hname, hplace⟩
            exact ⟨name, List.mem_cons_of_mem first hname, hplace⟩
        · intro name hname hor
          apply hall name hname
          by_cases heq : name = first
          · rw [heq]
            exact .inr hdone
          · rcases hor with hmem | hbefore
            · exact .inl ((List.mem_cons.mp hmem).resolve_left heq)
            · exact .inr (hbefore.frame hl hready hfirst hname heq hframe₁)

/-! ## A whole tree -/

private theorem documents_of_list {dir : Bytes} {entries : List (Bytes × DiskNode)}
    (h : d.list origin dir = .ok entries) : documents d dir = .ok (entries.filterMap document?) := by
  rw [documents, h]
  rfl

private theorem list_of_documents {dir : Bytes} {names : List Bytes}
    (h : documents d dir = .ok names) :
    ∃ entries, d.list origin dir = .ok entries ∧ names = entries.filterMap document? := by
  cases hlist : d.list origin dir with
  | error e =>
    rw [documents, hlist] at h
    cases h
  | ok entries =>
    rw [documents_of_list hlist] at h
    cases h
    exact ⟨entries, rfl, rfl⟩

private theorem document?_eq_some {e : Bytes × DiskNode} {name : Bytes} :
    document? e = some name ↔ e.1 = name ∧ e.2 ≠ .dir ∧ Bytes.endsWith (utf8 ".md") name = true := by
  rw [document?]
  split
  · rename_i h
    rw [Bool.and_eq_true, bne_iff_ne] at h
    rw [Option.some.injEq]
    exact ⟨fun heq => ⟨heq, h.1, heq ▸ h.2⟩, fun heq => heq.1⟩
  · rename_i h
    rw [Bool.and_eq_true, bne_iff_ne] at h
    refine ⟨nofun, ?_⟩
    rintro ⟨rfl, hnode, hends⟩
    exact absurd ⟨hnode, hends⟩ h

private theorem generate_cases {root : Bytes} (h : (generate manual true root d).error = none) :
    ∃ d₁ d₂ names, d.makeDirs origin (Layout.of root).manuals = (none, d₁) ∧
      d₁.makeDirs origin (Layout.of root).pages = (none, d₂) ∧
      documents d₂ (Layout.of root).commands = .ok names ∧
      generate manual true root d = generateAll manual true (Layout.of root) names 0 ⟨d₂, []⟩ := by
  simp only [generate, makeDirs] at h ⊢
  rcases hmanuals : d.makeDirs origin (Layout.of root).manuals with ⟨file, d₁⟩
  rw [hmanuals] at h
  cases file with
  | some file => cases h
  | none =>
    rcases hpages : d₁.makeDirs origin (Layout.of root).pages with ⟨file, d₂⟩
    simp only [hpages] at h
    cases file with
    | some file => cases h
    | none =>
      dsimp only at h
      cases hdocuments : documents d₂ (Layout.of root).commands with
      | error e =>
        rw [hdocuments] at h
        cases h
      | ok names => exact ⟨d₁, d₂, names, rfl, hpages, hdocuments, by simp only [hpages, hdocuments]⟩

private theorem generate_of_documented {root : Bytes} {names : List Bytes}
    (hl : (Layout.of root).Leads c m p)
    (hready : Ready c m p d) (hdocuments : documents d (Layout.of root).commands = .ok names)
    (h : ∀ name ∈ names, Documented manual (Layout.of root) d name) :
    generate manual true root d = { processed := names.length, tree := ⟨d, []⟩ } := by
  have hmanuals : d.makeDirs origin (Layout.of root).manuals = (none, d) :=
    makeDirs_of_isDir hl.manuals hready.manuals
  have hpages : d.makeDirs origin (Layout.of root).pages = (none, d) :=
    makeDirs_of_isDir hl.pages hready.pages
  have hall := generateAll_of_documented (t := ⟨d, []⟩) h 0
  rw [Nat.zero_add] at hall
  simp only [generate, makeDirs, hmanuals, hpages, hdocuments, hall]

private theorem ready_of_makeDirs {d₁ d₂ : Disk} {entries : List (Bytes × DiskNode)}
    (hl : l.Leads c m p)
    (htree : d.IsTree) (hmanuals : d.makeDirs origin l.manuals = (none, d₁))
    (hpages : d₁.makeDirs origin l.pages = (none, d₂)) (hlist : d₂.list origin l.commands = .ok entries) :
    Ready c m p d₂ ∧ d.list origin l.commands = .ok entries ∧ ∀ x, IsName x →
      d₂.readFile origin (join [l.commands, x]) = d.readFile origin (join [l.commands, x]) := by
  obtain ⟨hmanualsdir, hframe₁⟩ := isDir_of_makeDirs hl.manuals hmanuals
  obtain ⟨hpagesdir, hframe₂⟩ := isDir_of_makeDirs hl.pages hpages
  let touched : List Bytes → Prop := fun q => q <:+ m.reverse ∨ q <:+ p.reverse
  have hframe : Frame touched d d₂ :=
    (hframe₁.mono fun q hq => .inl hq.2).trans (hframe₂.mono fun q hq => .inr hq.2)
  have hnot : ¬ touched c.reverse := by
    rintro (hsuffix | hsuffix)
    · exact hl.commands_manuals (List.reverse_suffix.mp hsuffix)
    · exact hl.commands_pages (List.reverse_suffix.mp hsuffix)
  have hbelow : ∀ x, ¬ touched (x :: c.reverse) := fun x hx =>
    hnot (hx.imp (List.suffix_cons x c.reverse).trans (List.suffix_cons x c.reverse).trans)
  have hcommands : d₂.IsDir c.reverse := isDir_of_list hl.commands hlist
  have hbefore : d.IsDir c.reverse := by
    apply htree.isDir fun s hs => hl.commands.names s (List.mem_reverse.mp hs)
    rw [← hframe.nodes _ hl.commands.segments_place hnot]
    exact hcommands.nodeAt
  refine ⟨⟨hcommands, hframe₂.dirs _ hmanualsdir, hpagesdir⟩, ?_, ?_⟩
  · exact (hframe.list_eq hl.commands hbefore hbelow).symm.trans hlist
  · intro x hx
    exact hframe.readFile_child hl.commands hbefore hx (hbelow x)

private theorem generateAll_keeps {names : List Bytes} {entries : List (Bytes × DiskNode)}
    (hl : l.Leads c m p)
    (hready : Ready c m p d)
    (hframe : Frame (fun place => ∃ name ∈ names, Touched m p name place) d d')
    (hlist : d.list origin l.commands = .ok entries) :
    d'.list origin l.commands = .ok entries ∧ ∀ x, IsName x →
      d'.readFile origin (join [l.commands, x]) = d.readFile origin (join [l.commands, x]) := by
  -- The run over the documents of a tree leaves them as they are.
  have hnot : ∀ x, ¬ ∃ name ∈ names, Touched m p name (x :: c.reverse) := by
    rintro x ⟨name, -, htouched⟩
    exact not_touched_commands hl name x htouched
  refine ⟨(hframe.list_eq hl.commands hready.commands hnot).trans hlist, ?_⟩
  intro x hx
  exact hframe.readFile_child hl.commands hready.commands hx (hnot x)

/-- Pages that could be generated are there for every document, and the documents are as they were.  Generating
them again does as much and writes nothing. -/
theorem generate_again (manual : Bytes → Bytes) (root : Bytes) (d : Disk) (htree : d.IsTree)
    (hok : (generate manual true root d).error = none) :
    let l := Layout.of root
    let o := generate manual true root d
    ∃ entries, d.list origin l.commands = .ok entries ∧ o.tree.disk.list origin l.commands = .ok entries ∧
      o.processed = entries.countP (fun e => e.2 != .dir && Bytes.endsWith (utf8 ".md") e.1) ∧
      (∀ name data mtime, (name, .file data mtime) ∈ entries → Bytes.endsWith (utf8 ".md") name = true →
        ∃ content, Page.content data = .ok content ∧
          Holds o.tree.disk (join [l.manuals, manualName name]) (manual data) ∧
          Holds o.tree.disk (join [l.pages, pageName name])
            (Page.render (Bytes.trimEnd (utf8 ".md") name) content)) ∧
      generate manual true root o.tree.disk =
        { processed := o.processed, error := none, tree := ⟨o.tree.disk, []⟩ } := by
  intro l o
  obtain ⟨c, m, p, hl⟩ := Layout.exists_leads root
  obtain ⟨d₁, d₂, names, hmanuals, hpages, hdocuments, hrun⟩ := generate_cases hok
  obtain ⟨entries, hlist₂, hnames⟩ := list_of_documents hdocuments
  obtain ⟨hready, hlist, hread⟩ := ready_of_makeDirs hl htree hmanuals hpages hlist₂
  have hdocument : ∀ name ∈ names, IsDocument name := by
    rw [hnames]
    intro name hmem
    obtain ⟨e, he, hsome⟩ := List.mem_filterMap.mp hmem
    obtain ⟨rfl, -, hends⟩ := document?_eq_some.mp hsome
    exact ⟨slash_not_mem_of_mem_list hl.commands hlist he, Bytes.endsWith_iff.mp hends⟩
  have ho : o = generateAll manual true l names 0 ⟨d₂, []⟩ := hrun
  have hdone : o.error = none := hok
  clear_value o
  subst ho
  obtain ⟨hcount, hframe, hall⟩ := generateAll_ok hl hready hdocument hdone
  rw [Nat.zero_add] at hcount
  obtain ⟨hlist', hread'⟩ := generateAll_keeps hl hready hframe hlist₂
  have hagain := generate_of_documented hl (hready.frame hframe)
    ((documents_of_list hlist').trans (congrArg Except.ok hnames.symm))
    fun name hmem => hall name (hdocument name hmem) (.inl hmem)
  refine ⟨entries, hlist, hlist', ?_, ?_, ?_⟩
  · rw [hcount, hnames, List.length_filterMap_eq_countP]
    refine List.countP_congr ?_
    rintro ⟨name, node⟩ -
    simp [document?]
  · intro name data mtime hmem hends
    have hname : name ∈ names := by
      rw [hnames, List.mem_filterMap]
      exact ⟨_, hmem, document?_eq_some.mpr ⟨rfl, nofun, hends⟩⟩
    obtain ⟨md, content, hmd, hcontent, hmanual, hpage⟩ := hall name (hdocument name hname) (.inl hname)
    have hname' := (hdocument name hname).isName
    have hdata : d.readFile origin (join [l.commands, name]) = .ok data :=
      htree.readFile_of_mem_list hl.commands hname' hlist hmem
    have heq : md = data := by
      rw [hread' name hname', hread name hname', hdata] at hmd
      exact (Except.ok.inj hmd).symm
    rw [heq] at hcontent hmanual
    exact ⟨content, hcontent, hmanual, hpage⟩
  · rw [hagain, hcount]

/-- A document without a manual page, and a page of examples for it that ends in a blank line. -/
def oneDocument : Disk :=
  (({} : Disk).putFile (utf8 "/r/docs/commands/show.md") (utf8 "Print lines\n") ⟨7, 0⟩).putFile
    (utf8 "/r/docs/tldr/linecache-show.md") (Page.render (utf8 "show") ⟨[], [], []⟩ ++ [0x0a]) ⟨7, 0⟩

theorem generate_again_one_document :
    let manual : Bytes → Bytes := fun md => utf8 ".nh\n\n.PP\n" ++ md
    let o := generate manual true (utf8 "/r") oneDocument
    oneDocument.IsTree ∧ o.error = none ∧
      o.tree.written = [utf8 "/r/docs/man/share/man1/linecache-show.1"] ∧
      generate manual true (utf8 "/r") o.tree.disk =
        { processed := 1, error := none, tree := ⟨o.tree.disk, []⟩ } := by
  intro manual o
  have htree : oneDocument.IsTree := by decide +kernel
  have hok : o.error = none := by decide +kernel
  have hcount : o.processed = 1 := by decide +kernel
  obtain ⟨_, _, _, _, _, hagain⟩ := generate_again manual (utf8 "/r") oneDocument htree hok
  exact ⟨htree, hok, by decide +kernel, hcount ▸ hagain⟩

end LineStore.Docs
