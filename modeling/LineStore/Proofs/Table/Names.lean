import LineStore.Proofs.Table.Accepted
/-!
# The names of columns

A spec changes one attribute of a list or appends one, and gives it a name that another attribute may have
already.  While no spec does, the names stay distinct, and none is empty unless a spec gives an empty one.  A
name that one attribute has alone stands for its cell: the cell is shown under it, and filters and sort keys
with that name go by it, `addAll_columns`.
-/
namespace LineStore

namespace Attribute

/-- The specs of some texts, one after the other. -/
def specsOf (values : List Bytes) : List Bytes :=
  values.flatMap fun v => if v.isEmpty ∨ v = wildcard then [] else Bytes.splitOn 0x2c v

/-- The attributes but the one that a spec for `a` changes. -/
def others (a : Attribute) (l : List Attribute) : List Attribute := l.eraseP (·.answersTo a.key)

/-- Does a spec give no name?  Then its name is of white space, or it has none and its key ends in a dot. -/
def unnamed (spec : Bytes) : Bool :=
  match Bytes.splitOn 0x3a spec with
  | _ :: name :: _ => name != [] && Space.trim name == []
  | fields => (readKey (fields.getD 0 [])).2.getLast? == some 0x2e

/-- The list after some specs. -/
def putEach (as : List Attribute) : List Attribute := as.foldl (fun l a => put a l) []

/-! ## Specs in turn -/

private theorem putAll_append (l : List Attribute) (specs more : List Bytes) :
    putAll l (specs ++ more) =
      match putAll l specs with
      | (l', none) => putAll l' more
      | (l', some e) => (l', some e) := by
  induction specs generalizing l with
  | nil => rfl
  | cons spec specs ih =>
    rw [List.cons_append, putAll, putAll]
    cases parse spec with
    | error e => rfl
    | ok a => exact ih (put a l)

theorem add_eq (l : List Attribute) (value : Bytes) : add l value = putAll l (specsOf [value]) := by
  rw [add, specsOf, List.flatMap_singleton]
  split <;> rfl

private theorem addAll_eq (l : List Attribute) (values : List Bytes) :
    addAll l values = putAll l (specsOf values) := by
  induction values generalizing l with
  | nil => rfl
  | cons v values ih =>
    have hspecs : specsOf (v :: values) = specsOf [v] ++ specsOf values := by
      simp only [specsOf, List.flatMap_cons, List.flatMap_nil, List.append_nil]
    rw [addAll, hspecs, putAll_append, add_eq]
    cases putAll l (specsOf [v]) with
    | mk l' fault =>
      cases fault with
      | none => exact ih l'
      | some e => rfl

/-- Specs that are all accepted are put into the list one after the other. -/
theorem putAll_eq_ok_iff {l l' : List Attribute} {specs : List Bytes} :
    putAll l specs = (l', none) ↔
      ∃ as, List.Forall₂ (fun spec a => parse spec = .ok a) specs as ∧ as.foldl (fun l a => put a l) l = l' := by
  induction specs generalizing l with
  | nil => simp [putAll]
  | cons spec specs ih =>
    rw [putAll]
    cases hparse : parse spec with
    | error e => simp [List.forall₂_cons_left_iff, hparse]
    | ok a => simp [List.forall₂_cons_left_iff, hparse, ih]

theorem exists_spec_of_mem {specs : List Bytes} {as : List Attribute}
    (h : List.Forall₂ (fun spec a => parse spec = .ok a) specs as) {a : Attribute} (ha : a ∈ as) :
    ∃ spec ∈ specs, parse spec = .ok a := by
  induction h with
  | nil => cases ha
  | cons hparse _ ih =>
    rcases List.mem_cons.mp ha with rfl | ha
    · exact ⟨_, List.mem_cons_self, hparse⟩
    · obtain ⟨spec, hspec, hparse⟩ := ih ha
      exact ⟨spec, List.mem_cons_of_mem _ hspec, hparse⟩

/-! ## One spec -/

private theorem put_columns (a : Attribute) (l : List Attribute) :
    ((put a l).map column).Perm (a.column :: (others a l).map column) := by
  induction l with
  | nil => exact .refl _
  | cons b l ih =>
    rw [put, others, List.eraseP_cons]
    cases hb : b.answersTo a.key with
    | true => simp
    | false =>
      simp only [Bool.false_eq_true, if_false, List.map_cons]
      exact (ih.cons b.column).trans (.swap _ _ _)

private theorem nodup_put_iff {a : Attribute} {l : List Attribute} (h : (l.map column).Nodup) :
    ((put a l).map column).Nodup ↔ a.column ∉ (others a l).map column := by
  have hothers : ((others a l).map column).Nodup := h.sublist ((List.eraseP_sublist ..).map column)
  rw [(put_columns a l).nodup_iff, List.nodup_cons, and_iff_left hothers]

private theorem mem_put {a b : Attribute} {l : List Attribute} (h : b ∈ put a l) :
    b ∈ l ∨ b.column = a.column ∧ (b.key = a.key ∨ ∃ c ∈ l, b.key = c.key) := by
  induction l with
  | nil =>
    rw [put, List.mem_singleton] at h
    exact .inr ⟨h ▸ rfl, .inl (h ▸ rfl)⟩
  | cons c l ih =>
    rw [put] at h
    split at h
    · rcases List.mem_cons.mp h with rfl | hmem
      · exact .inr ⟨rfl, .inr ⟨c, List.mem_cons_self, rfl⟩⟩
      · exact .inl (List.mem_cons_of_mem c hmem)
    · rcases List.mem_cons.mp h with rfl | hmem
      · exact .inl List.mem_cons_self
      · rcases ih hmem with hold | ⟨hcolumn, hkey | ⟨d, hd, hkey⟩⟩
        · exact .inl (List.mem_cons_of_mem c hold)
        · exact .inr ⟨hcolumn, .inl hkey⟩
        · exact .inr ⟨hcolumn, .inr ⟨d, List.mem_cons_of_mem c hd, hkey⟩⟩

/-- The name that the fields of a spec give to an attribute with a key. -/
def nameOf (key : Bytes) : List Bytes → Bytes
  | _ :: name :: _ => if name.isEmpty then key else Space.trim name
  | _ => lastSegment key

theorem parse_ok {spec : Bytes} {a : Attribute} (h : parse spec = .ok a) :
    let fields := Bytes.splitOn 0x3a spec
    a.key = (readKey (fields.getD 0 [])).2 ∧ a.key ≠ [] ∧ a.column = nameOf a.key fields := by
  simp only [parse] at h
  split at h
  · cases h
  · rename_i hkey
    cases h
    exact ⟨rfl, by simpa using hkey, rfl⟩

private theorem exists_lastSegment (key : Bytes) :
    0x2e ∉ lastSegment key ∧ (key = lastSegment key ∨ ∃ x, key = x ++ [0x2e] ++ lastSegment key) := by
  have hne : Bytes.splitOn 0x2e key ≠ [] := Bytes.splitOn_ne_nil 0x2e key
  have hlast : lastSegment key = (Bytes.splitOn 0x2e key).getLast hne := by
    rw [lastSegment, List.getLast?_eq_some_getLast hne, Option.getD_some]
  have hpieces : (Bytes.splitOn 0x2e key).dropLast ++ [lastSegment key] = Bytes.splitOn 0x2e key := by
    rw [hlast, List.dropLast_append_getLast]
  have hfree : ∀ p ∈ (Bytes.splitOn 0x2e key).dropLast ++ [lastSegment key], 0x2e ∉ p := by
    rw [hpieces]
    exact fun p hp => Bytes.not_mem_of_mem_splitOn hp
  have hseg : 0x2e ∉ lastSegment key := hfree _ (by simp)
  refine ⟨hseg, ?_⟩
  cases hinit : (Bytes.splitOn 0x2e key).dropLast with
  | nil =>
    rw [hinit, List.nil_append] at hpieces
    have hjoin := Bytes.join_splitOn 0x2e key
    rw [← hpieces, Bytes.join, List.intercalate_singleton] at hjoin
    exact .inl hjoin.symm
  | cons p init =>
    refine .inr ⟨Bytes.join [0x2e] (p :: init), ?_⟩
    have hsplit : Bytes.splitOn 0x2e (Bytes.join [0x2e] (p :: init) ++ [0x2e] ++ lastSegment key) =
        Bytes.splitOn 0x2e key := by
      rw [Bytes.splitOn_append, Bytes.splitOn_of_not_mem hseg, Bytes.splitOn_join (List.cons_ne_nil p init),
        ← hinit, hpieces]
      rw [← hinit]
      exact fun q hq => hfree q (List.mem_append_left _ hq)
    rw [← Bytes.join_splitOn 0x2e (_ ++ _), hsplit, Bytes.join_splitOn]

private theorem lastSegment_eq_nil_iff {key : Bytes} (h : key ≠ []) :
    lastSegment key = [] ↔ key.getLast? = some 0x2e := by
  obtain ⟨hfree, hwhole | ⟨x, hx⟩⟩ := exists_lastSegment key
  · constructor
    · intro hnil
      exact absurd (hwhole.trans hnil) h
    · intro hdot
      rw [← hwhole] at hfree
      exact absurd (List.mem_of_getLast? hdot) hfree
  · generalize lastSegment key = segment at hfree hx
    subst hx
    rw [List.getLast?_append]
    cases hlast : segment.getLast? with
    | none => simpa using hlast
    | some b =>
      have hb : b ≠ 0x2e := by
        rintro rfl
        exact hfree (List.mem_of_getLast? hlast)
      have hne : segment ≠ [] := by
        rintro rfl
        cases hlast
      simp [hne, hb]

private theorem column_eq_nil_iff {spec : Bytes} {a : Attribute} (h : parse spec = .ok a) :
    a.column = [] ↔ unnamed spec = true := by
  obtain ⟨hkey, hne, hcolumn⟩ := parse_ok h
  rw [hcolumn, unnamed]
  generalize Bytes.splitOn 0x3a spec = fields at hkey
  have hdot : lastSegment a.key = [] ↔ a.key.getLast? = some 0x2e := lastSegment_eq_nil_iff hne
  cases fields with
  | nil =>
    dsimp only [nameOf]
    rw [← hkey, hdot, beq_iff_eq]
  | cons field rest =>
    cases rest with
    | nil =>
      dsimp only [nameOf]
      rw [← hkey, hdot, beq_iff_eq]
    | cons name rest =>
      dsimp only [nameOf]
      by_cases hname : name = []
      · simp [hname, hne]
      · simp [hname]

/-! ## All specs -/

private theorem putEach_take_succ {as : List Attribute} {n : Nat} {a : Attribute}
    (h : as[n]? = some a) :
    putEach (as.take (n + 1)) = put a (putEach (as.take n)) := by
  rw [putEach, List.take_add_one, h, List.foldl_append]
  rfl

private theorem mem_putEach {as : List Attribute} {b : Attribute} (h : b ∈ putEach as) :
    (∃ a ∈ as, b.column = a.column) ∧ ∃ a ∈ as, b.key = a.key := by
  have hrun : ∀ (more l : List Attribute), more ⊆ as →
      (∀ b ∈ l, (∃ a ∈ as, b.column = a.column) ∧ ∃ a ∈ as, b.key = a.key) →
      ∀ b ∈ more.foldl (fun l a => put a l) l, (∃ a ∈ as, b.column = a.column) ∧ ∃ a ∈ as, b.key = a.key := by
    intro more
    induction more with
    | nil => exact fun l _ hl => hl
    | cons a more ih =>
      intro l hmore hl
      obtain ⟨ha, hmore⟩ := List.cons_subset.mp hmore
      apply ih (put a l) hmore
      intro b hb
      rcases mem_put hb with hold | ⟨hcolumn, hkey | ⟨c, hc, hkey⟩⟩
      · exact hl b hold
      · exact ⟨⟨a, ha, hcolumn⟩, a, ha, hkey⟩
      · obtain ⟨-, d, hd, hcd⟩ := hl c hc
        exact ⟨⟨a, ha, hcolumn⟩, d, hd, hkey.trans hcd⟩
  exact hrun as [] (List.Subset.refl as) (fun b hb => absurd hb List.not_mem_nil) b h

private theorem nodup_putEach_iff (as : List Attribute) :
    (∀ n, ((putEach (as.take n)).map column).Nodup) ↔
      ∀ n a, as[n]? = some a → a.column ∉ (others a (putEach (as.take n))).map column := by
  constructor
  · intro h n a ha
    have hnext := h (n + 1)
    rw [putEach_take_succ ha] at hnext
    exact (nodup_put_iff (h n)).mp hnext
  · intro h n
    induction n with
    | zero => exact List.nodup_nil
    | succ n ih =>
      cases ha : as[n]? with
      | none => rwa [List.take_add_one, ha, Option.toList_none, List.append_nil]
      | some a =>
        rw [putEach_take_succ ha]
        exact (nodup_put_iff ih).mpr (h n a ha)

end Attribute

namespace Dataset

open Attribute

variable {attrs : List Attribute} {a : Attribute}

private theorem project_cell_of_unique (ha : a ∈ attrs) (hshown : a.isWildcard = false)
    (hown : ∀ b ∈ attrs, b.column = a.column → b = a) (item : Json.Part) :
    (project attrs item).cell a.column = (item.get a.key).value := by
  have hrun : ∀ (rest : List Attribute) (row : Row), rest ⊆ attrs →
      a ∈ rest ∨ row.cell a.column = (item.get a.key).value →
      Row.cell (rest.foldl (fun row b =>
        if b.isWildcard then row else row.set b.column (item.get b.key).value) row) a.column =
          (item.get a.key).value := by
    intro rest
    induction rest with
    | nil => exact fun row _ h => h.resolve_left List.not_mem_nil
    | cons b rest ih =>
      intro row hrest h
      obtain ⟨hb, hrest⟩ := List.cons_subset.mp hrest
      apply ih _ hrest
      dsimp only
      by_cases hba : b = a
      · refine .inr ?_
        rw [hba, hshown, if_neg Bool.false_ne_true, Row.cell_set, if_pos rfl]
      · have hcolumn : a.column ≠ b.column := fun heq => hba (hown b hb heq.symm)
        refine h.imp ?_ ?_
        · intro hmem
          exact (List.mem_cons.mp hmem).resolve_left (Ne.symm hba)
        · intro hcell
          split
          · exact hcell
          · rw [Row.cell_set, if_neg hcolumn, hcell]
  exact hrun attrs .empty (List.Subset.refl attrs) (.inl ha)

private theorem judge_of_unique (ha : a ∈ attrs) (hkey : a.key ≠ []) (hshown : a.isWildcard = false)
    (hown : ∀ b ∈ attrs, b.column = a.column → b = a) (item : Json.Part) {f : Filter}
    (hf : f.key = a.column) :
    (judge attrs item [f]).accepted = (f.checkValue ((project attrs item).cell a.column)).accepted := by
  have hfirst : attrs.find? (·.column == f.key) = some a := by
    cases hfind : attrs.find? (·.column == f.key) with
    | none =>
      have hnot := List.find?_eq_none.mp hfind a ha
      simp [hf] at hnot
    | some b =>
      have hcolumn : b.column = a.column := by simpa [hf] using List.find?_some hfind
      rw [hown b (List.mem_of_find?_eq_some hfind) hcolumn]
  rw [judge_single hkey hfirst, project_cell_of_unique ha hshown hown]

/-- Of a list built from nothing: no name is empty if each spec gives one; the names are distinct after every
spec exactly if no spec takes the name of another attribute; and an attribute that has a name alone, unless it
is `*`, is the one shown under it and the one that filters and sort keys with that name go by. -/
theorem addAll_columns {values : List Bytes} {l : List Attribute} (h : addAll [] values = (l, none)) :
    ∃ as, List.Forall₂ (fun spec a => parse spec = .ok a) (specsOf values) as ∧ l = putEach as ∧
      ((∀ spec ∈ specsOf values, unnamed spec = false) → ∀ a ∈ l, a.column ≠ []) ∧
      ((∀ n, ((putEach (as.take n)).map column).Nodup) ↔
        ∀ n a, as[n]? = some a → a.column ∉ (others a (putEach (as.take n))).map column) ∧
      ∀ a ∈ l, a.isWildcard = false → (∀ b ∈ l, b.column = a.column → b = a) → ∀ item : Json.Part,
        (project l item).cell a.column = (item.get a.key).value ∧
        (∀ f : Filter, f.key = a.column →
          (judge l item [f]).accepted = (f.checkValue ((project l item).cell a.column)).accepted) ∧
        ∀ k : SortKey, k.column = a.column → ∀ item' : Json.Part,
          let o := Value.order k.caseSensitive (item.get a.key).value (item'.get a.key).value
          k.order (project l item) (project l item') = if k.descending then o.swap else o := by
  rw [addAll_eq, putAll_eq_ok_iff] at h
  obtain ⟨as, hparse, hl⟩ := h
  have hl' : l = putEach as := hl.symm
  refine ⟨as, hparse, hl', ?_, nodup_putEach_iff as, ?_⟩
  · intro hnamed a ha hnil
    rw [hl'] at ha
    obtain ⟨⟨b, hb, hcolumn⟩, -⟩ := mem_putEach ha
    obtain ⟨spec, hspec, hb⟩ := exists_spec_of_mem hparse hb
    have hunnamed : unnamed spec = true := (column_eq_nil_iff hb).mp (hcolumn ▸ hnil)
    rw [hnamed spec hspec] at hunnamed
    cases hunnamed
  · intro a ha hshown hown item
    have hkey : a.key ≠ [] := by
      obtain ⟨-, b, hb, hkey⟩ := mem_putEach (hl' ▸ ha)
      obtain ⟨spec, -, hb⟩ := exists_spec_of_mem hparse hb
      exact hkey ▸ (parse_ok hb).2.1
    refine ⟨project_cell_of_unique ha hshown hown item, ?_, ?_⟩
    · intro f hf
      exact judge_of_unique ha hkey hshown hown item hf
    · intro k hk item'
      simp only [SortKey.order, hk, project_cell_of_unique ha hshown hown]

/-- An attribute that got another name, next to the one of `*`. -/
theorem addAll_columns_renamed :
    let values := [utf8 "file,stat.size::5", utf8 "!.file: name :u,*::U"]
    let a : Attribute :=
      { key := utf8 "file", column := utf8 "name", included := false, transform := utf8 "u" }
    let l : List Attribute := [a, { key := utf8 "stat.size", column := utf8 "stat.size", transform := utf8 "5" },
      { key := wildcard, column := wildcard, included := false, transform := utf8 "U" }]
    let item := Json.parse (utf8 "\x7b\"file\":\"a.rb\",\"stat\":\x7b\"size\":3\x7d\x7d")
    addAll [] values = (l, none) ∧ (∀ spec ∈ specsOf values, unnamed spec = false) ∧
      (∀ b ∈ l, b.column ≠ []) ∧ (a ∈ l ∧ a.isWildcard = false ∧ ∀ b ∈ l, b.column = a.column → b = a) ∧
      (project l item).cell (utf8 "name") = (item.get (utf8 "file")).value ∧
      ((project l item).cell (utf8 "name")).text? = some (utf8 "a.rb") := by
  intro values a l item
  have hadd : addAll [] values = (l, none) := by decide +kernel
  have hnamed : ∀ spec ∈ specsOf values, unnamed spec = false := by decide +kernel
  have hown : ∀ b ∈ l, b.column = a.column → b = a := by decide
  obtain ⟨-, -, -, hnames, -, hcells⟩ := addAll_columns hadd
  obtain ⟨hcell, -⟩ := hcells a List.mem_cons_self (by decide) hown item
  refine ⟨hadd, hnamed, hnames hnamed, ⟨List.mem_cons_self, by decide, hown⟩, hcell, ?_⟩
  decide +kernel

/-- The path under the name of the file, where the file is not shown: the filter on the name lets a row pass for
its file and the row shows its path.  A name of white space is no name. -/
theorem addAll_columns_shared :
    let values := [utf8 "file,path", utf8 "!file,path:file"]
    let l : List Attribute := [{ key := utf8 "file", column := utf8 "file", included := false },
      { key := utf8 "path", column := utf8 "file" }]
    let item := Json.parse (utf8 "\x7b\"file\":\"a.rb\",\"path\":\"/w/a.rb\"\x7d")
    (addAll [] values = (l, none) ∧ ¬ (l.map column).Nodup ∧
      accepts l (utf8 "file=a.rb") item = true ∧
      ((project l item).cell (utf8 "file")).text? = some (utf8 "/w/a.rb")) ∧
    ∃ b, addAll [] [utf8 "line: "] = ([b], none) ∧ b.column = [] := by
  intro values l item
  refine ⟨⟨by decide +kernel, by decide, by decide +kernel, by decide +kernel⟩, ?_⟩
  exact ⟨{ key := utf8 "line", column := [] }, by decide +kernel, rfl⟩

end Dataset
end LineStore
