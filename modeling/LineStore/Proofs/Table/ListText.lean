import LineStore.Proofs.Table.Specs
import LineStore.Proofs.Text.Space
/-!
# The text of a list of attributes

A list is written with colons between the fields of an attribute and commas between attributes.  Fields that
hold neither, and no white space at their ends, are read as they were written; the list is read back if no
spec means an attribute in front of its own, and only then, `add_listText`.
-/
namespace LineStore

namespace Attribute

/-- A field that stands between separators as it is. -/
structure Plain (field : Bytes) : Prop where
  no_comma : 0x2c ∉ field
  no_colon : 0x3a ∉ field
  space_head : ∀ r ∈ (Utf8.runes field).head?, Space.isSpace r.code = false
  space_last : ∀ r ∈ (Utf8.runes field).getLast?, Space.isSpace r.code = false

/-- An attribute that a spec can stand for. -/
structure Writable (a : Attribute) : Prop where
  included : a.included = true
  key : Plain a.key
  column : Plain a.column
  transform : Plain a.transform
  key_ne_nil : a.key ≠ []
  key_ne_wildcard : a.key ≠ wildcard
  key_head : a.key.head? ≠ some 0x21 ∧ a.key.head? ≠ some 0x2e
  column_ne_nil : a.column ≠ []

private theorem plain_iff {field : Bytes} :
    Plain field ↔ 0x2c ∉ field ∧ 0x3a ∉ field ∧
      (∀ r ∈ (Utf8.runes field).head?, Space.isSpace r.code = false) ∧
      ∀ r ∈ (Utf8.runes field).getLast?, Space.isSpace r.code = false :=
  ⟨fun h => ⟨h.no_comma, h.no_colon, h.space_head, h.space_last⟩,
    fun ⟨hcomma, hcolon, hhead, hlast⟩ => ⟨hcomma, hcolon, hhead, hlast⟩⟩

instance (field : Bytes) : Decidable (Plain field) := decidable_of_iff _ plain_iff.symm

private theorem writable_iff {a : Attribute} :
    a.Writable ↔ a.included = true ∧ (Plain a.key ∧ Plain a.column ∧ Plain a.transform) ∧ a.key ≠ [] ∧
      a.key ≠ wildcard ∧ (a.key.head? ≠ some 0x21 ∧ a.key.head? ≠ some 0x2e) ∧ a.column ≠ [] :=
  ⟨fun h => ⟨h.included, ⟨h.key, h.column, h.transform⟩, h.key_ne_nil, h.key_ne_wildcard, h.key_head,
      h.column_ne_nil⟩,
    fun ⟨hshown, ⟨hkey, hcolumn, htransform⟩, hnil, hwildcard, hhead, hname⟩ =>
      ⟨hshown, hkey, hcolumn, htransform, hnil, hwildcard, hhead, hname⟩⟩

instance (a : Attribute) : Decidable a.Writable := decidable_of_iff _ writable_iff.symm

/-- The spec of an attribute. -/
def render (a : Attribute) : Bytes := Bytes.join [0x3a] [a.key, a.column, a.transform]

/-! ## One attribute -/

private theorem Plain.trim {field : Bytes} (h : Plain field) : Space.trim field = field := by
  rw [Space.trim_eq_iff]
  refine ⟨[], Utf8.runes field, [], by simp, List.forall_mem_nil _, List.forall_mem_nil _, h.space_head,
    h.space_last, (Utf8.flatMap_bytes_runes field).symm⟩

private theorem readKey_plain {key : Bytes} (h : Plain key)
    (hhead : key.head? ≠ some 0x21 ∧ key.head? ≠ some 0x2e) : readKey key = (true, key) := by
  simp only [readKey, h.trim]
  cases key with
  | nil => rfl
  | cons b rest =>
    have hbang : b ≠ 0x21 := by simpa using hhead.1
    have hdot : 0x2e ≠ b := by simpa using Ne.symm hhead.2
    split
    · rename_i heq
      exact absurd (List.cons.inj heq).1 hbang
    · rw [Bytes.trimStart, Bytes.dropStart?, if_neg hdot, Option.getD_none]

private theorem Writable.parse_render {a : Attribute} (h : a.Writable) :
    parse a.render = .ok a := by
  have hfields : Bytes.splitOn 0x3a a.render = [a.key, a.column, a.transform] := by
    apply Bytes.splitOn_join (List.cons_ne_nil _ _)
    simp [h.key.no_colon, h.column.no_colon, h.transform.no_colon]
  have hread := readKey_plain h.key h.key_head
  have hkey : a.key.isEmpty = false := List.isEmpty_eq_false_iff.mpr h.key_ne_nil
  have hcolumn : a.column.isEmpty = false := List.isEmpty_eq_false_iff.mpr h.column_ne_nil
  have hshown : (a.key != wildcard) = true := bne_iff_ne.mpr h.key_ne_wildcard
  simp only [parse, hfields, List.getD_cons_zero, List.getD_cons_succ, hread, hkey, hcolumn, h.column.trim,
    h.transform.trim, hshown, Bool.false_eq_true, if_false, Bool.and_self]
  rw [← h.included]

private theorem Writable.not_mem_render {a : Attribute} (h : a.Writable) : 0x2c ∉ a.render := by
  have hkey := h.key.no_comma
  have hcolumn := h.column.no_comma
  have htransform := h.transform.no_comma
  simp [render, Bytes.join, List.intercalate, hkey, hcolumn, htransform]

private theorem colon_mem_render (a : Attribute) : 0x3a ∈ a.render := by
  simp [render, Bytes.join, List.intercalate]

/-! ## Lists -/

private theorem length_put_le (a : Attribute) (l : List Attribute) :
    (put a l).length ≤ l.length + 1 := by
  have hputs := puts_put a l
  generalize put a l = l' at hputs
  cases hputs <;> simp

private theorem length_put_of_goesBy {a b : Attribute} {l : List Attribute} (hb : b ∈ l)
    (h : GoesBy a.key b) :
    (put a l).length = l.length := by
  have hputs := puts_put a l
  generalize put a l = l' at hputs
  cases hputs with
  | change => simp
  | append hl => exact absurd h (hl b hb)

private theorem length_putMore_le (l as : List Attribute) :
    (putMore l as).length ≤ l.length + as.length := by
  induction as generalizing l with
  | nil => exact Nat.le_refl _
  | cons a as ih =>
    have hput := length_put_le a l
    have hrest := ih (put a l)
    rw [List.length_cons]
    exact hrest.trans (by omega)

private theorem putMore_eq_append_iff {l as : List Attribute} :
    putMore l as = l ++ as ↔
      (∀ a ∈ as, ∀ b ∈ l, ¬ GoesBy a.key b) ∧ as.Pairwise fun b a => ¬ GoesBy a.key b := by
  induction as generalizing l with
  | nil => simp [putMore]
  | cons a as ih =>
    have hcons : putMore l (a :: as) = putMore (put a l) as := rfl
    rw [hcons, List.forall_mem_cons, List.pairwise_cons]
    by_cases hl : ∀ b ∈ l, ¬ GoesBy a.key b
    · have happend : l ++ a :: as = l ++ [a] ++ as := by rw [List.append_assoc, List.singleton_append]
      rw [put_of_forall_not hl, happend, ih]
      simp only [List.mem_append, List.mem_singleton]
      constructor
      · rintro ⟨hfree, hpairs⟩
        exact ⟨⟨hl, fun c hc b hb => hfree c hc b (.inl hb)⟩, fun c hc => hfree c hc a (.inr rfl), hpairs⟩
      · rintro ⟨⟨-, hfree⟩, ha, hpairs⟩
        refine ⟨?_, hpairs⟩
        rintro c hc b (hb | rfl)
        · exact hfree c hc b hb
        · exact ha c hc
    · refine iff_of_false ?_ fun h => hl h.1.1
      intro heq
      obtain ⟨b, hb, hgoes⟩ : ∃ b ∈ l, GoesBy a.key b := by simpa using hl
      have hlen := length_putMore_le (put a l) as
      rw [heq, length_put_of_goesBy hb hgoes, List.length_append, List.length_cons] at hlen
      omega

private theorem listText_eq (l : List Attribute) :
    listText l = Bytes.join [0x2c] (l.map render) := rfl

private theorem specsOf_listText {l : List Attribute} (h : ∀ a ∈ l, a.Writable) :
    specsOf [listText l] = l.map render := by
  cases l with
  | nil => rfl
  | cons a l =>
    have hcolon : 0x3a ∈ listText (a :: l) := by
      rw [listText_eq]
      cases l with
      | nil => simpa [Bytes.join, List.intercalate] using colon_mem_render a
      | cons b l => simp [Bytes.join, List.intercalate, colon_mem_render a]
    have hidle : ¬ ((listText (a :: l)).isEmpty = true ∨ listText (a :: l) = wildcard) := by
      rintro (hnil | hall)
      · rw [List.isEmpty_iff.mp hnil] at hcolon
        cases hcolon
      · rw [hall] at hcolon
        exact absurd hcolon (by decide)
    rw [specsOf, List.flatMap_singleton, if_neg hidle, listText_eq]
    apply Bytes.splitOn_join (List.cons_ne_nil _ _)
    intro spec hspec
    rw [← List.map_cons, List.mem_map] at hspec
    obtain ⟨b, hb, rfl⟩ := hspec
    exact (h b hb).not_mem_render

private theorem putAll_render {l : List Attribute} (h : ∀ a ∈ l, a.Writable) (m : List Attribute) :
    putAll m (l.map render) = (putMore m l, none) := by
  refine putAll_eq_ok_iff.mpr ⟨l, ?_, rfl⟩
  rw [List.forall₂_map_left_iff, List.forall₂_same]
  exact fun a ha => (h a ha).parse_render

/-- A list of attributes that specs can stand for is read back from its text exactly if the keys are distinct and
none of them is the name of an attribute in front. -/
theorem add_listText {l : List Attribute} (h : ∀ a ∈ l, a.Writable) :
    add [] (listText l) = (l, none) ↔
      (l.map key).Nodup ∧ l.Pairwise fun a b => b.key ≠ a.column := by
  have happend : putMore [] l = [] ++ l ↔ _ := putMore_eq_append_iff
  rw [List.nil_append, and_iff_right fun _ _ => List.forall_mem_nil _] at happend
  rw [add_eq, specsOf_listText h, putAll_render h, Prod.mk.injEq, and_iff_left rfl, happend, List.Nodup,
    List.pairwise_map, ← List.pairwise_and_iff]
  apply List.Pairwise.iff
  exact fun a b => not_or.trans (and_congr_right fun _ => ne_comm)

/-- Names may be those of other columns and of keys behind; marks inside a field mean nothing. -/
theorem add_listText_shared_names :
    let l : List Attribute := [{ key := utf8 "stat.size", column := utf8 "file size" },
      { key := utf8 "path", column := utf8 "stat.size", transform := utf8 "-20" },
      { key := utf8 "a!*", column := utf8 "file size", transform := utf8 "u c" }]
    (∀ a ∈ l, a.Writable) ∧ (l.map key).Nodup ∧ (l.Pairwise fun a b => b.key ≠ a.column) ∧
      add [] (utf8 "stat.size:file size:,path:stat.size:-20,a!*:file size:u c") = (l, none) := by
  intro l
  have hwritable : ∀ a ∈ l, a.Writable := by decide +kernel
  have hkeys : (l.map key).Nodup := by decide +kernel
  have hnames : l.Pairwise fun a b => b.key ≠ a.column := by decide +kernel
  exact ⟨hwritable, hkeys, hnames, (add_listText hwritable).mpr ⟨hkeys, hnames⟩⟩

end Attribute
end LineStore
