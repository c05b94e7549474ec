import LineStore.Proofs.Table.Names
/-!
# What specs do to a list

A spec changes the first attribute that goes by its key, or appends one: `Puts` says so without the recursion
that does it.  So keys only ever come to the end of a list and never twice.  A text of several specs does what
its specs do, up to the first without a key, `add_puts`.
-/
namespace LineStore

namespace Attribute

/-- Is `a` an attribute that the key of a spec means? -/
def GoesBy (key : Bytes) (a : Attribute) : Prop := a.key = key ∨ a.column = key

/-- What the attribute `a` of a spec makes of a list. -/
inductive Puts (a : Attribute) : List Attribute → List Attribute → Prop where
  /-- The first attribute that goes by the key of `a` takes over all but the key. -/
  | change {front back : List Attribute} {b : Attribute} : (∀ c ∈ front, ¬ GoesBy a.key c) →
      GoesBy a.key b →
      Puts a (front ++ b :: back) (front ++ { a with key := b.key } :: back)
  /-- No attribute goes by the key of `a`. -/
  | append {l : List Attribute} : (∀ c ∈ l, ¬ GoesBy a.key c) → Puts a l (l ++ [a])

/-- The key of a spec. -/
def keyOf (spec : Bytes) : Bytes := (readKey ((Bytes.splitOn 0x3a spec).getD 0 [])).2

/-- A list with more attributes put into it. -/
def putMore (l as : List Attribute) : List Attribute := as.foldl (fun l a => put a l) l

/-- The list after some texts.  What a text does before it is refused stays done. -/
def addEach (values : List Bytes) : List Attribute := values.foldl (fun l v => (add l v).1) []

/-- No key is missing or there twice. -/
structure Keyed (l : List Attribute) : Prop where
  nodup : (l.map key).Nodup
  ne_nil : [] ∉ l.map key

/-! ## One spec -/

private theorem answersTo_iff {a : Attribute} {key : Bytes} :
    a.answersTo key = true ↔ GoesBy key a := by
  simp [answersTo, GoesBy]

theorem puts_put (a : Attribute) (l : List Attribute) : Puts a l (put a l) := by
  induction l with
  | nil => exact .append (List.forall_mem_nil _)
  | cons b l ih =>
    rw [put]
    by_cases hb : b.answersTo a.key = true
    · rw [if_pos hb]
      exact @Puts.change a [] l b (List.forall_mem_nil _) (answersTo_iff.mp hb)
    · rw [if_neg hb]
      rw [answersTo_iff] at hb
      generalize put a l = l' at ih
      cases ih with
      | @change front back c hfront hc =>
        exact @Puts.change a (b :: front) back c (List.forall_mem_cons.mpr ⟨hb, hfront⟩) hc
      | append hl => exact .append (List.forall_mem_cons.mpr ⟨hb, hl⟩)

theorem put_of_forall_not {a : Attribute} {l : List Attribute} (h : ∀ b ∈ l, ¬ GoesBy a.key b) :
    put a l = l ++ [a] := by
  have hputs := puts_put a l
  generalize put a l = l' at hputs
  cases hputs with
  | change _ hb => exact absurd hb (h _ (List.mem_append_right _ List.mem_cons_self))
  | append => rfl

private theorem Puts.keys {a : Attribute} {l l' : List Attribute} (h : Puts a l l') :
    l'.map key = l.map key ∨ l'.map key = l.map key ++ [a.key] ∧ a.key ∉ l.map key := by
  cases h with
  | change => exact .inl (by simp)
  | append hl =>
    refine .inr ⟨by simp, ?_⟩
    intro hmem
    obtain ⟨b, hb, hkey⟩ := List.mem_map.mp hmem
    exact hl b hb (.inl hkey)

private theorem Puts.keyed {a : Attribute} {l l' : List Attribute} (h : Puts a l l') (hl : Keyed l)
    (ha : a.key ≠ []) : Keyed l' := by
  rcases h.keys with hkeys | ⟨hkeys, hnew⟩
  · exact ⟨hkeys ▸ hl.nodup, hkeys ▸ hl.ne_nil⟩
  · constructor
    · rw [hkeys, ← List.concat_eq_append]
      exact hl.nodup.concat hnew
    · rw [hkeys, List.mem_append, List.mem_singleton]
      exact not_or.mpr ⟨hl.ne_nil, Ne.symm ha⟩

private theorem Puts.keys_prefix {a : Attribute} {l l' : List Attribute} (h : Puts a l l') :
    l.map key <+: l'.map key := by
  rcases h.keys with hkeys | ⟨hkeys, -⟩
  · exact hkeys ▸ List.prefix_refl _
  · exact hkeys ▸ List.prefix_append _ _

private theorem parse_of_keyOf_eq_nil {spec : Bytes} (h : keyOf spec = []) :
    parse spec = .error (.emptyKey spec) := by
  rw [keyOf] at h
  simp only [parse, h, List.isEmpty_nil, if_true]

private theorem parse_of_keyOf_ne_nil {spec : Bytes} (h : keyOf spec ≠ []) :
    ∃ a, parse spec = .ok a := by
  rw [keyOf] at h
  have hkey : (readKey ((Bytes.splitOn 0x3a spec).getD 0 [])).2.isEmpty = false := by
    rwa [List.isEmpty_eq_false_iff]
  simp only [parse, hkey, Bool.false_eq_true, if_false]
  exact ⟨_, rfl⟩

private theorem key_of_parse {spec : Bytes} {a : Attribute} (h : parse spec = .ok a) :
    a.key = keyOf spec :=
  (parse_ok h).1

/-! ## Specs in turn -/

private theorem putMore_take_succ (l : List Attribute) {as : List Attribute} {n : Nat}
    {a : Attribute}
    (h : as[n]? = some a) : putMore l (as.take (n + 1)) = put a (putMore l (as.take n)) := by
  rw [putMore, List.take_add_one, h, List.foldl_append]
  rfl

private theorem Keyed.putMore {l as : List Attribute} (hl : Keyed l) (has : ∀ a ∈ as, a.key ≠ []) :
    Keyed (Attribute.putMore l as) ∧ l.map key <+: (Attribute.putMore l as).map key := by
  induction as generalizing l with
  | nil => exact ⟨hl, List.prefix_refl _⟩
  | cons a as ih =>
    obtain ⟨ha, has⟩ := List.forall_mem_cons.mp has
    have hputs : Puts a l (put a l) := puts_put a l
    obtain ⟨hkeyed, hprefix⟩ := ih (hputs.keyed hl ha) has
    exact ⟨hkeyed, hputs.keys_prefix.trans hprefix⟩

private theorem putAll_takeWhile (l : List Attribute) (specs : List Bytes) :
    ∃ as, List.Forall₂ (fun spec a => parse spec = .ok a) (specs.takeWhile (keyOf · ≠ [])) as ∧
      putAll l specs = (putMore l as, (specs.find? (keyOf · = [])).map .emptyKey) := by
  induction specs generalizing l with
  | nil => exact ⟨[], .nil, rfl⟩
  | cons spec specs ih =>
    by_cases hkey : keyOf spec = []
    · refine ⟨[], ?_, ?_⟩
      · simp [hkey]
      · simp [putAll, parse_of_keyOf_eq_nil hkey, hkey, putMore]
    · obtain ⟨a, hparse⟩ := parse_of_keyOf_ne_nil hkey
      obtain ⟨as, has, hput⟩ := ih (put a l)
      refine ⟨a :: as, ?_, ?_⟩
      · rw [List.takeWhile_cons_of_pos (by simpa using hkey)]
        exact .cons hparse has
      · simp [putAll, hparse, hkey, hput, putMore]

private theorem key_ne_nil_of_mem {specs : List Bytes} {as : List Attribute}
    (h : List.Forall₂ (fun spec a => parse spec = .ok a) specs as) : ∀ a ∈ as, a.key ≠ [] := by
  intro a ha
  obtain ⟨spec, -, hparse⟩ := exists_spec_of_mem h ha
  exact (parse_ok hparse).2.1

private theorem Keyed.add {l : List Attribute} (hl : Keyed l) (value : Bytes) :
    Keyed (Attribute.add l value).1 := by
  obtain ⟨as, has, hput⟩ := putAll_takeWhile l (specsOf [value])
  rw [add_eq, hput]
  exact (hl.putMore (key_ne_nil_of_mem has)).1

private theorem keyed_addEach (values : List Bytes) : Keyed (addEach values) := by
  have hrun : ∀ l, Keyed l → Keyed (values.foldl (fun l v => (add l v).1) l) := by
    induction values with
    | nil => exact fun l hl => hl
    | cons v values ih => exact fun l hl => ih _ (hl.add v)
  exact hrun [] ⟨List.nodup_nil, List.not_mem_nil⟩

/-- Whatever texts were added to a list before, accepted or refused, no key is missing or there twice.  An empty
text and `*` change nothing.  Any other text does what its specs up to the first without a key do, each of them
one change of one attribute or one attribute more; it is refused if there is a spec without a key; and after each
of its specs the keys of the list are still there, each at its place. -/
theorem add_puts (values : List Bytes) (value : Bytes) :
    let l := addEach values
    Keyed l ∧ (value = [] ∨ value = wildcard → add l value = (l, none)) ∧
      (value ≠ [] ∧ value ≠ wildcard →
        let specs := Bytes.splitOn 0x2c value
        ∃ as, List.Forall₂ (fun spec a => parse spec = .ok a ∧ a.key = keyOf spec)
            (specs.takeWhile (keyOf · ≠ [])) as ∧
          add l value = (putMore l as, (specs.find? (keyOf · = [])).map .emptyKey) ∧
          ∀ n, Keyed (putMore l (as.take n)) ∧ l.map key <+: (putMore l (as.take n)).map key ∧
            ∀ a, as[n]? = some a → Puts a (putMore l (as.take n)) (putMore l (as.take (n + 1)))) := by
  intro l
  have hl : Keyed l := keyed_addEach values
  refine ⟨hl, ?_, ?_⟩
  · intro hidle
    rw [add, if_pos (by simpa using hidle)]
  · rintro ⟨hne, hall⟩ specs
    obtain ⟨as, has, hput⟩ := putAll_takeWhile l specs
    have hadd : add l value = putAll l specs := by
      rw [add, if_neg (by simp [hne, hall])]
    refine ⟨as, has.imp fun _ _ h => ⟨h, key_of_parse h⟩, hadd.trans hput, ?_⟩
    intro n
    have hkeys : ∀ a ∈ as.take n, a.key ≠ [] := fun a ha =>
      key_ne_nil_of_mem has a (List.mem_of_mem_take ha)
    obtain ⟨hkeyed, hprefix⟩ := hl.putMore hkeys
    refine ⟨hkeyed, hprefix, ?_⟩
    intro a ha
    rw [putMore_take_succ l ha]
    exact puts_put a _

/-- After `path` was renamed a spec for its new name hides it; the spec behind the next one has no key, so the last
is not looked at. -/
theorem add_puts_renamed :
    let values := [utf8 "file,path:src"]
    let value := utf8 "!.src::u,line, :x,text"
    let file : Attribute := { key := utf8 "file", column := utf8 "file" }
    let path : Attribute := { key := utf8 "path", column := utf8 "src" }
    let hide : Attribute :=
      { key := utf8 "src", column := utf8 "src", included := false, transform := utf8 "u" }
    let line : Attribute := { key := utf8 "line", column := utf8 "line" }
    addEach values = [file, path] ∧ (value ≠ [] ∧ value ≠ wildcard) ∧
      (Bytes.splitOn 0x2c value).takeWhile (keyOf · ≠ []) = [utf8 "!.src::u", utf8 "line"] ∧
      add [file, path] value =
        ([file, { hide with key := path.key }, line], some (.emptyKey (utf8 " :x"))) ∧
      Keyed [file, { hide with key := path.key }, line] ∧
      Puts hide [file, path] [file, { hide with key := path.key }] := by
  intro values value file path hide line
  have hl : addEach values = [file, path] := by decide +kernel
  have hvalue : value ≠ [] ∧ value ≠ wildcard := by decide
  have hspecs : (Bytes.splitOn 0x2c value).takeWhile (keyOf · ≠ []) = [utf8 "!.src::u", utf8 "line"] := by
    decide +kernel
  have hhide : parse (utf8 "!.src::u") = .ok hide := by rfl
  have hline : parse (utf8 "line") = .ok line := by rfl
  obtain ⟨-, -, happlied⟩ := add_puts values value
  obtain ⟨as, has, hadd, hsteps⟩ := happlied hvalue
  rw [hl] at hadd hsteps
  rw [hspecs] at has
  obtain ⟨_, _, ⟨ha, -⟩, htail, rfl⟩ := List.forall₂_cons_left_iff.mp has
  obtain ⟨_, _, ⟨hb, -⟩, hnil, rfl⟩ := List.forall₂_cons_left_iff.mp htail
  cases hnil
  cases hhide.symm.trans ha
  cases hline.symm.trans hb
  obtain ⟨-, -, hput⟩ := hsteps 0
  obtain ⟨hkeyed, -, -⟩ := hsteps 2
  exact ⟨hl, hvalue, hspecs, hadd.trans (by decide +kernel), hkeyed, hput hide rfl⟩

end Attribute
end LineStore
