import LineStore.Table.Filter
import LineStore.Proofs.Text.Bytes
import Mathlib.Data.List.Basic
/-!
# The clauses of a filter

A clause is cut at its first operator, and the `!` in front of that operator belongs to it.  What is in front
is the key, what comes after is the target, and nothing is lost: reading and writing clauses undo each other,
and a clause that cannot be read leaves no trace on the others, `build_reads`.
-/
namespace LineStore.Filter

def operators : Bytes := utf8 "=^~<>@/"

/-- Does an operator, or the `!` in front of one, stand at a place? -/
def OperatorAt (s : Bytes) (i : Nat) : Prop :=
  ∃ b, s[i]? = some b ∧ (b ∈ operators ∨ b = 0x21 ∧ ∃ c ∈ operators, s[i + 1]? = some c)

def FirstOperator (s : Bytes) (i : Nat) : Prop := OperatorAt s i ∧ ∀ j < i, ¬ OperatorAt s j

/-- What stands in front of the operator of a clause. -/
def mark (negate : Bool) : Bytes := if negate then [0x21] else []

/-- The clause of a filter. -/
def render (f : Filter) : Bytes := f.key ++ mark f.negate ++ f.operand ++ f.target

/-- A filter that a clause between commas can stand for. -/
structure Writable (f : Filter) : Prop where
  key_ne_nil : f.key ≠ []
  key_free : ∀ b ∈ f.key, b ∉ operators ∧ b ≠ 0x0a ∧ b ≠ 0x2c
  key_end : f.negate = false → f.key.getLast? ≠ some 0x21
  operand : ∃ b ∈ operators, f.operand = [b]
  target_free : 0x0a ∉ f.target ∧ 0x2c ∉ f.target

private theorem writable_iff {f : Filter} :
    f.Writable ↔ f.key ≠ [] ∧ (f.key.all fun b => b ∉ operators ∧ b ≠ 0x0a ∧ b ≠ 0x2c) = true ∧
      (f.negate = false → f.key.getLast? ≠ some 0x21) ∧
      (operators.any fun b => f.operand = [b]) = true ∧ 0x0a ∉ f.target ∧ 0x2c ∉ f.target := by
  simp only [List.all_eq_true, List.any_eq_true, decide_eq_true_eq]
  exact ⟨fun h => ⟨h.key_ne_nil, h.key_free, h.key_end, h.operand, h.target_free⟩,
    fun ⟨hkey, hfree, hend, hop, htarget⟩ => ⟨hkey, hfree, hend, hop, htarget⟩⟩

instance (f : Filter) : Decidable f.Writable := decidable_of_iff _ writable_iff.symm

theorem operators_eq : operators = [0x3d, 0x5e, 0x7e, 0x3c, 0x3e, 0x40, 0x2f] := by decide

private theorem isOperator_iff (b : UInt8) : isOperator b = true ↔ b ∈ operators := by
  simp [isOperator, operators_eq, or_assoc]

private theorem bang_not_mem_operators : 0x21 ∉ operators := by decide

/-! ## The first operator -/

private theorem operatorAt_zero (b : UInt8) (s : Bytes) :
    OperatorAt (b :: s) 0 ↔ b ∈ operators ∨ b = 0x21 ∧ ∃ c ∈ operators, s.head? = some c := by
  simp [OperatorAt, List.head?_eq_getElem?]

private theorem operatorAt_succ (b : UInt8) (s : Bytes) (i : Nat) :
    OperatorAt (b :: s) (i + 1) ↔ OperatorAt s i := by
  simp [OperatorAt]

private theorem not_operatorAt_nil (i : Nat) : ¬ OperatorAt [] i := by
  simp [OperatorAt]

private theorem FirstOperator.succ {b : UInt8} {s : Bytes} {i : Nat} (h : FirstOperator s i)
    (hb : ¬ OperatorAt (b :: s) 0) : FirstOperator (b :: s) (i + 1) := by
  refine ⟨(operatorAt_succ b s i).mpr h.1, ?_⟩
  intro j hj
  cases j with
  | zero => exact hb
  | succ j =>
    rw [operatorAt_succ]
    exact h.2 j (by omega)

private theorem FirstOperator.unique {s : Bytes} {i j : Nat} (hi : FirstOperator s i)
    (hj : FirstOperator s j) :
    i = j := by
  rcases Nat.lt_trichotomy i j with hlt | heq | hlt
  · exact absurd hi.1 (hj.2 i hlt)
  · exact heq
  · exact absurd hj.1 (hi.2 j hlt)

private theorem cutOperator?_cons {b : UInt8} {s : Bytes} (hb : ¬ OperatorAt (b :: s) 0) :
    cutOperator? (b :: s) = (cutOperator? s).map fun (k, n, op, t) => (b :: k, n, op, t) := by
  rw [operatorAt_zero, not_or, ← isOperator_iff] at hb
  rw [cutOperator?, if_neg hb.1]
  cases s with
  | nil => rfl
  | cons c s =>
    have hmark : ¬ (b = 0x21 ∧ isOperator c = true) := by
      rintro ⟨hb', hc⟩
      exact hb.2 ⟨hb', c, (isOperator_iff c).mp hc, rfl⟩
    dsimp only
    rw [if_neg hmark]

/-- What the search for an operator has found. -/
def Found (s : Bytes) : Option (Bytes × Bool × UInt8 × Bytes) → Prop
  | none => ∀ i, ¬ OperatorAt s i
  | some (key, negate, op, target) =>
    FirstOperator s key.length ∧ op ∈ operators ∧ s = key ++ mark negate ++ [op] ++ target

private theorem found_cutOperator? (s : Bytes) : Found s (cutOperator? s) := by
  induction s with
  | nil => exact not_operatorAt_nil
  | cons b s ih =>
    by_cases hb : OperatorAt (b :: s) 0
    · have hfirst : FirstOperator (b :: s) 0 := ⟨hb, fun j hj => absurd hj (Nat.not_lt_zero j)⟩
      rw [operatorAt_zero] at hb
      by_cases hop : b ∈ operators
      · rw [cutOperator?, if_pos ((isOperator_iff b).mpr hop)]
        exact ⟨hfirst, hop, rfl⟩
      · obtain ⟨rfl, c, hc, hhead⟩ := hb.resolve_left hop
        obtain ⟨t, rfl⟩ := List.head?_eq_some_iff.mp hhead
        rw [cutOperator?, if_neg (by rwa [isOperator_iff])]
        dsimp only
        rw [if_pos ⟨rfl, (isOperator_iff c).mpr hc⟩]
        exact ⟨hfirst, hc, rfl⟩
    · rw [cutOperator?_cons hb]
      cases hcut : cutOperator? s with
      | none =>
        rw [hcut] at ih
        intro i
        cases i with
        | zero => exact hb
        | succ i =>
          rw [operatorAt_succ]
          exact ih i
      | some cut =>
        obtain ⟨key, negate, op, target⟩ := cut
        rw [hcut] at ih
        obtain ⟨hfirst, hop, heq⟩ := ih
        exact ⟨hfirst.succ hb, hop, congrArg (b :: ·) heq⟩

/-! ## One clause -/

/-- A clause read as a filter: the operator is the first of the clause and has a key in front. -/
structure Reads (clause : Bytes) (f : Filter) : Prop where
  oneLine : 0x0a ∉ clause
  first : FirstOperator clause f.key.length
  key_ne_nil : f.key ≠ []
  operand : ∃ b ∈ operators, f.operand = [b]
  render : f.render = clause

private theorem parse?_eq (clause : Bytes) :
    parse? clause =
      if 0x0a ∈ clause then none
      else (cutOperator? clause).bind fun (key, negate, op, target) =>
        if key = [] then none else some { key, negate, operand := [op], target } := by
  rw [parse?]
  by_cases hline : 0x0a ∈ clause
  · rw [if_pos hline, if_pos (by simpa using hline)]
  · rw [if_neg hline, if_neg (by simpa using hline)]
    cases cutOperator? clause with
    | none => rfl
    | some cut => simp

private theorem reads_of_parse? {clause : Bytes} {f : Filter} (h : parse? clause = some f) :
    Reads clause f := by
  have hfound := found_cutOperator? clause
  rw [parse?_eq] at h
  by_cases hline : 0x0a ∈ clause
  · simp [hline] at h
  · rw [if_neg hline, Option.bind_eq_some_iff] at h
    obtain ⟨⟨key, negate, op, target⟩, hcut, hkey⟩ := h
    rw [hcut] at hfound
    obtain ⟨hfirst, hop, heq⟩ := hfound
    by_cases hnil : key = []
    · simp [hnil] at hkey
    · simp only [hnil, if_false, Option.some.injEq] at hkey
      subst hkey
      exact ⟨hline, hfirst, hnil, ⟨op, hop, rfl⟩, heq.symm⟩

private theorem mark_append_inj {m n : Bool} {b c : UInt8} {s t : Bytes} (hb : b ∈ operators)
    (hc : c ∈ operators)
    (h : mark m ++ ([b] ++ s) = mark n ++ ([c] ++ t)) : m = n ∧ b = c ∧ s = t := by
  -- A `!` is no operator, so what follows a key is read in one way.
  have hbang : ∀ d ∈ operators, (0x21 : UInt8) ≠ d := by
    rintro d hd rfl
    exact bang_not_mem_operators hd
  cases m <;> cases n <;> simp only [mark, Bool.false_eq_true, if_true, if_false, List.nil_append,
    List.cons_append, List.cons.injEq] at h
  · exact ⟨rfl, h⟩
  · exact absurd h.1.symm (hbang b hb)
  · exact absurd h.1 (hbang c hc)
  · exact ⟨rfl, h.2⟩

private theorem Reads.unique {clause : Bytes} {f g : Filter} (hf : Reads clause f)
    (hg : Reads clause g) : f = g := by
  obtain ⟨b, hb, hfop⟩ := hf.operand
  obtain ⟨c, hc, hgop⟩ := hg.operand
  have heq : f.render = g.render := hf.render.trans hg.render.symm
  simp only [Filter.render, List.append_assoc] at heq
  obtain ⟨hkey, hrest⟩ := List.append_inj heq (hf.first.unique hg.first)
  rw [hfop, hgop] at hrest
  obtain ⟨hnegate, rfl, htarget⟩ := mark_append_inj hb hc hrest
  cases f
  cases g
  simp_all

private theorem parse?_eq_some_iff {clause : Bytes} {f : Filter} :
    parse? clause = some f ↔ Reads clause f := by
  refine ⟨reads_of_parse?, fun h => ?_⟩
  have hfound := found_cutOperator? clause
  cases hparse : parse? clause with
  | some g => rw [(reads_of_parse? hparse).unique h]
  | none =>
    rw [parse?_eq, if_neg h.oneLine] at hparse
    cases hcut : cutOperator? clause with
    | none =>
      rw [hcut] at hfound
      exact absurd h.first.1 (hfound _)
    | some cut =>
      obtain ⟨key, negate, op, target⟩ := cut
      rw [hcut] at hfound hparse
      have hkey : key = [] := by simpa using hparse
      have hlen : key.length = f.key.length := hfound.1.unique h.first
      rw [hkey] at hlen
      exact absurd (List.length_eq_zero_iff.mp hlen.symm) h.key_ne_nil

/-! ## Clauses between commas -/

private theorem Writable.not_mem_render {f : Filter} (h : f.Writable) {b : UInt8}
    (hb : b = 0x0a ∨ b = 0x2c) :
    b ∉ f.render := by
  obtain ⟨op, hop, hoperand⟩ := h.operand
  have hkey : b ∉ f.key := by
    intro hmem
    have hfree := (h.key_free b hmem).2
    rcases hb with rfl | rfl
    · exact hfree.1 rfl
    · exact hfree.2 rfl
  have hmark : b ∉ mark f.negate := by
    cases f.negate <;> rcases hb with rfl | rfl <;> decide
  have hop' : b ∉ [op] := by
    rw [List.mem_singleton]
    rintro rfl
    rcases hb with rfl | rfl <;> revert hop <;> decide
  have htarget : b ∉ f.target := by
    rcases hb with rfl | rfl
    · exact h.target_free.1
    · exact h.target_free.2
  simp [render, hoperand, hkey, hmark, htarget, List.mem_singleton.not.mp hop']

private theorem Writable.firstOperator {f : Filter} (h : f.Writable) :
    FirstOperator f.render f.key.length := by
  obtain ⟨op, hop, hoperand⟩ := h.operand
  constructor
  · cases hn : f.negate with
    | false => exact ⟨op, by simp [render, hn, mark, hoperand], .inl hop⟩
    | true => exact ⟨0x21, by simp [render, hn, mark], .inr ⟨rfl, op, hop, by simp [render, hn, mark, hoperand]⟩⟩
  · rintro j hj ⟨b, hb, hstart⟩
    have hin : ∀ i < f.key.length, f.render[i]? = f.key[i]? := by
      intro i hi
      rw [render, List.append_assoc, List.append_assoc, List.getElem?_append_left hi]
    rw [hin j hj] at hb
    rcases hstart with hbop | ⟨rfl, c, hc, hnext⟩
    · exact (h.key_free b (List.mem_of_getElem? hb)).1 hbop
    · by_cases hlast : j + 1 < f.key.length
      · rw [hin _ hlast] at hnext
        exact (h.key_free c (List.mem_of_getElem? hnext)).1 hc
      · -- The `!` ends the key, so another one follows.
        have hend : f.key.getLast? = some 0x21 := by
          rw [List.getLast?_eq_getElem?, ← hb]
          congr 1
          omega
        have hnegate : f.negate = true := by
          cases hn : f.negate with
          | true => rfl
          | false => exact absurd hend (h.key_end hn)
        have hlen : j + 1 = f.key.length := by omega
        have hbang : f.render[j + 1]? = some 0x21 := by simp [hlen, render, hnegate, mark]
        rw [hbang] at hnext
        cases hnext
        exact bang_not_mem_operators hc

private theorem Writable.reads {f : Filter} (h : f.Writable) : Reads f.render f where
  oneLine := h.not_mem_render (.inl rfl)
  first := h.firstOperator
  key_ne_nil := h.key_ne_nil
  operand := h.operand
  render := rfl

theorem build_comma (spec : Bytes) :
    (build [0x2c] spec).filters = (Bytes.splitOn 0x2c spec).filterMap parse? := by
  rw [build]
  cases spec with
  | nil => rfl
  | cons b spec =>
    rw [if_neg (by simp)]
    exact congrArg (List.filterMap parse?) (Bytes.splitAtAll_singleton 0x2c (b :: spec))

private theorem build_clause {clause : Bytes} (h : 0x2c ∉ clause) :
    (build [0x2c] clause).filters = (parse? clause).toList := by
  rw [build_comma, Bytes.splitOn_of_not_mem h]
  cases hparse : parse? clause <;> simp [hparse]

private theorem build_join {clauses : List Bytes} (h : ∀ c ∈ clauses, 0x2c ∉ c) :
    (build [0x2c] (Bytes.join [0x2c] clauses)).filters = clauses.filterMap parse? := by
  cases clauses with
  | nil => rfl
  | cons c clauses => rw [build_comma, Bytes.splitOn_join (List.cons_ne_nil c clauses) h]

private theorem isSome_parse?_iff {clause : Bytes} :
    (parse? clause).isSome ↔ 0x0a ∉ clause ∧ ∃ i, 0 < i ∧ FirstOperator clause i := by
  constructor
  · intro h
    obtain ⟨f, hf⟩ := Option.isSome_iff_exists.mp h
    have hreads := parse?_eq_some_iff.mp hf
    exact ⟨hreads.oneLine, f.key.length, List.length_pos_iff.mpr hreads.key_ne_nil, hreads.first⟩
  · rintro ⟨hline, i, hpos, hi⟩
    have hfound := found_cutOperator? clause
    rw [parse?_eq, if_neg hline]
    cases hcut : cutOperator? clause with
    | none =>
      rw [hcut] at hfound
      exact absurd hi.1 (hfound i)
    | some cut =>
      obtain ⟨key, negate, op, target⟩ := cut
      rw [hcut] at hfound
      have hlen : key.length = i := hfound.1.unique hi
      have hkey : key ≠ [] := List.length_pos_iff.mp (hlen ▸ hpos)
      simp [hkey]

private theorem build_log_eq_nil {spec : Bytes}
    (h : ∀ c ∈ Bytes.splitOn 0x2c spec, (parse? c).isSome) :
    (build [0x2c] spec).log = [] := by
  rw [build]
  cases spec with
  | nil => rfl
  | cons b spec =>
    rw [if_neg (by simp)]
    have hnone : (Bytes.splitAtAll [0x2c] (b :: spec)).filter (fun c => (parse? c).isNone) = [] := by
      rw [Bytes.splitAtAll_singleton, List.filter_eq_nil_iff]
      intro c hc
      simpa [Option.isSome_iff_ne_none] using h c hc
    simp [hnone]

private theorem build_render {fs : List Filter} (h : ∀ f ∈ fs, f.Writable) :
    build [0x2c] (Bytes.join [0x2c] (fs.map render)) = ⟨fs, []⟩ := by
  have hparse : ∀ f ∈ fs, parse? f.render = some f := fun f hf => parse?_eq_some_iff.mpr (h f hf).reads
  have hcomma : ∀ c ∈ fs.map render, 0x2c ∉ c := by
    intro c hc
    obtain ⟨f, hf, rfl⟩ := List.mem_map.mp hc
    exact (h f hf).not_mem_render (.inr rfl)
  have hfilters : (build [0x2c] (Bytes.join [0x2c] (fs.map render))).filters = fs := by
    rw [build_join hcomma, List.filterMap_map]
    have hid : fs.filterMap (parse? ∘ render) = fs.filterMap some := List.filterMap_congr hparse
    rw [hid, List.filterMap_some]
  have hlog : (build [0x2c] (Bytes.join [0x2c] (fs.map render))).log = [] := by
    cases hfs : fs.map render with
    | nil => rfl
    | cons c clauses =>
      rw [hfs] at hcomma
      apply build_log_eq_nil
      rw [Bytes.splitOn_join (List.cons_ne_nil c clauses) hcomma, ← hfs]
      intro c hc
      obtain ⟨f, hf, rfl⟩ := List.mem_map.mp hc
      rw [hparse f hf, Option.isSome_some]
  cases hbuild : build [0x2c] (Bytes.join [0x2c] (fs.map render))
  rw [hbuild] at hfilters hlog
  subst hfilters hlog
  rfl

private theorem Reads.cut {clause : Bytes} {f : Filter} {i : Nat} (h : Reads clause f)
    (hi : FirstOperator clause i) :
    f.key = clause.take i ∧ (f.negate = true ↔ clause[i]? = some 0x21) ∧
      f.target = clause.drop (i + (mark f.negate).length + 1) := by
  obtain ⟨op, hop, hoperand⟩ := h.operand
  have hbang : op ≠ 0x21 := by
    rintro rfl
    exact bang_not_mem_operators hop
  have hlen : f.key.length = i := h.first.unique hi
  have hclause : clause = f.key ++ mark f.negate ++ [op] ++ f.target := by
    rw [← hoperand]
    exact h.render.symm
  have hfront : (f.key ++ mark f.negate ++ [op]).length = f.key.length + (mark f.negate).length + 1 := by
    simp [Nat.add_assoc]
  rw [← hlen, hclause]
  refine ⟨?_, ?_, ?_⟩
  · rw [List.append_assoc, List.append_assoc, List.take_left]
  · cases f.negate <;> simp [mark, hbang]
  · rw [← hfront, List.drop_left]

/-- Clauses stand between commas.  One without a comma is read exactly if it is of one line and its first
operator has a key in front, and then it is cut there; filters that can be written are read back from their
clauses; and each clause of a text is read as it is on its own, or dropped. -/
theorem build_reads :
    (∀ clause : Bytes, 0x2c ∉ clause →
      let filters := (build [0x2c] clause).filters
      ((∃ f, filters = [f]) ↔ 0x0a ∉ clause ∧ ∃ i, 0 < i ∧ FirstOperator clause i) ∧
      ((¬ ∃ f, filters = [f]) → filters = []) ∧
      ∀ f, filters = [f] → ∀ i, FirstOperator clause i →
        f.key = clause.take i ∧ (f.negate = true ↔ clause[i]? = some 0x21) ∧
        (∃ op ∈ operators, f.operand = [op]) ∧
        f.target = clause.drop (i + (mark f.negate).length + 1) ∧
        f.key ++ mark f.negate ++ f.operand ++ f.target = clause) ∧
    (∀ fs : List Filter, (∀ f ∈ fs, f.Writable) →
      build [0x2c] (Bytes.join [0x2c] (fs.map render)) = ⟨fs, []⟩) ∧
    ∀ clauses : List Bytes, (∀ c ∈ clauses, 0x2c ∉ c) →
      (build [0x2c] (Bytes.join [0x2c] clauses)).filters =
        clauses.flatMap fun c => (build [0x2c] c).filters := by
  refine ⟨?_, fun fs => build_render, ?_⟩
  · intro clause hcomma filters
    have hfilters : filters = (parse? clause).toList := build_clause hcomma
    have hread : ∀ f, filters = [f] ↔ parse? clause = some f := by
      intro f
      rw [hfilters]
      cases parse? clause <;> simp
    refine ⟨?_, ?_, ?_⟩
    · rw [← isSome_parse?_iff, Option.isSome_iff_exists]
      exact exists_congr hread
    · intro hnone
      rw [hfilters]
      cases hparse : parse? clause with
      | none => rfl
      | some f => exact absurd ⟨f, (hread f).mpr hparse⟩ hnone
    · intro f hf i hi
      have hreads : Reads clause f := parse?_eq_some_iff.mp ((hread f).mp hf)
      obtain ⟨hkey, hnegate, htarget⟩ := hreads.cut hi
      exact ⟨hkey, hnegate, hreads.operand, htarget, hreads.render⟩
  · intro clauses hcomma
    rw [build_join hcomma, List.filterMap_eq_flatMap_toList]
    apply List.flatMap_congr
    intro c hc
    rw [build_clause (hcomma c hc)]

/-- A negated key may end in `!`, and a target may hold operators; a piece that starts with an operator and one of
two lines are dropped. -/
theorem build_reads_marks :
    let f : Filter := { key := utf8 "a!", negate := true, operand := utf8 "=", target := utf8 "=b" }
    let g : Filter := { key := utf8 "!line", operand := utf8 ">", target := utf8 "!1" }
    (∀ h ∈ [f, g], h.Writable) ∧ 0x2c ∉ f.render ∧ FirstOperator f.render 2 ∧
      (f.key = f.render.take 2 ∧ f.target = f.render.drop 4) ∧
      build [0x2c] (utf8 "a!!==b,!line>!1") = ⟨[f, g], []⟩ ∧
      (build [0x2c] (utf8 "a!!==b,=c,d\n=e,!line>!1")).filters = [f, g] := by
  intro f g
  have hwritable : ∀ h ∈ [f, g], h.Writable := by decide
  have hf : f.Writable := hwritable f List.mem_cons_self
  obtain ⟨hclause, hrender, hpieces⟩ := build_reads
  have hfirst : FirstOperator f.render 2 := hf.firstOperator
  have hone : build [0x2c] f.render = ⟨[f], []⟩ := hrender [f] (List.forall_mem_singleton.mpr hf)
  obtain ⟨-, -, hcut⟩ := hclause f.render (by decide)
  obtain ⟨hkey, -, -, htarget, -⟩ := hcut f (congrArg Built.filters hone) 2 hfirst
  refine ⟨hwritable, by decide, hfirst, ⟨hkey, htarget⟩, hrender [f, g] hwritable, ?_⟩
  have hdropped := hpieces [f.render, utf8 "=c", utf8 "d\n=e", g.render] (by decide)
  exact hdropped.trans (by decide +kernel)

end LineStore.Filter
