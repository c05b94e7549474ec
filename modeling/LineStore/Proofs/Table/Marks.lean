import LineStore.Proofs.Table.Limit
import Mathlib.Data.List.Forall2
import Mathlib.Logic.Function.Iterate
/-!
# What a transform asks for

Of a transform count whether it chomps, its last case letter and its last numeral.  Two transforms with a comma
between them ask for what the second does and, where that says nothing, for what the first does, `marks_comma`.
So the transform of `*` is overridden stage by stage by that of an attribute, and putting it in front again adds
nothing, `spreadWildcard_overrides`.
-/
namespace LineStore

namespace Transform

def isCaseMark (b : UInt8) : Bool := isLowerMark b || isUpperMark b

/-- What a transform asks for, time apart: to chomp, the last of its case letters, and the last of its numerals
as a limit. -/
structure Marks where
  chomps : Bool
  letter : Option UInt8
  numeral : Option Bytes
  deriving Repr, DecidableEq

def marks (spec : Bytes) : Marks where
  chomps := spec.any isChomp
  letter := (spec.filter isCaseMark).getLast?
  numeral := (numerals spec).getLast?

namespace Marks

/-- Own marks before common ones: each stage that they say nothing of is that of the common marks. -/
def orElse (own common : Marks) : Marks where
  chomps := common.chomps || own.chomps
  letter := own.letter.or common.letter
  numeral := own.numeral.or common.numeral

def letterChange : Option UInt8 → CaseChange
  | none => .none
  | some b => if isLowerMark b then .lower else .upper

/-- The stages behind the time step. -/
def finish (m : Marks) (s : Bytes) : Except Error Bytes :=
  let t := (letterChange m.letter).apply s
  match m.numeral with
  | none => .ok t
  | some numeral => limit (limitOf numeral) t

/-- The stages one after the other. -/
def perform (m : Marks) (s : Bytes) : Except Error Bytes := m.finish (if m.chomps then chomp s else s)

private theorem orElse_self (m : Marks) : m.orElse m = m := by
  rw [orElse, Bool.or_self, Option.or_self, Option.or_self]

private theorem orElse_orElse (own common : Marks) :
    (own.orElse common).orElse common = own.orElse common := by
  simp only [orElse, Option.or_assoc, Option.or_self, ← Bool.or_assoc, Bool.or_self]

end Marks

private theorem caseChange_eq (spec : Bytes) :
    caseChange spec = Marks.letterChange (marks spec).letter := by
  induction spec with
  | nil => rfl
  | cons b rest ih =>
    rw [caseChange, ih]
    simp only [marks, List.filter_cons]
    cases hlast : (rest.filter isCaseMark).getLast? with
    | none =>
      have hnil : rest.filter isCaseMark = [] := List.getLast?_eq_none_iff.mp hlast
      rw [hnil]
      cases hlower : isLowerMark b <;> cases hupper : isUpperMark b <;>
        simp [Marks.letterChange, isCaseMark, hlower, hupper]
    | some c =>
      have hkept : (if isCaseMark b then b :: rest.filter isCaseMark else rest.filter isCaseMark).getLast? =
          some c := by
        split
        · rw [List.getLast?_cons, hlast, Option.getD_some]
        · exact hlast
      rw [hkept, Marks.letterChange]
      cases isLowerMark c <;> rfl

private theorem applyText_eq_finish (zone : Option Time.Zone) (spec s : Bytes) :
    let t := timeStep zone spec (if (marks spec).chomps then chomp s else s)
    (applyText zone spec s).1 = (marks t.2.1).finish t.1 := by
  intro t
  have hspec : (beforeLimit zone spec s).2 = t.2.1 := rfl
  have hnumeral : (numerals t.2.1).getLast? = (marks t.2.1).numeral := rfl
  rw [applyText_value, hspec, lengthLimit?_eq, Marks.finish, ← caseChange_eq, hnumeral]
  cases (marks t.2.1).numeral <;> rfl

private theorem marks_comma (g s : Bytes) :
    marks (g ++ [0x2c] ++ s) = (marks s).orElse (marks g) := by
  -- Nothing reaches across the comma, so the marks of two transforms are those of the second over
  -- those of the first.
  have hcomma : Apart (g ++ [0x2c]) s := by
    intro x hx y _ _
    rw [List.getLast?_concat] at hx
    cases hx
    decide
  have hfront : Apart g [0x2c] := Apart.of_head (by decide +kernel)
  have hnumerals : numerals (g ++ [0x2c] ++ s) = numerals g ++ numerals s := by
    rw [numerals_append hcomma, numerals_append hfront,
      numerals_of_no_digit (s := [0x2c]) (by decide +kernel), List.append_nil]
  simp only [marks, Marks.orElse, hnumerals, List.any_append, List.filter_append, List.getLast?_append]
  simp [isChomp, isCaseMark, isLowerMark, isUpperMark]

/-- A transform that has lost its time letters. -/
def withoutTime (spec : Bytes) : Bytes := spec.filter (!isTime ·)

private theorem withoutTime_comma (g s : Bytes) :
    withoutTime (g ++ [0x2c] ++ s) = withoutTime g ++ [0x2c] ++ withoutTime s := by
  simp only [withoutTime, List.filter_append]
  rfl

section timeStep

variable {zone : Option Time.Zone} {spec : Bytes} (s : Bytes)

theorem timeStep_idle (h : zone = none ∨ spec.any isTime = false) : timeStep zone spec s = (s, spec, []) := by
  unfold timeStep
  rcases h with rfl | htime
  · split <;> rfl
  · rw [if_neg (by simp [htime])]

theorem timeStep_read {z : Time.Zone} (htime : spec.any isTime = true) {t : Time.Instant}
    (h : Time.parse? s = some t) : timeStep (some z) spec s = (Time.localText z t, spec, []) := by
  unfold timeStep
  rw [if_pos htime]
  simp only [h]

theorem timeStep_refused {z : Time.Zone} (htime : spec.any isTime = true) (h : Time.parse? s = none) :
    timeStep (some z) spec s = (s, withoutTime spec, [.error (utf8 "failed to parse time: " ++ s)]) := by
  unfold timeStep
  rw [if_pos htime]
  simp only [h]
  rfl

/-- Without a zone or without time letters a transform does what its marks say. -/
theorem applyText_eq_perform (h : zone = none ∨ spec.any isTime = false) :
    (applyText zone spec s).1 = (marks spec).perform s := by
  have hvalue := applyText_eq_finish zone spec s
  rw [hvalue, timeStep_idle _ h, Marks.perform]

end timeStep

/-- Two transforms that do the same to every cell. -/
structure Alike (x y : Bytes) : Prop where
  marks : marks x = marks y
  time : x.any isTime = y.any isTime
  lapsed : Transform.marks (withoutTime x) = Transform.marks (withoutTime y)

namespace Alike

variable {x y z g h : Bytes}

theorem refl (x : Bytes) : Alike x x := ⟨rfl, rfl, rfl⟩

theorem trans (hxy : Alike x y) (hyz : Alike y z) : Alike x z :=
  ⟨hxy.marks.trans hyz.marks, hxy.time.trans hyz.time, hxy.lapsed.trans hyz.lapsed⟩

private theorem comma (hg : Alike g h) (hx : Alike x y) :
    Alike (g ++ [0x2c] ++ x) (h ++ [0x2c] ++ y) := by
  constructor
  · rw [marks_comma, marks_comma, hg.marks, hx.marks]
  · simp only [List.any_append, hg.time, hx.time]
  · rw [withoutTime_comma, withoutTime_comma, marks_comma, marks_comma, hg.lapsed, hx.lapsed]

private theorem comma_self (g : Bytes) : Alike (g ++ [0x2c] ++ g) g := by
  constructor
  · rw [marks_comma, Marks.orElse_self]
  · simp [isTime]
  · rw [withoutTime_comma, marks_comma, Marks.orElse_self]

private theorem comma_comma (g s : Bytes) :
    Alike (g ++ [0x2c] ++ (g ++ [0x2c] ++ s)) (g ++ [0x2c] ++ s) := by
  constructor
  · rw [marks_comma, marks_comma, Marks.orElse_orElse]
  · simp only [List.any_append, ← Bool.or_assoc]
    cases g.any isTime <;> rfl
  · rw [withoutTime_comma, withoutTime_comma, marks_comma, marks_comma, Marks.orElse_orElse]

private theorem applyText (h : Alike x y) (zone : Option Time.Zone) (s : Bytes) :
    (applyText zone x s).1 = (Transform.applyText zone y s).1 := by
  have hx := applyText_eq_finish zone x s
  have hy := applyText_eq_finish zone y s
  rw [hx, hy, h.marks]
  generalize (if (Transform.marks y).chomps then chomp s else s) = t
  cases hany : y.any isTime with
  | false =>
    rw [timeStep_idle t (.inr (h.time.trans hany)), timeStep_idle t (.inr hany), h.marks]
  | true =>
    have hany' : x.any isTime = true := h.time.trans hany
    cases zone with
    | none => rw [timeStep_idle t (.inl rfl), timeStep_idle t (.inl rfl), h.marks]
    | some z =>
      cases hparse : Time.parse? t with
      | some i => rw [timeStep_read t hany' hparse, timeStep_read t hany hparse, h.marks]
      | none => rw [timeStep_refused t hany' hparse, timeStep_refused t hany hparse, h.lapsed]

theorem apply {a b : Attribute} (h : Alike a.transform b.transform) (zone : Option Time.Zone) (v : Value) :
    (apply zone a v).value = (Transform.apply zone b v).value := by
  cases v with
  | text s => rw [apply_text_value, apply_text_value, h.applyText]
  | _ => rfl

end Alike

end Transform

namespace Attribute

open Transform

/-- An attribute with a transform in front of its own. -/
def prepend (spec : Bytes) (a : Attribute) : Attribute :=
  { a with transform := spec ++ [0x2c] ++ a.transform }

private theorem spreadWildcard_eq {l : List Attribute} {w : Attribute}
    (hfirst : l.find? isWildcard = some w)
    (hspec : w.transform ≠ []) : spreadWildcard l = l.map (prepend w.transform) := by
  have hempty : w.transform.isEmpty = false := by simpa using hspec
  rw [spreadWildcard, hfirst]
  simp only [hempty]
  rfl

private theorem find?_prepend (spec : Bytes) (l : List Attribute) :
    (l.map (prepend spec)).find? isWildcard = (l.find? isWildcard).map (prepend spec) := by
  rw [List.find?_map]
  rfl

private theorem iterate_spreadWildcard {l : List Attribute} {w : Attribute}
    (hfirst : l.find? isWildcard = some w)
    (hspec : w.transform ≠ []) (k : Nat) :
    (∃ w', (spreadWildcard^[k] (spreadWildcard l)).find? isWildcard = some w' ∧ w'.transform ≠ [] ∧
      Alike w'.transform w.transform) ∧
    List.Forall₂ (fun a a' => Alike a'.transform (w.transform ++ [0x2c] ++ a.transform)) l
      (spreadWildcard^[k] (spreadWildcard l)) := by
  induction k with
  | zero =>
    rw [Function.iterate_zero_apply, spreadWildcard_eq hfirst hspec]
    refine ⟨⟨prepend w.transform w, ?_, ?_, Alike.comma_self _⟩, ?_⟩
    · rw [find?_prepend, hfirst, Option.map_some]
    · simp [prepend]
    · rw [List.forall₂_map_right_iff]
      exact List.forall₂_same.mpr fun a _ => Alike.refl _
  | succ k ih =>
    obtain ⟨⟨w', hw', hspec', halike⟩, hall⟩ := ih
    rw [Function.iterate_succ_apply', spreadWildcard_eq hw' hspec']
    refine ⟨⟨prepend w'.transform w', ?_, ?_, (Alike.comma_self _).trans halike⟩, ?_⟩
    · rw [find?_prepend, hw', Option.map_some]
    · simp [prepend]
    · rw [List.forall₂_map_right_iff]
      exact hall.imp fun a a' ha => (halike.comma ha).trans (Alike.comma_comma _ _)

/-- The transform of `*`, put in front of those of all attributes: an attribute chomps if either transform says
so, and its own case letter and its own limit, the last of each, go before those of `*`.  Putting it in front
again changes no cell. -/
theorem spreadWildcard_overrides {l : List Attribute} {w : Attribute}
    (hfirst : l.find? isWildcard = some w) (hspec : w.transform ≠ []) :
    List.Forall₂ (fun a a' => a' = prepend w.transform a ∧ ∀ zone s,
        (zone = none ∨ w.transform.any isTime = false ∧ a.transform.any isTime = false) →
        (apply zone a' (.text s)).value =
          (((marks a.transform).orElse (marks w.transform)).perform s).map Value.text)
      l (spreadWildcard l) ∧
    ∀ k, List.Forall₂ (fun a a' => ∀ zone v, (apply zone a' v).value = (apply zone a v).value)
      (spreadWildcard l) (spreadWildcard^[k] (spreadWildcard l)) := by
  constructor
  · rw [spreadWildcard_eq hfirst hspec, List.forall₂_map_right_iff]
    refine List.forall₂_same.mpr fun a _ => ⟨rfl, fun zone s hzone => ?_⟩
    have htime : zone = none ∨ (prepend w.transform a).transform.any isTime = false := by
      refine hzone.imp_right fun h => ?_
      simp only [prepend, List.any_append, h.1, h.2]
      rfl
    rw [apply_text_value, applyText_eq_perform s htime, ← marks_comma]
    rfl
  · intro k
    obtain ⟨-, hoften⟩ := iterate_spreadWildcard hfirst hspec k
    conv => arg 2; rw [spreadWildcard_eq hfirst hspec]
    rw [List.forall₂_map_left_iff]
    exact hoften.imp fun a a' halike zone v => Alike.apply (b := prepend w.transform a) halike zone v

/-- The case letter of an attribute goes before that of `*` and so does its limit; it chomps because `*` does. -/
theorem spreadWildcard_overrides_both :
    let w : Attribute := { key := wildcard, column := wildcard, included := false, transform := utf8 "cU-8" }
    let a : Attribute := { key := utf8 "text", column := utf8 "text", transform := utf8 "9l4" }
    let l := [w, a]
    let s := Value.text (utf8 "MiXeD\n")
    let result := Except.ok (Value.text (utf8 "mixe"))
    l.find? isWildcard = some w ∧ w.transform ≠ [] ∧
      (∃ a', (spreadWildcard l)[1]? = some a' ∧ (apply none a' s).value = result) ∧
      ∃ a', (spreadWildcard^[3] (spreadWildcard l))[1]? = some a' ∧ (apply none a' s).value = result := by
  intro w a l s result
  have hfirst : l.find? isWildcard = some w := rfl
  have hspec : w.transform ≠ [] := by decide
  obtain ⟨honce, hagain⟩ := spreadWildcard_overrides hfirst hspec
  have hcell : (apply none (prepend w.transform a) s).value = result := by
    have hperform : ((marks a.transform).orElse (marks w.transform)).perform (utf8 "MiXeD\n") =
        .ok (utf8 "mixe") := by decide +kernel
    obtain ⟨-, hrest⟩ := List.forall₂_cons.mp honce
    obtain ⟨⟨-, ha⟩, -⟩ := List.forall₂_cons.mp hrest
    have hvalue := ha none (utf8 "MiXeD\n") (.inl rfl)
    rw [hperform] at hvalue
    exact hvalue
  refine ⟨hfirst, hspec, ⟨_, rfl, hcell⟩, ?_⟩
  have hrest := hagain 3
  rw [spreadWildcard_eq hfirst hspec] at hrest ⊢
  exact ⟨_, rfl, ((List.forall₂_cons.mp (List.forall₂_cons.mp hrest).2).1 none s).trans hcell⟩

end Attribute

end LineStore
