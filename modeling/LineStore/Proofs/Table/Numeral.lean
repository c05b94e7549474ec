import LineStore.Proofs.Number.Int64
import LineStore.Table.Transform
import Mathlib.Data.List.Basic
import Mathlib.Data.List.TakeWhile
/-!
# The numerals of a transform

A scan from the left takes at each place the longest numeral that starts there, a minus sign or none and then
digits, and goes on behind it.  What a transform reads from its end is the last numeral of that scan,
`lastNumeral?_eq`, and numerals do not grow together across a byte that neither starts nor continues one,
`numerals_append`.
-/
namespace LineStore.Transform

/-- The minus sign a text starts with, if it does. -/
def leadingMinus (s : Bytes) : Bytes := if s.head? = some 0x2d then [0x2d] else []

/-- The longest numeral at the start of a text. -/
def numeralAt? (s : Bytes) : Option Bytes :=
  let sign := leadingMinus s
  let digits := (s.drop sign.length).takeWhile Bytes.isDigit
  if digits.isEmpty then none else some (sign ++ digits)

/-- Scans for numerals behind the next `skip` bytes, which belong to one already taken. -/
def numeralsFrom : Nat → Bytes → List Bytes
  | _, [] => []
  | skip + 1, _ :: s => numeralsFrom skip s
  | 0, b :: s =>
    match numeralAt? (b :: s) with
    | some m => m :: numeralsFrom (m.length - 1) s
    | none => numeralsFrom 0 s

/-- All numerals of a text, from the left, none overlapping another. -/
def numerals (s : Bytes) : List Bytes := numeralsFrom 0 s

example : numerals (utf8 "c1-2,--30x") = [utf8 "1", utf8 "-2", utf8 "-30"] := by decide

/-- No numeral reaches from the end of the one text into the other. -/
def Apart (a b : Bytes) : Prop :=
  ∀ x ∈ a.getLast?, ∀ y ∈ b.head?, Bytes.isDigit y = true → Bytes.isDigit x = false ∧ x ≠ 0x2d

theorem Apart.of_head {a b : Bytes} (h : ∀ y ∈ b.head?, Bytes.isDigit y = false) : Apart a b := by
  intro x _ y hy hdigit
  rw [h y hy] at hdigit
  cases hdigit

private theorem Apart.tail {x : UInt8} {a b : Bytes} (h : Apart (x :: a) b) : Apart a b := by
  intro z hz
  refine h z ?_
  rw [Option.mem_def] at hz ⊢
  rw [List.getLast?_cons, hz, Option.getD_some]

private theorem Apart.drop {a b : Bytes} (h : Apart a b) (n : Nat) : Apart (a.drop n) b := by
  induction n generalizing a with
  | zero => exact h
  | succ n ih =>
    cases a with
    | nil => exact h
    | cons x a => exact ih h.tail

private theorem leadingMinus_length_le (s : Bytes) : (leadingMinus s).length ≤ s.length := by
  cases s with
  | nil => simp [leadingMinus]
  | cons b s =>
    unfold leadingMinus
    split <;> simp

private theorem takeWhile_isDigit_append {l b : Bytes} (happart : Apart l b)
    (hempty : l = [] → ∀ y ∈ b.head?, Bytes.isDigit y = false) :
    (l ++ b).takeWhile Bytes.isDigit = l.takeWhile Bytes.isDigit := by
  rw [List.takeWhile_append]
  split
  case isFalse => rfl
  case isTrue hlength =>
    have hall : l.takeWhile Bytes.isDigit = l := (List.takeWhile_prefix _).eq_of_length hlength
    have hhead : ∀ y ∈ b.head?, Bytes.isDigit y = false := by
      intro y hy
      rcases List.eq_nil_or_concat' l with hnil | ⟨l', x, hl⟩
      · exact hempty hnil y hy
      · rw [← Bool.not_eq_true]
        intro hdigit
        have hx : Bytes.isDigit x = true := List.takeWhile_eq_self_iff.mp hall x (by simp [hl])
        have hnot := (happart x (by simp [hl]) y hy hdigit).1
        rw [hx] at hnot
        cases hnot
    cases b with
    | nil => rw [hall, List.takeWhile_nil, List.append_nil]
    | cons y b =>
      have hy : Bytes.isDigit y = false := hhead y rfl
      rw [hall, List.takeWhile_cons_of_neg (by simp [hy]), List.append_nil]

private theorem numeralAt?_append {a b : Bytes} (h : Apart a b) (hne : a ≠ []) :
    numeralAt? (a ++ b) = numeralAt? a := by
  have hsign : leadingMinus (a ++ b) = leadingMinus a := by
    rw [leadingMinus, leadingMinus, List.head?_append_of_ne_nil a hne]
  have hdigits : ((a ++ b).drop (leadingMinus a).length).takeWhile Bytes.isDigit =
      (a.drop (leadingMinus a).length).takeWhile Bytes.isDigit := by
    rw [List.drop_append_of_le_length (leadingMinus_length_le a)]
    refine takeWhile_isDigit_append (h.drop _) fun hnil y hy => ?_
    -- Nothing is left of `a` but its minus sign.
    obtain ⟨x, a, rfl⟩ := List.exists_cons_of_ne_nil hne
    have hlength := List.drop_eq_nil_iff.mp hnil
    unfold leadingMinus at hlength
    split at hlength
    case isFalse => simp at hlength
    case isTrue hminus =>
      have ha : a = [] := by simpa using hlength
      rw [← Bool.not_eq_true]
      intro hdigit
      refine (h x (by simp [ha]) y hy hdigit).2 ?_
      simpa using hminus
  rw [numeralAt?, numeralAt?, hsign, hdigits]

private theorem numeralAt?_length_le {s m : Bytes} (h : numeralAt? s = some m) :
    m.length ≤ s.length := by
  have htake : ((s.drop (leadingMinus s).length).takeWhile Bytes.isDigit).length ≤
      s.length - (leadingMinus s).length := by
    rw [← List.length_drop]
    exact (List.takeWhile_prefix _).length_le
  have hsign := leadingMinus_length_le s
  unfold numeralAt? at h
  simp only [Option.ite_none_left_eq_some, Option.some.injEq] at h
  rw [← h.2, List.length_append]
  omega

private theorem numeralsFrom_append {a b : Bytes} (h : Apart a b) {skip : Nat}
    (hskip : skip ≤ a.length) :
    numeralsFrom skip (a ++ b) = numeralsFrom skip a ++ numerals b := by
  induction a generalizing skip with
  | nil =>
    obtain rfl : skip = 0 := Nat.le_zero.mp hskip
    rfl
  | cons x a ih =>
    cases skip with
    | succ skip => exact ih h.tail (Nat.le_of_succ_le_succ hskip)
    | zero =>
      have hat := numeralAt?_append h (List.cons_ne_nil x a)
      rw [List.cons_append] at hat ⊢
      rw [numeralsFrom, numeralsFrom, hat]
      cases hm : numeralAt? (x :: a) with
      | none => exact ih h.tail (Nat.zero_le _)
      | some m =>
        have hlength := numeralAt?_length_le hm
        rw [List.length_cons] at hlength
        exact congrArg (m :: ·) (ih h.tail (by omega))

theorem numerals_append {a b : Bytes} (h : Apart a b) : numerals (a ++ b) = numerals a ++ numerals b :=
  numeralsFrom_append h (Nat.zero_le _)

private theorem numeralsFrom_of_length_le {skip : Nat} {s : Bytes} (h : s.length ≤ skip) :
    numeralsFrom skip s = [] := by
  induction s generalizing skip with
  | nil => rw [numeralsFrom]
  | cons b s ih =>
    cases skip with
    | zero => simp at h
    | succ skip => exact ih (Nat.le_of_succ_le_succ h)

/-- Without digits there is no numeral. -/
theorem numerals_of_no_digit {s : Bytes} (h : ∀ b ∈ s, Bytes.isDigit b = false) : numerals s = [] := by
  induction s with
  | nil => rfl
  | cons b s ih =>
    have hnone : numeralAt? (b :: s) = none := by
      have hdigits : ((b :: s).drop (leadingMinus (b :: s)).length).takeWhile Bytes.isDigit = [] := by
        rw [List.takeWhile_eq_nil_iff]
        intro hpos
        rw [h _ (List.mem_of_mem_drop (List.get_mem _ _))]
        exact Bool.false_ne_true
      rw [numeralAt?, hdigits]
      rfl
    change numeralsFrom 0 (b :: s) = []
    rw [numeralsFrom, hnone]
    exact ih fun c hc => h c (List.mem_cons_of_mem b hc)

private theorem numerals_of_numeral {sign digits : Bytes} (hsign : sign = [] ∨ sign = [0x2d])
    (hdigits : Int64.IsDigits digits) : numerals (sign ++ digits) = [sign ++ digits] := by
  obtain ⟨d, ds, rfl⟩ := List.exists_cons_of_ne_nil hdigits.1
  have hall : (d :: ds).takeWhile Bytes.isDigit = d :: ds := List.takeWhile_eq_self_iff.mpr hdigits.2
  have hd : Bytes.isDigit d = true := hdigits.2 d List.mem_cons_self
  have hwhole : numeralAt? (sign ++ d :: ds) = some (sign ++ d :: ds) := by
    have hlead : leadingMinus (sign ++ d :: ds) = sign := by
      rcases hsign with rfl | rfl
      · have hne : d ≠ 0x2d := by
          rintro rfl
          exact absurd hd (by decide)
        simp [leadingMinus, hne]
      · rfl
    rw [numeralAt?, hlead, List.drop_left, hall]
    rfl
  have hne : sign ++ d :: ds ≠ [] := by simp
  obtain ⟨b, s, hs⟩ := List.exists_cons_of_ne_nil hne
  rw [hs] at hwhole ⊢
  change numeralsFrom 0 (b :: s) = _
  rw [numeralsFrom, hwhole]
  exact congrArg _ (numeralsFrom_of_length_le (by simp))

private theorem exists_lastRun (s : Bytes) :
    (∀ b ∈ s, Bytes.isDigit b = false) ∨ ∃ before run after, s = before ++ run ++ after ∧
      Int64.IsDigits run ∧ (∀ x ∈ before.getLast?, Bytes.isDigit x = false) ∧
      ∀ b ∈ after, Bytes.isDigit b = false := by
  induction s with
  | nil => exact .inl fun _ h => absurd h List.not_mem_nil
  | cons b s ih =>
    rcases ih with hnone | ⟨before, run, after, rfl, hrun, hbefore, hafter⟩
    · cases hb : Bytes.isDigit b with
      | true => exact .inr ⟨[], [b], s, rfl, ⟨List.cons_ne_nil b [], by simp [hb]⟩, by simp, hnone⟩
      | false => exact .inl (List.forall_mem_cons.mpr ⟨hb, hnone⟩)
    · right
      rcases List.eq_nil_or_concat' before with rfl | ⟨l, x, rfl⟩
      · cases hb : Bytes.isDigit b with
        | true =>
          exact ⟨[], b :: run, after, rfl,
            ⟨List.cons_ne_nil b run, List.forall_mem_cons.mpr ⟨hb, hrun.2⟩⟩, by simp, hafter⟩
        | false => exact ⟨[b], run, after, rfl, hrun, by simp [hb], hafter⟩
      · refine ⟨b :: (l ++ [x]), run, after, rfl, hrun, ?_, hafter⟩
        rw [← List.cons_append, List.getLast?_concat]
        rwa [List.getLast?_concat] at hbefore

private theorem lastNumeral?_of_run {before run after : Bytes} (hrun : Int64.IsDigits run)
    (hbefore : ∀ x ∈ before.getLast?, Bytes.isDigit x = false)
    (hafter : ∀ b ∈ after, Bytes.isDigit b = false) :
    lastNumeral? (before ++ run ++ after) =
      some (if before.getLast? = some 0x2d then 0x2d :: run else run) := by
  obtain ⟨l, d, rfl⟩ := List.eq_nil_or_concat' run |>.resolve_left hrun.1
  have hd : Bytes.isDigit d = true := hrun.2 d (by simp)
  have hfrom : (before ++ (l ++ [d]) ++ after).reverse.dropWhile (!Bytes.isDigit ·) =
      (l ++ [d]).reverse ++ before.reverse := by
    rw [List.reverse_append, List.reverse_append,
      List.dropWhile_append_of_pos fun b hb => by simp [hafter b (List.mem_reverse.mp hb)],
      List.reverse_concat, List.cons_append, List.dropWhile_cons_of_neg (by simp [hd])]
  have hdigits : ((l ++ [d]).reverse ++ before.reverse).takeWhile Bytes.isDigit = (l ++ [d]).reverse := by
    rw [List.takeWhile_append_of_pos fun b hb => hrun.2 b (List.mem_reverse.mp hb)]
    cases hrev : before.reverse with
    | nil => simp
    | cons x r =>
      have hx : Bytes.isDigit x = false := hbefore x (by simp [← List.head?_reverse, hrev])
      rw [List.takeWhile_cons_of_neg (by simp [hx]), List.append_nil]
  have hrest : ((l ++ [d]).reverse ++ before.reverse).drop (l ++ [d]).length = before.reverse := by
    rw [← List.length_reverse, List.drop_left]
  rw [lastNumeral?, hfrom]
  simp only [hdigits, List.reverse_reverse, hrest, ← List.head?_reverse]
  rw [if_neg (by simp)]
  cases before.reverse with
  | nil => rfl
  | cons x r =>
    by_cases hx : x = 0x2d
    · simp [hx]
    · rw [if_neg (by simpa using hx)]
      split
      · simp_all
      · rfl

/-- Reading from the end finds the last numeral of the scan. -/
theorem lastNumeral?_eq (s : Bytes) : lastNumeral? s = (numerals s).getLast? := by
  rcases exists_lastRun s with hnone | ⟨before, run, after, rfl, hrun, hbefore, hafter⟩
  · rw [numerals_of_no_digit hnone]
    have hempty : s.reverse.dropWhile (!Bytes.isDigit ·) = [] := by
      rw [List.dropWhile_eq_nil_iff]
      intro b hb
      simp [hnone b (List.mem_reverse.mp hb)]
    rw [lastNumeral?, hempty]
    rfl
  · have hend : ∀ m : Bytes, Apart m after := fun m => Apart.of_head fun y hy =>
      hafter y (List.mem_of_mem_head? hy)
    rw [lastNumeral?_of_run hrun hbefore hafter, numerals_append (hend _), numerals_of_no_digit hafter,
      List.append_nil]
    by_cases hminus : before.getLast? = some 0x2d
    · obtain ⟨l, rfl⟩ := List.getLast?_eq_some_iff.mp hminus
      have hsplit : l ++ [0x2d] ++ run = l ++ ([0x2d] ++ run) := List.append_assoc _ _ _
      have happart : Apart l ([0x2d] ++ run) := Apart.of_head fun y hy => by
        obtain rfl : (0x2d : UInt8) = y := by simpa using hy
        decide
      rw [if_pos hminus, hsplit, numerals_append happart, numerals_of_numeral (.inr rfl) hrun,
        List.getLast?_concat]
      rfl
    · have happart : Apart before run := fun x hx y _ _ =>
        ⟨hbefore x hx, fun heq => hminus (heq ▸ hx)⟩
      have hself := numerals_of_numeral (.inl rfl) hrun
      rw [List.nil_append] at hself
      rw [if_neg hminus, numerals_append happart, hself, List.getLast?_concat]

/-- The last numeral is digits, perhaps with a minus sign. -/
theorem lastNumeral?_cases {s m : Bytes} (h : lastNumeral? s = some m) :
    ∃ digits, Int64.IsDigits digits ∧ (m = digits ∨ m = 0x2d :: digits) := by
  rcases exists_lastRun s with hnone | ⟨before, run, after, rfl, hrun, hbefore, hafter⟩
  · rw [lastNumeral?_eq, numerals_of_no_digit hnone] at h
    cases h
  · rw [lastNumeral?_of_run hrun hbefore hafter] at h
    refine ⟨run, hrun, ?_⟩
    split at h
    · exact .inr (Option.some.inj h).symm
    · exact .inl (Option.some.inj h).symm

end LineStore.Transform
