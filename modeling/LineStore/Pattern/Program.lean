import LineStore.Pattern.Basic
/-!
# Matching

A pattern becomes a list of steps with addresses.  Matching follows all ways through the steps at once:
the places reached before a character lead to the places reached after it.
-/
namespace LineStore.Pattern

/-- A step of a program. -/
inductive Step where
  /-- Takes a character of the set and goes on at the next address. -/
  | take (s : CharSet)
  /-- Goes on at the next address if the assertion holds. -/
  | check (a : Assertion)
  /-- Goes on at both addresses. -/
  | fork (a b : Nat)
  | accept
  deriving Repr, Inhabited

/-- The steps of a pattern; addresses inside them are absolute. -/
structure Program where
  steps : Array Step

private def copies (body : Array Step → Array Step) : Nat → Array Step → Array Step
  | 0, code => code
  | n + 1, code => copies body n (body code)

private def optionals (body : Array Step → Array Step) (done : Nat) : Nat → Array Step → Array Step
  | 0, code => code
  | n + 1, code => optionals body done n (body (code.push (.fork (code.size + 1) done)))

/-- How many steps `append` adds. -/
def stepCount : Pattern → Nat
  | empty => 0
  | set _ | assertion _ => 1
  | cat a b => stepCount a + stepCount b
  | alt a b => stepCount a + stepCount b + 2
  | group a => stepCount a
  | rep a least none => least * stepCount a + stepCount a + 2
  | rep a least (some most) => least * stepCount a + (most - least) * (stepCount a + 1)

/-- Appends the steps of a pattern. -/
def append : Pattern → Array Step → Array Step
  | empty, code => code
  | set s, code => code.push (.take s)
  | assertion a, code => code.push (.check a)
  | cat a b, code => append b (append a code)
  | alt a b, code =>
    let second := code.size + stepCount a + 2
    let done := second + stepCount b
    append b ((append a (code.push (.fork (code.size + 1) second))).push (.fork done done))
  | group a, code => append a code
  | rep a least none, code =>
    let code := copies (append a) least code
    let here := code.size
    (append a (code.push (.fork (here + 1) (here + stepCount a + 2)))).push (.fork here here)
  | rep a least (some most), code =>
    let code := copies (append a) least code
    optionals (append a) (code.size + (most - least) * (stepCount a + 1)) (most - least) code

def compile (p : Pattern) : Program := ⟨(append p #[]).push .accept⟩

private structure Reached where
  seen : Array Bool
  takes : Array Nat := #[]
  accepted : Bool := false

private def close (prog : Program) (here : Place) : Nat → List Nat → Reached → Reached
  | 0, _, r => r
  | _, [], r => r
  | fuel + 1, pc :: todo, r =>
    if r.seen.getD pc true then close prog here fuel todo r
    else
      let r := { r with seen := r.seen.set! pc true }
      match prog.steps[pc]? with
      | some (.take _) => close prog here fuel todo { r with takes := r.takes.push pc }
      | some (.check a) =>
        if a.holds here then close prog here fuel ((pc + 1) :: todo) r else close prog here fuel todo r
      | some (.fork a b) => close prog here fuel (a :: b :: todo) r
      | some .accept => close prog here fuel todo { r with accepted := true }
      | none => close prog here fuel todo r

private def reach (prog : Program) (here : Place) (places : List Nat) : Reached :=
  let start := places ++ [0]
  close prog here (start.length + 2 * prog.steps.size + 1) start
    { seen := Array.replicate prog.steps.size false }

private def search (prog : Program) : List Nat → Option Nat → List Nat → Bool
  | pcs, prev, [] => (reach prog ⟨prev, none⟩ pcs).accepted
  | pcs, prev, c :: rest =>
    let r := reach prog ⟨prev, some c⟩ pcs
    if r.accepted then true
    else
      let next := r.takes.toList.filterMap fun pc =>
        match (prog.steps[pc]? : Option Step) with
        | some (.take s) => if s.contains c then some (pc + 1) else none
        | _ => none
      search prog next (some c) rest

/-- Does the pattern match somewhere in a list of code points? -/
def matchesCodes (p : Pattern) (s : List Nat) : Bool := search p.compile [] none s

/-- Does the pattern match somewhere in a text? -/
def isMatch (p : Pattern) (s : Bytes) : Bool := p.matchesCodes (Utf8.codes s)

end LineStore.Pattern
