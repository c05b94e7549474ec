import LineStore.Pattern.Basic
import LineStore.Pattern.ClassData
/-!
# Reading patterns

The usual notation: alternatives, groups with flags and names, counted repetition up to 1000, classes
of characters in brackets, by letter, by name and by Unicode property.  Back references, look-around and
patterns that are too large or nested too deep are refused.
-/
namespace LineStore.Pattern

/-- Why a text is no pattern. -/
inductive ParseError where
  | malformed
  deriving Repr, DecidableEq, Inhabited

abbrev Parsed := Except ParseError

private def fail {α : Type} : Parsed α := .error .malformed

/-- The flags in force: ignore case, let the dot match newlines, let anchors match at lines. -/
structure Flags where
  fold : Bool := false
  dotAll : Bool := false
  multiLine : Bool := false
  deriving Repr, DecidableEq, Inhabited

private def oneChar (f : Flags) (c : Nat) : Pattern :=
  .set { items := [{ ranges := [(c, c)], fold := f.fold }] }

private def digitRange : List (Nat × Nat) := [(0x30, 0x39)]
private def spaceRange : List (Nat × Nat) := [(0x09, 0x0a), (0x0c, 0x0d), (0x20, 0x20)]
private def wordRange : List (Nat × Nat) := [(0x30, 0x39), (0x41, 0x5a), (0x5f, 0x5f), (0x61, 0x7a)]

private def letterClass? (f : Flags) (c : Nat) : Option ClassItem :=
  if c = 0x64 then some { ranges := digitRange, fold := f.fold }
  else if c = 0x44 then some { ranges := digitRange, fold := f.fold, negated := true }
  else if c = 0x73 then some { ranges := spaceRange, fold := f.fold }
  else if c = 0x53 then some { ranges := spaceRange, fold := f.fold, negated := true }
  else if c = 0x77 then some { ranges := wordRange, fold := f.fold }
  else if c = 0x57 then some { ranges := wordRange, fold := f.fold, negated := true }
  else none

private def bracketClass? (name : String) : Option (List (Nat × Nat)) :=
  match name with
  | "alnum" => some [(0x30, 0x39), (0x41, 0x5a), (0x61, 0x7a)]
  | "alpha" => some [(0x41, 0x5a), (0x61, 0x7a)]
  | "ascii" => some [(0, 0x7f)]
  | "blank" => some [(0x09, 0x09), (0x20, 0x20)]
  | "cntrl" => some [(0, 0x1f), (0x7f, 0x7f)]
  | "digit" => some digitRange
  | "graph" => some [(0x21, 0x7e)]
  | "lower" => some [(0x61, 0x7a)]
  | "print" => some [(0x20, 0x7e)]
  | "punct" => some [(0x21, 0x2f), (0x3a, 0x40), (0x5b, 0x60), (0x7b, 0x7e)]
  | "space" => some [(0x09, 0x0d), (0x20, 0x20)]
  | "upper" => some [(0x41, 0x5a)]
  | "word" => some wordRange
  | "xdigit" => some [(0x30, 0x39), (0x41, 0x46), (0x61, 0x66)]
  | _ => none

private def text (cs : List Nat) : String := String.ofList (cs.map Char.ofNat)

private def property (f : Flags) (negated : Bool) (s : List Nat) : Parsed (ClassItem × List Nat) :=
  let find (name : List Nat) (negated : Bool) (rest : List Nat) :
      Parsed (ClassItem × List Nat) :=
    match namedClass? (text name) with
    | some (sets, outside) =>
      .ok ({ ranges := sets.flatMap Array.toList, fold := f.fold, negated := negated != outside }, rest)
    | none => fail
  match s with
  | [] => fail
  | 0x7b :: rest =>
    let name := rest.takeWhile (· != 0x7d)
    if name.length = rest.length then fail
    else
      let rest := rest.drop (name.length + 1)
      match name with
      | 0x5e :: name => find name (!negated) rest
      | _ => find name negated rest
  | c :: rest => find [c] negated rest

private def hexDigit? (c : Nat) : Option Nat :=
  if 0x30 ≤ c ∧ c ≤ 0x39 then some (c - 0x30)
  else if 0x41 ≤ c ∧ c ≤ 0x46 then some (c - 0x37)
  else if 0x61 ≤ c ∧ c ≤ 0x66 then some (c - 0x57)
  else none

private def isOctal (c : Nat) : Bool := 0x30 ≤ c && c ≤ 0x37

private def isAlnum (c : Nat) : Bool := isWordCode c && c != 0x5f

private def escape (s : List Nat) : Parsed (Nat × List Nat) :=
  match s with
  | [] => fail
  | c :: rest =>
    if isOctal c then
      if c ≠ 0x30 ∧ !(rest.head?.any isOctal) then fail
      else
        let more := (rest.take 2).takeWhile isOctal
        .ok (more.foldl (fun n d => n * 8 + (d - 0x30)) (c - 0x30), rest.drop more.length)
    else if c = 0x78 then
      match rest with
      | 0x7b :: rest =>
        let digits := rest.takeWhile fun c => (hexDigit? c).isSome
        let value := digits.foldl (fun n d =>
          if n ≤ 0x10ffff then n * 16 + (hexDigit? d).getD 0 else n) 0
        match rest.drop digits.length with
        | 0x7d :: rest => if digits.isEmpty ∨ 0x10ffff < value then fail else .ok (value, rest)
        | _ => fail
      | a :: b :: rest =>
        match hexDigit? a, hexDigit? b with
        | some x, some y => .ok (x * 16 + y, rest)
        | _, _ => fail
      | _ => fail
    else if c = 0x61 then .ok (0x07, rest)
    else if c = 0x66 then .ok (0x0c, rest)
    else if c = 0x6e then .ok (0x0a, rest)
    else if c = 0x72 then .ok (0x0d, rest)
    else if c = 0x74 then .ok (0x09, rest)
    else if c = 0x76 then .ok (0x0b, rest)
    else if c < 0x80 ∧ !isAlnum c then .ok (c, rest)
    else fail

private def bracketChar (s : List Nat) : Parsed (Nat × List Nat) :=
  match s with
  | [] => fail
  | 0x5c :: rest => escape rest
  | c :: rest => .ok (c, rest)

private def bracketName? : List Nat → Option (List Nat × List Nat)
  | [] => none
  | 0x3a :: 0x5d :: rest => some ([], rest)
  | c :: rest => (bracketName? rest).map fun (n, r) => (c :: n, r)

private def bracketItems (f : Flags) : Nat → Bool → List Nat → Parsed (List ClassItem × List Nat)
  | 0, _, _ => fail
  | fuel + 1, first, s => do
    let more (item : ClassItem) (rest : List Nat) : Parsed (List ClassItem × List Nat) := do
      let (items, rest) ← bracketItems f fuel false rest
      return (item :: items, rest)
    let single : Parsed (List ClassItem × List Nat) := do
      let (lo, rest) ← bracketChar s
      match rest with
      | 0x2d :: c :: rest' =>
        if c = 0x5d then more { ranges := [(lo, lo)], fold := f.fold } rest
        else
          let (hi, rest) ← bracketChar (c :: rest')
          if hi < lo then fail else more { ranges := [(lo, hi)], fold := f.fold } rest
      | _ => more { ranges := [(lo, lo)], fold := f.fold } rest
    match s with
    | [] => fail
    | 0x5d :: rest => if first then single else return ([], rest)
    | 0x5b :: 0x3a :: rest =>
      match bracketName? rest with
      | none => single
      | some (name, rest) =>
        let (negated, name) := match name with
          | 0x5e :: n => (true, n)
          | n => (false, n)
        match bracketClass? (text name) with
        | some ranges => more { ranges, fold := f.fold, negated } rest
        | none => fail
    | 0x5c :: c :: rest =>
      if c = 0x70 ∨ c = 0x50 then
        let (item, rest) ← property f (c == 0x50) rest
        more item rest
      else match letterClass? f c with
        | some item => more item rest
        | none => single
    | _ => single

private def bracketSet (f : Flags) (s : List Nat) : Parsed (Pattern × List Nat) := do
  let (negated, body) := match s with
    | 0x5e :: rest => (true, rest)
    | _ => (false, s)
  let (items, rest) ← bracketItems f (s.length + 1) true body
  return (.set { items, negated }, rest)

private def count? (s : List Nat) : Option (Nat × List Nat) :=
  let digits := s.takeWhile fun c => 0x30 ≤ c && c ≤ 0x39
  if digits.isEmpty ∨ (2 ≤ digits.length ∧ digits.head? = some 0x30) then none
  else some (digits.foldl (fun n d => if n < 100000 then n * 10 + (d - 0x30) else n) 0,
    s.drop digits.length)

private def counts? (s : List Nat) : Option (Nat × Option Nat × List Nat) := do
  let (least, rest) ← count? s
  match rest with
  | 0x7d :: rest => some (least, some least, rest)
  | 0x2c :: 0x7d :: rest => some (least, none, rest)
  | 0x2c :: rest =>
    let (most, rest) ← count? rest
    match rest with
    | 0x7d :: rest => some (least, some most, rest)
    | _ => none
  | _ => none

-- Nested counts multiply, and the product is bounded.
private def withinBudget : Nat → Pattern → Bool
  | n, .cat a b | n, .alt a b => withinBudget n a && withinBudget n b
  | n, .group a => withinBudget n a
  | n, .rep a least most =>
    if most = some 0 then true
    else
      let m := most.getD least
      if n < m then false else withinBudget (if m = 0 then n else n / m) a
  | _, _ => true

private def catAll (items : List Pattern) : Pattern :=
  match items with
  | [] => .empty
  | [p] => p
  | p :: ps => ps.foldl .cat p

private def repeatLast (items : List Pattern) (least : Nat) (most : Option Nat) :
    Parsed (List Pattern) :=
  match items with
  | [] => fail
  | last :: before =>
    let p := Pattern.rep last least most
    if (2 ≤ least ∨ most.any (2 ≤ ·)) ∧ !withinBudget 1000 p then fail else .ok (p :: before)

private def groupFlags (f : Flags) (negative saw : Bool) : List Nat → Parsed (Flags × Bool × List Nat)
  | [] => fail
  | c :: rest =>
    if c = 0x69 then groupFlags { f with fold := !negative } negative true rest
    else if c = 0x6d then groupFlags { f with multiLine := !negative } negative true rest
    else if c = 0x73 then groupFlags { f with dotAll := !negative } negative true rest
    else if c = 0x55 then groupFlags f negative true rest
    else if c = 0x2d then if negative then fail else groupFlags f true false rest
    else if c = 0x3a ∨ c = 0x29 then
      if negative ∧ !saw then fail else .ok (f, c == 0x3a, rest)
    else fail

private def groupName? (s : List Nat) : Option (List Nat × List Nat) :=
  let name := s.takeWhile (· != 0x3e)
  if name.length = s.length ∨ name.isEmpty ∨ !name.all isWordCode then none
  else some (name, s.drop (name.length + 1))

private def quoted : List Nat → List Nat × List Nat
  | [] => ([], [])
  | 0x5c :: 0x45 :: rest => ([], rest)
  | c :: rest =>
    let (q, r) := quoted rest
    (c :: q, r)

private structure State where
  flags : Flags
  names : List (List Nat)
  rest : List Nat

mutual
private def alternatives : Nat → State → Parsed (Pattern × State)
  | 0, _ => fail
  | fuel + 1, st => do
    let (p, st) ← sequence fuel [] false st
    match st.rest with
    | 0x7c :: rest =>
      let (q, st) ← alternatives fuel { st with rest }
      return (.alt p q, st)
    | _ => return (p, st)

-- Items one after the other; those read so far come last one first, and `repeated` says that the
-- last was just repeated.
private def sequence : Nat → List Pattern → Bool → State → Parsed (Pattern × State)
  | 0, _, _, _ => fail
  | fuel + 1, items, repeated, st => do
    let f := st.flags
    let push (p : Pattern) (rest : List Nat) : Parsed (Pattern × State) :=
      sequence fuel (p :: items) false { st with rest }
    let again (least : Nat) (most : Option Nat) (rest : List Nat) : Parsed (Pattern × State) := do
      if repeated then fail
      else
        let items ← repeatLast items least most
        let rest := match rest with
          | 0x3f :: r => r
          | r => r
        sequence fuel items true { st with rest }
    match st.rest with
    | [] => return (catAll items.reverse, st)
    | c :: rest =>
      if c = 0x7c ∨ c = 0x29 then return (catAll items.reverse, st)
      else if c = 0x28 then
        let (p?, st) ← parenthesized fuel { st with rest }
        sequence fuel (p?.toList ++ items) false st
      else if c = 0x5b then
        let (p, rest) ← bracketSet f rest
        push p rest
      else if c = 0x2e then
        push (.set (if f.dotAll then { items := [], negated := true }
          else { items := [{ ranges := [(0x0a, 0x0a)] }], negated := true })) rest
      else if c = 0x5e then
        push (.assertion (if f.multiLine then .startOfLine else .startOfText)) rest
      else if c = 0x24 then
        push (.assertion (if f.multiLine then .endOfLine else .endOfText)) rest
      else if c = 0x2a then again 0 none rest
      else if c = 0x2b then again 1 none rest
      else if c = 0x3f then again 0 (some 1) rest
      else if c = 0x7b then
        match counts? rest with
        | none => push (oneChar f c) rest
        | some (least, most, rest) =>
          if 1000 < least ∨ most.any (1000 < ·) ∨ most.any (· < least) then fail
          else again least most rest
      else if c = 0x5c then
        match rest with
        | [] => fail
        | e :: rest' =>
          if e = 0x41 then push (.assertion .startOfText) rest'
          else if e = 0x7a then push (.assertion .endOfText) rest'
          else if e = 0x62 then push (.assertion .wordBoundary) rest'
          else if e = 0x42 then push (.assertion .noWordBoundary) rest'
          else if e = 0x51 then
            let (q, rest) := quoted rest'
            sequence fuel ((q.map (oneChar f)).reverse ++ items) false { st with rest }
          else if e = 0x70 ∨ e = 0x50 then
            let (item, rest) ← property f (e == 0x50) rest'
            push (.set { items := [item] }) rest
          else match letterClass? f e with
            | some item => push (.set { items := [item] }) rest'
            | none =>
              let (ch, rest) ← escape rest
              push (oneChar f ch) rest
      else push (oneChar f c) rest

private def parenthesized : Nat → State → Parsed (Option Pattern × State)
  | 0, _ => fail
  | fuel + 1, st => do
    let close (wrap : Pattern → Pattern) (outer : Flags) (st : State) :
        Parsed (Option Pattern × State) := do
      let (p, st) ← alternatives fuel st
      match st.rest with
      | 0x29 :: rest => return (some (wrap p), { st with flags := outer, rest })
      | _ => fail
    match st.rest with
    | 0x3f :: rest =>
      let named? := match rest with
        | 0x50 :: 0x3c :: r => some r
        | 0x3c :: r => some r
        | _ => none
      match named? with
      | some r =>
        match groupName? r with
        | none => fail
        | some (name, rest) =>
          if st.names.elem name then fail
          else close .group st.flags { st with names := name :: st.names, rest }
      | none =>
        let (f, isGroup, rest) ← groupFlags st.flags false false rest
        if isGroup then close id st.flags { st with flags := f, rest }
        else return (none, { st with flags := f, rest })
    | _ => close .group st.flags st
end

private def sizeLimit : Nat := 3355443
private def heightLimit : Nat := 1000

/-- The pattern a text denotes. -/
def parse? (s : Bytes) : Option Pattern :=
  if !Utf8.isValid s then none
  else
    let cs := Utf8.codes s
    match alternatives (4 * cs.length + 4) { flags := {}, names := [], rest := cs } with
    | .ok (p, st) =>
      if st.rest.isEmpty ∧ p.size ≤ sizeLimit ∧ p.height ≤ heightLimit then some p else none
    | .error _ => none

end LineStore.Pattern
