import LineStore.Data.StableSort
import LineStore.Data.Value
import LineStore.Pattern.ClassData
import LineStore.Yaml.Data
/-!
# YAML text of values

Block style throughout: lists and objects on lines of their own, text plain where it reads back as the
same text, else quoted, and as a literal block when it has several lines.  Long lines are folded at
blanks.  Keys are in natural order: letters after all else, runs of digits by their value.
-/
namespace LineStore.Yaml

/-! ## The order of keys -/

private def inClass (name : String) (c : Nat) : Bool :=
  ((Pattern.rangesOf? name).getD []).any fun r => CodeTable.contains r c

private def isLetterCode (c : Nat) : Bool :=
  if c < 0x80 then (0x41 ≤ c && c ≤ 0x5a) || (0x61 ≤ c && c ≤ 0x7a) else inClass "l" c

private def isDigitCode (c : Nat) : Bool :=
  if c < 0x80 then 0x30 ≤ c && c ≤ 0x39 else inClass "nd" c

private def digitRun (start : Int) (s : List Nat) : Int × Nat :=
  let run := s.takeWhile isDigitCode
  (run.foldl (fun (n : Int) (c : Nat) => (n * 10 + ((c : Int) - 0x30)).bmod 18446744073709551616) start,
    run.length)

-- Compares from the first difference on; `before` is the common part, last character first.
private def lessFrom (before : List Nat) (x : Nat) (xs : List Nat) (y : Nat) (ys : List Nat) : Bool :=
  let xl := isLetterCode x
  let yl := isLetterCode y
  if xl && yl then x < y
  else if xl || yl then yl
  else
    let start : Int :=
      if (x == 0x30 || y == 0x30) && (before.takeWhile isDigitCode).any (· != 0x30) then 1 else 0
    let (a, an) := digitRun start (x :: xs)
    let (b, bn) := digitRun start (y :: ys)
    if a != b then a < b else if an != bn then an < bn else x < y

private def keyLess : List Nat → List Nat → List Nat → Bool
  | _, [], ys => !ys.isEmpty
  | _, _ :: _, [] => false
  | before, x :: xs, y :: ys =>
    if x == y then keyLess (x :: before) xs ys else lessFrom before x xs y ys

private def sortKeys {α : Type} (fields : List (Bytes × α)) : List (Bytes × α) :=
  StableSort.insertionSort (fun p q => keyLess [] (Utf8.codes p.1) (Utf8.codes q.1)) fields

/-! ## Scalars -/

inductive ScalarForm where
  | plain | singleQuoted | doubleQuoted | literal
  deriving Repr, DecidableEq, Inhabited

private structure Analysis where
  multiline : Bool
  plainAllowed : Bool
  singleAllowed : Bool
  blockAllowed : Bool

private def isPlainChar (c : Nat) : Bool :=
  c == 0x0a || (0x20 ≤ c && c ≤ 0x7e) || (0xa0 ≤ c && c ≤ 0xd7ff) ||
    (0xe000 ≤ c && c ≤ 0xfffd && c != 0xfeff)

private def leadingIndicator (s : List Nat) : Bool :=
  match s with
  | [] => false
  | c :: rest =>
    let alone := match rest with
      | [] => true
      | n :: _ => isBlank n || isBreak n
    [0x23, 0x2c, 0x5b, 0x5d, 0x7b, 0x7d, 0x26, 0x2a, 0x21, 0x7c, 0x3e, 0x27, 0x22, 0x25, 0x40, 0x60].elem c
      || ((c == 0x3f || c == 0x3a || c == 0x2d) && alone)

private def innerIndicator : Nat → List Nat → Bool
  | _, [] => false
  | prev, c :: rest =>
    let alone := match rest with
      | [] => true
      | n :: _ => isBlank n || isBreak n
    (c == 0x3a && alone) || (c == 0x23 && (isBlank prev || isBreak prev)) || innerIndicator c rest

private def hasPair (p : Nat → Nat → Bool) : List Nat → Bool
  | a :: b :: rest => p a b || hasPair p (b :: rest)
  | _ => false

private def analyze (s : List Nat) : Analysis :=
  match s with
  | [] => ⟨false, true, true, false⟩
  | first :: rest =>
    let last := s.getLast?.getD 0
    let documentMark := s.take 3 == [0x2d, 0x2d, 0x2d] || s.take 3 == [0x2e, 0x2e, 0x2e]
    let indicator := documentMark || leadingIndicator s || innerIndicator first rest
    let special := s.any (!isPlainChar ·)
    let isSp (c : Nat) := c == 0x20
    let multiline := s.any isBreak
    let breakSpace := hasPair (fun a b => isBreak a && isSp b) s
    let spaceBreak := hasPair (fun a b => isSp a && isBreak b) s
    let edges := isSp first || isBreak first || isSp last || isBreak last
    { multiline
      plainAllowed := !(edges || breakSpace || spaceBreak || special || multiline || indicator)
      singleAllowed := !(breakSpace || spaceBreak || special)
      blockAllowed := !(isSp last || spaceBreak || special) }

private def isBase60 (s : Bytes) : Bool :=
  let body := (Int64.sign s).2
  match Bytes.splitOn 0x3a body with
  | head :: t :: more =>
    let parts := t :: more
    let lastPart := parts.getLast?.getD []
    let (lastWhole, fraction) := match Bytes.cut? 0x2e lastPart with
      | some (a, b) => (a, b)
      | none => (lastPart, [])
    let sixty (p : Bytes) : Bool :=
      match p with
      | [a] => Bytes.isDigit a
      | [a, b] => 0x30 ≤ a && a ≤ 0x35 && Bytes.isDigit b
      | _ => false
    (head.head?.any Bytes.isDigit) && head.all (fun b => Bytes.isDigit b || b == 0x5f) &&
      parts.dropLast.all sixty && sixty lastWhole &&
      fraction.all fun b => Bytes.isDigit b || b == 0x5f
  | _ => false

private def isOldBool (s : Bytes) : Bool :=
  ["y", "Y", "yes", "Yes", "YES", "on", "On", "ON", "n", "N", "no", "No", "NO", "off", "Off", "OFF"].any
    fun w => utf8 w == s

private def needsQuotes (s : Bytes) : Bool :=
  isOldBool s || isBase60 s || match resolvePlain { signedOctal := false } s with
    | .text _ => false
    | _ => true

private def alphabet64 : Bytes :=
  utf8 "ABCDEFGHIJKLMNOPQRSTUVWXYZabcdefghijklmnopqrstuvwxyz0123456789+/"

private def digit64 (n : Nat) : UInt8 := alphabet64.getD (n % 64) 0

private def encode64 : Bytes → Bytes
  | a :: b :: c :: rest =>
    let n := (a.toNat * 256 + b.toNat) * 256 + c.toNat
    [digit64 (n / 262144), digit64 (n / 4096), digit64 (n / 64), digit64 n] ++ encode64 rest
  | [a, b] =>
    let n := (a.toNat * 256 + b.toNat) * 256
    [digit64 (n / 262144), digit64 (n / 4096), digit64 (n / 64), 0x3d]
  | [a] =>
    let n := a.toNat * 65536
    [digit64 (n / 262144), digit64 (n / 4096), 0x3d, 0x3d]
  | [] => []

private def lines64 : Nat → Bytes → Bytes
  | 0, _ => []
  | fuel + 1, s => if s.isEmpty then [] else s.take 70 ++ [0x0a] ++ lines64 fuel (s.drop 70)

private def binaryText (s : Bytes) : Bytes :=
  let e := encode64 s
  if e.length < 70 then e else lines64 e.length e

private def bestWidth : Nat := 80

private structure Out where
  text : Bytes := []
  column : Nat

private def Out.put (o : Out) (c : Nat) : Out := ⟨o.text ++ Utf8.encode c, o.column + 1⟩

private def Out.newLine (o : Out) (indent : Nat) : Out :=
  ⟨o.text ++ [0x0a] ++ Bytes.spaces indent, indent⟩

private def flowText (quoted fold : Bool) (indent : Nat) : Bool → Bool → Bool → List Nat → Out → Out
  | _, _, _, [], o => o
  | isFirst, afterSpace, afterBreak, c :: rest, o =>
    if c == 0x20 then
      let inside := !quoted || (!isFirst && !rest.isEmpty)
      if fold && !afterSpace && bestWidth < o.column && inside && rest.head? != some 0x20 then
        flowText quoted fold indent false true false rest (o.newLine indent)
      else flowText quoted fold indent false true false rest (o.put c)
    else if isBreak c then
      flowText quoted fold indent false false true rest ⟨o.text ++ Utf8.encode c, 0⟩
    else
      let o := if afterBreak then ⟨o.text ++ Bytes.spaces indent, indent⟩ else o
      let o := if quoted && c == 0x27 then o.put c else o
      flowText quoted fold indent false false false rest (o.put c)

private def hexUpper (width n : Nat) : Bytes :=
  (Bytes.padLeft 0x30 width (Bytes.ofNatBase 16 n)).map fun b => if Bytes.isLower b then b - 0x20 else b

private def escapeOf (c : Nat) : Bytes :=
  [0x5c] ++
  (if c == 0 then [0x30] else if c == 7 then [0x61] else if c == 8 then [0x62]
   else if c == 9 then [0x74] else if c == 0x0a then [0x6e] else if c == 0x0b then [0x76]
   else if c == 0x0c then [0x66] else if c == 0x0d then [0x72] else if c == 0x1b then [0x65]
   else if c == 0x22 || c == 0x5c then [c.toUInt8]
   else if c == 0x85 then [0x4e] else if c == 0xa0 then [0x5f]
   else if c == 0x2028 then [0x4c] else if c == 0x2029 then [0x50]
   else if c ≤ 0xff then 0x78 :: hexUpper 2 c
   else if c ≤ 0xffff then 0x75 :: hexUpper 4 c
   else 0x55 :: hexUpper 8 c)

private def doubleText (marked fold : Bool) (indent : Nat) : Bool → Bool → List Nat → Out → Out
  | _, _, [], o => o
  | isFirst, afterSpace, c :: rest, o =>
    if marked || !isPlainChar c || isBreak c || c == 0x22 || c == 0x5c then
      let e := escapeOf c
      doubleText marked fold indent false false rest ⟨o.text ++ e, o.column + e.length⟩
    else if c == 0x20 then
      if fold && !afterSpace && bestWidth < o.column && !isFirst && !rest.isEmpty then
        let o := o.newLine indent
        let o := if rest.head? == some 0x20 then o.put 0x5c else o
        doubleText marked fold indent false true rest o
      else doubleText marked fold indent false true rest (o.put c)
    else doubleText marked fold indent false false rest (o.put c)

private def literalBody (indent : Nat) : Bool → List Nat → Bytes
  | _, [] => []
  | afterBreak, c :: rest =>
    if isBreak c then Utf8.encode c ++ literalBody indent true rest
    else (if afterBreak then Bytes.spaces indent else []) ++ Utf8.encode c ++
      literalBody indent false rest

private def literalHints (s : List Nat) : Bytes :=
  let lead := match s with
    | c :: _ => if c == 0x20 || isBreak c then [0x32] else []
    | [] => []
  let chomp := match s.reverse with
    | [] => [0x2d]
    | c :: before =>
      if !isBreak c then [0x2d]
      else match before with
        | [] => [0x2b]
        | b :: _ => if isBreak b then [0x2b] else []
  lead ++ chomp

private def formOf (key : Bool) (s : Bytes) (a : Analysis) (canBePlain : Bool) : ScalarForm :=
  let wanted : ScalarForm :=
    if s.any (· == 0x0a) then .literal else if canBePlain then .plain else .doubleQuoted
  let wanted : ScalarForm := if key && a.multiline then .doubleQuoted else wanted
  let wanted : ScalarForm := match wanted with
    | .plain => if !a.plainAllowed || (s.isEmpty && key) then .singleQuoted else .plain
    | f => f
  match wanted with
  | .singleQuoted => if a.singleAllowed then .singleQuoted else .doubleQuoted
  | .literal => if !a.blockAllowed || key then .doubleQuoted else .literal
  | f => f

private def textScalar (key : Bool) (indent column : Nat) (raw : Bytes) : Bytes :=
  let binary := !Utf8.isValid raw
  let s := if binary then binaryText raw else raw
  let codes := Utf8.codes s
  let a := analyze codes
  let tag := if binary then utf8 "!!binary " else []
  let start : Out := ⟨[], column + tag.length⟩
  tag ++ match formOf key s a (binary || !needsQuotes s) with
    | .plain => (flowText false (!key) indent true false false codes start).text
    | .singleQuoted =>
      [0x27] ++ (flowText true (!key) indent true false false codes ⟨[], start.column + 1⟩).text ++ [0x27]
    | .doubleQuoted =>
      [0x22] ++ (doubleText (codes.head? == some 0xfeff) (!key) indent true false codes ⟨[], start.column + 1⟩).text ++ [0x22]
    | .literal =>
      let body := literalBody indent true codes
      [0x7c] ++ literalHints codes ++ [0x0a] ++
        (if body.getLast? == some 0x0a then body.dropLast else body)

private def numberScalar (style : Number.Style) (x : Number) : Bytes :=
  match x with
  | .nan => utf8 ".nan"
  | .infinite true => utf8 "-.inf"
  | .infinite false => utf8 ".inf"
  | x => x.write style

private def isSimpleKey (k : Bytes) : Bool :=
  let s := if Utf8.isValid k then k else binaryText k
  let tagged := if Utf8.isValid k then 0 else 8
  !(Utf8.codes s).any isBreak && s.length + tagged ≤ 128

/-! ## Collections -/

-- Ends a line. Literal text that ends with a Unicode separator has ended it.
private def endLine (s : Bytes) : Bytes :=
  let tail := s.drop (s.length - 3)
  if tail == Utf8.encode 0x2028 || tail == Utf8.encode 0x2029 then s else s ++ [0x0a]

mutual
-- A value after a mark, on the same line if it is a scalar or an empty collection. `inline` says
-- that the mark itself counts as indentation.
private def afterMark (inline : Bool) (indent column : Nat) : Value → Bytes
  | .list [] => utf8 " []"
  | .object [] => utf8 " \x7b\x7d"
  | .list (v :: vs) =>
    if inline then [0x20] ++ items (indent + 2) true (v :: vs)
    else [0x0a] ++ items indent false (v :: vs)
  | .object (f :: fs) =>
    let fields := sortKeys (fieldTexts (indent + 2) (f :: fs))
    if inline then [0x20] ++ fieldLines (indent + 2) true fields
    else [0x0a] ++ fieldLines (indent + 2) false fields
  | .null => utf8 " null"
  | .bool b => [0x20] ++ Value.boolText b
  | .number x => [0x20] ++ numberScalar Number.general x
  | .single x => [0x20] ++ numberScalar Number.generalSingle x
  | .integer _ n => [0x20] ++ Bytes.ofInt n
  | .text s => [0x20] ++ textScalar false (indent + 2) (column + 1) s

private def items (indent : Nat) (inline : Bool) : List Value → Bytes
  | [] => []
  | v :: vs =>
    let line := (if inline then [] else Bytes.spaces indent) ++ [0x2d] ++ afterMark true indent (indent + 1) v
    if vs.isEmpty then line else endLine line ++ items indent false vs

private def fieldTexts (indent : Nat) : List (Bytes × Value) → List (Bytes × Bytes)
  | [] => []
  | (k, v) :: fs =>
    let text :=
      if isSimpleKey k then
        let name := textScalar true indent indent k
        name ++ [0x3a] ++ afterMark false indent (indent + (Utf8.codes name).length + 1) v
      else
        endLine (utf8 "? " ++ textScalar false (indent + 2) (indent + 2) k) ++ Bytes.spaces indent ++
          [0x3a] ++ afterMark true indent (indent + 1) v
    (k, text) :: fieldTexts indent fs

private def fieldLines (indent : Nat) (inline : Bool) : List (Bytes × Bytes) → Bytes
  | [] => []
  | (_, text) :: rest =>
    let line := (if inline then [] else Bytes.spaces indent) ++ text
    if rest.isEmpty then line else endLine line ++ fieldLines indent false rest
end

/-- A list of values as a document. -/
def printList (vs : List Value) : Bytes :=
  if vs.isEmpty then utf8 "[]\n" else endLine (items 0 false vs)

end LineStore.Yaml
