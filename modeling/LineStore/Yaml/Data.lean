import LineStore.Number.Format
import LineStore.Number.Read
import LineStore.Time.Timestamp
import LineStore.Yaml.Expansion
/-!
# The data of a YAML document

Plain scalars are null, Booleans, whole numbers, floating point numbers, time stamps or text, by how they
are written; tags say it outright.  A mapping whose keys are all text is an object, any other a general
mapping.  A key given twice is an error, and `<<` takes over the pairs of other mappings for the keys a
mapping does not have itself.
-/
namespace LineStore.Yaml

inductive Data where
  | null
  | bool (b : Bool)
  | int (n : Int)
  | float (x : Number)
  | text (s : Bytes)
  /-- A moment, and the offset from UTC it was written with. -/
  | time (t : Time.Instant) (offset : Int)
  | list (items : List Data)
  | object (fields : List (Bytes × Data))
  | mapping (pairs : List (Data × Data))
  deriving Inhabited

/-! ## Scalars -/

private def oneOf (s : Bytes) (names : List String) : Bool := names.any fun n => utf8 n == s

private def named? (s : Bytes) : Option Data :=
  if oneOf s ["true", "True", "TRUE"] then some (.bool true)
  else if oneOf s ["false", "False", "FALSE"] then some (.bool false)
  else if oneOf s ["", "~", "null", "Null", "NULL"] then some .null
  else if oneOf s [".nan", ".NaN", ".NAN"] then some (.float .nan)
  else if oneOf s [".inf", ".Inf", ".INF", "+.inf", "+.Inf", "+.INF"] then
    some (.float (.infinite false))
  else if oneOf s ["-.inf", "-.Inf", "-.INF"] then some (.float (.infinite true))
  else none

private def digitsTo (s : Bytes) : Bytes × Bytes := s.span Bytes.isDigit

/-- `[-+]?(\.d+|d+(\.d*)?)([eE][-+]?d+)?` -/
def isFloatText (s : Bytes) : Bool :=
  let body := (Int64.sign s).2
  let (whole, rest) := digitsTo body
  let mantissa? := match rest with
    | 0x2e :: r =>
      let (fraction, r) := digitsTo r
      if whole.isEmpty && fraction.isEmpty then none else some r
    | r => if whole.isEmpty then none else some r
  match mantissa? with
  | none => false
  | some [] => true
  | some (e :: r) =>
    (e == 0x65 || e == 0x45) &&
      (let d := (Int64.sign r).2
       !d.isEmpty && d.all Bytes.isDigit)

/-- Which spellings of scalars are known. -/
structure Spelling where
  /-- Time stamps without tag. -/
  times : Bool := true
  /-- Octal numbers with a sign after `0o`. -/
  signedOctal : Bool := true

private def signedDigits? (base : Nat) (s : Bytes) : Option Int := do
  let (negative, body) := Int64.sign s
  (Int64.bounded negative (← Int64.digits? base body)).toOption

/-- A whole number of 64 bits, signed or not, whose base is told by its start.  After `0b`, and perhaps
after `0o`, a sign may stand. -/
def intText? (sp : Spelling) (plain : Bytes) : Option Int :=
  match Int64.readAnyBase plain with
  | .ok n => some n
  | .error _ =>
    match plain with
    | 0x2b :: _ | 0x2d :: _ => none
    | 0x30 :: 0x62 :: rest => (signedDigits? 2 rest).or (unsigned plain)
    | 0x30 :: 0x6f :: rest => (if sp.signedOctal then signedDigits? 8 rest else none).or (unsigned plain)
    | _ => unsigned plain
where
  unsigned (plain : Bytes) : Option Int :=
    match Int64.prefixed? plain with
    | some n => if n < 18446744073709551616 then some n else none
    | none => none

private def shortNumber? (s : Bytes) : Option (Nat × Bytes) :=
  match s with
  | a :: b :: r =>
    if Bytes.isDigit a && Bytes.isDigit b then
      some ((a.toNat - 0x30) * 10 + (b.toNat - 0x30), r)
    else if Bytes.isDigit a then some (a.toNat - 0x30, b :: r) else none
  | [a] => if Bytes.isDigit a then some (a.toNat - 0x30, []) else none
  | [] => none

private def twoDigits (n : Nat) : Bytes := Bytes.padLeft 0x30 2 (Bytes.ofNat n)

private def date? (s : Bytes) : Option (Bytes × Bytes) := do
  let year := s.take 4
  let rest ← Bytes.dropStart? [0x2d] (s.drop 4)
  let (month, rest) ← shortNumber? rest
  let rest ← Bytes.dropStart? [0x2d] rest
  let (day, rest) ← shortNumber? rest
  return (year ++ [0x2d] ++ twoDigits month ++ [0x2d] ++ twoDigits day, rest)

private def clock? (s : Bytes) : Option (Bytes × Bytes) := do
  let (h, rest) ← shortNumber? s
  let rest ← Bytes.dropStart? [0x3a] rest
  let (m, rest) ← shortNumber? rest
  let rest ← Bytes.dropStart? [0x3a] rest
  let (sec, rest) ← shortNumber? rest
  return (twoDigits h ++ [0x3a] ++ twoDigits m ++ [0x3a] ++ twoDigits sec, rest)

private def offsetOf (s : Bytes) : Int :=
  let tail := s.drop (s.length - 6)
  match tail with
  | sign :: _ =>
    let num (b : Bytes) : Int := (((Int64.digits? 10 b).getD 0 : Nat) : Int)
    let n := num ((tail.drop 1).take 2) * 3600 + num (tail.drop 4) * 60
    if sign == 0x2b then n else if sign == 0x2d then -n else 0
  | [] => 0

/-- A date, or a date and a time.  Fields may have one digit; with blanks between them no zone is
given. -/
def timeText? (s : Bytes) : Option Data :=
  if (s.takeWhile Bytes.isDigit).length ≠ 4 ∨ s[4]? ≠ some 0x2d then none
  else do
    let (day, rest) ← date? s
    match rest with
    | [] => (Time.parse? (day ++ utf8 "T00:00:00Z")).map fun t => .time t 0
    | sep :: rest =>
      let rest := if sep == 0x20 then rest.dropWhile (· == 0x20) else rest
      let (clock, zone) ← clock? rest
      if sep == 0x20 then
        (Time.parse? (day ++ [0x54] ++ clock ++ zone ++ [0x5a])).map fun t => .time t 0
      else if sep == 0x54 || sep == 0x74 then
        (Time.parse? (day ++ [0x54] ++ clock ++ zone)).map fun t => .time t (offsetOf zone)
      else none

private def numeric? (sp : Spelling) (s : Bytes) : Option Data :=
  match (if sp.times then timeText? s else none) with
  | some t => some t
  | none =>
    let plain := s.filter (· != 0x5f)
    match intText? sp plain with
    | some n => some (.int n)
    | none =>
      if isFloatText plain then (Number.readInRange? plain).map Data.float else none

/-- What a plain scalar without tag stands for. -/
def resolvePlain (sp : Spelling) (s : Bytes) : Data :=
  match named? s with
  | some d => d
  | none =>
    let found := match s with
      | [] => none
      | b :: _ =>
        if b == 0x2e then (Number.readInRange? s).map Data.float
        else if Bytes.isDigit b || b == 0x2b || b == 0x2d then numeric? sp s
        else none
    found.getD (.text s)

private def sixBits? (b : UInt8) : Option Nat :=
  if Bytes.isUpper b then some (b.toNat - 0x41)
  else if Bytes.isLower b then some (b.toNat - 0x61 + 26)
  else if Bytes.isDigit b then some (b.toNat - 0x30 + 52)
  else if b == 0x2b then some 62 else if b == 0x2f then some 63 else none

private def decode64 : Bytes → Option Bytes
  | [] => some []
  | [a, b, 0x3d, 0x3d] => do
    let n := (← sixBits? a) * 64 + (← sixBits? b)
    return [(n / 16).toUInt8]
  | [a, b, c, 0x3d] => do
    let n := ((← sixBits? a) * 64 + (← sixBits? b)) * 64 + (← sixBits? c)
    return [(n / 1024).toUInt8, (n / 4).toUInt8]
  | a :: b :: c :: d :: rest => do
    let n := (((← sixBits? a) * 64 + (← sixBits? b)) * 64 + (← sixBits? c)) * 64 + (← sixBits? d)
    return [(n / 65536).toUInt8, (n / 256).toUInt8, n.toUInt8] ++ (← decode64 rest)
  | _ => none

private def standardTag (name : String) : Bytes := utf8 "!!" ++ utf8 name

/-- The data of a scalar, unless its tag does not fit its text. -/
def scalar? (tag : Bytes) (style : ScalarStyle) (s : Bytes) : Option Data :=
  let untagged := tag.isEmpty || tag == [0x21]
  if untagged then
    if style != .plain then some (.text s) else some (resolvePlain {} s)
  else if tag == standardTag "str" then some (.text s)
  else if tag == standardTag "binary" then
    (decode64 (s.filter fun b => b != 0x0a && b != 0x0d)).map Data.text
  else if tag == standardTag "null" then
    match resolvePlain { times := false } s with
    | .null => some .null
    | _ => none
  else if tag == standardTag "bool" then
    match resolvePlain { times := false } s with
    | .bool b => some (.bool b)
    | _ => none
  else if tag == standardTag "int" then
    match resolvePlain { times := false } s with
    | .int n => some (.int n)
    | _ => none
  else if tag == standardTag "float" then
    match resolvePlain { times := false } s with
    | .float x => some (.float x)
    | .int n => if n ≤ Int64.maxValue then some (.float (Number.ofInt n)) else none
    | _ => none
  else if tag == standardTag "timestamp" then timeText? s
  else some (.text s)

/-! ## Collections -/

private def isTextKey : Node → Bool
  | n@(.scalar tag style text) =>
    n.isMerge || match scalar? tag style text with
      | some (.text _) => tag.isEmpty || tag == [0x21] || tag == standardTag "str"
      | _ => false
  | .alias _ target => isTextKey target
  | _ => false

private def keyId : Node → Nat × Bytes
  | .scalar _ _ text => (0, text)
  | .sequence _ => (1, [])
  | .mapping _ => (2, [])
  | .alias name _ => (3, name)

private def distinctKeys : List (Node × Node) → Bool
  | [] => true
  | (k, _) :: rest => !rest.any (fun (k', _) => keyId k' == keyId k) && distinctKeys rest

private def keyText : Data → Option (Nat × Bytes)
  | .null => some (0, [])
  | .bool b => some (1, [if b then 1 else 0])
  | .int n => some (2, Bytes.ofInt n)
  | .float x => some (3, if x.isZero then [0x30] else x.write Number.general)
  | .text s => some (4, s)
  | .time t _ => some (5, Bytes.ofInt t.sec ++ [0x2e] ++ Bytes.ofNat t.nsec)
  | .list _ | .object _ | .mapping _ => none

-- Not a number is no key twice.
private def sameKey (a b : Data) : Bool :=
  match a, b with
  | .float .nan, .float .nan => false
  | a, b => keyText a == keyText b

private structure Pairs where
  textual : Bool
  pairs : List (Data × Data) := []

private def Pairs.set (m : Pairs) (k v : Data) : Pairs :=
  if m.pairs.any fun (k', _) => sameKey k' k then
    { m with pairs := m.pairs.map fun p => if sameKey p.1 k then (k, v) else p }
  else { m with pairs := m.pairs ++ [(k, v)] }

private def Pairs.finish (m : Pairs) : Data :=
  if m.textual then .object (m.pairs.filterMap fun
    | (.text s, v) => some (s, v)
    | _ => none)
  else .mapping m.pairs

private def textKey : Node → Option (Option Data)
  | .scalar tag style text => do
    match ← scalar? tag style text with
    | .null => some none
    | .text s => some (some (.text (if tag == standardTag "binary" then s else text)))
    | _ => some (some (.text text))
  | .alias _ target => textKey target
  | _ => none

mutual
private def dataFuel : Nat → Node → Option Data
  | 0, _ => none
  | fuel + 1, n =>
    match n with
    | .scalar tag style text => scalar? tag style text
    | .alias _ target => dataFuel fuel target
    | .sequence items => (items.mapM (dataFuel fuel)).map .list
    | .mapping pairs => do
      let (m, _) ← pairsFuel fuel { textual := pairs.all fun (k, _) => isTextKey k } none pairs
      return m.finish

-- Adds the pairs of a mapping, then those it merges. Inside a merge, the keys in `known` are passed
-- over and others become known.
private def pairsFuel : Nat → Pairs → Option (List Data) → List (Node × Node) →
    Option (Pairs × Option (List Data))
  | 0, _, _, _ => none
  | fuel + 1, m, known, pairs => do
    if !distinctKeys pairs then none
    else
      let (m, known) ← pairs.foldlM (fun (m, known) (k, v) => do
        if k.isMerge then some (m, known)
        else
          match ← if m.textual then textKey k else (dataFuel fuel k).map some with
          | none => some (m, known)
          | some key =>
            if known.any (·.any (sameKey · key)) then some (m, known)
            else if (keyText key).isNone then none
            else
              let value ← dataFuel fuel v
              some (m.set key value, known.map (key :: ·))) (m, known)
      match (pairs.filter fun (k, _) => k.isMerge).map (·.2) with
      | [] => some (m, known)
      | source :: _ =>
        let own := match known with
          | some keys => keys
          | none => pairs.filterMap fun (k, _) => dataFuel fuel k
        let (m, merged) ← mergeFuel fuel m own source
        some (m, known.map fun _ => merged)

private def mergeFuel : Nat → Pairs → List Data → Node → Option (Pairs × List Data)
  | 0, _, _, _ => none
  | fuel + 1, m, known, source => do
    let add (r : Pairs × List Data) (pairs : List (Node × Node)) : Option (Pairs × List Data) := do
      let (m, known) ← pairsFuel fuel r.1 (some r.2) pairs
      return (m, known.getD [])
    match source with
    | .mapping pairs => add (m, known) pairs
    | .alias _ (.mapping pairs) => add (m, known) pairs
    | .sequence items =>
      items.foldlM (fun r item =>
        match item with
        | .mapping pairs => add r pairs
        | .alias _ (.mapping pairs) => add r pairs
        | _ => none) (m, known)
    | _ => none
end

private def sizeBound (s : Bytes) : Nat := 4 * s.length + 16

/-- The data of the first document; null if there is none. -/
def parse? (s : Bytes) : Option Data :=
  match firstDocument? s with
  | none => none
  | some none => some .null
  | some (some n) => if n.expands then dataFuel (sizeBound s) n else none

/-- The first document read as an object: nothing inside if it is null or missing, an error if it is
anything else. -/
def parseObject? (s : Bytes) : Option (Option (List (Bytes × Data))) :=
  match firstDocument? s with
  | none => none
  | some none => some none
  | some (some n) =>
    let rec root : Node → Option (Option (List (Bytes × Data)))
      | .alias _ target => root target
      | .mapping pairs => do
        match (← pairsFuel (sizeBound s) { textual := true } none pairs).1.finish with
        | .object fields => some (some fields)
        | _ => none
      | .scalar tag style text => do
        match ← scalar? tag style text with
        | .null => some none
        | _ => none
      | .sequence _ => none
    if n.expands then root n else none

/-! ## Everyday text -/

private def timeDisplay (t : Time.Instant) (offset : Int) : Bytes :=
  let zone := (if offset < 0 then [0x2d] else [0x2b]) ++ twoDigits (offset.natAbs / 3600) ++
    twoDigits (offset.natAbs / 60 % 60)
  Time.clockText 0x20 (t.sec + offset) ++ t.fractionText ++ [0x20] ++ zone ++ [0x20] ++
    (if offset = 0 then utf8 "UTC" else zone)

-- The order of the keys of a general mapping: by kind, then by value. Time stamps go by their
-- fraction of a second first, and what is not a number goes before the numbers.
private def keyOrder : Data → Data → Bool
  | .bool a, .bool b => !a || b
  | .int a, .int b => a ≤ b
  | .float a, .float b => a.isNan || (!b.isNan && !b.lt a)
  | .text a, .text b => Bytes.le a b
  | .time a _, .time b _ => a.nsec < b.nsec || (a.nsec == b.nsec && a.sec ≤ b.sec)
  | a, b => kind a ≤ kind b
where
  kind : Data → Nat
    | .null => 0
    | .bool _ => 1
    | .float _ => 2
    | .int n => if n ≤ Int64.maxValue then 3 else 5
    | .text _ => 4
    | _ => 6

private def mapDisplay (pairs : List (Bytes × Bytes)) : Bytes :=
  utf8 "map[" ++ Bytes.join [0x20] (pairs.map fun (k, v) => k ++ [0x3a] ++ v) ++ [0x5d]

mutual
def Data.display : Data → Bytes
  | .null => utf8 "<nil>"
  | .bool b => if b then utf8 "true" else utf8 "false"
  | .int n => Bytes.ofInt n
  | .float x => x.write Number.general
  | .text s => s
  | .time t offset => timeDisplay t offset
  | .list items => [0x5b] ++ Bytes.join [0x20] (displayItems items) ++ [0x5d]
  | .object fields => mapDisplay ((displayFields fields).mergeSort fun p q => Bytes.le p.1 q.1)
  | .mapping pairs =>
    mapDisplay (((displayPairs pairs).mergeSort fun p q => keyOrder p.1 q.1).map (·.2))

def displayItems : List Data → List Bytes
  | [] => []
  | d :: ds => d.display :: displayItems ds

def displayFields : List (Bytes × Data) → List (Bytes × Bytes)
  | [] => []
  | (k, v) :: fs => (k, v.display) :: displayFields fs

def displayPairs : List (Data × Data) → List (Data × Bytes × Bytes)
  | [] => []
  | (k, v) :: ps => (k, k.display, v.display) :: displayPairs ps
end

/-- The value of a setting as text: the items of a list are separated by commas. -/
def Data.settingText : Data → Bytes
  | .list items => Bytes.join [0x2c] (displayItems items)
  | d => d.display

end LineStore.Yaml
