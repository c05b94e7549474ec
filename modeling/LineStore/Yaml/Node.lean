import LineStore.Data.Assoc
import LineStore.Yaml.Scanner
/-!
# From tokens to nodes

A document is a tree of scalars, sequences and mappings.  An alias is kept with the node it stands for;
one that stands for a node still being read is refused, as are unknown names.
-/
namespace LineStore.Yaml

/-- A tag is empty when none was given; `!!x` is short for the standard tags. -/
inductive Node where
  | scalar (tag : Bytes) (style : ScalarStyle) (text : Bytes)
  | sequence (items : List Node)
  | mapping (pairs : List (Node × Node))
  | alias (name : Bytes) (target : Node)
  deriving Inhabited

private structure NodeParser where
  scanner : Scanner
  /-- Nothing for a name whose node is still being read. -/
  anchors : Assoc (Option Node) := .empty
  handles : Assoc Bytes := .empty

namespace NodeParser

private def peek (p : NodeParser) : Option (Token × NodeParser) := do
  let (t, s) ← p.scanner.peek
  return (t, { p with scanner := s })

private def skip (p : NodeParser) : NodeParser := { p with scanner := p.scanner.take }

private def anchored (p : NodeParser) (name : Option Bytes) (n : Option Node) : NodeParser :=
  match name with
  | some a => { p with anchors := p.anchors.set a n }
  | none => p

private def standardStart : Bytes := utf8 "tag:yaml.org,2002:"

private def resolveTag (p : NodeParser) (handle suffix : Bytes) : Option Bytes :=
  let full :=
    if handle.isEmpty then some suffix
    else match p.handles.get? handle with
      | some start => some (start ++ suffix)
      | none =>
        if handle = [0x21] then some ([0x21] ++ suffix)
        else if handle = [0x21, 0x21] then some (standardStart ++ suffix)
        else none
  full.map fun t => match Bytes.dropStart? standardStart t with
    | some rest => [0x21, 0x21] ++ rest
    | none => t

private structure Properties where
  anchor : Option Bytes := none
  tag : Option Bytes := none

private def properties : Nat → Properties → NodeParser → Option (Properties × NodeParser)
  | 0, q, p => some (q, p)
  | fuel + 1, q, p => do
    let (t, p) ← p.peek
    match t with
    | .anchor a => if q.anchor.isSome then some (q, p) else properties fuel { q with anchor := some a } p.skip
    | .tag h s =>
      if q.tag.isSome then some (q, p)
      else
        let t ← p.resolveTag h s
        properties fuel { q with tag := some t } p.skip
    | _ => some (q, p)

private def emptyScalar (tag : Bytes := []) : Node := .scalar tag .plain []

mutual
private def node : Nat → Bool → Bool → NodeParser → Option (Node × NodeParser)
  | 0, _, _, _ => none
  | fuel + 1, block, indentless, p => do
    let (t, p) ← p.peek
    match t with
    | .alias name =>
      match p.anchors.get? name with
      | some (some target) => some (.alias name target, p.skip)
      | _ => none
    | _ =>
      let (q, p) ← properties 2 {} p
      let tag := q.tag.getD []
      let finish (r : Node × NodeParser) : Node × NodeParser :=
        (r.1, r.2.anchored q.anchor (some r.1))
      let (t, p) ← p.peek
      let start := p.anchored q.anchor none
      match t with
      | .blockEntry =>
        if indentless then
          let (items, p) ← indentlessItems fuel start
          some (finish (.sequence items, p))
        else if q.anchor.isSome || q.tag.isSome then some (finish (emptyScalar tag, p))
        else none
      | .scalar text style => some (finish (.scalar tag style text, p.skip))
      | .flowSequenceStart =>
        let (items, p) ← flowItems fuel true start.skip
        some (finish (.sequence items, p))
      | .flowMappingStart =>
        let (pairs, p) ← flowPairs fuel true start.skip
        some (finish (.mapping pairs, p))
      | .blockSequenceStart =>
        if block then
          let (items, p) ← blockItems fuel start.skip
          some (finish (.sequence items, p))
        else if q.anchor.isSome || q.tag.isSome then some (finish (emptyScalar tag, p))
        else none
      | .blockMappingStart =>
        if block then
          let (pairs, p) ← blockPairs fuel start.skip
          some (finish (.mapping pairs, p))
        else if q.anchor.isSome || q.tag.isSome then some (finish (emptyScalar tag, p))
        else none
      | _ =>
        if q.anchor.isSome || q.tag.isSome then some (finish (emptyScalar tag, p)) else none

private def nodeUnless (stops : List Token) (fuel : Nat) (block indentless : Bool) (p : NodeParser) :
    Option (Node × NodeParser) :=
  match fuel with
  | 0 => none
  | fuel + 1 => do
    let (t, p) ← p.peek
    if stops.elem t then some (emptyScalar, p) else node fuel block indentless p

private def blockItems : Nat → NodeParser → Option (List Node × NodeParser)
  | 0, _ => none
  | fuel + 1, p => do
    let (t, p) ← p.peek
    match t with
    | .blockEntry =>
      let (n, p) ← nodeUnless [.blockEntry, .blockEnd] fuel true false p.skip
      let (ns, p) ← blockItems fuel p
      some (n :: ns, p)
    | .blockEnd => some ([], p.skip)
    | _ => none

private def indentlessItems : Nat → NodeParser → Option (List Node × NodeParser)
  | 0, _ => none
  | fuel + 1, p => do
    let (t, p) ← p.peek
    match t with
    | .blockEntry =>
      let (n, p) ← nodeUnless [.blockEntry, .key, .value, .blockEnd] fuel true false p.skip
      let (ns, p) ← indentlessItems fuel p
      some (n :: ns, p)
    | _ => some ([], p)

private def blockPairs : Nat → NodeParser → Option (List (Node × Node) × NodeParser)
  | 0, _ => none
  | fuel + 1, p => do
    let stops := [Token.key, .value, .blockEnd]
    let (t, p) ← p.peek
    match t with
    | .key =>
      let (k, p) ← nodeUnless stops fuel true true p.skip
      let (v, p) ← blockValue fuel p
      let (rest, p) ← blockPairs fuel p
      some ((k, v) :: rest, p)
    | .blockEnd => some ([], p.skip)
    | _ => none

private def blockValue : Nat → NodeParser → Option (Node × NodeParser)
  | 0, _ => none
  | fuel + 1, p => do
    let (t, p) ← p.peek
    match t with
    | .value => nodeUnless [.key, .value, .blockEnd] fuel true true p.skip
    | _ => some (emptyScalar, p)

private def flowItems : Nat → Bool → NodeParser → Option (List Node × NodeParser)
  | 0, _, _ => none
  | fuel + 1, first, p => do
    let (t, p) ← p.peek
    match t with
    | .flowSequenceEnd => some ([], p.skip)
    | t =>
      let p ← if first then some p else if t == .flowEntry then some p.skip else none
      let (t, p) ← p.peek
      match t with
      | .key =>
        -- A key left out takes the token that follows it with it.
        let (next, p) ← p.skip.peek
        let (k, p) ←
          if [Token.value, .flowEntry, .flowSequenceEnd].elem next then some (emptyScalar, p.skip)
          else node fuel false false p
        let (v, p) ← flowValue fuel .flowSequenceEnd p
        let (ns, p) ← flowItems fuel false p
        some (.mapping [(k, v)] :: ns, p)
      | .flowSequenceEnd => some ([], p.skip)
      | _ =>
        let (n, p) ← node fuel false false p
        let (ns, p) ← flowItems fuel false p
        some (n :: ns, p)

private def flowValue : Nat → Token → NodeParser → Option (Node × NodeParser)
  | 0, _, _ => none
  | fuel + 1, close, p => do
    let (t, p) ← p.peek
    match t with
    | .value => nodeUnless [.flowEntry, close] fuel false false p.skip
    | _ => some (emptyScalar, p)

private def flowPairs : Nat → Bool → NodeParser → Option (List (Node × Node) × NodeParser)
  | 0, _, _ => none
  | fuel + 1, first, p => do
    let (t, p) ← p.peek
    match t with
    | .flowMappingEnd => some ([], p.skip)
    | t =>
      let p ← if first then some p else if t == .flowEntry then some p.skip else none
      let (t, p) ← p.peek
      match t with
      | .key =>
        let (k, p) ← nodeUnless [.value, .flowEntry, .flowMappingEnd] fuel false false p.skip
        let (v, p) ← flowValue fuel .flowMappingEnd p
        let (rest, p) ← flowPairs fuel false p
        some ((k, v) :: rest, p)
      | .flowMappingEnd => some ([], p.skip)
      | _ =>
        let (k, p) ← node fuel false false p
        let (rest, p) ← flowPairs fuel false p
        some ((k, emptyScalar) :: rest, p)
end

private def directives : Nat → Bool → NodeParser → Option NodeParser
  | 0, _, _ => none
  | fuel + 1, versioned, p => do
    let (t, p) ← p.peek
    match t with
    | .versionDirective major minor =>
      if !versioned && major == 1 && minor == 1 then directives fuel true p.skip else none
    | .tagDirective handle start =>
      if p.handles.contains handle then none
      else directives fuel versioned { p.skip with handles := p.handles.set handle start }
    | _ => some p

private def document (p : NodeParser) : Option (Option Node) := do
  let fuel := 6 * p.scanner.cursor.bound + 32
  let (_, p) ← p.peek
  let (t, p) ← p.skip.peek
  let content (p : NodeParser) : Option (Option Node) := do
    let (n, p) ← node fuel true false p
    let _ ← p.peek
    some (some n)
  match t with
  | .streamEnd => some none
  | .versionDirective _ _ | .tagDirective _ _ | .documentStart =>
    let p ← directives fuel false p
    let (t, p) ← p.peek
    if t != .documentStart then none
    else
      let (t, p) ← p.skip.peek
      match t with
      | .versionDirective _ _ | .tagDirective _ _ | .documentStart | .documentEnd | .streamEnd =>
        some (some emptyScalar)
      | _ => content p
  | _ => content p

end NodeParser

/-- The root of the first document of a text; nothing inside if there is no document. -/
def firstDocument? (s : Bytes) : Option (Option Node) :=
  NodeParser.document { scanner := .ofStream (.ofBytes s) }

end LineStore.Yaml
