import LineStore.Yaml.Node
/-!
# How far aliases expand a document

Every node is read once, and what an alias stands for is read again each time.  A document in which nearly
all that is read comes from aliases is refused.
-/
namespace LineStore.Yaml

/-- The key that merges other mappings into one. -/
def Node.isMerge : Node → Bool
  | .scalar tag style text =>
    text == utf8 "<<" && ((style == .plain && (tag.isEmpty || tag == [0x21])) || tag == utf8 "!!merge")
  | _ => false

/-- How many nodes were read, and how many of those inside aliases. -/
structure Expansion where
  read : Nat := 0
  aliased : Nat := 0
  deriving Repr, DecidableEq, Inhabited

namespace Expansion

/-- Short documents may come from aliases to 99 in 100, long ones to 10 in 100, and those between to a
share that falls evenly. -/
def isExcessive (e : Expansion) : Bool :=
  let short := 400000
  let range := 3600000
  100 < e.aliased && 1000 < e.read &&
    (if e.read ≤ short then 99 * e.read < 100 * e.aliased
    else if short + range ≤ e.read then e.read < 10 * e.aliased
    else e.read * (99 * range - 89 * (e.read - short)) < 100 * range * e.aliased)

/-- One more node; nothing if that is too much. -/
def tick (e : Expansion) (inAlias : Bool) : Option Expansion :=
  let e : Expansion := ⟨e.read + 1, if inAlias then e.aliased + 1 else e.aliased⟩
  if e.isExcessive then none else some e

mutual
/-- Reads a node. -/
def node (inAlias : Bool) (e : Expansion) : Node → Option Expansion
  | .scalar _ _ _ => e.tick inAlias
  | .alias _ target => do node true (← e.tick inAlias) target
  | .sequence items => do nodes inAlias (← e.tick inAlias) items
  | .mapping ps => do
    let e ← pairs inAlias (← e.tick inAlias) ps
    -- A merge reads the keys once more, and then what it merges.
    if ps.any fun (k, _) => k.isMerge then merged inAlias (← keys inAlias e ps) ps else some e

def nodes (inAlias : Bool) (e : Expansion) : List Node → Option Expansion
  | [] => some e
  | n :: ns => do nodes inAlias (← node inAlias e n) ns

def pairs (inAlias : Bool) (e : Expansion) : List (Node × Node) → Option Expansion
  | [] => some e
  | (k, v) :: ps => do
    if k.isMerge then pairs inAlias e ps
    else pairs inAlias (← node inAlias (← node inAlias e k) v) ps

def keys (inAlias : Bool) (e : Expansion) : List (Node × Node) → Option Expansion
  | [] => some e
  | (k, _) :: ps => do keys inAlias (← node inAlias e k) ps

/-- Reads what the last merge of a mapping names. -/
def merged (inAlias : Bool) (e : Expansion) : List (Node × Node) → Option Expansion
  | [] => some e
  | (k, v) :: ps =>
    if k.isMerge && !ps.any fun (k, _) => k.isMerge then
      match v with
      | .sequence items => nodes inAlias e items
      | v => node inAlias e v
    else merged inAlias e ps
end

end Expansion

/-- May all that a document holds, its aliases written out, be read? -/
def Node.expands (root : Node) : Bool :=
  (Expansion.node false { read := 1 } root).isSome

end LineStore.Yaml
