import LineStore.Cache.Source
import LineStore.Cache.Resolve
import LineStore.Hash.Sha1
/-!
# The cache of lines

The cache maps a name, exactly as the caller spelled it, to the lines of the file it leads to.  Each
entry keeps the size and modification time the file had, and is stale once they differ.  Lines held in
memory under the name, under its path, or under the name that path was last known by, come before the
disk.

Every operation is a function of the world and the cache.  It returns an `Outcome`: a value, the cache
afterwards, and the trace of what it looked at, opened and logged.
-/
namespace LineStore

structure Entry where
  /-- Absent for lines from memory with no file behind them; such an entry is never stale. -/
  witness : Option Witness
  lines : List Bytes
  path : Bytes
  digest : Option Bytes := none
  deriving Repr, DecidableEq, Inhabited

structure Cache where
  searchPath : List Bytes := []
  entries : Assoc Entry := .empty
  /-- The name a path was first loaded under, or the source that supplied it. -/
  reverse : Assoc Bytes := .empty
  deriving Repr, DecidableEq, Inhabited

structure Outcome (α : Type) where
  value : α
  cache : Cache
  trace : List Event := []

namespace Outcome

variable {α β : Type}

def map (f : α → β) (o : Outcome α) : Outcome β := ⟨f o.value, o.cache, o.trace⟩

/-- Runs the next operation on the cache an operation left, and appends its trace. -/
def andThen (o : Outcome α) (f : α → Cache → Outcome β) : Outcome β :=
  let p := f o.value o.cache
  ⟨p.value, p.cache, o.trace ++ p.trace⟩

def stats (o : Outcome α) : Nat := o.trace.countP fun | .stat _ => true | _ => false

def opens (o : Outcome α) : Nat := o.trace.countP fun | .opened _ => true | _ => false

end Outcome

namespace Cache

def empty (searchPath : List Bytes) : Cache := { searchPath }

/-- The names under which memory is asked for the lines of `key` at `path`. -/
def sourceNames (c : Cache) (key path : Bytes) : List Bytes :=
  match c.reverse.get? path with
  | some prev => if prev ≠ key ∧ prev ≠ path then [key, path, prev] else [key, path]
  | none => [key, path]

/-- The first populated source among `names`. -/
def firstSource (w : World) : List Bytes → Option (Bytes × List Bytes)
  | [] => none
  | name :: names =>
    match w.source name with
    | some lines => some (name, lines)
    | none => firstSource w names

private def countText (n : Nat) : Bytes := utf8 " (" ++ Bytes.ofNat n ++ utf8 " lines)"

/-- Drops any entry of `key` and builds a new one.  A load that fails leaves `key` without entry. -/
def load (w : World) (c : Cache) (key : Bytes) : Outcome (Except LoadError Entry) :=
  let entries := c.entries.erase key
  let dropped : Cache := { c with entries }
  let r := resolve w c.searchPath key
  let path := r.path.getD key
  match firstSource w (c.sourceNames key path) with
  | some (name, lines) =>
    let e : Entry := { witness := r.found, lines, path }
    ⟨.ok e, { c with entries := entries.set key e, reverse := c.reverse.set path name },
      r.trace ++ [.logged (.debug (utf8 "loaded " ++ key ++ utf8 " from memory" ++
        countText lines.length))]⟩
  | none =>
    match r.found with
    | none => ⟨.error (r.error key), dropped, r.trace⟩
    | some st =>
      match w.read path with
      | .openFailed why => ⟨.error (.openFailed path why), dropped, r.trace ++ [.opened path]⟩
      | .readFailed _ why => ⟨.error (.readFailed path why), dropped, r.trace ++ [.opened path]⟩
      | .content data =>
        let lines := splitLines data
        let e : Entry := { witness := some st, lines, path }
        let reverse := if c.reverse.contains path then c.reverse else c.reverse.set path key
        ⟨.ok e, { c with entries := entries.set key e, reverse },
          r.trace ++ [.opened path, .logged (.debug (utf8 "loaded " ++ key ++ utf8 " from " ++ path ++
            countText lines.length))]⟩

/-- The record of a load that failed. -/
def failure (what : Bytes) (e : LoadError) : Event :=
  .logged (.debug what [(utf8 "error", e.message)])

/-- Is the file behind an entry no longer the one it was read from? -/
def isStale (w : World) (e : Entry) : Bool :=
  match e.witness with
  | none => false
  | some st => w.fileAt e.path != some st

/-- Reloads `key` if its entry `e` is stale, and says whether it was. -/
def checkEntry (w : World) (c : Cache) (key : Bytes) (e : Entry) : Outcome Bool :=
  match e.witness with
  | none => ⟨false, c, []⟩
  | some _ =>
    if isStale w e then
      let why := match w.stat e.path with
        | none => utf8 " is gone"
        | some _ => utf8 " changed"
      let o := load w c key
      ⟨true, o.cache,
        [.stat e.path, .logged (.debug (utf8 "stale " ++ key ++ utf8 ": " ++ e.path ++ why))] ++
        o.trace ++
        match o.value with
        | .ok _ => []
        | .error err => [failure (utf8 "reload " ++ key ++ utf8 " failed, evicted") err]⟩
    else ⟨false, c, [.stat e.path]⟩

/-- The entry of `key` as it is, or loaded if there is none. -/
def fetch (w : World) (c : Cache) (key : Bytes) : Outcome (Option Entry) :=
  match c.entries.get? key with
  | some e => ⟨some e, c, []⟩
  | none =>
    let o := load w c key
    match o.value with
    | .ok e => ⟨some e, o.cache, o.trace⟩
    | .error err => ⟨none, o.cache, o.trace ++ [failure (utf8 "load " ++ key) err]⟩

/-- The entry of `key`.  With `reload` it is checked first; a key evicted by that stays missing. -/
def lookup (w : World) (c : Cache) (key : Bytes) (reload : Bool) : Outcome (Option Entry) :=
  if reload then
    match c.entries.get? key with
    | some e =>
      (checkEntry w c key e).andThen fun stale c' =>
        if stale then ⟨c'.entries.get? key, c', []⟩ else fetch w c' key
    | none => fetch w c key
  else fetch w c key

/-- Line `n` of `key`, counted from one. -/
def line (w : World) (c : Cache) (key : Bytes) (n : Int) (reload : Bool) : Outcome (Option Bytes) :=
  (lookup w c key reload).map fun e? => e?.bind fun e =>
    if n < 1 then none else e.lines[n.toNat - 1]?

def lines (w : World) (c : Cache) (key : Bytes) (reload : Bool) : Outcome (Option (List Bytes)) :=
  (lookup w c key reload).map (·.map Entry.lines)

/-- Lines `first` to `last`, both included; `last` may lie past the end. -/
def lineRange (w : World) (c : Cache) (key : Bytes) (first last : Int) (reload : Bool) :
    Outcome (Option (List Bytes)) :=
  (lookup w c key reload).map fun e? => e?.bind fun e =>
    if first < 1 ∨ e.lines.length < first ∨ last < first then none
    else some ((e.lines.take last.toNat).drop (first.toNat - 1))

def lineCount (w : World) (c : Cache) (key : Bytes) (reload : Bool) : Outcome (Option Nat) :=
  (lookup w c key reload).map (·.map fun e => e.lines.length)

/-- Makes sure `key` has an entry and gives its path. -/
def ensure (w : World) (c : Cache) (key : Bytes) (reload : Bool) : Outcome (Option Bytes) :=
  (lookup w c key reload).map (·.map Entry.path)

/-- Loads `key` anew, whatever is cached. -/
def refresh (w : World) (c : Cache) (key : Bytes) : Outcome (Option (List Bytes)) :=
  let o := load w c key
  match o.value with
  | .ok e => ⟨some e.lines, o.cache, o.trace⟩
  | .error err => ⟨none, o.cache, o.trace ++ [failure (utf8 "refresh " ++ key) err]⟩

structure CheckResult where
  stale : Bool
  cached : Bool
  deriving Repr, DecidableEq

def check (w : World) (c : Cache) (key : Bytes) : Outcome CheckResult :=
  match c.entries.get? key with
  | none => ⟨⟨false, false⟩, c, []⟩
  | some e => (checkEntry w c key e).map fun stale => ⟨stale, true⟩

/-- Checks the given keys in turn and keeps those that were stale. -/
def checkKeys (w : World) : List Bytes → Cache → Outcome (List Bytes)
  | [], c => ⟨[], c, []⟩
  | k :: ks, c =>
    (check w c k).andThen fun r c' =>
      (checkKeys w ks c').map fun stale => if r.stale then k :: stale else stale

def keys (c : Cache) : List Bytes := c.entries.keys

/-- Checks every cached key, in order, and gives those that were stale. -/
def checkAll (w : World) (c : Cache) : Outcome (List Bytes) := checkKeys w c.keys c

def isCached (c : Cache) (key : Bytes) : Bool := c.entries.contains key

def path? (c : Cache) (key : Bytes) : Option Bytes := (c.entries.get? key).map Entry.path

def witness? (c : Cache) (key : Bytes) : Option Witness := (c.entries.get? key).bind Entry.witness

/-- The digest of `key`'s lines, remembered in its entry once computed. -/
def digest (c : Cache) (key : Bytes) : Option Bytes × Cache :=
  match c.entries.get? key with
  | none => (none, c)
  | some e =>
    match e.digest with
    | some d => (some d, c)
    | none =>
      let d := Sha1.hexDigest e.lines.flatten
      (some d, { c with entries := c.entries.set key { e with digest := some d } })

def clear (c : Cache) (key : Bytes) : Cache := { c with entries := c.entries.erase key }

/-- Forgets every entry and every resolved path. -/
def clearAll (c : Cache) : Cache := { c with entries := .empty, reverse := .empty }

end Cache
end LineStore
