import LineStore.Cache.Basic
import LineStore.Hash.XxHash64
/-!
# Watching files for changes

A watcher remembers the lines and the fingerprint it last saw of each key.  A scan checks the whole
cache and tells what happened to every key that was stale; a key that went missing is tried again until
it comes back.
-/
namespace LineStore

inductive ChangeKind where
  | modified | touched | removed | restored
  deriving Repr, DecidableEq, Inhabited

def ChangeKind.name : ChangeKind → Bytes
  | modified => utf8 "modified"
  | touched => utf8 "touched"
  | removed => utf8 "removed"
  | restored => utf8 "restored"

structure Change where
  key : Bytes
  kind : ChangeKind
  old : List Bytes := []
  new : List Bytes := []
  deriving Repr, DecidableEq, Inhabited

/-- The hash of the content of some lines. -/
def fingerprint (lines : List Bytes) : UInt64 := XxHash64.hash lines.flatten

structure Watcher where
  keys : List Bytes
  lines : Assoc (List Bytes) := .empty
  prints : Assoc UInt64 := .empty
  deriving Repr, DecidableEq, Inhabited

namespace Watcher

def remember (w : Watcher) (key : Bytes) (lines : List Bytes) : Watcher :=
  { w with lines := w.lines.set key lines, prints := w.prints.set key (fingerprint lines) }

def forget (w : Watcher) (key : Bytes) : Watcher :=
  { w with lines := w.lines.set key [], prints := w.prints.erase key }

/-- Loads the keys in turn; the first that cannot be loaded is the error. -/
def loadAll (world : World) (w : Watcher) : List Bytes → Cache → Outcome (Except Bytes Watcher)
  | [], c => ⟨.ok w, c, []⟩
  | k :: ks, c =>
    (c.lines world k false).andThen fun
      | none => fun c => ⟨.error k, c, []⟩
      | some ls => fun c => loadAll world (w.remember k ls) ks c

/-- A watcher of `keys`, or the first key that cannot be loaded. -/
def start (world : World) (c : Cache) (keys : List Bytes) : Outcome (Except Bytes Watcher) :=
  loadAll world { keys } keys c

/-- The message for a key that cannot be watched. -/
def missingText (key : Bytes) : Bytes := LoadError.notFoundText ++ utf8 ": " ++ key

/-- The directories that hold the watched files. -/
def directories (w : Watcher) (c : Cache) : List Bytes :=
  ((w.keys.filterMap c.path?).map Path.parent).eraseDups.mergeSort Bytes.le

/-- The watched paths, each with the last key that leads to it. -/
def paths (w : Watcher) (c : Cache) : Assoc Bytes :=
  w.keys.foldl (fun m k => match c.path? k with
    | some p => m.set p k
    | none => m) .empty

/-- Tells what happened to a key that was stale. -/
def classify (world : World) (w : Watcher) (c : Cache) (k : Bytes) : Outcome (Change × Watcher) :=
  let old := (w.lines.get? k).getD []
  (c.lines world k false).map fun
    | none => ({ key := k, kind := .removed, old }, w.forget k)
    | some ls =>
      let kind := if fingerprint ls = (w.prints.get? k).getD 0 then .touched else .modified
      ({ key := k, kind, old, new := ls }, w.remember k ls)

def classifyAll (world : World) : List Bytes → Watcher → Cache → Outcome (List Change × Watcher)
  | [], w, c => ⟨([], w), c, []⟩
  | k :: ks, w, c =>
    (classify world w c k).andThen fun (change, w) c =>
      (classifyAll world ks w c).map fun (changes, w) => (change :: changes, w)

/-- Tries to load again the keys that went missing. -/
def restoreAll (world : World) : List Bytes → Watcher → Cache → Outcome (List Change × Watcher)
  | [], w, c => ⟨([], w), c, []⟩
  | k :: ks, w, c =>
    if w.prints.contains k || c.isCached k then restoreAll world ks w c
    else
      (c.lines world k false).andThen fun
        | none => fun c => restoreAll world ks w c
        | some ls => fun c =>
          (restoreAll world ks (w.remember k ls) c).map fun (changes, w) =>
            ({ key := k, kind := .restored, new := ls } :: changes, w)

/-- Checks every cached key and reports the changes. -/
def scan (world : World) (w : Watcher) (c : Cache) : Outcome (List Change × Watcher) :=
  (c.checkAll world).andThen fun stale c =>
    (classifyAll world stale w c).andThen fun (changes, w) c =>
      (restoreAll world w.keys w c).map fun (restored, w) => (changes ++ restored, w)

end Watcher
end LineStore
