import LineStore.Data.Assoc
import LineStore.Time.Civil
/-!
# Log records

A record is a level, a message and named fields.  Its line shows the time, the first letter of the
level, the message and the fields in the order of their names.
-/
namespace LineStore.Log

inductive Level where
  | debug | info | warn | error | fatal
  deriving Repr, DecidableEq, Inhabited

namespace Level

def rank : Level → Nat
  | debug => 0 | info => 1 | warn => 2 | error => 3 | fatal => 4

def name : Level → Bytes
  | debug => utf8 "debug" | info => utf8 "info" | warn => utf8 "warn"
  | error => utf8 "error" | fatal => utf8 "fatal"

/-- The level of a name in lower case. -/
def ofName? (s : Bytes) : Option Level :=
  if s = utf8 "debug" then some debug
  else if s = utf8 "info" then some info
  else if s = utf8 "warn" ∨ s = utf8 "warning" then some warn
  else if s = utf8 "error" then some error
  else if s = utf8 "fatal" then some fatal
  else none

def letter : Level → UInt8
  | debug => 0x44 | info => 0x49 | warn => 0x57 | error => 0x45 | fatal => 0x46

end Level

structure Record where
  level : Level
  message : Bytes
  fields : List (Bytes × Bytes) := []
  deriving Repr, DecidableEq, Inhabited

namespace Record

def debug (message : Bytes) (fields : List (Bytes × Bytes) := []) : Record :=
  ⟨.debug, message, fields⟩

def warn (message : Bytes) (fields : List (Bytes × Bytes) := []) : Record :=
  ⟨.warn, message, fields⟩

def error (message : Bytes) (fields : List (Bytes × Bytes) := []) : Record :=
  ⟨.error, message, fields⟩

/-- Everything after the time stamp. -/
def body (r : Record) : Bytes :=
  [r.level.letter, 0x20] ++ r.message ++
    ((Assoc.mk r.fields).sorted.flatMap fun (name, v) => [0x20] ++ name ++ [0x3d] ++ v)

/-- The line written for a record at a time in seconds since 1970, UTC. -/
def line (r : Record) (sec : Int) : Bytes :=
  Time.clockText 0x20 sec ++ [0x20] ++ r.body ++ [0x0a]

end Record
end LineStore.Log
