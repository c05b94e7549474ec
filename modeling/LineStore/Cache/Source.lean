import LineStore.Data.Assoc
/-!
# Sources held in memory

A name may be tracked before its lines are known; only a populated source supplies lines.
-/
namespace LineStore

inductive Source where
  | unpopulated
  | populated (lines : List Bytes)
  deriving Repr, DecidableEq, Inhabited

def Source.lines? : Source → Option (List Bytes)
  | unpopulated => none
  | populated lines => some lines

abbrev Sources := Assoc Source

/-- The lines a populated source supplies under `name`. -/
def Sources.lines? (s : Sources) (name : Bytes) : Option (List Bytes) :=
  (s.get? name).bind Source.lines?

end LineStore
