import LineStore.Text.Bytes
/-!
# Finite maps keyed by byte strings

A map is a list of pairs read from the front.  `set` and `erase` keep at most one pair for the key
they are given; the laws below are what later modules use, through `get?` only.
-/
namespace LineStore

/-- A finite map from names to `α`. -/
structure Assoc (α : Type) where
  pairs : List (Bytes × α) := []
  deriving Repr, DecidableEq, Inhabited

namespace Assoc

variable {α β : Type}

def empty : Assoc α := ⟨[]⟩

/-- The value of the first pair with key `k`. -/
def lookup (k : Bytes) : List (Bytes × α) → Option α
  | [] => none
  | p :: l => if k = p.1 then some p.2 else lookup k l

def get? (m : Assoc α) (k : Bytes) : Option α := lookup k m.pairs

def contains (m : Assoc α) (k : Bytes) : Bool := (m.get? k).isSome

def erase (m : Assoc α) (k : Bytes) : Assoc α := ⟨m.pairs.filter (·.1 != k)⟩

def set (m : Assoc α) (k : Bytes) (v : α) : Assoc α := ⟨(m.erase k).pairs ++ [(k, v)]⟩

/-- Sets every pair in turn, so the last one for a key stays. -/
def ofList (l : List (Bytes × α)) : Assoc α := l.foldl (fun m p => m.set p.1 p.2) empty

def map (f : α → β) (m : Assoc α) : Assoc β := ⟨m.pairs.map fun p => (p.1, f p.2)⟩

def isEmpty (m : Assoc α) : Bool := m.pairs.isEmpty

/-- The pairs in the order of their keys. -/
def sorted (m : Assoc α) : List (Bytes × α) := m.pairs.mergeSort fun p q => Bytes.le p.1 q.1

/-- The keys, in order. -/
def keys (m : Assoc α) : List Bytes := (m.pairs.map (·.1)).mergeSort Bytes.le

private theorem lookup_filter_ne (l : List (Bytes × α)) (k k' : Bytes) :
    lookup k' (l.filter (·.1 != k)) = if k' = k then none else lookup k' l := by
  induction l with
  | nil => simp [lookup]
  | cons p l ih =>
    obtain ⟨a, v⟩ := p
    by_cases ha : a = k
    · subst ha
      by_cases hk : k' = a <;> simp_all [lookup]
    · by_cases hk : k' = a <;> simp_all [lookup]

private theorem lookup_append (l r : List (Bytes × α)) (k : Bytes) :
    lookup k (l ++ r) = (lookup k l).or (lookup k r) := by
  induction l with
  | nil => simp [lookup]
  | cons p l ih => by_cases hk : k = p.1 <;> simp [lookup, hk, ← ih]

@[simp] theorem get?_empty (k : Bytes) : (empty : Assoc α).get? k = none := rfl

theorem get?_erase (m : Assoc α) (k k' : Bytes) :
    (m.erase k).get? k' = if k' = k then none else m.get? k' :=
  lookup_filter_ne m.pairs k k'

@[simp] theorem get?_erase_self (m : Assoc α) (k : Bytes) : (m.erase k).get? k = none := by
  simp [get?_erase]

theorem get?_set (m : Assoc α) (k k' : Bytes) (v : α) :
    (m.set k v).get? k' = if k' = k then some v else m.get? k' := by
  have h := get?_erase m k k'
  simp only [get?, set, lookup_append] at h ⊢
  rw [h]
  by_cases hk : k' = k <;> simp [hk, lookup]

@[simp] theorem get?_set_self (m : Assoc α) (k : Bytes) (v : α) : (m.set k v).get? k = some v := by
  simp [get?_set]

end Assoc
end LineStore
