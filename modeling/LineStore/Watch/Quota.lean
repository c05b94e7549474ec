import LineStore.Watch.Watcher
/-!
# How many changes are reported

Changes come in batches.  With a limit, only as many are reported as it allows, and the watch is over
once it is reached.
-/
namespace LineStore

structure Quota where
  /-- Zero if there is no limit. -/
  limit : Nat := 0
  reported : Nat := 0
  deriving Repr, DecidableEq, Inhabited

namespace Quota

/-- The part of a batch that is reported. -/
def allow (q : Quota) (batch : List Change) : List Change :=
  if 0 < q.limit ∧ q.limit < q.reported + batch.length then batch.take (q.limit - q.reported)
  else batch

/-- The quota after some changes were reported. -/
def after (q : Quota) (changes : List Change) : Quota :=
  { q with reported := q.reported + changes.length }

/-- Is the watch over? -/
def isSpent (q : Quota) : Bool := decide (0 < q.limit ∧ q.limit ≤ q.reported)

/-- Is this the first batch to be reported? -/
def isFresh (q : Quota) : Bool := q.reported == 0

end Quota
end LineStore
