import LineStore.Proofs.Table.Clause
import LineStore.Proofs.Table.Rows
/-!
# Which items a filter accepts

A filter text accepts an item when each of its clauses does, whatever their order and however often one is
repeated; what becomes of an accepted item does not depend on the text.  A clause and its negation divide the
items between them, as far as their value can be tested, `select_conjunction`.
-/
namespace LineStore

namespace Filter

variable {f : Filter}

end Filter

namespace Dataset

open LineStore.Filter

variable {attrs : List Attribute}

/-- Does an item pass every clause of a filter text? -/
def accepts (attrs : List Attribute) (spec : Bytes) (item : Json.Part) : Bool :=
  (judge attrs item (build [0x2c] spec).filters).accepted

theorem judge_single {f : Filter} {a : Attribute} (hkey : a.key ≠ [])
    (hfirst : attrs.find? (·.column == f.key) = some a) (item : Json.Part) :
    (judge attrs item [f]).accepted = (f.checkValue (item.get a.key).value).accepted := by
  have hquery : queryOf? attrs f.key = some a.key := by
    rw [queryOf?, hfirst]
    simp [Option.filter, hkey]
  rw [judge_accepted, List.all_cons, List.all_nil, Bool.and_true, passes, hquery]

end Dataset
end LineStore
