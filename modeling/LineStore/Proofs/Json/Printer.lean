import LineStore.Json.Printer
import LineStore.Proofs.Data.Assoc
import Mathlib.Data.List.Forall2
/-!
# JSON text does not depend on the order of fields

Objects are written in the order of their names, so the same fields in another order are written the same.
-/
namespace LineStore

private theorem Value.sortFields_perm {α : Type} {fs gs : List (Bytes × α)} (hperm : fs.Perm gs)
    (hnodup : (fs.map Prod.fst).Nodup) : Value.sortFields fs = Value.sortFields gs := by
  let le (p q : Bytes × α) : Bool := Bytes.le p.1 q.1
  have hsorted : ∀ l : List (Bytes × α), (l.mergeSort le).Pairwise fun p q => le p q = true := fun l =>
    List.pairwise_mergeSort (fun a b c => Bytes.le_trans a.1 b.1 c.1)
      (fun a b => Bytes.le_total a.1 b.1) l
  have hsort : (fs.mergeSort le).Perm (gs.mergeSort le) :=
    ((List.mergeSort_perm fs le).trans hperm).trans (List.mergeSort_perm gs le).symm
  refine List.Perm.eq_of_pairwise ?_ (hsorted fs) (hsorted gs) hsort
  -- Two fields of one name are the same field.
  intro p q hp hq hpq hqp
  have hname : p.1 = q.1 := List.le_antisymm ((Bytes.le_iff _ _).mp hpq) ((Bytes.le_iff _ _).mp hqp)
  have hp' : p ∈ fs := (List.mergeSort_perm fs le).mem_iff.mp hp
  have hq' : q ∈ fs := hperm.mem_iff.mpr ((List.mergeSort_perm gs le).mem_iff.mp hq)
  exact List.inj_on_of_nodup_map hnodup hp' hq' hname

namespace Json

private theorem printFields_eq_map (fs : List (Bytes × Value)) :
    printFields fs = fs.map fun p => (p.1, print p.2) := by
  induction fs with
  | nil => rw [printFields, List.map_nil]
  | cons p fs ih =>
    obtain ⟨k, v⟩ := p
    rw [printFields, ih, List.map_cons]

theorem print_object_perm {fs gs : List (Bytes × Value)} (hperm : fs.Perm gs)
    (hnodup : (fs.map Prod.fst).Nodup) : print (.object fs) = print (.object gs) := by
  have hprinted : (printFields fs).Perm (printFields gs) := by
    rw [printFields_eq_map, printFields_eq_map]
    exact hperm.map _
  have hnames : ((printFields fs).map Prod.fst).Nodup := by
    rw [printFields_eq_map, List.map_map]
    exact hnodup
  rw [print, print, Value.sortFields_perm hprinted hnames]

private theorem printItems_congr {vs us : List Value}
    (h : List.Forall₂ (fun v u => print v = print u) vs us) :
    printItems vs = printItems us := by
  induction h with
  | nil => rfl
  | cons hv _ ih => rw [printItems, printItems, hv, ih]

theorem print_list_congr {vs us : List Value} (h : List.Forall₂ (fun v u => print v = print u) vs us) :
    print (.list vs) = print (.list us) := by
  rw [print, print, printItems_congr h]

end Json
end LineStore
