import LineStore.Data.Assoc
import Mathlib.Data.List.Nodup
/-!
# The keys of a finite map

A map built by `set` and `erase` has every key once, so `keys` lists them in strictly rising order.
-/
namespace LineStore

theorem Bytes.le_iff (a b : Bytes) : Bytes.le a b = true ↔ a ≤ b := by
  simp [Bytes.le, List.not_lt]

theorem Bytes.le_trans (a b c : Bytes) (hab : Bytes.le a b = true)
    (hbc : Bytes.le b c = true) : Bytes.le a c = true := by
  rw [Bytes.le_iff] at *
  exact List.le_trans hab hbc

theorem Bytes.le_total (a b : Bytes) : (Bytes.le a b || Bytes.le b a) = true := by
  rw [Bool.or_eq_true, Bytes.le_iff, Bytes.le_iff]
  exact List.le_total a b

namespace Assoc

variable {α : Type}

/-- No key has two pairs. -/
def Distinct (m : Assoc α) : Prop := (m.pairs.map (·.1)).Nodup

instance (m : Assoc α) : Decidable m.Distinct :=
  inferInstanceAs (Decidable (m.pairs.map (·.1)).Nodup)

theorem distinct_empty : (empty : Assoc α).Distinct := List.nodup_nil

theorem Distinct.erase {m : Assoc α} (h : m.Distinct) (k : Bytes) : (m.erase k).Distinct :=
  List.Nodup.sublist (List.filter_sublist.map _) h

private theorem not_mem_erase (m : Assoc α) (k : Bytes) : k ∉ (m.erase k).pairs.map (·.1) := by
  simp [Assoc.erase]

theorem Distinct.set {m : Assoc α} (h : m.Distinct) (k : Bytes) (v : α) : (m.set k v).Distinct := by
  have herase : ((m.erase k).pairs.map (·.1)).Nodup := h.erase k
  have hk := not_mem_erase m k
  simp only [Distinct, Assoc.set, List.map_append, List.map_cons, List.map_nil]
  refine List.nodup_append.mpr ⟨herase, List.nodup_singleton k, ?_⟩
  intro a ha b hb hab
  rw [List.mem_singleton] at hb
  subst hb
  exact hk (hab ▸ ha)

private theorem lookup_eq_none_iff (k : Bytes) (l : List (Bytes × α)) :
    lookup k l = none ↔ k ∉ l.map (·.1) := by
  induction l with
  | nil => simp [lookup]
  | cons p l ih =>
    rw [List.map_cons, List.mem_cons, lookup]
    by_cases hk : k = p.1
    · simp [hk]
    · simpa [hk] using ih

theorem mem_keys_iff (m : Assoc α) (k : Bytes) : k ∈ m.keys ↔ m.get? k ≠ none := by
  rw [keys, List.mem_mergeSort, get?, Ne, lookup_eq_none_iff, not_not]

theorem keys_nodup {m : Assoc α} (h : m.Distinct) : m.keys.Nodup :=
  (List.mergeSort_perm _ _).nodup_iff.mpr h

theorem keys_sorted {m : Assoc α} (h : m.Distinct) : m.keys.Pairwise (· < ·) := by
  have hle : m.keys.Pairwise fun a b => Bytes.le a b = true :=
    List.pairwise_mergeSort Bytes.le_trans Bytes.le_total _
  have hne : m.keys.Pairwise (· ≠ ·) := keys_nodup h
  refine (hle.and hne).imp ?_
  intro a b hab
  rcases List.le_iff_lt_or_eq.mp ((Bytes.le_iff a b).mp hab.1) with hlt | heq
  · exact hlt
  · exact absurd heq hab.2

theorem erase_of_get?_none {m : Assoc α} {k : Bytes} (h : m.get? k = none) : m.erase k = m := by
  have hk : k ∉ m.pairs.map (·.1) := (lookup_eq_none_iff k m.pairs).mp h
  have hfilter : m.pairs.filter (·.1 != k) = m.pairs := by
    refine List.filter_eq_self.mpr ?_
    intro p hp
    have hne : p.1 ≠ k := fun he => hk (he ▸ List.mem_map_of_mem hp)
    simpa using hne
  rw [Assoc.erase, hfilter]

theorem Distinct.foldl_erase {m : Assoc α} (h : m.Distinct) (ks : List Bytes) :
    (ks.foldl Assoc.erase m).Distinct := by
  induction ks generalizing m with
  | nil => exact h
  | cons k ks ih => exact ih (h.erase k)

theorem get?_foldl_erase (m : Assoc α) (ks : List Bytes) (k : Bytes) :
    (ks.foldl Assoc.erase m).get? k = if k ∈ ks then none else m.get? k := by
  induction ks generalizing m with
  | nil => rfl
  | cons k' ks ih =>
    rw [List.foldl_cons, ih, get?_erase]
    by_cases hk : k = k' <;> simp [hk]

theorem mem_pairs_iff {m : Assoc α} (h : m.Distinct) {k : Bytes} {v : α} :
    (k, v) ∈ m.pairs ↔ m.get? k = some v := by
  obtain ⟨l⟩ := m
  change (l.map (·.1)).Nodup at h
  change (k, v) ∈ l ↔ lookup k l = some v
  induction l with
  | nil => simp [lookup]
  | cons p l ih =>
    rw [List.map_cons, List.nodup_cons] at h
    rw [List.mem_cons, lookup]
    by_cases hk : k = p.1
    · have hnot : (k, v) ∉ l := fun hmem => h.1 (hk ▸ List.mem_map_of_mem hmem)
      subst hk
      simp [hnot, Prod.ext_iff, eq_comm]
    · have hne : (k, v) ≠ p := fun hp => hk (congrArg Prod.fst hp)
      simp [hk, hne, ih h.2]

/-- Setting a key is not seen by a selection of pairs that leaves the key out. -/
theorem filterMap_set {β : Type} {m : Assoc α} {k : Bytes} {f : Bytes × α → Option β}
    (h : ∀ v, f (k, v) = none) (v : α) : (m.set k v).pairs.filterMap f = m.pairs.filterMap f := by
  have herase : (m.erase k).pairs.filterMap f = m.pairs.filterMap f := by
    rw [Assoc.erase, List.filterMap_filter]
    refine List.filterMap_congr ?_
    rintro ⟨k', v'⟩ -
    by_cases hk : k' = k
    · simp [hk, h]
    · simp [hk]
  rw [Assoc.set, List.filterMap_append, herase, List.filterMap_cons, h]
  simp

/-- Maps that give the same answers hold the same pairs. -/
theorem Distinct.perm {m m' : Assoc α} (h : m.Distinct) (h' : m'.Distinct)
    (hget : ∀ k, m.get? k = m'.get? k) : m.pairs.Perm m'.pairs := by
  refine (List.perm_ext_iff_of_nodup (List.Nodup.of_map _ h) (List.Nodup.of_map _ h')).mpr ?_
  rintro ⟨k, v⟩
  rw [mem_pairs_iff h, mem_pairs_iff h', hget]

theorem get?_eq_none_iff (m : Assoc α) (k : Bytes) : m.get? k = none ↔ k ∉ m.pairs.map (·.1) :=
  lookup_eq_none_iff k m.pairs

end Assoc
end LineStore
