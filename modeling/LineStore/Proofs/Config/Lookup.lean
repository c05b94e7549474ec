import LineStore.Config.Load
import LineStore.Proofs.Text.Bytes
/-!
# The setting used for a key

A dotted key is a path through objects.  Below a namespace the path of the key there comes first, whatever
it leads to, and then that of the key itself, `find_eq_ok_iff`.  Each kind of setting has the data that
fit it, and all other data are an error, `Kind.read_eq_ok_iff`.
-/
namespace LineStore.Config

/-- A path leads from one value through objects, a name at each step, to another. -/
inductive Leads : List Bytes → Yaml.Data → Yaml.Data → Prop
  | here (d : Yaml.Data) : Leads [] d d
  | step {k : Bytes} {ks : List Bytes} {fields : List (Bytes × Yaml.Data)} {child d : Yaml.Data}
    (hchild : Assoc.lookup k fields = some child) (rest : Leads ks child d) :
    Leads (k :: ks) (.object fields) d

private theorem descend_eq_some_iff {ks : List Bytes} {d v : Yaml.Data} :
    descend ks d = some v ↔ Leads ks d v := by
  induction ks generalizing d with
  | nil =>
    constructor
    · intro h
      cases h
      exact .here _
    · rintro ⟨⟩
      rfl
  | cons k ks ih =>
    constructor
    · intro h
      cases d with
      | object fields =>
        rw [descend, Option.bind_eq_some_iff] at h
        obtain ⟨child, hchild, hrest⟩ := h
        exact .step hchild (ih.mp hrest)
      | _ => cases h
    · intro h
      cases h with
      | step hchild rest =>
        rw [descend, hchild, Option.bind_some]
        exact ih.mpr rest

private theorem Leads.unique {ks : List Bytes} {d v v' : Yaml.Data} (h : Leads ks d v)
    (h' : Leads ks d v') :
    v = v' :=
  Option.some.inj ((descend_eq_some_iff.mpr h).symm.trans (descend_eq_some_iff.mpr h'))

/-- The names of a dotted key. -/
def names (key : Bytes) : List Bytes := Bytes.splitOn 0x2e key

def root (c : Config) : Yaml.Data := .object (c.data.getD [])

/-- The setting a key has below the namespace. -/
def AtScope (c : Config) (key : Bytes) (v : Yaml.Data) : Prop :=
  c.scope ≠ [] ∧ Leads (names c.scope ++ names key) c.root v

/-- The setting used for a key: that below the namespace if there is one, else that of the key itself. -/
inductive Uses (c : Config) (key : Bytes) : Yaml.Data → Prop
  | scoped {v : Yaml.Data} (h : c.AtScope key v) : Uses c key v
  | plain {v : Yaml.Data} (hscope : ∀ u, ¬ c.AtScope key u) (h : Leads (names key) c.root v) :
    Uses c key v

private theorem get?_eq_some_iff {c : Config} {key : Bytes} {v : Yaml.Data} :
    c.get? key = some v ↔ Leads (names key) c.root v := descend_eq_some_iff

private theorem names_append (scope key : Bytes) :
    names (scope ++ [0x2e] ++ key) = names scope ++ names key :=
  Bytes.splitOn_append 0x2e scope key

private theorem findSome?_eq_some_iff {c : Config} {key : Bytes} {v : Yaml.Data} :
    (c.candidates key).findSome? c.get? = some v ↔ c.Uses key v := by
  unfold candidates
  by_cases hs : c.scope = []
  · have hscope : ∀ u, ¬ c.AtScope key u := fun _ h => h.1 hs
    rw [hs, List.isEmpty_nil, if_pos rfl, List.findSome?_singleton, get?_eq_some_iff]
    constructor
    · exact .plain hscope
    · rintro (h | ⟨_, h⟩)
      · exact absurd h (hscope v)
      · exact h
  · have hbelow : ∀ u, c.get? (c.scope ++ [0x2e] ++ key) = some u ↔ c.AtScope key u := by
      intro u
      rw [get?_eq_some_iff, names_append, AtScope]
      exact (and_iff_right hs).symm
    rw [List.isEmpty_eq_false_iff.mpr hs, if_neg Bool.false_ne_true, List.findSome?_cons]
    cases hget : c.get? (c.scope ++ [0x2e] ++ key) with
    | some u =>
      have hu := (hbelow u).mp hget
      constructor
      · intro h
        cases h
        exact .scoped hu
      · rintro (h | ⟨hscope, _⟩)
        · exact congrArg some (hu.2.unique h.2)
        · exact absurd hu (hscope u)
    | none =>
      have hscope : ∀ u, ¬ c.AtScope key u := by
        intro u hu
        rw [(hbelow u).mpr hu] at hget
        cases hget
      dsimp only
      rw [List.findSome?_singleton, get?_eq_some_iff]
      constructor
      · exact .plain hscope
      · rintro (h | ⟨_, h⟩)
        · exact absurd h (hscope v)
        · exact h

theorem find_eq_ok_iff {c : Config} {key : Bytes} {v : Yaml.Data} :
    c.find key = .ok v ↔ c.Uses key v := by
  rw [← findSome?_eq_some_iff, find]
  cases (c.candidates key).findSome? c.get? <;> simp

theorem find_eq_error {c : Config} {key : Bytes} (h : ∀ v, ¬ c.Uses key v) :
    c.find key = .error (.noPath (c.candidates key)) := by
  have hnone : (c.candidates key).findSome? c.get? = none := by
    rw [Option.eq_none_iff_forall_ne_some]
    exact fun v hv => h v (findSome?_eq_some_iff.mp hv)
  rw [find, hnone]

/-- The kinds of settings that can be asked for. -/
inductive Kind where
  | text
  | int
  | list
  deriving Repr, DecidableEq

namespace Kind

abbrev Value : Kind → Type
  | text => Bytes
  | int => Int
  | list => List Bytes

def read : (k : Kind) → Yaml.Data → Except Error k.Value
  | text => readText
  | int => readInt
  | list => readList

/-- The data that are a setting of a kind, with its value. -/
inductive Fits : (k : Kind) → Yaml.Data → k.Value → Prop
  | text (s : Bytes) : Fits text (.text s) s
  | int {n : Int} (h : n ≤ Int64.maxValue) : Fits int (.int n) n
  | float (x : Number) : Fits int (.float x) x.toInt64
  | one (s : Bytes) : Fits list (.text s) [s]
  | list (ss : List Bytes) : Fits list (.list (ss.map .text)) ss

private theorem readItems_map (ss : List Bytes) : readItems (ss.map .text) = .ok ss := by
  induction ss with
  | nil => rfl
  | cons s ss ih =>
    rw [List.map_cons, readItems, ih]
    rfl

private theorem eq_map_of_readItems {items : List Yaml.Data} {ss : List Bytes}
    (h : readItems items = .ok ss) :
    items = ss.map .text := by
  induction items generalizing ss with
  | nil =>
    cases h
    rfl
  | cons d items ih =>
    cases d with
    | text s =>
      rw [readItems] at h
      cases hrest : readItems items with
      | error e =>
        rw [hrest] at h
        cases h
      | ok rest =>
        rw [hrest] at h
        cases h
        rw [ih hrest, List.map_cons]
    | _ => cases h

theorem read_eq_ok_iff {k : Kind} {d : Yaml.Data} {a : k.Value} : k.read d = .ok a ↔ k.Fits d a := by
  cases k with
  | text =>
    constructor
    · intro h
      cases d with
      | text s =>
        cases h
        exact .text _
      | _ => cases h
    · rintro ⟨⟩
      rfl
  | int =>
    constructor
    · intro h
      cases d with
      | int n =>
        change (if n ≤ Int64.maxValue then Except.ok n else Except.error Error.notInt) = .ok a at h
        split at h
        · rename_i hn
          cases h
          exact .int hn
        · cases h
      | float x =>
        cases h
        exact .float x
      | _ => cases h
    · intro h
      cases h with
      | int hn => exact if_pos hn
      | float x => rfl
  | list =>
    constructor
    · intro h
      cases d with
      | text s =>
        cases h
        exact .one s
      | list items =>
        obtain rfl := eq_map_of_readItems h
        exact .list a
      | _ => cases h
    · intro h
      cases h with
      | one s => rfl
      | list => exact readItems_map a

/-- Data of the wrong type are an error. -/
theorem read_of_not_fits {k : Kind} {d : Yaml.Data} (h : ∀ a, ¬ k.Fits d a) :
    ∃ e, k.read d = .error e := by
  cases hr : k.read d with
  | error e => exact ⟨e, rfl⟩
  | ok a => exact absurd (read_eq_ok_iff.mp hr) (h a)

end Kind
end LineStore.Config
