import LineStore.Proofs.Config.Lookup
/-!
# Settings over runs

A run is a list of calls, each made on the host of its moment: files and environment may change in any way
between two calls.  Only a read that succeeds replaces the settings, and it replaces them whole; a look-up
reads them only while there are none and keeps the namespace.  So what a look-up answers depends on the
document read last and on the namespace, `run_settings`.
-/
namespace LineStore.Config

/-- Looks up a setting of some kind. -/
def get (h : Host) (c : Config) (key : Bytes) :
    (k : Kind) → List k.Value → Outcome (Except Error k.Value)
  | .text, defaults => text h c key defaults
  | .int, defaults => int h c key defaults
  | .list, defaults => list h c key defaults

inductive Call where
  /-- Reads the settings, with the first namespace of those given or with none. -/
  | load (scopes : List Bytes)
  | enter (scope : Bytes)
  | get (k : Kind) (key : Bytes) (defaults : List k.Value)

namespace Call

abbrev Answer : Call → Type
  | load _ => Except Error Config
  | enter _ => Unit
  | get k _ _ => Except Error k.Value

def isLoad : Call → Bool
  | load _ => true
  | _ => false

/-- The namespace after a call that reads no file. -/
def scopeAfter (scope : Bytes) : Call → Bytes
  | enter scope' => scope'
  | _ => scope

end Call

def call (h : Host) (c : Config) : (a : Call) → Outcome a.Answer
  | .load scopes => load h c (scopes.headD [])
  | .enter scope => ⟨(), { c with scope }, []⟩
  | .get k key defaults => get h c key k defaults

/-- The settings after some calls, each made on the host of its moment. -/
def run (c : Config) : List (Host × Call) → Config
  | [] => c
  | (h, a) :: steps => (call h c a).config.run steps

/-- The file that the host says to read holds the settings. -/
structure ReadFrom (c : Config) (h : Host) : Prop where
  source : (locate h).1 = .ok c.source
  data : ∃ text, h.read c.source = .content text ∧ Yaml.parseObject? text = some c.data

private theorem load_cases (h : Host) (c : Config) (scope : Bytes) :
    (∃ e, (load h c scope).value = .error e ∧ (load h c scope).config = c) ∨
    ∃ c', (load h c scope).value = .ok c' ∧ (load h c scope).config = c' ∧ c'.scope = scope ∧
      c'.ReadFrom h := by
  unfold load
  cases hl : locate h with
  | mk found t =>
    cases found with
    | error e => exact .inl ⟨e, rfl, rfl⟩
    | ok p =>
      cases hr : h.read p with
      | openFailed why => exact .inl ⟨.unreadable p why, by simp [hr], by simp [hr]⟩
      | readFailed got why => exact .inl ⟨.unreadable p why, by simp [hr], by simp [hr]⟩
      | content text =>
        cases hp : Yaml.parseObject? text with
        | none => exact .inl ⟨.malformed p, by simp [hr, hp], by simp [hr, hp]⟩
        | some data =>
          refine .inr ⟨{ source := p, scope, data }, by simp [hr, hp], by simp [hr, hp], rfl, ?_⟩
          exact ⟨by rw [hl], text, hr, hp⟩

private theorem ensureLoaded_of_empty (h : Host) {c : Config} (hc : c.isEmpty = true) :
    (ensureLoaded h c).1 = (load h c c.scope).config := by
  rw [ensureLoaded, if_pos hc]

private theorem ensureLoaded_of_nonempty (h : Host) {c : Config} (hc : c.isEmpty = false) :
    (ensureLoaded h c).1 = c := by
  rw [ensureLoaded, hc, if_neg Bool.false_ne_true]

private theorem ensureLoaded_cases (h : Host) (c : Config) :
    (ensureLoaded h c).1.scope = c.scope ∧
      ((ensureLoaded h c).1 = c ∨ c.isEmpty = true ∧ (ensureLoaded h c).1.ReadFrom h) := by
  cases hc : c.isEmpty with
  | false =>
    rw [ensureLoaded_of_nonempty h hc]
    exact ⟨rfl, .inl rfl⟩
  | true =>
    rw [ensureLoaded_of_empty h hc]
    rcases load_cases h c c.scope with ⟨_, _, hc⟩ | ⟨c', _, hc, hscope, hread⟩
    · rw [hc]
      exact ⟨rfl, .inl rfl⟩
    · rw [hc]
      exact ⟨hscope, .inr ⟨rfl, hread⟩⟩

private theorem get_eq (h : Host) (c : Config) (key : Bytes) (k : Kind) (defaults : List k.Value) :
    get h c key k defaults = lookup k.read h c key defaults := by
  cases k <;> rfl

private theorem get_config (h : Host) (c : Config) (key : Bytes) (k : Kind)
    (defaults : List k.Value) :
    (get h c key k defaults).config = (ensureLoaded h c).1 := by
  rw [get_eq]
  rfl

private theorem get_value (h : Host) (c : Config) (key : Bytes) (k : Kind)
    (defaults : List k.Value) :
    (get h c key k defaults).value =
      match (get h c key k defaults).config.find key with
      | .ok d => k.read d
      | .error e =>
        match defaults with
        | [d] => .ok d
        | _ => .error e := by
  rw [get_eq, lookup]
  cases ensureLoaded h c with
  | mk c' t =>
    dsimp only
    cases c'.find key with
    | ok d => rfl
    | error e =>
      match defaults with
      | [] => rfl
      | [_] => rfl
      | _ :: _ :: _ => rfl

private theorem get_of_uses {h : Host} {c : Config} {key : Bytes} {k : Kind}
    {defaults : List k.Value}
    {v : Yaml.Data} (hv : (get h c key k defaults).config.Uses key v) :
    (get h c key k defaults).value = k.read v := by
  rw [get_value, find_eq_ok_iff.mpr hv]

private theorem get_of_not_uses {h : Host} {c : Config} {key : Bytes} {k : Kind}
    {defaults : List k.Value}
    (hnone : ∀ v, ¬ (get h c key k defaults).config.Uses key v) :
    (∀ d, defaults = [d] → (get h c key k defaults).value = .ok d) ∧
      (defaults.length ≠ 1 → (get h c key k defaults).value =
        .error (.noPath ((get h c key k defaults).config.candidates key))) := by
  rw [get_value, find_eq_error hnone]
  refine ⟨?_, ?_⟩
  · rintro d rfl
    rfl
  · intro hlen
    match defaults, hlen with
    | [], _ => rfl
    | _ :: _ :: _, _ => rfl

private theorem call_of_nonempty (h : Host) {c : Config} (hc : c.isEmpty = false) {a : Call}
    (ha : a.isLoad = false) : (call h c a).config = { c with scope := a.scopeAfter c.scope } := by
  -- The step: once there are settings, only a read replaces them.
  cases a with
  | load scopes => cases ha
  | enter scope => rfl
  | get k key defaults =>
    change (get h c key k defaults).config = c
    rw [get_config, ensureLoaded_of_nonempty h hc]

private theorem run_of_nonempty {c : Config} (hc : c.isEmpty = false) {steps : List (Host × Call)}
    (hsteps : ∀ s ∈ steps, s.2.isLoad = false) :
    c.run steps = { c with scope := steps.foldl (fun scope s => s.2.scopeAfter scope) c.scope } := by
  induction steps generalizing c with
  | nil => rfl
  | cons step steps ih =>
    obtain ⟨h, a⟩ := step
    obtain ⟨ha, hsteps⟩ := List.forall_mem_cons.mp hsteps
    rw [run, call_of_nonempty h hc ha, ih (c := { c with scope := a.scopeAfter c.scope }) hc hsteps]
    rfl

private theorem get_value_congr (h h' : Host) {c c' : Config} (hc : c.isEmpty = false)
    (hdata : c'.data = c.data)
    (hscope : c'.scope = c.scope) (key : Bytes) (k : Kind) (defaults : List k.Value) :
    (get h' c' key k defaults).value = (get h c key k defaults).value := by
  have hc' : c'.isEmpty = false := by rw [isEmpty, hdata, ← isEmpty, hc]
  have hcandidates : c'.candidates key = c.candidates key := by rw [candidates, candidates, hscope]
  have hget : c'.get? = c.get? := by
    funext name
    rw [get?, get?, hdata]
  have hfind : c'.find key = c.find key := by rw [find, find, hcandidates, hget]
  rw [get_value, get_value, get_config, get_config, ensureLoaded_of_nonempty h hc,
    ensureLoaded_of_nonempty h' hc', hfind]

/-- There are no settings yet, or they were read, whole, from the file of one of the hosts. -/
def Sourced (hosts : List Host) (c : Config) : Prop :=
  (c.source = [] ∧ c.data = none) ∨ ∃ h ∈ hosts, c.ReadFrom h

private theorem Sourced.call {hosts : List Host} {c : Config} (hc : Sourced hosts c) (h : Host)
    (a : Call) :
    Sourced (hosts ++ [h]) (call h c a).config := by
  have hread : ∀ c' : Config, c'.ReadFrom h → Sourced (hosts ++ [h]) c' := fun c' hc' =>
    .inr ⟨h, List.mem_append_right _ (List.mem_singleton.mpr rfl), hc'⟩
  have hkept : Sourced (hosts ++ [h]) c :=
    hc.imp_right fun ⟨h', hmem, hc'⟩ => ⟨h', List.mem_append_left _ hmem, hc'⟩
  cases a with
  | load scopes =>
    rcases load_cases h c (scopes.headD []) with ⟨_, _, hconfig⟩ | ⟨c', _, hconfig, _, hc'⟩
    · exact hconfig.symm ▸ hkept
    · exact hconfig.symm ▸ hread c' hc'
  -- Whether there are settings and where they are from does not depend on the namespace.
  | enter scope => exact hkept.imp_right fun ⟨h', hmem, hc'⟩ => ⟨h', hmem, hc'.source, hc'.data⟩
  | get k key defaults =>
    change Sourced _ (get h c key k defaults).config
    rw [get_config]
    rcases (ensureLoaded_cases h c).2 with hconfig | ⟨_, hc'⟩
    · exact hconfig.symm ▸ hkept
    · exact hread _ hc'

private theorem Sourced.run {hosts : List Host} {c : Config} (hc : Sourced hosts c)
    (steps : List (Host × Call)) :
    Sourced (hosts ++ steps.map Prod.fst) (c.run steps) := by
  induction steps generalizing hosts c with
  | nil => rwa [List.map_nil, List.append_nil]
  | cons step steps ih =>
    have hstep := ih (hc.call step.1 step.2)
    rwa [List.append_assoc] at hstep

/-- Settings after any run.  They are those of one file as it was read, or there are none.  A read that
fails leaves them as they were, and one that succeeds replaces them, the namespace included.  A look-up
keeps the namespace, and keeps everything unless there was nothing; it answers with the setting used for
its key if that fits, fails if that does not fit, and otherwise takes the only default or fails.  Once there
are settings they stay until the next read whatever happens to the host, and the answers depend on them and
on the namespace alone. -/
theorem run_settings (steps : List (Host × Call)) :
    let c := run {} steps
    ((c.source = [] ∧ c.data = none) ∨ ∃ h ∈ steps.map Prod.fst, c.ReadFrom h) ∧
    (∀ (h : Host) (scopes : List Bytes), let o := call h c (.load scopes)
      (∀ e, o.value = .error e → o.config = c) ∧
      ∀ c', o.value = .ok c' → o.config = c' ∧ c'.scope = scopes.headD [] ∧ c'.ReadFrom h) ∧
    (∀ (h : Host) (k : Kind) (key : Bytes) (defaults : List k.Value),
      let o := call h c (.get k key defaults)
      o.config.scope = c.scope ∧ (o.config = c ∨ c.isEmpty = true ∧ o.config.ReadFrom h) ∧
      (∀ v, o.config.Uses key v → (∀ a, o.value = .ok a ↔ k.Fits v a) ∧
        ((∀ a, ¬ k.Fits v a) → ∃ e, o.value = .error e)) ∧
      ((∀ v, ¬ o.config.Uses key v) → (∀ d, defaults = [d] → o.value = .ok d) ∧
        (defaults.length ≠ 1 → o.value = .error (.noPath (o.config.candidates key))))) ∧
    (c.isEmpty = false →
      (∀ later : List (Host × Call), (∀ s ∈ later, s.2.isLoad = false) →
        c.run later = { c with scope := later.foldl (fun scope s => s.2.scopeAfter scope) c.scope }) ∧
      ∀ (h h' : Host) (c' : Config) (k : Kind) (key : Bytes) (defaults : List k.Value),
        c'.data = c.data → c'.scope = c.scope →
        (call h' c' (.get k key defaults)).value = (call h c (.get k key defaults)).value) := by
  intro c
  have hempty : Sourced [] {} := .inl ⟨rfl, rfl⟩
  refine ⟨hempty.run steps, ?_, ?_, ?_⟩
  · intro h scopes o
    rcases load_cases h c (scopes.headD []) with ⟨e, hv, hc⟩ | ⟨c', hv, hc, hscope, hread⟩
    · exact ⟨fun _ _ => hc, fun c' h' => (nomatch hv.symm.trans h')⟩
    · refine ⟨fun e h' => (nomatch hv.symm.trans h'), fun c'' h' => ?_⟩
      cases hv.symm.trans h'
      exact ⟨hc, hscope, hread⟩
  · intro h k key defaults o
    have hconfig : o.config = (ensureLoaded h c).1 := get_config h c key k defaults
    obtain ⟨hscope, hkept⟩ := ensureLoaded_cases h c
    rw [← hconfig] at hscope hkept
    refine ⟨hscope, hkept, ?_, get_of_not_uses⟩
    intro v hv
    have hvalue : o.value = k.read v := get_of_uses hv
    rw [hvalue]
    exact ⟨fun a => Kind.read_eq_ok_iff, Kind.read_of_not_fits⟩
  · intro hc
    refine ⟨fun later hlater => run_of_nonempty hc hlater, ?_⟩
    intro h h' c' k key defaults hdata hscope
    exact get_value_congr h h' hc hdata hscope key k defaults

/-- A host that names a file for its settings, and has it with some text or has no files. -/
def hostOf (text : Option Bytes) : Host where
  stat _ := text.map fun s => ⟨⟨s.length, ⟨0, 0⟩⟩, false⟩
  read _ := match text with
    | some s => .content s
    | none => .openFailed []
  env := Assoc.empty.set (utf8 "LINECACHE_CFG") [0x63]
  cwd := [Path.slash]

private theorem uses_of_read {c : Config} {key : Bytes} {k : Kind} {r : Option k.Value}
    (h : (c.find key).toOption.map (fun v => (k.read v).toOption) = some r) :
    ∃ v, c.Uses key v ∧ (k.read v).toOption = r := by
  -- Data have no decidable equality, so a concrete setting is known by what it is read as.
  obtain ⟨v, hv, hr⟩ := Option.map_eq_some_iff.mp h
  refine ⟨v, find_eq_ok_iff.mp ?_, hr⟩
  cases hf : c.find key with
  | error e =>
    rw [hf] at hv
    cases hv
  | ok v' =>
    rw [hf] at hv
    cases hv
    rfl

/-- A look-up reads the settings below a namespace entered before.  The key is null there, and so an error
although a default is given and the key itself has a text; that text is found once the namespace is left,
also when the file is gone.  A read fails then and changes nothing. -/
theorem run_settings_null_at_scope :
    let file := hostOf (some
      [0x6e, 0x3a, 0x0a, 0x20, 0x61, 0x3a, 0x20, 0x7e, 0x0a, 0x61, 0x3a, 0x20, 0x78, 0x0a])
    let gone := hostOf none
    let key : Bytes := [0x61]
    let missing : Bytes := [0x7a]
    let steps := [(file, Call.enter [0x6e]), (file, .get .text key [])]
    let c := run {} steps
    let c' := run {} (steps ++ [(gone, .enter [])])
    (c.isEmpty = false ∧ c.run [(gone, .enter [])] = { c with scope := [] }) ∧
      (∃ v, c.Uses key v ∧ (∀ a, ¬ Kind.text.Fits v a) ∧
        ∃ e, (call gone c (.get .text key [[0x64]])).value = .error e) ∧
      (∃ v, c'.Uses key v ∧ Kind.text.Fits v [0x78] ∧
        (call gone c' (.get .text key [])).value = .ok [0x78]) ∧
      ((∀ v, ¬ c.Uses missing v) ∧ (call gone c (.get .int missing [5])).value = .ok 5 ∧
        (call file { c with source := [] } (.get .int missing [5])).value = .ok 5) ∧
      (∃ e, (call gone c (.load [])).value = .error e ∧ (call gone c (.load [])).config = c) ∧
      ∃ c'', (call file c (.load [[0x6d]])).value = .ok c'' ∧ c''.scope = [0x6d] := by
  intro file gone key missing steps c c'
  obtain ⟨_, hload, hget, hstay⟩ := run_settings steps
  obtain ⟨_, _, hget', _⟩ := run_settings (steps ++ [(gone, .enter [])])
  have hc : c.isEmpty = false := by decide +kernel
  have hc' : c'.isEmpty = false := by decide +kernel
  obtain ⟨hlater, hanswer⟩ := hstay hc
  have hkept : ∀ (a : Kind) (k : Bytes) (ds : List a.Value), (call gone c (.get a k ds)).config = c := by
    intro a k ds
    exact (hget gone a k ds).2.1.resolve_right fun h => Bool.false_ne_true (hc.symm.trans h.1)
  have hkept' : (call gone c' (.get .text key [])).config = c' :=
    (hget' gone .text key []).2.1.resolve_right fun h => Bool.false_ne_true (hc'.symm.trans h.1)
  obtain ⟨v, hv, hunread⟩ : ∃ v, c.Uses key v ∧ (Kind.text.read v).toOption = none :=
    uses_of_read (by decide +kernel)
  have hunfit : ∀ a, ¬ Kind.text.Fits v a := by
    intro a ha
    rw [Kind.read_eq_ok_iff.mpr ha] at hunread
    cases hunread
  obtain ⟨v', hv', hread⟩ : ∃ v, c'.Uses key v ∧ (Kind.text.read v).toOption = some [0x78] :=
    uses_of_read (by decide +kernel)
  have hfit : Kind.text.Fits v' [0x78] := by
    rw [← Kind.read_eq_ok_iff]
    cases hr : Kind.text.read v' with
    | error e =>
      rw [hr] at hread
      cases hread
    | ok s =>
      rw [hr] at hread
      exact congrArg Except.ok (Option.some.inj hread)
  have hmissing : ∀ v, ¬ c.Uses missing v := by
    have hfound : (c.find missing).toOption.isNone = true := by decide +kernel
    intro v hv
    rw [find_eq_ok_iff.mpr hv] at hfound
    cases hfound
  have hdefault : (call gone c (.get .int missing [5])).value = .ok 5 := by
    refine ((hget gone .int missing [5]).2.2.2 ?_).1 5 rfl
    rw [hkept .int missing [5]]
    exact hmissing
  refine ⟨⟨hc, hlater [(gone, .enter [])] (by simp [Call.isLoad])⟩, ⟨v, hv, hunfit, ?_⟩,
    ⟨v', hv', hfit, ?_⟩, ⟨hmissing, hdefault, ?_⟩, ?_, ?_⟩
  · refine ((hget gone .text key [[0x64]]).2.2.1 v ?_).2 hunfit
    rw [hkept .text key [[0x64]]]
    exact hv
  · refine (((hget' gone .text key []).2.2.1 v' ?_).1 [0x78]).mpr hfit
    rw [hkept']
    exact hv'
  · have hsame : ∀ d : Config, ({ d with source := [] } : Config).data = d.data ∧
        ({ d with source := [] } : Config).scope = d.scope := fun d => ⟨rfl, rfl⟩
    rw [hanswer gone file { c with source := [] } .int missing [5] (hsame c).1 (hsame c).2]
    exact hdefault
  · exact ⟨.fileNotFound [0x63], rfl, (hload gone []).1 _ rfl⟩
  · cases hloaded : (call file c (.load [[0x6d]])).value with
    | error e =>
      have hok : (call file c (.load [[0x6d]])).value.toOption.isSome = true := by decide +kernel
      rw [hloaded] at hok
      cases hok
    | ok c'' => exact ⟨c'', rfl, ((hload file [[0x6d]]).2 c'' hloaded).2.1⟩

end LineStore.Config
