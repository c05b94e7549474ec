import LineStore.Cli.Watch
/-!
# Counting changes

A watch with a limit reports the changes its scans find, in order, up to the limit, and is over with the batch
in which the limit is reached.  Between two batches fewer changes were reported than the limit allows,
`Quota.Open`, so a batch is never cut outside its bounds.  What a run prints are records of the first changes,
and titles at most in front of the first of them, `run_reports`.
-/
namespace LineStore

namespace Quota

/-- The watch is not over. -/
def Open (q : Quota) : Prop := 0 < q.limit → q.reported < q.limit

/-- The quota once some more changes were reported. -/
def plus (q : Quota) (n : Nat) : Quota := { q with reported := q.reported + n }

/-- The changes that a quota leaves to report. -/
def rest (q : Quota) (changes : List Change) : List Change :=
  if q.limit = 0 then changes else changes.take (q.limit - q.reported)

private theorem isSpent_eq_false_iff (q : Quota) : q.isSpent = false ↔ q.Open := by
  rw [isSpent, decide_eq_false_iff_not, Open]
  omega

private theorem isSpent_iff (q : Quota) : q.isSpent = true ↔ 0 < q.limit ∧ q.limit ≤ q.reported :=
  decide_eq_true_iff

@[simp] theorem plus_limit (q : Quota) (n : Nat) : (q.plus n).limit = q.limit := rfl

@[simp] theorem plus_reported (q : Quota) (n : Nat) : (q.plus n).reported = q.reported + n := rfl

private theorem plus_plus (q : Quota) (m n : Nat) : (q.plus m).plus n = q.plus (m + n) := by
  rw [plus, plus, plus, Nat.add_assoc]

private theorem allow_cases {q : Quota} (hq : q.Open) (batch : List Change) :
    (¬ (0 < q.limit ∧ q.limit < q.reported + batch.length) ∧ q.allow batch = batch) ∨
    (0 < q.limit - q.reported ∧ q.limit - q.reported < batch.length ∧
      q.allow batch = batch.take (q.limit - q.reported)) := by
  by_cases hcut : 0 < q.limit ∧ q.limit < q.reported + batch.length
  · have hopen := hq hcut.1
    exact .inr ⟨by omega, by omega, if_pos hcut⟩
  · exact .inl ⟨hcut, if_neg hcut⟩

private theorem allow_eq_rest {q : Quota} (hq : q.Open) (batch : List Change) :
    q.allow batch = q.rest batch := by
  rcases allow_cases hq batch with ⟨hfits, hallow⟩ | ⟨hleft, -, hallow⟩
  · rw [hallow, rest]
    split
    · rfl
    · rw [List.take_of_length_le (by omega)]
  · rw [hallow, rest, if_neg (by omega)]

private theorem rest_nil (q : Quota) : q.rest [] = [] := by
  rw [rest, List.take_nil, ite_self]

private theorem rest_append (q : Quota) (a b : List Change) :
    q.rest (a ++ b) = q.rest a ++ (q.plus (q.rest a).length).rest b := by
  by_cases hlimit : q.limit = 0
  · simp only [rest, plus_limit, if_pos hlimit]
  · simp only [rest, plus_limit, plus_reported, if_neg hlimit, List.take_append, List.length_take]
    congr 2
    omega

private theorem rest_eq_nil_iff {q : Quota} (hq : q.Open) (batch : List Change) :
    q.rest batch = [] ↔ batch = [] := by
  rw [rest]
  split
  · rfl
  · have hopen := hq (by omega)
    rw [List.take_eq_nil_iff]
    exact or_iff_right (by omega)

private theorem rest_of_open {q : Quota} {batch : List Change}
    (h : (q.plus (q.rest batch).length).Open) :
    q.rest batch = batch := by
  unfold Open at h
  rw [rest] at h ⊢
  split
  · rfl
  · rename_i hlimit
    rw [if_neg hlimit, plus_limit, plus_reported, List.length_take] at h
    exact List.take_of_length_le (by omega)

private theorem length_rest_of_spent {q : Quota} (hq : q.Open) {batch : List Change}
    (h : (q.plus (q.rest batch).length).isSpent = true) :
    0 < q.limit ∧ q.reported + (q.rest batch).length = q.limit ∧ q.limit ≤ q.reported + batch.length := by
  obtain ⟨hpos, hle⟩ := (isSpent_iff _).mp h
  rw [plus_limit] at hpos
  have hopen := hq hpos
  rw [plus_limit, plus_reported, rest, if_neg (by omega), List.length_take] at hle
  rw [rest, if_neg (by omega), List.length_take]
  omega

/-- What is reported of each batch, up to the one with which the watch is over. -/
def parts (q : Quota) : List (List Change) → List (List Change)
  | [] => []
  | b :: bs =>
    let q' := q.plus (q.rest b).length
    q.rest b :: if q'.isSpent then [] else q'.parts bs

private theorem flatten_parts {q : Quota} (hq : q.Open) (batches : List (List Change)) :
    (q.parts batches).flatten = q.rest batches.flatten := by
  -- The run: the parts put together are what the quota leaves of all changes.
  induction batches generalizing q with
  | nil => exact (rest_nil q).symm
  | cons b bs ih =>
    rw [parts, List.flatten_cons, List.flatten_cons, rest_append]
    cases hspent : (q.plus (q.rest b).length).isSpent with
    | true =>
      obtain ⟨hpos, hlength, -⟩ := length_rest_of_spent hq hspent
      have hnone : (q.plus (q.rest b).length).rest bs.flatten = [] := by
        rw [rest, plus_limit, if_neg (by omega), plus_reported, hlength, Nat.sub_self, List.take_zero]
      rw [hnone]
      rfl
    | false => exact congrArg _ (ih ((isSpent_eq_false_iff _).mp hspent))

private theorem parts_getElem? {q : Quota} (hq : q.Open) {batches : List (List Change)} {i : Nat}
    {part : List Change}
    (h : (q.parts batches)[i]? = some part) :
    ∃ batch, batches[i]? = some batch ∧ (q.plus ((q.parts batches).take i).flatten.length).Open ∧
      part = (q.plus ((q.parts batches).take i).flatten.length).rest batch := by
  -- The step at each batch: the watch is not over, and the part is what the quota leaves of the
  -- batch once the parts before it were reported.
  induction batches generalizing q i with
  | nil => cases h
  | cons b bs ih =>
    cases i with
    | zero =>
      obtain rfl : q.rest b = part := Option.some.inj h
      exact ⟨b, rfl, hq, rfl⟩
    | succ i =>
      rw [parts, List.getElem?_cons_succ] at h
      cases hspent : (q.plus (q.rest b).length).isSpent with
      | true =>
        rw [hspent, if_pos rfl] at h
        cases h
      | false =>
        rw [hspent, if_neg Bool.false_ne_true] at h
        obtain ⟨batch, hbatch, hopen, hpart⟩ := ih ((isSpent_eq_false_iff _).mp hspent) h
        rw [plus_plus] at hopen hpart
        refine ⟨batch, hbatch, ?_⟩
        rw [parts, hspent, if_neg Bool.false_ne_true, List.take_succ_cons, List.flatten_cons,
          List.length_append]
        exact ⟨hopen, hpart⟩

private theorem parts_reach {q : Quota} (hq : q.Open) (batches : List (List Change)) :
    (∀ j < (q.parts batches).length, (q.plus (batches.take j).flatten.length).Open) ∧
      ((q.parts batches).length < batches.length →
        (q.plus (batches.take (q.parts batches).length).flatten.length).isSpent = true) := by
  induction batches generalizing q with
  | nil => exact ⟨fun j hj => absurd hj (Nat.not_lt_zero j), fun h => absurd h (Nat.lt_irrefl 0)⟩
  | cons b bs ih =>
    rw [parts]
    cases hspent : (q.plus (q.rest b).length).isSpent with
    | true =>
      refine ⟨?_, fun _ => ?_⟩
      · intro j hj
        obtain rfl : j = 0 := Nat.lt_one_iff.mp hj
        exact hq
      · obtain ⟨hpos, -, hle⟩ := length_rest_of_spent hq hspent
        rw [if_pos rfl, isSpent_iff]
        simpa using ⟨hpos, hle⟩
    | false =>
      have hopen := (isSpent_eq_false_iff _).mp hspent
      obtain ⟨hbefore, hend⟩ := ih hopen
      have hfound : ∀ j, (q.plus (q.rest b).length).plus (bs.take j).flatten.length =
          q.plus ((b :: bs).take (j + 1)).flatten.length := by
        intro j
        rw [plus_plus, rest_of_open hopen, List.take_succ_cons, List.flatten_cons, List.length_append]
      rw [if_neg Bool.false_ne_true, List.length_cons, List.length_cons]
      refine ⟨?_, fun h => ?_⟩
      · rintro (_ | j) hj
        · exact hq
        · rw [← hfound]
          exact hbefore j (Nat.lt_of_succ_lt_succ hj)
      · rw [← hfound]
        exact hend (Nat.lt_of_succ_lt_succ h)

end Quota

namespace Cli

namespace Action

private theorem run_bind {α β : Type} (x : Action α) (f : α → Action β) (s : RunState) :
    (x >>= f).run s = ExceptT.bindCont f (x.run s).1 (x.run s).2 := rfl

private theorem bind_ok {α β : Type} {x : Action α} {f : α → Action β} {s s' : RunState} {b : β}
    (h : (x >>= f).run s = (.ok b, s')) :
    ∃ a s₁, x.run s = (.ok a, s₁) ∧ (f a).run s₁ = (.ok b, s') := by
  rcases hx : x.run s with ⟨r, s₁⟩
  rw [run_bind, hx] at h
  cases r with
  | ok a => exact ⟨a, s₁, rfl, h⟩
  | error e => cases h

private theorem bind_run {α β : Type} {x : Action α} {f : α → Action β} {s s₁ : RunState} {a : α}
    (h : x.run s = (.ok a, s₁)) : (x >>= f).run s = (f a).run s₁ := by
  rw [run_bind, h]
  rfl

private theorem bind_error {α β : Type} {x : Action α} {f : α → Action β} {s s₁ : RunState}
    {e : Failure} (h : x.run s = (.error e, s₁)) : (x >>= f).run s = (.error e, s₁) := by
  rw [run_bind, h]
  rfl

end Action

/-- What is told of a moment: what looking for changes did, and those that are reported. -/
structure Report where
  moment : Moment
  seen : List Event
  titled : Bool
  changes : List Change

/-- A record of each change, in order. -/
def Report.records (r : Report) : List (List (String × Json.Cell)) :=
  r.changes.map fun c =>
    [("time", .text r.moment.now.rfc3339), ("file", .text c.key), ("change", .text c.kind.name),
      ("lines", .whole c.new.length)]

namespace WatchLoop

/-- Successive scans, each from what the one before it left. -/
def scansFrom (lw : Watcher) (c : Cache) : List Moment → List (Outcome (List Change × Watcher))
  | [] => []
  | m :: ms =>
    let o := lw.scan (m.host.world fun _ => none) c
    o :: scansFrom o.value.2 o.cache ms

/-- The scans of a watch at some moments. -/
def looks (l : WatchLoop) (ms : List Moment) : List (Outcome (List Change × Watcher)) :=
  scansFrom l.watcher l.cache ms

/-- Writing the records of a report, with titles only if it has them. -/
def written (l : WatchLoop) (r : Report) (c : Config) : Output.Result :=
  Output.emit r.moment.host c { l.options with titles := l.options.titles && r.titled } l.attrs []
    (Json.recordsText r.records) .ok

/-- What is printed behind the records: what changed in the files that were modified, if that is asked for. -/
def differences (l : WatchLoop) (r : Report) : List Event :=
  if l.withDiff then
    (r.changes.filter fun c => c.kind = .modified).map fun c => .printed (LineDiff.text c.old c.new)
  else []

/-- Reports lead from one state to another: each that has changes is written without a failure, and nothing else
is done but looking. -/
def Writes (l : WatchLoop) : List Report → RunState → RunState → Prop
  | [], s, s' => s' = s
  | r :: rs, s, s' =>
    if r.changes = [] then l.Writes rs { s with trace := s.trace ++ r.seen } s'
    else
      let o := l.written r s.config
      o.value = .ok () ∧
        l.Writes rs { config := o.config, trace := s.trace ++ r.seen ++ o.trace ++ l.differences r } s'

/-! ## One report -/

private theorem written_run (l : WatchLoop) (r : Report) (s : RunState) :
    (emitRows r.moment.host { l.options with titles := l.options.titles && r.titled } l.attrs
        (Json.recordsText r.records) .ok).run s =
      ((l.written r s.config).value.mapError Failure.output,
        { config := (l.written r s.config).config, trace := s.trace ++ (l.written r s.config).trace }) := by
  let emit : Config → Output.Result := l.written r
  have hconsult : (Action.consult emit).run s =
      (.ok (emit s.config).value, { config := (emit s.config).config, trace := s.trace ++ (emit s.config).trace }) :=
    rfl
  refine (Action.bind_run hconsult).trans ?_
  change _ = ((emit s.config).value.mapError Failure.output, _)
  cases (emit s.config).value <;> rfl

private theorem printDifferences_run (changes : List Change) (s : RunState) :
    (forIn changes PUnit.unit fun c _ =>
        if c.kind = .modified then do
          Action.print (LineDiff.text c.old c.new)
          pure (ForInStep.yield PUnit.unit)
        else pure (ForInStep.yield PUnit.unit) : Action PUnit).run s =
      (.ok PUnit.unit, { s with trace := s.trace ++
        (changes.filter fun c => c.kind = .modified).map fun c => .printed (LineDiff.text c.old c.new) }) := by
  induction changes generalizing s with
  | nil =>
    rw [List.forIn_nil, List.filter_nil, List.map_nil, List.append_nil]
    rfl
  | cons c changes ih =>
    rw [List.forIn_cons]
    by_cases hkind : c.kind = .modified
    · rw [if_pos hkind, List.filter_cons_of_pos (by simpa using hkind)]
      refine (ih { s with trace := s.trace ++ [.printed (LineDiff.text c.old c.new)] }).trans ?_
      rw [List.append_assoc]
      rfl
    · rw [if_neg hkind, List.filter_cons_of_neg (by simpa using hkind)]
      exact ih s

private def report (l : WatchLoop) (r : Report) : Action Unit :=
  if r.changes = [] then pure ()
  else reportChanges r.moment.host l.options l.attrs l.withDiff r.titled r.moment.now r.changes

private theorem report_eq {l : WatchLoop} {r : Report} (hchanges : r.changes ≠ []) :
    l.report r = (do
      emitRows r.moment.host { l.options with titles := l.options.titles && r.titled } l.attrs
        (Json.recordsText r.records) .ok
      if l.withDiff then
        for c in r.changes do
          if c.kind = .modified then Action.print (LineDiff.text c.old c.new)) :=
  if_neg hchanges

private theorem report_error {l : WatchLoop} {r : Report} {s : RunState} {e : Output.Error}
    (hchanges : r.changes ≠ []) (hvalue : (l.written r s.config).value = .error e) :
    ∃ s', (l.report r).run s = (.error (.output e), s') := by
  have hemit := written_run l r s
  rw [hvalue] at hemit
  rw [report_eq hchanges]
  exact ⟨_, Action.bind_error hemit⟩

private theorem report_ok {l : WatchLoop} {r : Report} {s : RunState} (hchanges : r.changes ≠ [])
    (hvalue : (l.written r s.config).value = .ok ()) :
    (l.report r).run s = (.ok (), { config := (l.written r s.config).config
                                    trace := s.trace ++ (l.written r s.config).trace ++ l.differences r }) := by
  have hemit := written_run l r s
  rw [hvalue] at hemit
  rw [report_eq hchanges, Action.bind_run hemit]
  cases hdiff : l.withDiff with
  | false =>
    have hnone : l.differences r = [] := by
      rw [differences, hdiff]
      rfl
    rw [hnone, List.append_nil]
    rfl
  | true =>
    have hall : l.differences r = (r.changes.filter fun c => c.kind = .modified).map fun c =>
        .printed (LineDiff.text c.old c.new) := by
      rw [differences, hdiff]
      rfl
    rw [hall, if_pos rfl, Action.bind_run (printDifferences_run r.changes _)]
    rfl

/-! ## The run -/

private def look (l : WatchLoop) (m : Moment) : Outcome (List Change × Watcher) :=
  l.watcher.scan (m.host.world fun _ => none) l.cache

private def next (l : WatchLoop) (m : Moment) (changes : List Change) : WatchLoop :=
  { l with watcher := (l.look m).value.2, cache := (l.look m).cache, quota := l.quota.after changes }

private theorem looks_cons (l : WatchLoop) (m : Moment) (changes : List Change) (ms : List Moment) :
    l.looks (m :: ms) = l.look m :: (l.next m changes).looks ms := rfl

private def reportEach (l : WatchLoop) : List Report → Action WatchLoop
  | [] => pure l
  | r :: rs => do
    Action.note r.seen
    l.report r
    (l.next r.moment r.changes).reportEach rs

private theorem writes_next (l : WatchLoop) (m : Moment) (changes : List Change) (rs : List Report)
    (s s' : RunState) : (l.next m changes).Writes rs s s' ↔ l.Writes rs s s' := by
  induction rs generalizing s with
  | nil => exact Iff.rfl
  | cons r rs ih =>
    rw [Writes, Writes]
    split
    · exact ih _
    · exact and_congr_right fun _ => ih _

private theorem reportEach_iff (l : WatchLoop) (rs : List Report) (s s' : RunState) :
    (∃ l', (l.reportEach rs).run s = (.ok l', s')) ↔ l.Writes rs s s' := by
  -- The step and the run: reports can be made exactly if they lead from the state to another.
  induction rs generalizing l s with
  | nil =>
    constructor
    · rintro ⟨l', hrun⟩
      cases hrun
      rfl
    · rintro rfl
      exact ⟨l, rfl⟩
  | cons r rs ih =>
    have hseen : (l.reportEach (r :: rs)).run s =
        (l.report r >>= fun _ => (l.next r.moment r.changes).reportEach rs).run
          { s with trace := s.trace ++ r.seen } := rfl
    rw [hseen, Writes]
    split
    · rename_i hnone
      have hquiet : (l.report r).run { s with trace := s.trace ++ r.seen } =
          (.ok (), { s with trace := s.trace ++ r.seen }) := by
        rw [report, if_pos hnone]
        rfl
      rw [Action.bind_run hquiet, ih, writes_next]
    · rename_i hsome
      cases hvalue : (l.written r s.config).value with
      | error e =>
        obtain ⟨s₁, hfail⟩ := report_error (s := { s with trace := s.trace ++ r.seen }) hsome hvalue
        rw [Action.bind_error hfail]
        constructor
        · rintro ⟨l', hrun⟩
          cases hrun
        · intro hwrites
          exact absurd (hvalue.symm.trans hwrites.1) nofun
      | ok _ =>
        rw [Action.bind_run (report_ok (s := { s with trace := s.trace ++ r.seen }) hsome hvalue), ih, writes_next]
        exact ⟨fun hwrites => ⟨hvalue, hwrites⟩, fun hwrites => hwrites.2⟩

private def reports (l : WatchLoop) : List Moment → List Report
  | [] => []
  | m :: ms =>
    let part := l.quota.rest (l.look m).value.1
    let l' := l.next m part
    ⟨m, (l.look m).trace, l.quota.isFresh, part⟩ :: if l'.quota.isSpent then [] else l'.reports ms

private theorem scan_eq {l : WatchLoop} (hq : l.quota.Open) (m : Moment) :
    let part := l.quota.rest (l.look m).value.1
    l.scan m.host m.now = (do
      Action.note (l.look m).trace
      l.report ⟨m, (l.look m).trace, l.quota.isFresh, part⟩
      return l.next m part) := by
  -- The step: a scan looks once and reports what the quota leaves of what it found.
  intro part
  have hpart := Quota.rest_eq_nil_iff hq (l.look m).value.1
  have hallow : l.quota.allow (l.look m).value.1 = part := Quota.allow_eq_rest hq _
  rw [WatchLoop.scan, report]
  simp only [Action.onCache, bind_assoc, pure_bind]
  congr 1
  funext _
  change (if (l.look m).value.1.isEmpty then _ else _) = _
  by_cases hempty : (l.look m).value.1 = []
  · have hnil : part = [] := hpart.mpr hempty
    rw [hnil, hempty]
    rfl
  · have hne : part ≠ [] := fun hnil => hempty (hpart.mp hnil)
    have hfull : (l.look m).value.1.isEmpty = false := List.isEmpty_eq_false_iff.mpr hempty
    rw [hfull, if_neg Bool.false_ne_true, if_neg hne, ← hallow]
    rfl

private theorem run_eq {l : WatchLoop} (hq : l.quota.Open) (ms : List Moment) :
    l.run ms = l.reportEach (l.reports ms) := by
  -- The run: scanning until the watch is over is making the reports that the quota leaves.
  induction ms generalizing l with
  | nil => rfl
  | cons m ms ih =>
    rw [WatchLoop.run, scan_eq hq, reports, reportEach]
    simp only [bind_assoc, pure_bind]
    generalize l.next m (l.quota.rest (l.look m).value.1) = l'
    cases hspent : l'.quota.isSpent with
    | true => rfl
    | false =>
      simp only [Bool.false_eq_true, if_false]
      rw [ih ((Quota.isSpent_eq_false_iff _).mp hspent)]

/-! ## What is reported -/

private theorem length_looks (l : WatchLoop) (ms : List Moment) :
    (l.looks ms).length = ms.length := by
  induction ms generalizing l with
  | nil => rfl
  | cons m ms ih => rw [looks_cons l m [], List.length_cons, List.length_cons, ih]

private theorem reports_changes (l : WatchLoop) (ms : List Moment) :
    (l.reports ms).map Report.changes = l.quota.parts ((l.looks ms).map fun o => o.value.1) := by
  induction ms generalizing l with
  | nil => rfl
  | cons m ms ih =>
    rw [reports, looks_cons l m (l.quota.rest (l.look m).value.1), List.map_cons, List.map_cons, Quota.parts,
      apply_ite (List.map _), ih]
    rfl

private theorem reports_moment (l : WatchLoop) (ms : List Moment) :
    (l.reports ms).map Report.moment = ms.take (l.reports ms).length := by
  induction ms generalizing l with
  | nil => rfl
  | cons m ms ih =>
    rw [reports, List.map_cons, List.length_cons, List.take_succ_cons]
    split
    · rfl
    · rw [ih]

private theorem reports_seen (l : WatchLoop) (ms : List Moment) :
    (l.reports ms).map Report.seen = ((l.looks ms).take (l.reports ms).length).map Outcome.trace := by
  induction ms generalizing l with
  | nil => rfl
  | cons m ms ih =>
    rw [reports, looks_cons l m (l.quota.rest (l.look m).value.1), List.map_cons, List.length_cons,
      List.take_succ_cons, List.map_cons]
    split
    · rfl
    · rw [ih]

private theorem reports_titled {l : WatchLoop} {ms : List Moment} {before after : List Report}
    {r : Report}
    (h : l.reports ms = before ++ r :: after) :
    r.titled = (l.quota.plus (before.flatMap Report.changes).length).isFresh := by
  induction ms generalizing l before with
  | nil => simp [reports] at h
  | cons m ms ih =>
    rw [reports] at h
    cases before with
    | nil =>
      obtain ⟨rfl, -⟩ := List.cons.inj h
      rfl
    | cons first before =>
      obtain ⟨rfl, hrest⟩ := List.cons.inj h
      split at hrest
      · simp at hrest
      · rw [ih hrest, List.flatMap_cons, List.length_append, ← Quota.plus_plus]
        rfl

private theorem reportEach_quota {l l' : WatchLoop} {rs : List Report} {s s' : RunState}
    (h : (l.reportEach rs).run s = (.ok l', s')) :
    l'.quota = l.quota.plus (rs.flatMap Report.changes).length := by
  induction rs generalizing l s with
  | nil =>
    cases h
    rfl
  | cons r rs ih =>
    rw [reportEach] at h
    obtain ⟨_, _, -, h⟩ := Action.bind_ok h
    obtain ⟨_, _, -, h⟩ := Action.bind_ok h
    rw [ih h, List.flatMap_cons, List.length_append, ← Quota.plus_plus]
    rfl

end WatchLoop

private theorem startWatch_quota {inv : Invocation} {a : Arguments} {l : WatchLoop}
    {s s' : RunState}
    (h : (startWatch inv a).run s = (.ok (some l), s')) :
    l.quota = { limit := (a.settings.number "count").toNat } := by
  rw [startWatch] at h
  obtain ⟨_, _, -, h⟩ := Action.bind_ok h
  split at h
  · cases h
  · obtain ⟨_, _, -, h⟩ := Action.bind_ok h
    split at h
    · cases h
    · obtain ⟨_, _, -, h⟩ := Action.bind_ok h
      obtain ⟨_, _, -, h⟩ := Action.bind_ok h
      dsimp only at h
      split at h
      · cases h
      · obtain ⟨_, _, -, h⟩ := Action.bind_ok h
        cases h
        rfl

/-- A watch that was started with a count of `n`, or with none if `n` is zero, makes one report for each of the
first scans, and these are of the first `n` changes of all that the scans find, in order.  A run ends well
exactly if every report that has changes can be written, a record for each change; it then has done
nothing but scanning and writing them.  Only a report before which no change was reported has titles.  The
watch goes on until a scan by which `n` changes were found, and ends with the first one of that kind and for
no other reason.  Of a batch it reports all, or as many as are left to report if these are fewer, which is
within the bounds of the batch. -/
theorem WatchLoop.run_reports {inv : Invocation} {a : Arguments} {l : WatchLoop} {s₀ s₁ : RunState}
    (hstart : (startWatch inv a).run s₀ = (.ok (some l), s₁)) {n : Nat}
    (hcount : a.settings.number "count" = n) (ms : List Moment) :
    let looks := l.looks ms
    let batches := looks.map fun o => o.value.1
    ∃ reports : List Report,
      (∀ s s', (∃ l', (l.run ms).run s = (.ok l', s')) ↔ l.Writes reports s s') ∧
      (reports.map Report.moment = ms.take reports.length ∧
        reports.map Report.seen = (looks.take reports.length).map Outcome.trace ∧
        reports.flatMap Report.changes = (if n = 0 then batches.flatten else batches.flatten.take n)) ∧
      ((∀ i < reports.length, 0 < n → (batches.take i).flatten.length < n) ∧
        (reports.length < ms.length → 0 < n ∧ n ≤ (batches.take reports.length).flatten.length) ∧
        ∀ s l' s', (l.run ms).run s = (.ok l', s') →
          (l'.quota.isSpent = true ↔ 0 < n ∧ n ≤ batches.flatten.length)) ∧
      ∀ before report after, reports = before ++ report :: after →
        let reported := (before.flatMap Report.changes).length
        (report.titled = true ↔ reported = 0) ∧ (0 < n → reported < n) ∧
        ∃ batch, batches[before.length]? = some batch ∧
          (¬ (0 < n ∧ n < reported + batch.length) → report.changes = batch) ∧
          (0 < n ∧ n < reported + batch.length →
            n - reported ≤ batch.length ∧ report.changes = batch.take (n - reported)) := by
  intro looks batches
  have hquota : l.quota = { limit := n } := by
    rw [startWatch_quota hstart, hcount, Int.toNat_natCast]
  have hopen : l.quota.Open := by
    rw [hquota]
    exact id
  have hchanges : (l.reports ms).map Report.changes = l.quota.parts batches := l.reports_changes ms
  have hbatches : batches.length = ms.length := (List.length_map _).trans (l.length_looks ms)
  have hlength : (l.reports ms).length = (l.quota.parts batches).length := by
    rw [← hchanges, List.length_map]
  have hfirst : (l.reports ms).flatMap Report.changes =
      (if n = 0 then batches.flatten else batches.flatten.take n) := by
    rw [List.flatMap_def, hchanges, Quota.flatten_parts hopen, hquota]
    rfl
  obtain ⟨hbefore, hend⟩ := Quota.parts_reach hopen batches
  rw [← hlength, hquota] at hbefore hend
  refine ⟨l.reports ms, ?_, ⟨l.reports_moment ms, l.reports_seen ms, hfirst⟩, ⟨?_, ?_, ?_⟩, ?_⟩
  · intro s s'
    rw [run_eq hopen]
    exact l.reportEach_iff (l.reports ms) s s'
  · intro i hi hn
    simpa using hbefore i hi hn
  · intro hi
    rw [← hbatches] at hi
    simpa [Quota.isSpent_iff] using hend hi
  · intro s l' s' hrun
    rw [run_eq hopen] at hrun
    rw [reportEach_quota hrun, hfirst, hquota, Quota.isSpent_iff, Quota.plus_limit, Quota.plus_reported]
    dsimp only
    split
    · omega
    · rw [List.length_take]
      omega
  · intro before report after hreports reported
    have htitled := reports_titled hreports
    have hpart : (l.quota.parts batches)[before.length]? = some report.changes := by
      rw [← hchanges, hreports]
      simp
    have htake : ((l.quota.parts batches).take before.length).flatten.length = reported := by
      rw [← hchanges, hreports, List.map_append, List.take_left' (List.length_map _), ← List.flatMap_def]
    obtain ⟨batch, hbatch, hstill, hrest⟩ := Quota.parts_getElem? hopen hpart
    rw [htake, hquota] at hstill hrest
    rw [← Quota.allow_eq_rest hstill] at hrest
    refine ⟨?_, ?_, batch, hbatch, ?_⟩
    · rw [htitled, hquota]
      simp [Quota.isFresh, reported]
    · intro hn
      simpa using hstill hn
    · have hcases := Quota.allow_cases hstill batch
      rw [← hrest] at hcases
      simp only [Quota.plus_limit, Quota.plus_reported, Nat.zero_add] at hcases
      rcases hcases with ⟨hfits, hall⟩ | ⟨hleft, hlt, hcut⟩
      · exact ⟨fun _ => hall, fun hlong => absurd hlong hfits⟩
      · exact ⟨fun hfits => absurd ⟨by omega, by omega⟩ hfits, fun _ => ⟨Nat.le_of_lt hlt, hcut⟩⟩

private def loopOf : Except Failure (Option WatchLoop) → WatchLoop
  | .ok (some l) => l
  | _ => ⟨{ keys := [] }, .empty [], [], {}, false, {}⟩

private theorem eq_loopOf {x : Except Failure (Option WatchLoop) × RunState}
    (h : (x.1.toOption.bind id).isSome = true) : x = (.ok (some (loopOf x.1)), x.2) := by
  obtain ⟨r, s⟩ := x
  cases r with
  | error e => cases h
  | ok l =>
    cases l with
    | none => cases h
    | some l => rfl

/-- A watch that is to end with two changes: nothing happens at first, then the file is touched, goes and comes
back.  The last moment is not looked at. -/
theorem WatchLoop.run_reports_twice :
    let host (sec : Int) (there : Bool) : Host :=
      { stat := fun p => if p = utf8 "/a" ∧ there = true then some { witness := ⟨2, ⟨sec, 0⟩⟩ } else none
        read := fun _ => .content (utf8 "x\n"), env := .empty, cwd := [Path.slash] }
    let inv : Invocation := { args := [], host := host 1 true, now := ⟨4, 0⟩ }
    let a : Arguments :=
      { settings := .ofList [(utf8 "count", .number 2), (utf8 "output", .text (utf8 "raw"))], others := [utf8 "/a"] }
    let ms : List Moment :=
      [⟨host 1 true, ⟨5, 0⟩⟩, ⟨host 2 true, ⟨6, 0⟩⟩, ⟨host 2 false, ⟨7, 0⟩⟩, ⟨host 3 true, ⟨8, 0⟩⟩]
    ∃ l s₁, (startWatch inv a).run {} = (.ok (some l), s₁) ∧ a.settings.number "count" = 2 ∧
      ((l.looks ms).map fun o => o.value.1.map Change.kind) = [[], [.touched], [.removed], [.restored]] ∧
      ∃ reports s', l.Writes reports s₁ s' ∧ reports.map Report.moment = ms.take 3 ∧
        (reports.flatMap Report.changes).map Change.kind = [.touched, .removed] ∧
        Event.output s'.trace =
          utf8 "[\x7b\"time\":\"1970-01-01T00:00:06Z\",\"file\":\"/a\",\"change\":\"touched\",\"lines\":1\x7d]\n" ++
          utf8 "[\x7b\"time\":\"1970-01-01T00:00:07Z\",\"file\":\"/a\",\"change\":\"removed\",\"lines\":0\x7d]\n" := by
  intro host inv a ms
  let started := (startWatch inv a).run {}
  let l := loopOf started.1
  have hstart : (startWatch inv a).run {} = (.ok (some l), started.2) :=
    eq_loopOf (by decide +kernel)
  have hcount : a.settings.number "count" = (2 : Nat) := by decide +kernel
  have hkinds : ((l.looks ms).map fun o => o.value.1.map Change.kind) =
      [[], [.touched], [.removed], [.restored]] := by decide +kernel
  have hdone : ((l.run ms).run started.2).1.isOk = true := by decide +kernel
  have hfew : ∀ k < 3, (((l.looks ms).map fun o => o.value.1).take k).flatten.length < 2 := by
    decide +kernel
  have henough : 2 ≤ (((l.looks ms).map fun o => o.value.1).take 3).flatten.length := by decide +kernel
  obtain ⟨reports, hwrites, ⟨hmoments, -, hchanges⟩, ⟨hbefore, hend, -⟩, -⟩ :=
    WatchLoop.run_reports hstart hcount ms
  have hlength : reports.length = 3 := by
    refine Nat.le_antisymm (Nat.le_of_not_lt fun hlong => ?_) (Nat.le_of_not_lt fun hshort => ?_)
    · exact absurd (hbefore 3 hlong (by decide)) (Nat.not_lt_of_le henough)
    · have hlast := (hend (Nat.lt_trans hshort (by decide))).2
      exact absurd (hfew reports.length hshort) (Nat.not_lt_of_le hlast)
  obtain ⟨l', hrun⟩ : ∃ l', (l.run ms).run started.2 = (.ok l', ((l.run ms).run started.2).2) := by
    rcases hrun : (l.run ms).run started.2 with ⟨result, s'⟩
    rw [hrun] at hdone
    cases result with
    | error e => cases hdone
    | ok l' => exact ⟨l', rfl⟩
  refine ⟨l, started.2, hstart, hcount, hkinds, reports, _, (hwrites _ _).mp ⟨l', hrun⟩, ?_, ?_, ?_⟩
  · rw [hmoments, hlength]
  · rw [hchanges]
    decide +kernel
  · decide +kernel

end Cli
end LineStore
