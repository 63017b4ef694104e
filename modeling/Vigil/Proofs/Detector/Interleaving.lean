import Mathlib.Logic.Function.Basic
import Vigil.Proofs.Detector.History

/-!
Evidence from several sources: every other instance reports whom it suspects, and the instance
itself finds out who is silent and who is not. Whatever a source says changes its own entry among
the reports and no other (`get?_reports_perform`), so the entries do not depend on how the sources
take turns, and the failed instances follow the votes all the time (`attested_performAll`). What
does depend on the turns is which transitions come up on the way.
-/

namespace Vigil

namespace DetectorOperation

/-- Whose evidence the detector of `me` takes in by an operation. A report in the own name is
nobody's. -/
def source? (me : InstanceId) : DetectorOperation → Option InstanceId
  | .receiveReport r _ => if r = me then none else some r
  | .heardFrom _ | .suspect _ => some me
  | _ => none

/-- What becomes of the source's entry among the reports. -/
def amend (me : InstanceId) (entry : Option InstanceSet) :
    DetectorOperation → Option InstanceSet
  | .heardFrom id => entry.map (·.erase id)
  | .suspect id => if id = me then entry else some ((entry.getD ∅).insert id)
  | .receiveReport _ s => some (s.erase me)
  | _ => entry

/-- Evidence is of three kinds. -/
theorem source?_cases {me r : InstanceId} (op : DetectorOperation)
    (source : op.source? me = some r) :
    (∃ id, op = .heardFrom id ∧ r = me) ∨ (∃ id, op = .suspect id ∧ r = me) ∨
      ∃ s, op = .receiveReport r s := by
  cases op with
  | heardFrom id => exact .inl ⟨id, rfl, (Option.some.inj source).symm⟩
  | suspect id => exact .inr (.inl ⟨id, rfl, (Option.some.inj source).symm⟩)
  | receiveReport p s =>
      rw [source?] at source
      split at source
      · cases source
      · exact .inr (.inr ⟨s, by rw [Option.some.inj source]⟩)
  | forgetFailures | depart _ | syncMembers | checkMembers | takePending | armTimers _
  | disarmTimers | setTimer _ _ | cancelTimer _ | changeCluster _ => cases source

end DetectorOperation

/-- What each source has to say, in order. -/
abbrev Sources := InstanceId → List DetectorOperation

/-- Each source gives evidence of its own. -/
def Sources.Proper (sources : Sources) (me : InstanceId) : Prop :=
  ∀ r, ∀ op ∈ sources r, op.source? me = some r

/-- The history lets the sources take turns until all is said, and keeps the order of each. -/
inductive Interleaves : Sources → List DetectorOperation → Prop
  | nil {sources : Sources} : (∀ r, sources r = []) → Interleaves sources []
  | cons {sources : Sources} {r : InstanceId} {op : DetectorOperation}
      {rest history : List DetectorOperation} :
      sources r = op :: rest → Interleaves (Function.update sources r rest) history →
        Interleaves sources (op :: history)

namespace Sources.Proper

variable {sources : Sources} {me r : InstanceId} {op : DetectorOperation}
  {rest history : List DetectorOperation}

theorem source (h : sources.Proper me) (next : sources r = op :: rest) :
    op.source? me = some r := by
  apply h r op
  rw [next]
  exact List.mem_cons_self

theorem update (h : sources.Proper me) (next : sources r = op :: rest) :
    Proper (Function.update sources r rest) me := by
  intro q op' hop'
  by_cases same : q = r
  · subst same
    rw [Function.update_self] at hop'
    exact h q op' (next ▸ List.mem_cons_of_mem op hop')
  · rw [Function.update_of_ne same] at hop'
    exact h q op' hop'

theorem attested (h : sources.Proper me) (turns : Interleaves sources history) :
    ∀ op ∈ history, ∃ r, op.source? me = some r := by
  induction turns with
  | nil _ => exact fun _ hop => absurd hop List.not_mem_nil
  | cons next _ ih =>
      exact List.forall_mem_cons.mpr ⟨⟨_, h.source next⟩, ih (h.update next)⟩

end Sources.Proper

namespace Detector

variable {d : Detector} {op : DetectorOperation} {q r : InstanceId}
  {sources : Sources} {history history' : List DetectorOperation}

/-- A heartbeat takes the peer out of the own entry, if there is one. -/
theorem get?_reports_heardFrom (d : Detector) (id q : InstanceId) :
    (d.heardFrom id).1.reports.get? q =
      if q = d.me then (d.reports.get? d.me).map (·.erase id) else d.reports.get? q := by
  have reports : (d.heardFrom id).1.reports = (d.hear id).reports :=
    reports_congr (d.evidence_heardFrom id)
  rw [reports, hear]
  split
  · rename_i suspected
    rw [setReport, SortedMap.get?_insert]
    cases entry : d.reports.get? d.me with
    | none => simp [reportOf, entry] at suspected
    | some s => simp [reportOf, entry]
  · rename_i unsuspected
    split
    · rename_i same
      subst same
      cases entry : d.reports.get? d.me with
      | none => rfl
      | some s =>
          have absent : id ∉ s := by simpa [reportOf, entry] using unsuspected
          rw [Option.map_some, SortedSet.erase_eq_self absent]
    · rfl

theorem get?_reports_suspect {id : InstanceId} (other : id ≠ d.me) (q : InstanceId) :
    (d.suspect id).reports.get? q =
      if q = d.me then some ((d.reportOf d.me).insert id) else d.reports.get? q := by
  rw [suspect_eq, if_neg other, reports_congr (evidence_markFailed (d.accuse id) id), accuse,
    setReport, SortedMap.get?_insert]

theorem get?_reports_receiveReport (d : Detector) (p : InstanceId) (s : InstanceSet)
    (q : InstanceId) :
    (d.receiveReport p s).reports.get? q =
      if q = p then some (s.erase d.me) else d.reports.get? q := by
  rw [reports_congr (d.evidence_receiveReport p s), setReport, SortedMap.get?_insert]

/-- Evidence is written into the entry of its source. -/
theorem get?_reports_perform (source : op.source? d.me = some r) (q : InstanceId) :
    (d.perform op).1.reports.get? q =
      if q = r then op.amend d.me (d.reports.get? r) else d.reports.get? q := by
  rcases op.source?_cases source with ⟨id, rfl, rfl⟩ | ⟨id, rfl, rfl⟩ | ⟨s, rfl⟩
  · exact d.get?_reports_heardFrom id q
  · by_cases self : id = d.me
    · have same : (d.suspect id) = d := by rw [suspect_eq, if_pos self]
      simp only [perform, same, DetectorOperation.amend, if_pos self]
      split
      · rename_i own
        rw [own]
      · rfl
    · simp only [DetectorOperation.amend, if_neg self]
      exact get?_reports_suspect self q
  · exact d.get?_reports_receiveReport r s q

/-- Each source alone decides about its entry. -/
theorem get?_reports_performAll (proper : sources.Proper d.me)
    (turns : Interleaves sources history) (q : InstanceId) :
    (d.performAll history).reports.get? q =
      (sources q).foldl (fun entry op => op.amend d.me entry) (d.reports.get? q) := by
  induction turns generalizing d with
  | nil ended => rw [ended q, performAll_nil, List.foldl_nil]
  | @cons sources r op rest history next _ ih =>
      have source := proper.source next
      have me := d.me_perform op
      rw [performAll_cons, ih (me ▸ proper.update next), me, get?_reports_perform source]
      by_cases same : q = r
      · subst same
        rw [if_pos rfl, Function.update_self, next, List.foldl_cons]
      · rw [if_neg same, Function.update_of_ne same]

theorem evidence_of_source (source : op.source? d.me = some r) :
    (d.perform op).1.evidence = (d.cluster, d.timers, (d.perform op).1.reports, d.known) := by
  rcases op.source?_cases source with ⟨id, rfl, rfl⟩ | ⟨id, rfl, rfl⟩ | ⟨s, rfl⟩
  · simp [perform, evidence]
  · exact d.evidence_suspect id
  · simp [perform, evidence]

theorem agrees_of_source (source : op.source? d.me = some r)
    (agrees : d.Agrees d.cluster.members.length) :
    (d.perform op).1.Agrees d.cluster.members.length := by
  rcases op.source?_cases source with ⟨id, rfl, rfl⟩ | ⟨id, rfl, rfl⟩ | ⟨s, rfl⟩
  · exact agrees.reevaluated (d.reevaluates_heardFrom id)
  · exact agrees.reevaluated (d.reevaluates_suspect id)
  · exact agrees.reevaluated (d.reevaluates_receiveReport r s)

/-- While evidence comes in, nothing but reports and judgement changes, and the judgement is that of
the votes. -/
theorem attested_performAll (attested : ∀ op ∈ history, ∃ r, op.source? d.me = some r)
    (agrees : d.Agrees d.cluster.members.length) :
    let e := d.performAll history
    e.evidence = (d.cluster, d.timers, e.reports, d.known) ∧
      e.Agrees d.cluster.members.length := by
  induction history generalizing d with
  | nil => exact ⟨rfl, agrees⟩
  | cons op history ih =>
      obtain ⟨⟨r, source⟩, attested⟩ := List.forall_mem_cons.mp attested
      have kept := evidence_of_source source
      have cluster : (d.perform op).1.cluster = d.cluster := congrArg Prod.fst kept
      have timers : (d.perform op).1.timers = d.timers := congrArg (fun e => e.2.1) kept
      have known : (d.perform op).1.known = d.known := congrArg (fun e => e.2.2.2) kept
      have later := ih (d := (d.perform op).1) (d.me_perform op ▸ attested)
        (cluster ▸ agrees_of_source source agrees)
      rw [cluster, timers, known] at later
      exact later

/-- A detector that agrees with its votes is given by its evidence, but for the transitions nobody
has taken yet. -/
theorem takePending_congr {d' : Detector} {n : Nat} (evidence : d.evidence = d'.evidence)
    (h : d.Agrees n) (h' : d'.Agrees n) : d.takePending.1 = d'.takePending.1 := by
  have failed : d.failed = d'.failed := by
    ext x
    rw [h x, h' x, votes_congr evidence]
  simp only [takePending, cluster_congr evidence, timers_congr evidence, reports_congr evidence,
    known_congr evidence, failed]

theorem firstInLine_takePending (c : InstanceId) (l : List InstanceId) :
    d.takePending.1.firstInLine c l = d.firstInLine c l := by
  induction l with
  | nil => rfl
  | cons m l ih =>
      simp only [firstInLine, ih]
      rfl

theorem shouldPromote_takePending (d : Detector) :
    d.takePending.1.shouldPromote = d.shouldPromote := by
  simp only [shouldPromote, firstInLine_takePending]
  rfl

/-- However the sources take turns, in the end there are the same reports, the same instances are
failed and alive, and the answer is the same whether this instance should take over. Each entry is
what its source alone would have made of it, and the failed instances are those failed by quorum. -/
theorem interleavings_agree (settled : ∀ id, id ∈ d.failed ↔ d.isFailed id = true)
    (proper : sources.Proper d.me) (turns : Interleaves sources history)
    (turns' : Interleaves sources history') :
    let e := d.performAll history
    let e' := d.performAll history'
    e.reports = e'.reports ∧ e.failed = e'.failed ∧ e.aliveMembers = e'.aliveMembers ∧
      e.shouldPromote = e'.shouldPromote ∧
      (∀ r, e.reports.get? r =
        (sources r).foldl (fun entry op => op.amend d.me entry) (d.reports.get? r)) ∧
      ∀ id, id ∈ e.failed ↔ e.isFailed id = true := by
  intro e e'
  have entry := get?_reports_performAll proper turns
  have reports : e.reports = e'.reports := by
    ext r : 1
    exact (entry r).trans (get?_reports_performAll proper turns' r).symm
  have agrees := agrees_members_iff.mpr settled
  obtain ⟨evidence, after⟩ := attested_performAll (proper.attested turns) agrees
  obtain ⟨evidence', after'⟩ := attested_performAll (proper.attested turns') agrees
  have same : e.takePending.1 = e'.takePending.1 := by
    refine takePending_congr ?_ after after'
    rw [evidence, evidence', reports]
  have promote : e.shouldPromote = e'.shouldPromote := by
    rw [← shouldPromote_takePending e, same, shouldPromote_takePending]
  have cluster : e.cluster = d.cluster := congrArg Prod.fst evidence
  exact ⟨reports, (congrArg Detector.failed same :), (congrArg aliveMembers same :), promote, entry,
    agrees_members_iff.mp (cluster ▸ after)⟩

/-- What the first of three hears: it misses the third for a while and then the second, the second
takes back what it has said of the third, and the third misses the second. -/
def threeSources : Sources := fun r =>
  if r = 1 then [.suspect 3, .heardFrom 3, .suspect 2]
  else if r = 2 then [.receiveReport 2 (.ofList [3]), .receiveReport 2 ∅]
  else if r = 3 then [.receiveReport 3 (.ofList [2])]
  else []

def byTurns : List DetectorOperation :=
  [.suspect 3, .receiveReport 2 (.ofList [3]), .heardFrom 3, .receiveReport 2 ∅,
    .receiveReport 3 (.ofList [2]), .suspect 2]

def oneAfterAnother : List DetectorOperation :=
  [.receiveReport 2 (.ofList [3]), .receiveReport 2 ∅, .suspect 3, .heardFrom 3, .suspect 2,
    .receiveReport 3 (.ofList [2])]

/-- In one order the third fails and comes back, in the other it never fails. -/
theorem same_end_by_another_way :
    let d := start (.ofMembers 1 [2, 1, 3]) (.start (.fixed (.ofMillis 1000)))
    let e := d.performAll byTurns
    let e' := d.performAll oneAfterAnother
    e.pending = [.failed 3, .alive 3, .failed 2] ∧ e'.pending = [.failed 2] ∧
      e.failed = e'.failed ∧ e.shouldPromote = e'.shouldPromote := by
  intro d e e'
  have settled : ∀ id, id ∈ d.failed ↔ d.isFailed id = true :=
    agrees_members_iff.mp (agrees_start _ _ _)
  have proper : threeSources.Proper d.me := by
    intro r op hop
    unfold threeSources at hop
    split_ifs at hop with first second third
    · subst first
      revert op
      decide +kernel
    · subst second
      revert op
      decide +kernel
    · subst third
      revert op
      decide +kernel
    · exact absurd hop List.not_mem_nil
  have turns : Interleaves threeSources byTurns := by
    refine .cons (r := 1) rfl (.cons (r := 2) rfl (.cons (r := 1) rfl (.cons (r := 2) rfl
      (.cons (r := 3) rfl (.cons (r := 1) rfl (.nil fun r => ?_))))))
    simp only [Function.update, threeSources]
    grind
  have turns' : Interleaves threeSources oneAfterAnother := by
    refine .cons (r := 2) rfl (.cons (r := 2) rfl (.cons (r := 1) rfl (.cons (r := 1) rfl
      (.cons (r := 1) rfl (.cons (r := 3) rfl (.nil fun r => ?_))))))
    simp only [Function.update, threeSources]
    grind
  obtain ⟨-, failed, -, promote, -⟩ := interleavings_agree settled proper turns turns'
  exact ⟨by decide +kernel, by decide +kernel, failed, promote⟩

end Detector
end Vigil
