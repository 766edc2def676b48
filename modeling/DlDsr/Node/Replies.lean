import DlDsr.Node.Effects

/-!
# HELLO_REPLYs in any order

A HELLO_REPLY carries the time at which the neighbour sent it. `handle_hello_reply` keeps
that time beside the label and never looks at it again: a reply overwrites what was
recorded, whether it is newer or not. So what counts is the order of delivery
(`last_reply_wins`), and a reply that was overtaken on the way brings a stale label back
(`stale_label_returns`).
-/

namespace DlDsr

/-- The HELLO_REPLY of `neighbor` to `node` that an input delivers, if it does. -/
def Input.replyFrom (neighbor node : NodeId) : Input → Option HelloReply
  | .packet (.helloReply p) _ =>
    if p.srcNodeId = neighbor ∧ p.dstNodeId = node then some p else none
  | _ => none

theorem Input.replyFrom_eq_some {neighbor node : NodeId} {input : Input} {p : HelloReply} :
    input.replyFrom neighbor node = some p ↔
      (∃ sender, input = .packet (.helloReply p) sender) ∧ p.srcNodeId = neighbor ∧
        p.dstNodeId = node := by
  constructor
  · intro h
    unfold replyFrom at h
    split at h
    · next p' sender =>
      by_cases hto : p'.srcNodeId = neighbor ∧ p'.dstNodeId = node
      · rw [if_pos hto] at h
        cases h
        exact ⟨⟨sender, rfl⟩, hto⟩
      · rw [if_neg hto] at h
        cases h
    · cases h
  · rintro ⟨⟨sender, rfl⟩, hto⟩
    exact if_pos hto

namespace ProtocolState

variable {s s' : ProtocolState} {clock : Clock} {neighbor : NodeId}

/-- A run of one node: from `s` it serves the inputs, listed latest first, and ends up in
`s'`, whatever its clock reads and in whatever order its hash maps iterate. -/
inductive RunsTo (s : ProtocolState) : List Input → ProtocolState → Prop where
  | nil : RunsTo s [] s
  | call {inputs : List Input} {s' : ProtocolState} (clock : Clock) (input : Input)
      (h : RunsTo s inputs s') : RunsTo s (input :: inputs) (s'.call clock input).1
  | reorder {inputs : List Input} {s' s'' : ProtocolState} (h : RunsTo s inputs s')
      (hs : s'.Reorder s'') : RunsTo s inputs s''

theorem RunsTo.config {inputs : List Input} (h : s.RunsTo inputs s') :
    s'.config = s.config := by
  induction h with
  | nil => rfl
  | call clock input _ ih => rw [call_config, ih]
  | reorder _ hs ih => rw [hs.config, ih]

/-- The replies of a neighbour to this node that a run delivers, latest first. -/
def repliesFrom (neighbor node : NodeId) (inputs : List Input) : List HelloReply :=
  inputs.filterMap (Input.replyFrom neighbor node)

/-- A reply of a logical neighbour is recorded, whatever its timestamp. -/
theorem label_of_reply {input : Input} {p : HelloReply}
    (hneighbor : neighbor ∈ s.logicalNeighbors)
    (h : input.replyFrom neighbor s.config.nodeId = some p) :
    (s.call clock input).1.labels.labelAssignedByNeighbor neighbor = some p.assignedLabel := by
  obtain ⟨⟨sender, rfl⟩, rfl, hdst⟩ := Input.replyFrom_eq_some.mp h
  show (s.handleHelloReply p).1.labels.labelAssignedByNeighbor p.srcNodeId = _
  unfold handleHelloReply
  rw [if_pos ⟨hdst, isLogicalNeighbor_iff.mpr hneighbor⟩,
    LabelTable.labelAssignedByNeighbor_update, if_pos rfl]

/-- Nothing else touches the label of the neighbour. -/
theorem label_of_no_reply {input : Input}
    (h : input.replyFrom neighbor s.config.nodeId = none) :
    (s.call clock input).1.labels.labelAssignedByNeighbor neighbor =
      s.labels.labelAssignedByNeighbor neighbor := by
  have heff := call_tableEffect s clock input
  generalize (s.call clock input).1 = after at heff ⊢
  cases heff with
  | same hsame => rw [hsame.labels]
  | hello => rfl
  | helloReply p sender hdst hn =>
    rw [LabelTable.labelAssignedByNeighbor_update]
    by_cases hsrc : neighbor = p.srcNodeId
    · have hreply : Input.replyFrom neighbor s.config.nodeId (.packet (.helloReply p) sender) =
          some p := if_pos ⟨hsrc.symm, hdst⟩
      rw [h] at hreply
      cases hreply
    · rw [if_neg hsrc]
  | rrep _ _ _ _ hsame => rw [hsame.labels]

/-- After a run, the recorded label is that of the latest reply, or the one before the run
if there was none. -/
theorem RunsTo.label {inputs : List Input} (h : s.RunsTo inputs s')
    (hneighbor : neighbor ∈ s.logicalNeighbors) :
    s'.labels.labelAssignedByNeighbor neighbor =
      match (repliesFrom neighbor s.config.nodeId inputs).head? with
      | some last => some last.assignedLabel
      | none => s.labels.labelAssignedByNeighbor neighbor := by
  induction h with
  | nil => rfl
  | @call inputs s' clock input hrun ih =>
    have hconfig := hrun.config
    unfold repliesFrom
    cases hreply : input.replyFrom neighbor s.config.nodeId with
    | none =>
      rw [List.filterMap_cons_none hreply]
      rw [← hconfig] at hreply
      exact (label_of_no_reply hreply).trans ih
    | some p =>
      have hneighbor' : neighbor ∈ s'.logicalNeighbors := by
        rw [logicalNeighbors_of_config hconfig]
        exact hneighbor
      rw [List.filterMap_cons_some hreply]
      rw [← hconfig] at hreply
      exact label_of_reply hneighbor' hreply
  | reorder _ hs ih => rw [hs.labelAssignedByNeighbor_eq, ih]

/-- The label path of an RREQ from the neighbour is extended by the recorded label. -/
theorem extendRreq_of_label {label : Label} (hmode : s.config.protocolMode = .dlDsr)
    (hlabel : s.labels.labelAssignedByNeighbor neighbor = some label) {q : Rreq}
    (hq : q.previousHop = neighbor) :
    ∃ e, s.extendRreq q = some e ∧ e.dldsrLabelPath = q.dldsrLabelPath ++ [label] := by
  unfold extendRreq
  rw [hmode, hq, hlabel]
  exact ⟨_, rfl, rfl⟩

/-- **The reply delivered last counts.** In whatever order the replies of a logical
neighbour arrive and whatever arrives between them: the label recorded for the neighbour,
and appended to its RREQs, is that of the last one. So it is the label of the newest
reply exactly for those orders in which the last reply carries it. -/
theorem last_reply_wins {config : NodeConfig} (hs : ReachableFrom config s)
    (hneighbor : neighbor ∈ s.logicalNeighbors) {inputs : List Input}
    (hrun : s.RunsTo inputs s') {last : HelloReply} {earlier : List HelloReply}
    (hreplies : repliesFrom neighbor config.nodeId inputs = last :: earlier) :
    s'.labels.labelAssignedByNeighbor neighbor = some last.assignedLabel ∧
      (∀ newest ∈ last :: earlier,
        (∀ p ∈ last :: earlier, p.timestampMillis ≤ newest.timestampMillis) →
          (s'.labels.labelAssignedByNeighbor neighbor = some newest.assignedLabel ↔
            last.assignedLabel = newest.assignedLabel)) ∧
      (config.protocolMode = .dlDsr → ∀ q : Rreq, q.previousHop = neighbor →
        ∃ e, s'.extendRreq q = some e ∧
          e.dldsrLabelPath = q.dldsrLabelPath ++ [last.assignedLabel]) := by
  have hconfig : s.config = config := hs.config_eq
  have hlabel := hrun.label hneighbor
  rw [hconfig, hreplies] at hlabel
  have hlabel : s'.labels.labelAssignedByNeighbor neighbor = some last.assignedLabel := hlabel
  refine ⟨hlabel, fun newest _ _ => ?_, fun hmode q hq => ?_⟩
  · rw [hlabel]
    exact Option.some_inj
  · refine extendRreq_of_label ?_ hlabel hq
    rw [hrun.config, hconfig]
    exact hmode

/-- Node 0, which has node 1 as its only neighbour, in DL-DSR mode. -/
def replySettings : NodeConfig :=
  { NodeConfig.testSettings .dlDsr with
    topology := ⟨[⟨0, .localhost 7000, [1]⟩, ⟨1, .localhost 7001, [0]⟩]⟩ }

/-- Node 1 assigned label 4 at time 10 and, after a restart, label 7 at time 20; the
replies are delivered in the order of their timestamps. -/
theorem last_reply_wins_in_order :
    let first := (new replySettings).call (fun _ => 30)
      (.packet (.helloReply ⟨1, 0, 4, true, 10⟩) (.localhost 7001))
    let second := first.1.call (fun _ => 31)
      (.packet (.helloReply ⟨1, 0, 7, true, 20⟩) (.localhost 7001))
    second.1.labels.labelAssignedByNeighbor 1 = some 7 := by
  have hrun := RunsTo.call (fun _ => 31) (.packet (.helloReply ⟨1, 0, 7, true, 20⟩)
    (.localhost 7001)) (.call (fun _ => 30) (.packet (.helloReply ⟨1, 0, 4, true, 10⟩)
      (.localhost 7001)) (RunsTo.nil (s := new replySettings)))
  have hnew : ReachableFrom replySettings (new replySettings) := .new
  have hneighbor : 1 ∈ (new replySettings).logicalNeighbors := by decide
  exact (last_reply_wins hnew hneighbor hrun rfl).1

/-- The other way round, the label from before the restart stays. -/
theorem stale_label_returns :
    ¬ ∀ (config : NodeConfig) (s : ProtocolState), ReachableFrom config s →
      ∀ neighbor ∈ s.logicalNeighbors, ∀ (inputs : List Input) (s' : ProtocolState),
        s.RunsTo inputs s' →
        (repliesFrom neighbor config.nodeId inputs).Pairwise
          (fun p p' => p.timestampMillis ≠ p'.timestampMillis) →
        ∀ newest ∈ repliesFrom neighbor config.nodeId inputs,
          (∀ p ∈ repliesFrom neighbor config.nodeId inputs,
            p.timestampMillis ≤ newest.timestampMillis) →
          s'.labels.labelAssignedByNeighbor neighbor = some newest.assignedLabel := by
  intro h
  have hlabel := h replySettings (new replySettings) .new 1 (by decide)
    [.packet (.helloReply ⟨1, 0, 4, true, 10⟩) (.localhost 7001),
      .packet (.helloReply ⟨1, 0, 7, true, 20⟩) (.localhost 7001)] _
    (.call (fun _ => 31) _ (.call (fun _ => 30) _ .nil)) (by decide) ⟨1, 0, 7, true, 20⟩
    (by decide) (by decide)
  exact absurd hlabel (by decide)

end ProtocolState

end DlDsr
