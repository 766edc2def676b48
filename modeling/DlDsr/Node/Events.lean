import DlDsr.Node.Emissions

/-!
# The events of one call

`Announces` lists the events of a call with the way they came about, as `Emits` does
for its packets.
-/

namespace DlDsr

namespace ProtocolState

variable {s : ProtocolState} {clock : Clock}

/-- Every way in which a call can come to emit an event. -/
inductive Announces (s : ProtocolState) (clock : Clock) : Input → ProtocolEvent → Prop where
  | routeCached (p : Rrep) (sender : SocketAddr)
      (hok : s.validateRrep sender p.tracePath = .ok ()) (hsrc : s.config.nodeId = p.srcNodeId) :
      Announces s clock (.packet (.rrep p) sender)
        (.routeCached s.config.nodeId p.dstNodeId p.requestId)
  | dataDelivered (d : Data) (sender : SocketAddr) (hdst : d.dstNodeId = s.config.nodeId) :
      Announces s clock (.packet (.data d) sender)
        (.dataDelivered s.config.nodeId d.srcNodeId d.dstNodeId d.sequence d.payload)
  | discoveryFailed (now : Nat) (dst : NodeId) (attempts : Nat) :
      Announces s clock (.tick now) (.routeDiscoveryFailed s.config.nodeId dst attempts)
  | dataDropped (input : Input) (dst : NodeId) (reason : String) :
      Announces s clock input (.dataDropped s.config.nodeId dst reason)
  | routeError (input : Input) (dst : NodeId) (reason : String) :
      Announces s clock input (.routeError s.config.nodeId dst reason)

theorem dropData_events {dst : NodeId} {reason : String} {input : Input} {e : ProtocolEvent}
    (h : e ∈ (s.dropData dst reason).2.events) : Announces s clock input e := by
  rcases List.mem_cons.mp h with rfl | h
  · exact .dataDropped ..
  · rw [List.mem_singleton.mp h]
    exact .routeError ..

theorem handleData_events {sender : SocketAddr} {d : Data} {e : ProtocolEvent}
    (h : e ∈ (s.handleData clock sender d).2.events) :
    Announces s clock (.packet (.data d) sender) e := by
  unfold handleData at h
  split at h
  · exact dropData_events h
  split at h
  · exact dropData_events h
  split at h
  · exact dropData_events h
  split at h
  · next hdst =>
    unfold deliverData at h
    split at h
    · exact dropData_events h
    · rw [List.mem_singleton.mp h]
      exact .dataDelivered d sender hdst
  split at h
  · unfold forwardDsr at h
    split at h
    · exact dropData_events h
    split at h
    · exact dropData_events h
    split at h
    · exact dropData_events h
    split at h <;> cases h
  · unfold forwardDlDsr at h
    split at h
    · exact dropData_events h
    split at h
    · exact dropData_events h
    split at h
    · exact dropData_events h
    · cases h

theorem handleRrep_events {sender : SocketAddr} {p : Rrep} {e : ProtocolEvent}
    (h : e ∈ (s.handleRrep clock sender p).2.events) :
    Announces s clock (.packet (.rrep p) sender) e := by
  unfold handleRrep at h
  split at h
  · rw [List.mem_singleton.mp h]
    exact .routeError ..
  next hok =>
  split at h
  · next hsrc =>
    rw [List.mem_singleton.mp h]
    exact .routeCached p sender hok hsrc
  · unfold relayRrep at h
    split at h <;> cases h

theorem handleRreq_events (s : ProtocolState) (clock : Clock) (q : Rreq) :
    (s.handleRreq clock q).2.events = [] := by
  have hout := handleRreq_outcome s clock q
  generalize s.handleRreq clock q = r at hout ⊢
  cases hout with
  | refused => rfl
  | duplicate => rfl
  | noLabel => rfl
  | answered e =>
    unfold ProtocolState.answerRreq
    split <;> rfl
  | forwarded e => rfl

theorem discoverAndSend_events {dst : NodeId} {payload : List UInt8} {e : ProtocolEvent}
    (h : e ∈ (s.discoverAndSend clock dst payload).2.events) :
    Announces s clock (.command (.discoverAndSend dst payload)) e := by
  rcases discoverAndSend_cases s clock dst payload with
    ⟨route, -, heq⟩ | ⟨-, -, heq⟩ | ⟨-, -, heq⟩
  · rw [heq] at h
    unfold originData at h
    dsimp only at h
    split at h
    · cases h
    · rcases List.mem_cons.mp h with rfl | h
      · exact .dataDropped ..
      · rw [List.mem_singleton.mp h]
        exact .routeError ..
  · rw [heq] at h
    cases h
  · rw [heq] at h
    cases h

theorem retryLoop_events {now : Nat} {expired : List (Sigma fun _ : NodeId => DiscoveryState)}
    {e : ProtocolEvent} (h : e ∈ (s.retryLoop clock expired).2.events) :
    Announces s clock (.tick now) e := by
  -- The loop goes through other states, whose events carry the same node id.
  suffices hloop : ∀ (t : ProtocolState) (clock' : Clock), t.config = s.config →
      e ∈ (t.retryLoop clock' expired).2.events → Announces s clock (.tick now) e from
    hloop s clock rfl h
  clear h
  induction expired with
  | nil =>
    intro t clock' _ h
    cases h
  | cons entry expired ih =>
    intro t clock' hcfg h
    obtain ⟨dst, state⟩ := entry
    simp only [retryLoop] at h
    split at h
    · rcases List.mem_append.mp h with h | h
      · unfold failDiscovery at h
        rw [hcfg] at h
        rcases List.mem_cons.mp h with rfl | h
        · exact .discoveryFailed ..
        · split at h
          · rw [List.mem_singleton.mp h]
            exact .dataDropped ..
          · cases h
      · exact ih _ _ (show (t.failDiscovery dst state).1.config = _ from hcfg) h
    · exact ih _ _ (show (t.startDiscovery clock' dst _).1.config = _ from hcfg) h

/-- Every event of a call is one of the five kinds of `Announces`. -/
theorem announces_of_mem {input : Input} {e : ProtocolEvent}
    (h : e ∈ (s.call clock input).2.events) : Announces s clock input e := by
  cases input with
  | command c =>
    obtain ⟨dst, payload⟩ := c
    exact discoverAndSend_events h
  | tick now =>
    have hloop : Announces _ clock (.tick now) e := retryLoop_events h
    cases hloop with
    | discoveryFailed => exact .discoveryFailed ..
    | dataDropped => exact .dataDropped ..
    | routeError => exact .routeError ..
  | hello => cases h
  | packet packet sender =>
    cases packet with
    | hello p =>
      change e ∈ (s.handleHello clock p sender).2.events at h
      unfold handleHello at h
      split at h
      · cases h
      · split at h <;> cases h
    | helloReply p =>
      change e ∈ (s.handleHelloReply p).2.events at h
      unfold handleHelloReply at h
      split at h <;> cases h
    | rreq q =>
      change e ∈ (s.handleRreq clock q).2.events at h
      rw [handleRreq_events] at h
      cases h
    | rrep p => exact handleRrep_events h
    | data d => exact handleData_events h
    | ack _ => cases h
    | error _ => cases h

end ProtocolState

end DlDsr
