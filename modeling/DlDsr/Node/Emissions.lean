import DlDsr.Node.Effects

/-!
# The packets of one call

`Emits` lists every packet of the outbound list of a call with the way it came about
(`emits_of_mem`), so that what holds of the packets a node sends is proved by cases
over its nine kinds. What concerns one type of packet only is read off `Emits.of_rreq`,
`Emits.of_rrep` and `Emits.of_data`.
-/

namespace DlDsr

namespace ProtocolState

variable {s : ProtocolState} {clock : Clock}

/-- `o` is the DATA packet that `origin_data` sends for `payload` over `route`. -/
def OriginatesData (s : ProtocolState) (dst : NodeId) (payload : List UInt8)
    (route : RouteEntry) (o : OutboundPacket) : Prop :=
  ∃ d : Data, o.packet = .data { d with routeCursor := 1 } ∧
    d.srcNodeId = s.config.nodeId ∧ d.dstNodeId = dst ∧ d.payload = payload ∧
    d.protocolMode = s.config.protocolMode ∧ d.routeCursor = 0 ∧
    d.dsrPath = route.dsrPath ∧ d.dldsrLabelPath = route.dldsrLabelPath ∧
    s.nextDataEndpoint (.data d) = some o.dst

/-- The forwarding step of `handle_data` towards `dst`. -/
inductive ForwardsData (s : ProtocolState) (d : Data) (dst : SocketAddr) : Prop where
  | dsr (next : NodeId) (hmode : d.protocolMode = .dsr)
      (hme : d.dsrPath[d.routeCursor]? = some s.config.nodeId)
      (hnext : d.dsrPath[d.routeCursor + 1]? = some next)
      (hneighbor : next ∈ s.logicalNeighbors) (hdst : s.endpoint next = some dst)
  | dlDsr (label : Label) (entry : NeighborEntry) (hmode : d.protocolMode = .dlDsr)
      (hlabel : d.dldsrLabelPath[d.routeCursor]? = some label)
      (hentry : s.neighbors.neighborByLabel label = some entry)
      (hneighbor : entry.nodeId ∈ s.logicalNeighbors) (hdst : entry.endpoint = dst)

/-- Every way in which a call can come to send a packet. -/
inductive Emits (s : ProtocolState) (clock : Clock) : Input → OutboundPacket → Prop where
  | hello (n : NodeId) (t : Nat) (dst : SocketAddr) (hn : n ∈ s.logicalNeighbors)
      (hdst : s.endpoint n = some dst) :
      Emits s clock .hello ⟨.hello ⟨s.config.nodeId, t⟩, dst⟩
  | helloReply (p : Hello) (sender : SocketAddr) (label : Label) (t : Nat)
      (hn : p.srcNodeId ∈ s.logicalNeighbors)
      (hlabel : (s.neighbors.assignOrReuseLabel p.srcNodeId sender (clock 0)).2 = .ok label) :
      Emits s clock (.packet (.hello p) sender)
        ⟨.helloReply ⟨s.config.nodeId, p.srcNodeId, label, true, t⟩, sender⟩
  | originate (input : Input) (now : Nat) (dst : NodeId) (requestId : Nat) (o : OutboundPacket)
      (hinput : (∃ c, input = .command c) ∨ ∃ t, input = .tick t)
      (hid : s.nextRequestId ≤ requestId)
      (hid' : requestId < (s.call clock input).1.nextRequestId)
      (ho : o ∈ s.floodRreq now dst requestId) :
      Emits s clock input o
  | forwardRreq (q e : Rreq) (sender : SocketAddr) (o : OutboundPacket) (h : s.Admits q)
      (hnew : (s.markRreq clock q).2 = true) (he : s.extendRreq q = some e)
      (hdst : s.config.nodeId ≠ q.dstNodeId) (ho : o ∈ s.rreqCopies e) :
      Emits s clock (.packet (.rreq q) sender) o
  | answerRreq (q e : Rreq) (sender dst : SocketAddr) (prev : NodeId) (h : s.Admits q)
      (hnew : (s.markRreq clock q).2 = true) (he : s.extendRreq q = some e)
      (hdst : s.config.nodeId = q.dstNodeId)
      (hprev : previousInTrace e.tracePath s.config.nodeId = some prev)
      (hend : s.endpoint prev = some dst) :
      Emits s clock (.packet (.rreq q) sender) ⟨.rrep (generatedRrep e), dst⟩
  | relayRrep (p : Rrep) (sender dst : SocketAddr) (prev : NodeId)
      (hok : s.validateRrep sender p.tracePath = .ok ()) (hsrc : s.config.nodeId ≠ p.srcNodeId)
      (hprev : previousInTrace p.tracePath s.config.nodeId = some prev)
      (hend : s.endpoint prev = some dst) :
      Emits s clock (.packet (.rrep p) sender) ⟨.rrep p, dst⟩
  | sendData (dst : NodeId) (payload : List UInt8) (route : RouteEntry) (o : OutboundPacket)
      (hroute : s.routes.shortest dst (clock 0) = some route)
      (ho : s.OriginatesData dst payload route o) :
      Emits s clock (.command (.discoverAndSend dst payload)) o
  | flushData (p : Rrep) (sender : SocketAddr) (payload : List UInt8) (o : OutboundPacket)
      (hok : s.validateRrep sender p.tracePath = .ok ()) (hsrc : s.config.nodeId = p.srcNodeId)
      (hpending : ⟨p.dstNodeId, payload⟩ ∈ s.pendingData)
      (ho : s.OriginatesData p.dstNodeId payload (s.routeOf clock p) o) :
      Emits s clock (.packet (.rrep p) sender) o
  | forwardData (d : Data) (sender dst : SocketAddr) (senderNodeId : NodeId)
      (hmode : ¬ (s.config.strictProtocolMode ∧ d.protocolMode ≠ s.config.protocolMode))
      (hsender : s.nodeIdByEndpoint sender = some senderNodeId)
      (hneighbor : senderNodeId ∈ s.logicalNeighbors) (hdst : d.dstNodeId ≠ s.config.nodeId)
      (hfwd : s.ForwardsData d dst) :
      Emits s clock (.packet (.data d) sender)
        ⟨.data { d with routeCursor := d.routeCursor + 1 }, dst⟩

theorem originData_outbound {dst : NodeId} {payload : List UInt8} {route : RouteEntry}
    {o : OutboundPacket} (h : o ∈ (s.originData clock dst payload route).2.outbound) :
    s.OriginatesData dst payload route o := by
  unfold originData at h
  dsimp only at h
  split at h
  · next endpoint hend =>
    rw [List.mem_singleton] at h
    subst h
    exact ⟨s.lookupPacket clock dst payload route, rfl, rfl, rfl, rfl, rfl, rfl, rfl, rfl, hend⟩
  · simp [dropData] at h

theorem flushLoop_outbound {dst : NodeId} {route : RouteEntry} {queue : List PendingData}
    {o : OutboundPacket} (h : o ∈ (s.flushLoop clock dst route queue).2.1) :
    ∃ payload, ⟨dst, payload⟩ ∈ queue ∧ s.OriginatesData dst payload route o := by
  induction queue generalizing s clock with
  | nil => simp [flushLoop] at h
  | cons pending queue ih =>
    simp only [flushLoop] at h
    split at h
    · next hdst =>
      rcases List.mem_append.mp h with h | h
      · exact ⟨pending.payload, by simp [← hdst], originData_outbound h⟩
      · obtain ⟨payload, hmem, ho⟩ := ih h
        obtain ⟨m, hm⟩ := originData_state s clock dst pending.payload route
        rw [hm] at ho
        exact ⟨payload, List.mem_cons_of_mem _ hmem, ho⟩
    · obtain ⟨payload, hmem, ho⟩ := ih h
      exact ⟨payload, List.mem_cons_of_mem _ hmem, ho⟩

theorem acceptRrep_outbound {p : Rrep} {o : OutboundPacket}
    (h : o ∈ (s.acceptRrep clock p).2.outbound) :
    ∃ payload, ⟨p.dstNodeId, payload⟩ ∈ s.pendingData ∧
      s.OriginatesData p.dstNodeId payload (s.routeOf clock p) o :=
  flushLoop_outbound (s := s.cacheRoute clock p) h

/-- The request ids a tick uses are the ones it takes off the counter. -/
theorem retryLoop_nextRequestId (expired : List (Sigma fun _ : NodeId => DiscoveryState)) :
    s.nextRequestId ≤ (s.retryLoop clock expired).1.nextRequestId :=
  retryLoop_induction (P := fun t => s.nextRequestId ≤ t.nextRequestId)
    (fun _ _ _ h => h) (fun _ _ _ _ h => Nat.le_succ_of_le h) (Nat.le_refl _) expired

theorem retryLoop_outbound {expired : List (Sigma fun _ : NodeId => DiscoveryState)}
    {o : OutboundPacket} (h : o ∈ (s.retryLoop clock expired).2.outbound) :
    ∃ now dst requestId, s.nextRequestId ≤ requestId ∧
      requestId < (s.retryLoop clock expired).1.nextRequestId ∧
      o ∈ s.floodRreq now dst requestId := by
  induction expired generalizing s clock with
  | nil => simp [retryLoop] at h
  | cons entry expired ih =>
    obtain ⟨dst, state⟩ := entry
    simp only [retryLoop] at h ⊢
    split at h
    · next hmax =>
      rw [if_pos hmax]
      exact ih h
    · next hmax =>
      rw [if_neg hmax]
      rcases List.mem_append.mp h with h | h
      -- This discovery takes the next number; the rest of the loop takes larger ones.
      · refine ⟨clock 0, dst, s.nextRequestId, Nat.le_refl _, ?_, h⟩
        exact retryLoop_nextRequestId
          (s := (s.startDiscovery clock dst (state.retriesDone + 1)).1) expired
      · obtain ⟨now, dst', id, hid, hid', ho⟩ := ih h
        exact ⟨now, dst', id, Nat.le_of_succ_le hid, hid', ho⟩

/-- What a DSR node sends for a DATA packet that is not for itself. -/
theorem forwardDsr_outbound {d : Data} {o : OutboundPacket} (hmode : d.protocolMode = .dsr)
    (h : o ∈ (s.forwardDsr d).2.outbound) :
    ∃ dst, s.ForwardsData d dst ∧ o = ⟨.data { d with routeCursor := d.routeCursor + 1 }, dst⟩ := by
  unfold forwardDsr at h
  split at h
  · simp [dropData] at h
  next hme =>
  split at h
  · simp [dropData] at h
  next next hnext =>
  split at h
  · simp [dropData] at h
  next hn =>
  split at h
  · next endpoint hend =>
    rw [sendOn, List.mem_singleton] at h
    exact ⟨endpoint, .dsr next hmode (by simpa using hme) hnext (by simpa using hn) hend, h⟩
  · simp at h

/-- What a DL-DSR node sends for a DATA packet that is not for itself. -/
theorem forwardDlDsr_outbound {d : Data} {o : OutboundPacket} (hmode : d.protocolMode = .dlDsr)
    (h : o ∈ (s.forwardDlDsr d).2.outbound) :
    ∃ dst, s.ForwardsData d dst ∧ o = ⟨.data { d with routeCursor := d.routeCursor + 1 }, dst⟩ := by
  unfold forwardDlDsr at h
  split at h
  · simp [dropData] at h
  next label hlabel =>
  split at h
  · simp [dropData] at h
  next entry hentry =>
  split at h
  · simp [dropData] at h
  next hn =>
  rw [sendOn, List.mem_singleton] at h
  exact ⟨entry.endpoint, .dlDsr label entry hmode hlabel hentry (by simpa using hn) rfl, h⟩

theorem handleData_outbound {sender : SocketAddr} {d : Data} {o : OutboundPacket}
    (h : o ∈ (s.handleData clock sender d).2.outbound) :
    Emits s clock (.packet (.data d) sender) o := by
  unfold handleData at h
  split at h
  · simp [dropData] at h
  next hmode =>
  split at h
  · simp [dropData] at h
  next senderNodeId hsender =>
  split at h
  · simp [dropData] at h
  next hneighbor =>
  have hneighbor : senderNodeId ∈ s.logicalNeighbors := by simpa using hneighbor
  split at h
  · unfold deliverData at h
    split at h <;> simp [dropData] at h
  next hdst =>
  split at h
  · next hdsr =>
    obtain ⟨dst, hfwd, rfl⟩ := forwardDsr_outbound hdsr h
    exact .forwardData d sender dst senderNodeId hmode hsender hneighbor hdst hfwd
  · next hdl =>
    obtain ⟨dst, hfwd, rfl⟩ := forwardDlDsr_outbound hdl h
    exact .forwardData d sender dst senderNodeId hmode hsender hneighbor hdst hfwd

theorem handleRrep_outbound {sender : SocketAddr} {p : Rrep} {o : OutboundPacket}
    (h : o ∈ (s.handleRrep clock sender p).2.outbound) :
    Emits s clock (.packet (.rrep p) sender) o := by
  unfold handleRrep at h
  split at h
  · simp at h
  next hok =>
  split at h
  · next hsrc =>
    obtain ⟨payload, hmem, ho⟩ := acceptRrep_outbound h
    exact .flushData p sender payload o hok hsrc hmem ho
  next hsrc =>
  unfold relayRrep at h
  split at h
  · next endpoint hend =>
    obtain ⟨prev, hprev, hend⟩ := Option.bind_eq_some_iff.mp hend
    rw [List.mem_singleton] at h
    subst h
    exact .relayRrep p sender endpoint prev hok hsrc hprev hend
  · simp at h

theorem handleRreq_outbound {sender : SocketAddr} {q : Rreq} {o : OutboundPacket}
    (h : o ∈ (s.handleRreq clock q).2.outbound) :
    Emits s clock (.packet (.rreq q) sender) o := by
  have hout := handleRreq_outcome s clock q
  generalize s.handleRreq clock q = r at hout h
  cases hout with
  | refused => simp at h
  | duplicate => simp at h
  | noLabel => simp at h
  | answered e hadm hnew he hdst =>
    unfold ProtocolState.answerRreq at h
    split at h
    · next endpoint hend =>
      obtain ⟨prev, hprev, hend⟩ := Option.bind_eq_some_iff.mp hend
      rw [List.mem_singleton] at h
      subst h
      exact .answerRreq q e sender endpoint prev hadm hnew he hdst hprev hend
    · simp at h
  | forwarded e hadm hnew he hdst => exact .forwardRreq q e sender o hadm hnew he hdst h

theorem handleHello_outbound {sender : SocketAddr} {p : Hello} {o : OutboundPacket}
    (h : o ∈ (s.handleHello clock p sender).2.outbound) :
    Emits s clock (.packet (.hello p) sender) o := by
  unfold handleHello at h
  split at h
  · simp at h
  next hn =>
  split at h
  · simp at h
  next neighbors label hassign =>
  rw [List.mem_singleton] at h
  subst h
  exact .helloReply p sender label (clock 1) (by simpa using hn) (by rw [hassign])

theorem discoverAndSend_outbound {dst : NodeId} {payload : List UInt8} {o : OutboundPacket}
    (h : o ∈ (s.discoverAndSend clock dst payload).2.outbound) :
    Emits s clock (.command (.discoverAndSend dst payload)) o := by
  have hcall : s.call clock (.command (.discoverAndSend dst payload)) =
      s.discoverAndSend clock dst payload := rfl
  unfold discoverAndSend at h hcall
  split at h
  · next route hroute => exact .sendData dst payload route o hroute (originData_outbound h)
  next hroute =>
  rw [hroute] at hcall
  dsimp only at h hcall
  split at h
  · simp at h
  next hmem =>
  rw [if_neg hmem] at hcall
  -- No route is cached and no discovery is running, so one is started.
  refine .originate _ _ dst s.nextRequestId o (.inl ⟨_, rfl⟩) (Nat.le_refl _) ?_ h
  rw [hcall]
  exact Nat.lt_succ_self _

/-- The copies `start_discovery` floods go to the neighbours that have an
endpoint. -/
theorem mem_floodRreq {now requestId : Nat} {dst : NodeId} {o : OutboundPacket} :
    o ∈ s.floodRreq now dst requestId ↔
      ∃ v ∈ s.logicalNeighbors, s.endpoint v = some o.dst ∧
        o.packet = .rreq
          { srcNodeId := s.config.nodeId, dstNodeId := dst, requestId := requestId,
            previousHop := s.config.nodeId, hopCount := 0, dsrPath := [s.config.nodeId],
            dldsrLabelPath := [], tracePath := [s.config.nodeId], createdAtMillis := now } := by
  simp only [floodRreq, List.mem_filterMap, Option.map_eq_some_iff]
  constructor
  · rintro ⟨v, hv, a, ha, rfl⟩
    exact ⟨v, hv, ha, rfl⟩
  · rintro ⟨v, hv, ha, hpacket⟩
    exact ⟨v, hv, o.dst, ha, by rw [← hpacket]⟩

/-- The copies `handle_rreq` forwards skip the node the RREQ came from. -/
theorem mem_rreqCopies {e : Rreq} {o : OutboundPacket} :
    o ∈ s.rreqCopies e ↔
      ∃ v ∈ s.logicalNeighbors, v ≠ e.previousHop ∧ s.endpoint v = some o.dst ∧
        o.packet = .rreq
          { e with previousHop := s.config.nodeId, hopCount := e.hopCount + 1 } := by
  simp only [rreqCopies, List.mem_filterMap, List.mem_filter, Option.map_eq_some_iff, bne_iff_ne]
  constructor
  · rintro ⟨v, ⟨hv, hne⟩, a, ha, rfl⟩
    exact ⟨v, hv, hne, ha, rfl⟩
  · rintro ⟨v, hv, hne, ha, hpacket⟩
    exact ⟨v, ⟨hv, hne⟩, o.dst, ha, by rw [← hpacket]⟩

/-- Every packet a call sends is one of the nine kinds of `Emits`. -/
theorem emits_of_mem {input : Input} {o : OutboundPacket}
    (h : o ∈ (s.call clock input).2.outbound) : Emits s clock input o := by
  cases input with
  | command c =>
    cases c with
    | discoverAndSend dst payload => exact discoverAndSend_outbound h
  | tick now =>
    obtain ⟨t, dst, id, hid, hid', ho⟩ := retryLoop_outbound h
    exact .originate _ t dst id o (.inr ⟨now, rfl⟩) hid hid' ho
  | hello =>
    -- The index that a HELLO is zipped with is that of its clock reading.
    obtain ⟨⟨endpoint, i⟩, hmem, rfl⟩ := List.mem_map.mp h
    obtain ⟨n, hn, hend⟩ := List.mem_filterMap.mp (List.fst_mem_of_mem_zipIdx hmem)
    exact .hello n (clock i) endpoint hn hend
  | packet packet sender =>
    cases packet with
    | hello p => exact handleHello_outbound h
    | helloReply p =>
      change o ∈ (s.handleHelloReply p).2.outbound at h
      unfold handleHelloReply at h
      split at h <;> simp at h
    | rreq q => exact handleRreq_outbound h
    | rrep p => exact handleRrep_outbound h
    | data d => exact handleData_outbound h
    | ack _ => simp [call, handlePacket] at h
    | error _ => simp [call, handlePacket] at h

theorem OriginatesData.is_data {dst : NodeId} {payload : List UInt8} {route : RouteEntry}
    {o : OutboundPacket} (h : s.OriginatesData dst payload route o) :
    ∃ d, o.packet = .data d := by
  obtain ⟨d, hpacket, -⟩ := h
  exact ⟨_, hpacket⟩

/-- An RREQ is a copy of a flood that a local call starts, or of an RREQ that is let
through. -/
theorem Emits.of_rreq {input : Input} {o : OutboundPacket} {q : Rreq}
    (h : s.Emits clock input o) (hq : o.packet = .rreq q) :
    (∃ now dst requestId, ((∃ c, input = .command c) ∨ ∃ t, input = .tick t) ∧
      s.nextRequestId ≤ requestId ∧ requestId < (s.call clock input).1.nextRequestId ∧
      q = { srcNodeId := s.config.nodeId, dstNodeId := dst, requestId := requestId,
            previousHop := s.config.nodeId, hopCount := 0, dsrPath := [s.config.nodeId],
            dldsrLabelPath := [], tracePath := [s.config.nodeId], createdAtMillis := now }) ∨
    ∃ q₀ e sender, input = .packet (.rreq q₀) sender ∧ s.Admits q₀ ∧
      (s.markRreq clock q₀).2 = true ∧ s.extendRreq q₀ = some e ∧
      q = { e with previousHop := s.config.nodeId, hopCount := e.hopCount + 1 } := by
  cases h with
  | originate _ now dst id _ hinput hlow hhigh hflood =>
    obtain ⟨v, -, -, hpacket⟩ := mem_floodRreq.mp hflood
    exact .inl ⟨now, dst, id, hinput, hlow, hhigh, Packet.rreq.inj (hq.symm.trans hpacket)⟩
  | forwardRreq q₀ e sender _ ha hnew he _ hcopy =>
    obtain ⟨v, -, -, -, hpacket⟩ := mem_rreqCopies.mp hcopy
    exact .inr ⟨q₀, e, sender, rfl, ha, hnew, he, Packet.rreq.inj (hq.symm.trans hpacket)⟩
  | sendData _ _ _ _ _ ho =>
    obtain ⟨d, hpacket⟩ := ho.is_data
    cases hq.symm.trans hpacket
  | flushData _ _ _ _ _ _ _ ho =>
    obtain ⟨d, hpacket⟩ := ho.is_data
    cases hq.symm.trans hpacket
  | _ => cases hq

/-- An RREP answers an RREQ that is let through, or is relayed. -/
theorem Emits.of_rrep {input : Input} {o : OutboundPacket} {a : Rrep}
    (h : s.Emits clock input o) (ha : o.packet = .rrep a) :
    (∃ q e sender prev, input = .packet (.rreq q) sender ∧ s.Admits q ∧
      (s.markRreq clock q).2 = true ∧ s.extendRreq q = some e ∧
      s.config.nodeId = q.dstNodeId ∧ previousInTrace e.tracePath s.config.nodeId = some prev ∧
      s.endpoint prev = some o.dst ∧ a = generatedRrep e) ∨
    ∃ sender prev, input = .packet (.rrep a) sender ∧
      previousInTrace a.tracePath s.config.nodeId = some prev ∧
      s.endpoint prev = some o.dst := by
  cases h with
  | answerRreq q e sender dst prev hadmits hnew he hme hprev hend =>
    exact .inl ⟨q, e, sender, prev, rfl, hadmits, hnew, he, hme, hprev, hend,
      (Packet.rrep.inj ha).symm⟩
  | relayRrep p sender dst prev _ _ hprev hend =>
    obtain rfl := Packet.rrep.inj ha
    exact .inr ⟨sender, prev, rfl, hprev, hend⟩
  | originate _ _ _ _ _ _ _ _ hflood =>
    obtain ⟨v, -, -, hpacket⟩ := mem_floodRreq.mp hflood
    cases ha.symm.trans hpacket
  | forwardRreq _ _ _ _ _ _ _ _ hcopy =>
    obtain ⟨v, -, -, -, hpacket⟩ := mem_rreqCopies.mp hcopy
    cases ha.symm.trans hpacket
  | sendData _ _ _ _ _ ho =>
    obtain ⟨d, hpacket⟩ := ho.is_data
    cases ha.symm.trans hpacket
  | flushData _ _ _ _ _ _ _ ho =>
    obtain ⟨d, hpacket⟩ := ho.is_data
    cases ha.symm.trans hpacket
  | _ => cases ha

/-- DATA is sent by a command that finds a route, by an accepted RREP, and on by DATA. -/
theorem Emits.of_data {input : Input} {o : OutboundPacket} {d : Data}
    (h : s.Emits clock input o) (hd : o.packet = .data d) :
    (∃ dst payload route, input = .command (.discoverAndSend dst payload) ∧
      s.routes.shortest dst (clock 0) = some route ∧ s.OriginatesData dst payload route o) ∨
    (∃ p sender payload, input = .packet (.rrep p) sender ∧
      s.validateRrep sender p.tracePath = .ok () ∧ s.config.nodeId = p.srcNodeId ∧
      ⟨p.dstNodeId, payload⟩ ∈ s.pendingData ∧
      s.OriginatesData p.dstNodeId payload (s.routeOf clock p) o) ∨
    ∃ d₀ sender, input = .packet (.data d₀) sender ∧
      d = { d₀ with routeCursor := d₀.routeCursor + 1 } := by
  cases h with
  | sendData dst payload route _ hroute ho => exact .inl ⟨dst, payload, route, rfl, hroute, ho⟩
  | flushData p sender payload _ hok hsrc hpending ho =>
    exact .inr (.inl ⟨p, sender, payload, rfl, hok, hsrc, hpending, ho⟩)
  | forwardData d₀ sender =>
    exact .inr (.inr ⟨d₀, sender, rfl, (Packet.data.inj hd).symm⟩)
  | originate _ _ _ _ _ _ _ _ hflood =>
    obtain ⟨v, -, -, hpacket⟩ := mem_floodRreq.mp hflood
    cases hd.symm.trans hpacket
  | forwardRreq _ _ _ _ _ _ _ _ hcopy =>
    obtain ⟨v, -, -, -, hpacket⟩ := mem_rreqCopies.mp hcopy
    cases hd.symm.trans hpacket
  | _ => cases hd

end ProtocolState

end DlDsr
