import DlDsr.Node.Rejections
import Mathlib.Algebra.Ring.Nat

/-!
# The daemon around the protocol (`dldsr-node/src/daemon.rs`, `udp_transport.rs`)

`Daemon` is the protocol state together with the counters of the transport, which the
source keeps in the same `NodeMetrics`. A wakeup of its event loop decodes what has
arrived, makes at most one call into the protocol, and hands what the call sends to the
socket (`wake`).

The wire format is `bincode`'s and the format of control messages `serde_json`'s; both are
parameters (`Codec`), of which only the round trip of packets is used. A send can fail, at
the encoder or at the socket. A packet that could not be sent is counted as dropped, and
only one that was sent is counted as sent, with the length of its encoding.
-/

namespace DlDsr

/-- The formats of packets and of control messages. -/
structure Codec where
  /-- `Packet::encode` -/
  encode : Packet → Option (List UInt8)
  /-- `Packet::decode` -/
  decode : List UInt8 → Option Packet
  /-- `serde_json::from_slice::<ControlSendRequest>`: `dst` and `payload`, or the text of
  the error -/
  parseControl : List UInt8 → Except String (NodeId × String)
  decode_encode : ∀ packet bytes, encode packet = some bytes → decode bytes = some packet

/-- A datagram on its way. -/
structure Datagram where
  bytes : List UInt8
  sender : SocketAddr
  dst : SocketAddr
deriving DecidableEq

/-- The counters of `NodeMetrics` that belong to the transport. -/
structure TransportMetrics where
  txPackets : Nat := 0
  rxPackets : Nat := 0
  txBytes : Nat := 0
  rxBytes : Nat := 0
  controlBytes : Nat := 0
  dataBytes : Nat := 0
deriving DecidableEq

namespace TransportMetrics

/-- `NodeMetrics::record_tx`. -/
def recordTx (self : TransportMetrics) (bytes : Nat) (control : Bool) : TransportMetrics :=
  let counted := { self with
    txPackets := self.txPackets + 1
    txBytes := self.txBytes + bytes }
  if control then { counted with controlBytes := self.controlBytes + bytes }
  else { counted with dataBytes := self.dataBytes + bytes }

/-- `NodeMetrics::record_rx`. -/
def recordRx (self : TransportMetrics) (bytes : Nat) : TransportMetrics :=
  { self with
    rxPackets := self.rxPackets + 1
    rxBytes := self.rxBytes + bytes }

end TransportMetrics

/-- `is_control_packet`. -/
def isControlPacket : Packet → Bool
  | .hello _ => true
  | .helloReply _ => true
  | .rreq _ => true
  | .rrep _ => true
  | _ => false

/-- `Daemon`, with the transport's counters beside the protocol state. -/
structure Daemon where
  state : ProtocolState
  transport : TransportMetrics := {}
deriving DecidableEq

/-- What makes the event loop call the protocol, or try to. The two remaining branches of
the `select!` only log and write the metrics. -/
inductive Wakeup where
  | helloTick
  | protocolTick (now : Nat)
  | control (bytes : List UInt8) (sender : SocketAddr)
  | received (bytes : List UInt8) (sender : SocketAddr)
  | command (command : ProtocolCommand)
deriving DecidableEq

/-- The wakeup does not come from the network of the nodes. -/
def Wakeup.isLocal : Wakeup → Bool
  | .received .. => false
  | _ => true

/-- The call that a wakeup makes, if what has arrived can be decoded. -/
def Wakeup.input (codec : Codec) : Wakeup → Option Input
  | .helloTick => some .hello
  | .protocolTick now => some (.tick now)
  | .control bytes _ =>
    match codec.parseControl bytes with
    | .ok (dst, payload) => some (.command (.discoverAndSend dst payload.toUTF8.data.toList))
    | .error _ => none
  | .received bytes sender => (codec.decode bytes).map fun packet => .packet packet sender
  | .command c => some (.command c)

/-- The answer to a control message. -/
def Wakeup.reply (codec : Codec) : Wakeup → Option (String × SocketAddr)
  | .control bytes sender =>
    match codec.parseControl bytes with
    | .ok _ => some ("\x7b\"status\":\"accepted\"\x7d", sender)
    | .error reason => some ("\x7b\"status\":\"error\",\"reason\":\"" ++ reason ++ "\"\x7d", sender)
  | _ => none

/-- What a wakeup hands to the outside. -/
structure Handed where
  datagrams : List Datagram := []
  events : List ProtocolEvent := []
  reply : Option (String × SocketAddr) := none
deriving DecidableEq

namespace Daemon

/-- `Daemon::new`. -/
def new (config : NodeConfig) : Daemon := { state := .new config }

/-- `UdpTransport::send`: the bytes of the datagram, if the packet can be encoded and the
socket accepts it. -/
def transportSend (codec : Codec) (accepted : Bool) (packet : Packet) : Option (List UInt8) :=
  (codec.encode packet).bind fun bytes => if accepted then some bytes else none

/-- `ProtocolState::record_tx`. -/
def recordTx (self : Daemon) (codec : Codec) (packet : Packet) : Daemon :=
  match codec.encode packet with
  | some bytes =>
    { self with transport := self.transport.recordTx bytes.length (isControlPacket packet) }
  | none => self

/-- A packet that could not be sent. -/
def sendFailed (self : Daemon) : Daemon :=
  { self with state := { self.state with metrics := { self.state.metrics with
      droppedPackets := self.state.metrics.droppedPackets + 1 } } }

/-- The loop of `apply_actions` over the outbound packets; `accepts i` says whether the
socket accepts the `i`-th of them. -/
def applyOutbound (self : Daemon) (codec : Codec) (accepts : Nat → Bool) :
    List OutboundPacket → Daemon × List Datagram
  | [] => (self, [])
  | o :: outbound =>
    match transportSend codec (accepts 0) o.packet with
    | some bytes =>
      let rest := (self.recordTx codec o.packet).applyOutbound codec (fun i => accepts (i + 1))
        outbound
      (rest.1, ⟨bytes, self.state.config.bindAddr, o.dst⟩ :: rest.2)
    | none => self.sendFailed.applyOutbound codec (fun i => accepts (i + 1)) outbound

/-- The daemon with a datagram that could be decoded counted as received. -/
def countReceived (self : Daemon) : Wakeup → Daemon
  | .received bytes _ => { self with transport := self.transport.recordRx bytes.length }
  | _ => self

/-- A turn of the event loop that calls the protocol, or fails to decode what it is to
call it with. -/
def wake (self : Daemon) (codec : Codec) (clock : Clock) (accepts : Nat → Bool)
    (wakeup : Wakeup) : Daemon × Handed :=
  match wakeup.input codec with
  | none => (self, { reply := wakeup.reply codec })
  | some input =>
    let result := self.state.call clock input
    let sent := { self.countReceived wakeup with state := result.1 }.applyOutbound codec accepts
      result.2.outbound
    (sent.1,
     { datagrams := sent.2, events := result.2.events, reply := wakeup.reply codec })

/-! ## What a turn does -/

section Applied

variable {codec : Codec} {d : Daemon} {accepts : Nat → Bool} {outbound : List OutboundPacket}

/-- The datagram carries the packet. -/
structure Carries (codec : Codec) (bindAddr : SocketAddr) (o : OutboundPacket) (g : Datagram) :
    Prop where
  encoded : codec.encode o.packet = some g.bytes
  sender : g.sender = bindAddr
  dst : g.dst = o.dst

/-- The bytes of some datagrams. -/
def totalBytes (datagrams : List Datagram) : Nat := (datagrams.map fun g => g.bytes.length).sum

/-- The bytes of the datagrams that carry control packets, or of the others. -/
def bytesOf (codec : Codec) (control : Bool) (datagrams : List Datagram) : Nat :=
  totalBytes (datagrams.filter fun g =>
    ((codec.decode g.bytes).map isControlPacket).getD false == control)

/-- What `apply_actions` does: the packets that are sent are some of the outbound ones, in
their order, and counted with their bytes; all others are counted as dropped. -/
structure Applied (codec : Codec) (d : Daemon) (outbound : List OutboundPacket)
    (r : Daemon × List Datagram) : Prop where
  sent : ∃ sent : List OutboundPacket, sent.Sublist outbound ∧
    List.Forall₂ (Carries codec d.state.config.bindAddr) sent r.2
  state : r.1.state = { d.state with metrics := { d.state.metrics with
    droppedPackets := d.state.metrics.droppedPackets + (outbound.length - r.2.length) } }
  counted : r.1.transport = { d.transport with
    txPackets := d.transport.txPackets + r.2.length
    txBytes := d.transport.txBytes + totalBytes r.2
    controlBytes := d.transport.controlBytes + bytesOf codec true r.2
    dataBytes := d.transport.dataBytes + bytesOf codec false r.2 }

theorem transportSend_eq_some {accepted : Bool} {packet : Packet} {bytes : List UInt8}
    (h : transportSend codec accepted packet = some bytes) :
    codec.encode packet = some bytes ∧ accepted = true := by
  obtain ⟨bytes', hbytes, haccepted⟩ := Option.bind_eq_some_iff.mp h
  split at haccepted
  · next hok =>
    cases haccepted
    exact ⟨hbytes, hok⟩
  · cases haccepted

theorem bytesOf_cons {control : Bool} {packet : Packet} {g : Datagram} {gs : List Datagram}
    (h : codec.encode packet = some g.bytes) :
    bytesOf codec control (g :: gs) =
      (if isControlPacket packet = control then g.bytes.length else 0) +
        bytesOf codec control gs := by
  have hkind : ((codec.decode g.bytes).map isControlPacket).getD false = isControlPacket packet := by
    rw [codec.decode_encode _ _ h]
    rfl
  unfold bytesOf totalBytes
  rw [List.filter_cons, hkind]
  by_cases hcontrol : isControlPacket packet = control
  · rw [if_pos hcontrol, if_pos (beq_iff_eq.mpr hcontrol)]
    rfl
  · rw [if_neg hcontrol, if_neg (by simpa using hcontrol), Nat.zero_add]

theorem applyOutbound_applied (d : Daemon) (codec : Codec) (accepts : Nat → Bool)
    (outbound : List OutboundPacket) :
    Applied codec d outbound (d.applyOutbound codec accepts outbound) := by
  induction outbound generalizing d accepts with
  | nil => exact ⟨⟨[], .slnil, .nil⟩, rfl, rfl⟩
  | cons o outbound ih =>
    unfold applyOutbound
    split
    · next bytes hsend =>
      obtain ⟨hbytes, -⟩ := transportSend_eq_some hsend
      have hrecorded : d.recordTx codec o.packet =
          { d with
            transport := d.transport.recordTx bytes.length (isControlPacket o.packet) } := by
        unfold recordTx
        rw [hbytes]
      obtain ⟨⟨sent, hsub, hcarries⟩, hstate, hcounted⟩ :=
        ih (d.recordTx codec o.packet) (fun i => accepts (i + 1))
      rw [hrecorded] at hcarries hstate hcounted ⊢
      refine ⟨⟨o :: sent, hsub.cons_cons o, .cons ⟨hbytes, rfl, rfl⟩ hcarries⟩, ?_, ?_⟩
      · rw [hstate, List.length_cons, List.length_cons, Nat.add_sub_add_right]
      · rw [hcounted, bytesOf_cons hbytes, bytesOf_cons hbytes]
        cases isControlPacket o.packet <;>
          simp [TransportMetrics.recordTx, totalBytes, Nat.add_assoc, Nat.add_comm 1]
    · next hfail =>
      obtain ⟨⟨sent, hsub, hcarries⟩, hstate, hcounted⟩ := ih d.sendFailed (fun i => accepts (i + 1))
      refine ⟨⟨sent, hsub.cons o, hcarries⟩, ?_, hcounted⟩
      have hle := hcarries.length_eq.symm.trans_le hsub.length_le
      have hcount : d.state.metrics.droppedPackets + 1 + (outbound.length -
          (d.sendFailed.applyOutbound codec (fun i => accepts (i + 1)) outbound).2.length) =
          d.state.metrics.droppedPackets + ((o :: outbound).length -
            (d.sendFailed.applyOutbound codec (fun i => accepts (i + 1)) outbound).2.length) := by
        rw [List.length_cons]
        omega
      rw [hstate, ← hcount]
      rfl

/-- A wakeup that makes no call does nothing, but for the answer to a control message. -/
theorem wake_of_none {clock : Clock} {wakeup : Wakeup} (h : wakeup.input codec = none) :
    d.wake codec clock accepts wakeup = (d, { reply := wakeup.reply codec }) := by
  unfold wake
  rw [h]

/-- What a wakeup that makes a call does. -/
structure Wakes (codec : Codec) (d : Daemon) (clock : Clock) (wakeup : Wakeup) (input : Input)
    (r : Daemon × Handed) : Prop where
  sent : ∃ sent : List OutboundPacket,
    sent.Sublist (d.state.call clock input).2.outbound ∧
      List.Forall₂ (Carries codec d.state.config.bindAddr) sent r.2.datagrams
  state : r.1.state = { (d.state.call clock input).1 with
    metrics := { (d.state.call clock input).1.metrics with
      droppedPackets := (d.state.call clock input).1.metrics.droppedPackets +
        ((d.state.call clock input).2.outbound.length - r.2.datagrams.length) } }
  counted : r.1.transport = { (d.countReceived wakeup).transport with
    txPackets := d.transport.txPackets + r.2.datagrams.length
    txBytes := d.transport.txBytes + totalBytes r.2.datagrams
    controlBytes := d.transport.controlBytes + bytesOf codec true r.2.datagrams
    dataBytes := d.transport.dataBytes + bytesOf codec false r.2.datagrams }
  events : r.2.events = (d.state.call clock input).2.events

theorem wake_wakes (d : Daemon) (clock : Clock) (accepts : Nat → Bool) {wakeup : Wakeup}
    {input : Input} (h : wakeup.input codec = some input) :
    Wakes codec d clock wakeup input (d.wake codec clock accepts wakeup) := by
  have happlied := applyOutbound_applied
    { d.countReceived wakeup with state := (d.state.call clock input).1 } codec accepts
    (d.state.call clock input).2.outbound
  have htx : (d.countReceived wakeup).transport.txPackets = d.transport.txPackets ∧
      (d.countReceived wakeup).transport.txBytes = d.transport.txBytes ∧
      (d.countReceived wakeup).transport.controlBytes = d.transport.controlBytes ∧
      (d.countReceived wakeup).transport.dataBytes = d.transport.dataBytes := by
    cases wakeup <;> exact ⟨rfl, rfl, rfl, rfl⟩
  unfold wake
  rw [h]
  refine ⟨?_, happlied.state, ?_, rfl⟩
  · have hsent := happlied.sent
    rw [show (d.state.call clock input).1.config = d.state.config from
      ProtocolState.call_config input] at hsent
    exact hsent
  · rw [← htx.1, ← htx.2.1, ← htx.2.2.1, ← htx.2.2.2]
    exact happlied.counted

end Applied

end Daemon

end DlDsr
