import DlDsr.Network.LabelPaths

/-!
# What the paths of a DATA packet cost

The benchmark counts 4 bytes for each hop of a DSR route and 1 byte for each hop of a
DL-DSR route (`pathHeaderBytes`). The daemon puts the node path into every DATA packet,
and in DL-DSR mode the label path as well. So where all nodes run DL-DSR, a packet carries
what it would carry where all nodes run DSR, and one more byte for every link of its path
(`pathBytes_of_uniform`).
-/

namespace DlDsr

namespace Network

open ProtocolState

/-! ## Routes without labels, packets in their node's mode -/

/-- What holds of a DATA packet where all nodes run `mode`: in DSR mode it has no labels. -/
def DataOfMode (mode : ProtocolMode) (p : InFlight) : Prop :=
  ∀ d, p.packet = .data d → d.protocolMode = mode ∧ (mode = .dsr → d.dldsrLabelPath = [])

/-- A DSR node holds no labels in its routes. -/
def RoutesOfMode (mode : ProtocolMode) (s : ProtocolState) : Prop :=
  mode = .dsr → ∀ d, ∀ route ∈ s.routes.held d, route.dldsrLabelPath = []

section Call

variable {s : ProtocolState} {mode : ProtocolMode} {clock : Clock}

theorem routeOf_ofMode (hmode : s.config.protocolMode = mode) (clock : Clock) (p : Rrep) :
    mode = .dsr → (s.routeOf clock p).dldsrLabelPath = [] := by
  intro hdsr
  unfold routeOf
  rw [hmode, hdsr]
  rfl

theorem originatesData_ofMode {dst : NodeId} {payload : List UInt8} {route : RouteEntry}
    {o : OutboundPacket} {sender : SocketAddr} {origin : Nat}
    (h : s.OriginatesData dst payload route o) (hmode : s.config.protocolMode = mode)
    (hroute : mode = .dsr → route.dldsrLabelPath = []) :
    DataOfMode mode ⟨o.packet, sender, o.dst, origin⟩ := by
  obtain ⟨d, hd, -, -, -, hdmode, -, -, hlabels, -⟩ := h
  intro d' hd'
  obtain rfl := Packet.data.inj (hd.symm.trans hd')
  refine ⟨hdmode.trans hmode, fun hdsr => ?_⟩
  show d.dldsrLabelPath = []
  rw [hlabels]
  exact hroute hdsr

end Call

variable {D : Deployment} {F : Faults} {net : Network} {mode : ProtocolMode}

theorem modeInvariant (hall : D.AllMode mode) :
    LocalInvariant D (fun _ => RoutesOfMode mode) (DataOfMode mode) where
  new _ _ _ _ hroute := absurd hroute List.not_mem_nil
  reorder := by
    intro n s s' h hs hdsr d route hroute
    rw [hs.held_eq] at hroute
    exact h hdsr d route hroute
  node := by
    intro n s clock input hn hcfg hs _ hdsr d route hroute
    have hmode : s.config.protocolMode = mode := by
      rw [hcfg]
      exact hall n hn
    rcases held_call hroute with hold | ⟨p, sender, -, -, -, -, rfl⟩
    · exact hs hdsr d route hold
    · exact routeOf_ofMode hmode clock p hdsr
  packet := by
    intro n s clock input o origin hn hcfg hs hinput h
    have hmode : s.config.protocolMode = mode := by
      rw [hcfg]
      exact hall n hn
    intro d hd
    rcases h.of_data hd with ⟨dst, payload, route, rfl, hroute, ho⟩ |
      ⟨p, sender, payload, rfl, -, -, -, ho⟩ | ⟨d₀, sender, rfl, rfl⟩
    · refine originatesData_ofMode ho hmode (fun hdsr => ?_) d hd
      exact hs hdsr dst route (RouteCache.shortest_mem hroute).1
    · exact originatesData_ofMode ho hmode (routeOf_ofMode hmode clock p) d hd
    · obtain ⟨_, hold⟩ := hinput _ _ rfl
      exact hold d₀ rfl

theorem dataOfMode (hall : D.AllMode mode) (h : Reachable D F net) {p : InFlight}
    (hp : p ∈ net.inFlight) : DataOfMode mode p :=
  ((modeInvariant hall).reachable h).2 p hp

/-! ## The comparison -/

variable {D' : Deployment} {F' : Faults} {net' : Network} {p p' : InFlight} {d d' : Data}

/-- **DL-DSR DATA does not carry a smaller source route.** Take any two networks, one whose
nodes all run DL-DSR and one whose nodes all run DSR, and a DATA packet in flight in each,
along the same node path: the first one carries no fewer path bytes. -/
theorem pathBytes_not_lt (hall : D.AllMode .dlDsr) (h : Reachable D F net)
    (hp : p ∈ net.inFlight) (hd : p.packet = .data d) (hall' : D'.AllMode .dsr)
    (h' : Reachable D' F' net') (hp' : p' ∈ net'.inFlight) (hd' : p'.packet = .data d')
    (hpath : d.dsrPath = d'.dsrPath) :
    d.protocolMode = .dlDsr ∧ d'.protocolMode = .dsr ∧ ¬ d.pathBytes < d'.pathBytes := by
  obtain ⟨hmode, -⟩ := dataOfMode hall h hp d hd
  obtain ⟨hmode', hlabels'⟩ := dataOfMode hall' h' hp' d' hd'
  refine ⟨hmode, hmode', ?_⟩
  unfold Data.pathBytes pathHeaderBytes
  rw [hpath, hlabels' rfl]
  dsimp only [List.length_nil]
  omega

/-- The DATA packet that node 0 sends to node 2 on a line. -/
def lineData (mode : ProtocolMode) (labels : List Label) : Data :=
  { srcNodeId := 0, dstNodeId := 2, sequence := 1, protocolMode := mode, routeCursor := 1,
    dsrPath := [0, 1, 2], dldsrLabelPath := labels, payload := [7], createdAtMillis := 10 }

theorem lineData_dlDsr_inFlight :
    (⟨.data (lineData .dlDsr [1, 2]), .localhost 7000, .localhost 7001, 11⟩ : InFlight) ∈
      (after (.line .dlDsr) ⟨true, true, false⟩ labelsOnLine).inFlight := by
  decide +kernel

theorem lineData_dsr_inFlight :
    (⟨.data (lineData .dsr []), .localhost 7000, .localhost 7001, 0⟩ : InFlight) ∈
      (after (.line .dsr) ⟨true, true, false⟩ discoveryOnLine).inFlight := by
  decide +kernel

/-- The two packets of the line. -/
theorem pathBytes_not_lt_line :
    ¬ (lineData .dlDsr [1, 2]).pathBytes < (lineData .dsr []).pathBytes :=
  (pathBytes_not_lt (Deployment.line_uniform .dlDsr).allMode (reachable_after _ _ _)
    lineData_dlDsr_inFlight rfl (Deployment.line_uniform .dsr).allMode (reachable_after _ _ _)
    lineData_dsr_inFlight rfl rfl).2.2

/-- On a line, DL-DSR DATA carries 14 path bytes, and DSR DATA with the same payload 12. -/
theorem dlDsr_route_larger :
    ¬ ∀ (D D' : Deployment) (F F' : Faults) (net net' : Network) (p p' : InFlight) (d d' : Data),
      D.Uniform .dlDsr → D'.Uniform .dsr → Reachable D F net → Reachable D' F' net' →
      p ∈ net.inFlight → p.packet = .data d → p' ∈ net'.inFlight → p'.packet = .data d' →
      d.dsrPath = d'.dsrPath → d.payload = d'.payload → d.pathBytes < d'.pathBytes := by
  intro h
  have hlt := h _ _ _ _ _ _ _ _ _ _ (Deployment.line_uniform .dlDsr)
    (Deployment.line_uniform .dsr) (reachable_after _ _ _) (reachable_after _ _ _)
    lineData_dlDsr_inFlight rfl lineData_dsr_inFlight rfl rfl rfl
  exact absurd hlt (by decide)

/-- Where nodes do not restart, the difference is one byte for every link of the path. -/
theorem pathBytes_of_uniform (hU : D.Uniform .dlDsr) (hF : F.restarts = false)
    (h : Reachable D F net) (hp : p ∈ net.inFlight) (hd : p.packet = .data d)
    (hall' : D'.AllMode .dsr) (h' : Reachable D' F' net') (hp' : p' ∈ net'.inFlight)
    (hd' : p'.packet = .data d') (hpath : d.dsrPath = d'.dsrPath) :
    d.pathBytes = d'.pathBytes + (d.dsrPath.length - 1) := by
  obtain ⟨-, hlabels'⟩ := dataOfMode hall' h' hp' d' hd'
  have hlabels := packetLabels hU.placed hU.noSelf hU.allMode hF h hp
  rw [PacketLabels, hd] at hlabels
  have hlength := hlabels.length
  unfold Data.pathBytes pathHeaderBytes
  rw [← hpath, hlabels' rfl]
  dsimp only [List.length_nil]
  omega

end Network

end DlDsr
