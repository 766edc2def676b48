import DlDsr.Network.Transmissions
import DlDsr.Node.Accounting
import DlDsr.Node.Submissions

/-!
# What a sequence number identifies

A node numbers the payloads that it hands to `origin_data` (`handsOver_sequences`), and a
packet keeps its number. So as long as no node restarts, the source and the sequence number
of a DATA packet determine all of it but the cursor, whatever the topology and whatever the
transport does; and if the transport duplicates nothing, no two deliveries have the same
source and number, and none of a packet that is still in flight (`sequence_identifies`).
-/

namespace DlDsr

/-- The source and the sequence number. -/
def Data.key (d : Data) : NodeId × Nat := (d.srcNodeId, d.sequence)

/-- The packet as its source has looked the first hop up with. -/
def Data.original (d : Data) : Data := { d with routeCursor := 0 }

/-- The source and the sequence number of what an event reports as delivered. -/
def ProtocolEvent.deliveredKey : ProtocolEvent → Option (NodeId × Nat)
  | .dataDelivered _ srcNodeId _ sequence _ => some (srcNodeId, sequence)
  | _ => none

/-! ## One call -/

namespace ProtocolState

variable {s : ProtocolState} {clock : Clock}

/-- What a call hands over is numbered on from the counter, and the counter moves on. -/
theorem handsOver_sequences (s : ProtocolState) (clock : Clock) (input : Input) :
    (s.handsOver clock input).map Data.sequence =
        List.range' s.nextSequence (s.handsOver clock input).length ∧
      (s.call clock input).1.nextSequence =
        s.nextSequence + (s.handsOver clock input).length := by
  cases input with
  | command c =>
    obtain ⟨dst, payload⟩ := c
    cases hroute : s.routes.shortest dst (clock 0) with
    | some route =>
      rw [handsOver_of_route hroute, call_of_route hroute]
      obtain ⟨m, hm⟩ := originData_state s (clock.later 1) dst payload route
      rw [hm]
      exact ⟨rfl, rfl⟩
    | none =>
      have hnone : s.handsOver clock (.command (.discoverAndSend dst payload)) = [] := by
        simp only [handsOver, hroute]
      rw [hnone]
      refine ⟨rfl, ?_⟩
      show (s.discoverAndSend clock dst payload).1.nextSequence = _
      simp only [discoverAndSend, hroute]
      split <;> rfl
  | tick now => exact ⟨rfl, call_tick_nextSequence s clock now⟩
  | hello => exact ⟨rfl, rfl⟩
  | packet packet sender =>
    by_cases haccept : ∃ p, packet = .rrep p ∧ s.validateRrep sender p.tracePath = .ok () ∧
        s.config.nodeId = p.srcNodeId
    · obtain ⟨p, rfl, hok, hsrc⟩ := haccept
      have hhanded : s.handsOver clock (.packet (.rrep p) sender) =
          s.handOver (clock.later 1) p.dstNodeId (s.routeOf clock p) s.pendingData :=
        if_pos ⟨hok, hsrc⟩
      rw [hhanded, length_handOver, call_of_accepted hok hsrc]
      exact ⟨handOver_sequences .., nextSequence_acceptRrep s clock p⟩
    · have hnone : s.handsOver clock (.packet packet sender) = [] := by
        cases packet with
        | rrep p => exact if_neg fun h => haccept ⟨p, rfl, h.1, h.2⟩
        | _ => rfl
      rw [hnone]
      refine ⟨rfl, (handlePacket_same clock ?_).2.2⟩
      rintro p rfl ⟨hok, hsrc⟩
      exact haccept ⟨p, rfl, hok, hsrc⟩

/-- What a call hands over is the node's own and has not left yet. -/
theorem handsOver_header {input : Input} {d : Data} (h : d ∈ s.handsOver clock input) :
    d.srcNodeId = s.config.nodeId ∧ d.routeCursor = 0 := by
  unfold handsOver at h
  split at h
  · split at h
    · rw [List.mem_singleton.mp h]
      exact ⟨rfl, rfl⟩
    · cases h
  · split at h
    · obtain ⟨hsrc, -, -, hcursor, -⟩ := handOver_header h
      exact ⟨hsrc, hcursor⟩
    · cases h
  · cases h

/-- The DATA that a call sends without having received any. -/
theorem dataOf_originated {input : Input}
    (hforward : ∀ d sender, input ≠ .packet (.data d) sender) :
    dataOf ((s.call clock input).2.outbound.map OutboundPacket.packet) =
      (s.handsOver clock input).filterMap fun d =>
        (s.nextDataEndpoint (.data d)).map fun _ => { d with routeCursor := 1 } := by
  have hdata : ∀ outbound : List OutboundPacket,
      dataOf (outbound.map OutboundPacket.packet) =
        dataOf ((outbound.filter isData).map OutboundPacket.packet) := by
    intro outbound
    induction outbound with
    | nil => rfl
    | cons o outbound ih =>
      obtain ⟨packet, dst⟩ := o
      cases packet with
      | data d => exact congrArg (d :: ·) ih
      | _ => exact ih
  rw [hdata, call_originates hforward]
  unfold dataOf
  rw [List.map_filterMap, List.filterMap_filterMap]
  refine List.filterMap_congr fun d _ => ?_
  cases s.nextDataEndpoint (.data d) <;> rfl

/-- The DATA that a call sends is what it hands over or has received. -/
theorem original_of_sent {input : Input} {d : Data}
    (h : d ∈ dataOf ((s.call clock input).2.outbound.map OutboundPacket.packet)) :
    d.original ∈ s.handsOver clock input ∨ ∃ d₀ ∈ input.data, d.original = d₀.original := by
  by_cases hforward : ∃ d₀ sender, input = .packet (.data d₀) sender
  · obtain ⟨d₀, sender, rfl⟩ := hforward
    obtain ⟨o, ho, hpacket⟩ := List.mem_map.mp (mem_dataOf.mp h)
    rcases (emits_of_mem ho).of_data hpacket with ⟨_, _, _, hinput, -⟩ | ⟨_, _, _, hinput, -⟩ |
      ⟨d₁, sender', hinput, rfl⟩
    · cases hinput
    · cases hinput
    · cases hinput
      exact .inr ⟨d₀, List.mem_singleton.mpr rfl, rfl⟩
  · rw [dataOf_originated fun d₀ sender hinput => hforward ⟨d₀, sender, hinput⟩] at h
    obtain ⟨e, he, hsent⟩ := List.mem_filterMap.mp h
    obtain ⟨_, -, rfl⟩ := Option.map_eq_some_iff.mp hsent
    refine .inl ?_
    obtain ⟨-, hcursor⟩ := handsOver_header he
    have heq : ({ e with routeCursor := 1 } : Data).original = e := by
      unfold Data.original
      rw [← hcursor]
    rwa [heq]

theorem keys_filterMap_sublist {f : Data → Option Data}
    (hf : ∀ d d', f d = some d' → d'.key = d.key) (data : List Data) :
    ((data.filterMap f).map Data.key).Sublist (data.map Data.key) := by
  induction data with
  | nil => exact .slnil
  | cons d data ih =>
    cases hd : f d with
    | none =>
      rw [List.filterMap_cons_none hd]
      exact ih.cons d.key
    | some d' =>
      rw [List.filterMap_cons_some hd, List.map_cons, hf d d' hd]
      exact ih.cons_cons d.key

/-- A call sends or delivers a packet once for every time it has received it or hands it
over. -/
theorem call_keys (s : ProtocolState) (clock : Clock) (input : Input) (k : NodeId × Nat) :
    ((dataOf ((s.call clock input).2.outbound.map OutboundPacket.packet)).map Data.key).count k +
        ((s.call clock input).2.events.filterMap ProtocolEvent.deliveredKey).count k ≤
      (input.data.map Data.key).count k + ((s.handsOver clock input).map Data.key).count k := by
  by_cases hforward : ∃ d sender, input = .packet (.data d) sender
  · obtain ⟨d, sender, rfl⟩ := hforward
    have hout := handleData_outcome s clock sender d
    show ((dataOf ((s.handleData clock sender d).2.outbound.map _)).map _).count k +
      ((s.handleData clock sender d).2.events.filterMap _).count k ≤ [d.key].count k + 0
    generalize s.handleData clock sender d = r at hout ⊢
    cases hout with
    | dropped reason => exact Nat.zero_le _
    | delivered hdst => exact (Nat.zero_add _).le
    | sentOn endpoint => exact Nat.le_refl _
    | vanished => exact Nat.zero_le _
  · have hno : ∀ d sender, input ≠ .packet (.data d) sender := fun d sender hinput =>
      hforward ⟨d, sender, hinput⟩
    have hevents : (s.call clock input).2.events.filterMap ProtocolEvent.deliveredKey = [] := by
      refine List.filterMap_eq_nil_iff.mpr fun e he => ?_
      cases announces_of_mem he with
      | dataDelivered d sender => exact absurd rfl (hno d sender)
      | _ => rfl
    rw [hevents, dataOf_originated hno]
    have hsub : List.Sublist _ ((s.handsOver clock input).map Data.key) :=
      keys_filterMap_sublist (f := fun d =>
        (s.nextDataEndpoint (.data d)).map fun _ => { d with routeCursor := 1 })
        (fun d d' hd => by
          obtain ⟨_, -, rfl⟩ := Option.map_eq_some_iff.mp hd
          rfl) _
    exact (hsub.count_le k).trans (Nat.le_add_left _ _)

end ProtocolState

namespace Network

open ProtocolState

variable {D : Deployment} {F : Faults} {net net' : Network}

/-- The packets handed to `origin_data` so far. -/
def issued (net : Network) : List Data :=
  (callsOf net.history).flatMap fun c => c.before.handsOver c.clock c.input

/-- The events emitted so far. -/
def announced (net : Network) : List ProtocolEvent :=
  (callsOf net.history).flatMap fun c => c.actions.events

/-! ## Numbers are not used twice -/

/-- The numbers given so far lie below the counters, and none was given twice. -/
structure Numbered (net : Network) : Prop where
  below : ∀ d ∈ net.issued, d.sequence < (net.node d.srcNodeId).nextSequence
  nodup : (net.issued.map Data.key).Nodup

/-- The numbers of what a call hands over. -/
theorem handsOver_bounds {s : ProtocolState} {clock : Clock} {input : Input} {d : Data}
    (hd : d ∈ s.handsOver clock input) :
    s.nextSequence ≤ d.sequence ∧ d.sequence < (s.call clock input).1.nextSequence := by
  obtain ⟨hsequences, hnext⟩ := handsOver_sequences s clock input
  have hmem := List.mem_map_of_mem (f := Data.sequence) hd
  rw [hsequences, List.mem_range'_1] at hmem
  rwa [hnext]

theorem numbered (hF : F.restarts = false) (h : Reachable D F net) : Numbered net := by
  refine reachable_induction Numbered ⟨nofun, List.nodup_nil⟩ ?_ h
  intro net net' hreach ih hs
  cases hs with
  | @call n clock input origin rest hn hserved =>
    have hid : (net.node n).config.nodeId = n := nodeId_eq (node_config hreach n)
    have hsrc : ∀ d ∈ (net.node n).handsOver clock input, d.srcNodeId = n := fun d hd =>
      (handsOver_header hd).1.trans hid
    have hgrows := (handsOver_sequences (net.node n) clock input).2
    refine ⟨fun d hd => ?_, ?_⟩
    · rcases List.mem_append.mp hd with hnew | hold
      · rw [hsrc d hnew, call_node_self]
        exact (handsOver_bounds hnew).2
      · have hbelow := ih.below d hold
        by_cases hdn : d.srcNodeId = n
        · rw [hdn] at hbelow ⊢
          rw [call_node_self]
          show d.sequence < ((net.node n).call clock input).1.nextSequence
          omega
        · rw [call_node_other hdn]
          exact hbelow
    · show (((net.node n).handsOver clock input ++ net.issued).map Data.key).Nodup
      rw [List.map_append, List.nodup_append']
      refine ⟨?_, ih.nodup, ?_⟩
      · refine List.Nodup.of_map Prod.snd ?_
        rw [List.map_map]
        show ((((net.node n).handsOver clock input)).map Data.sequence).Nodup
        rw [(handsOver_sequences _ clock input).1]
        exact List.nodup_range'
      · intro k hnew hold
        obtain ⟨d, hd, rfl⟩ := List.mem_map.mp hnew
        obtain ⟨e, he, hkey⟩ := List.mem_map.mp hold
        have hbelow := ih.below e he
        have hkeys : e.srcNodeId = d.srcNodeId ∧ e.sequence = d.sequence := Prod.mk.inj hkey
        rw [hkeys.1, hkeys.2, hsrc d hd] at hbelow
        have hge := (handsOver_bounds hd).1
        omega
  | lose => exact ⟨ih.below, ih.nodup⟩
  | duplicate => exact ⟨ih.below, ih.nodup⟩
  | restart hF' => simp [hF] at hF'
  | @reorder n s' hr =>
    refine ⟨fun d hd => ?_, ih.nodup⟩
    show d.sequence < (Function.update net.node n s' d.srcNodeId).nextSequence
    rw [update_node_eq nextSequence hr.nextSequence]
    exact ih.below d hd

/-! ## Packets keep what they were handed over with -/

/-- Every packet sent, in flight or reported as delivered was handed over. -/
structure Traced (net : Network) : Prop where
  sent : ∀ d ∈ net.transmitted, d.original ∈ net.issued
  travelling : ∀ d ∈ net.travelling, d.original ∈ net.issued
  delivered : ∀ e ∈ net.announced, ∀ k, e.deliveredKey = some k → ∃ d ∈ net.issued,
    d.key = k ∧ e = .dataDelivered d.dstNodeId d.srcNodeId d.dstNodeId d.sequence d.payload

theorem traced (h : Reachable D F net) : Traced net := by
  refine reachable_induction Traced ⟨nofun, nofun, nofun⟩ ?_ h
  intro net net' hreach ih hs
  cases hs with
  | @call n clock input origin rest hn hserved =>
    have hperm := hserved.travelling_perm
    have hold : ∀ d ∈ input.data, d.original ∈ net.issued := fun d hd =>
      ih.travelling d (hperm.mem_iff.mpr (List.mem_append_left _ hd))
    have hsent : ∀ d ∈ dataOf (((net.node n).call clock input).2.outbound.map
        OutboundPacket.packet), d.original ∈ (net.node n).handsOver clock input ++ net.issued := by
      intro d hd
      rcases original_of_sent hd with hnew | ⟨d₀, hd₀, heq⟩
      · exact List.mem_append_left _ hnew
      · rw [heq]
        exact List.mem_append_right _ (hold d₀ hd₀)
    refine ⟨fun d hd => ?_, fun d hd => ?_, fun e he k hk => ?_⟩
    · rcases List.mem_append.mp hd with hnew | hd
      · exact hsent d hnew
      · exact List.mem_append_right _ (ih.sent d hd)
    · rw [travelling_call] at hd
      rcases List.mem_append.mp hd with hrest | hnew
      · exact List.mem_append_right _
          (ih.travelling d (hperm.mem_iff.mpr (List.mem_append_right _ hrest)))
      · exact hsent d hnew
    · rcases List.mem_append.mp he with hnew | he
      · -- Only a DATA packet for the node makes it report a delivery.
        cases announces_of_mem hnew with
        | dataDelivered d sender hdst =>
          cases hk
          refine ⟨d.original, List.mem_append_right _ (hold d (List.mem_singleton.mpr rfl)), rfl, ?_⟩
          rw [← hdst]
          rfl
        | _ => cases hk
      · obtain ⟨d, hd, heq⟩ := ih.delivered e he k hk
        exact ⟨d, List.mem_append_right _ hd, heq⟩
  | lose _ hperm =>
    refine ⟨ih.sent, fun d hd => ih.travelling d ?_, ih.delivered⟩
    exact ((hperm.map InFlight.packet).filterMap _).mem_iff.mpr
      (mem_dataOf.mpr (List.mem_cons_of_mem _ (mem_dataOf.mp hd)))
  | @duplicate p hF hp =>
    refine ⟨ih.sent, fun d hd => ih.travelling d ?_, ih.delivered⟩
    rcases List.mem_cons.mp (mem_dataOf.mp hd) with heq | hd
    · refine mem_dataOf.mpr ?_
      rw [heq]
      exact List.mem_map_of_mem hp
    · exact mem_dataOf.mpr hd
  | restart => exact ⟨ih.sent, ih.travelling, ih.delivered⟩
  | reorder => exact ⟨ih.sent, ih.travelling, ih.delivered⟩

/-- A packet is in flight or delivered as often as it was handed over, or less often. -/
theorem count_keys_le (hdup : F.duplication = false) (h : Reachable D F net)
    (k : NodeId × Nat) :
    (net.travelling.map Data.key).count k +
        (net.announced.filterMap ProtocolEvent.deliveredKey).count k ≤
      (net.issued.map Data.key).count k := by
  refine reachable_induction (fun net => (net.travelling.map Data.key).count k +
    (net.announced.filterMap ProtocolEvent.deliveredKey).count k ≤
      (net.issued.map Data.key).count k) (Nat.le_refl 0) ?_ h
  intro net net' hreach ih hs
  cases hs with
  | @call n clock input origin rest hn hserved =>
    have hkeys := call_keys (net.node n) clock input k
    have htravelling := (hserved.travelling_perm.map Data.key).count_eq k
    rw [List.map_append, List.count_append] at htravelling
    rw [travelling_call, List.map_append, List.count_append]
    show _ + (List.filterMap _ (((net.node n).call clock input).2.events ++ net.announced)).count k ≤
      (((net.node n).handsOver clock input ++ net.issued).map Data.key).count k
    rw [List.filterMap_append, List.count_append, List.map_append, List.count_append]
    omega
  | @lose p rest _ hperm =>
    have hfewer : ((dataOf (rest.map InFlight.packet)).map Data.key).Sublist
        ((dataOf ((p :: rest).map InFlight.packet)).map Data.key) :=
      (((List.sublist_cons_self p rest).map InFlight.packet).filterMap _).map Data.key
    have htravelling : (net.travelling.map Data.key).count k = _ :=
      (((hperm.map InFlight.packet).filterMap _).map Data.key).count_eq k
    have hle := hfewer.count_le k
    rw [htravelling] at ih
    exact (Nat.add_le_add_right hle _).trans ih
  | duplicate hF => simp [hdup] at hF
  | restart => exact ih
  | reorder => exact ih

/-- Two packets handed over under the same key are the same. -/
theorem Numbered.eq_of_key (h : Numbered net) {d d' : Data} (hd : d ∈ net.issued)
    (hd' : d' ∈ net.issued) (hkey : d.key = d'.key) : d = d' :=
  List.inj_on_of_nodup_map h.nodup hd hd' hkey

/-- What the source and the sequence number of DATA identify. -/
structure Identified (F : Faults) (net : Network) : Prop where
  packets : ∀ d ∈ net.transmitted, ∀ d' ∈ net.transmitted, d.key = d'.key →
    d' = { d with routeCursor := d'.routeCursor }
  deliveries : ∀ e ∈ net.announced, ∀ e' ∈ net.announced, ∀ k,
    e.deliveredKey = some k → e'.deliveredKey = some k → e = e'
  once : F.duplication = false → (net.travelling.map Data.key ++
    net.announced.filterMap ProtocolEvent.deliveredKey).Nodup

/-- **A sequence number identifies a payload.** In a network whose nodes do not restart:
any two DATA packets ever sent with the same source and sequence number differ in their
cursors at most; any two deliveries reported with the same source and number are of the same
payload, at the same node; and if the transport duplicates nothing, nothing is delivered
twice, nor delivered while it is still in flight. -/
theorem sequence_identifies (hF : F.restarts = false) (h : Reachable D F net) :
    Identified F net where
  packets := by
    intro d hd d' hd' hkey
    have heq : d.original = d'.original :=
      (numbered hF h).eq_of_key ((traced h).sent d hd) ((traced h).sent d' hd') hkey
    calc d' = { d'.original with routeCursor := d'.routeCursor } := rfl
      _ = { d.original with routeCursor := d'.routeCursor } := by rw [heq]
  deliveries := by
    intro e he e' he' k hk hk'
    obtain ⟨d, hd, hkey, heq⟩ := (traced h).delivered e he k hk
    obtain ⟨d', hd', hkey', heq'⟩ := (traced h).delivered e' he' k hk'
    rw [heq, heq', (numbered hF h).eq_of_key hd hd' (hkey.trans hkey'.symm)]
  once := by
    intro hdup
    rw [List.nodup_iff_count_le_one]
    intro k
    rw [List.count_append]
    exact (count_keys_le hdup h k).trans (List.nodup_iff_count_le_one.mp (numbered hF h).nodup k)

/-- On a line of three nodes, with a transport that loses packets. -/
theorem sequence_identifies_line :
    Identified ⟨true, false, false⟩
      (after (.line .dsr) ⟨true, false, false⟩ deliveryOnLine) :=
  sequence_identifies rfl (reachable_after _ _ _)

end Network

end DlDsr
