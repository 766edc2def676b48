import DlDsr.Node.Requests
import Mathlib.Data.List.Basic

/-!
# Taking a request up

A node takes a request up by starting it, or by letting one of its RREQs through the
duplicate check (`takes`). Only a call that takes the request up sends RREQs of it, and
it sends at most one to each entry of the neighbour list (`rreqs_sublist`). If the
duplicate cache retains what it has seen, it has the request from then on, and the node
does not take it up again (`Retains.mem_iff`, `Retains.notMem_of_passes`).
-/

namespace DlDsr

/-- The packet is an RREQ of this request. -/
def Packet.isRreqOf (key : RequestKey) : Packet → Bool
  | .rreq q => q.key == key
  | _ => false

theorem Packet.isRreqOf_iff {key : RequestKey} {packet : Packet} :
    packet.isRreqOf key = true ↔ ∃ q, packet = .rreq q ∧ q.key = key := by
  cases packet with
  | rreq q => simp [isRreqOf]
  | _ => simp [isRreqOf]

theorem Packet.requestKey_of_isRreqOf {key : RequestKey} {packet : Packet}
    (h : packet.isRreqOf key = true) : packet.requestKey = some key := by
  obtain ⟨q, rfl, rfl⟩ := isRreqOf_iff.mp h
  rfl

namespace ProtocolState

variable {s : ProtocolState} {clock : Clock} {input : Input} {key : RequestKey}

/-- The call lets an RREQ of the request through the duplicate check. -/
def passes (s : ProtocolState) (clock : Clock) (key : RequestKey) : Input → Bool
  | .packet (.rreq q) _ => decide (s.Admits q) && q.key == key && (s.markRreq clock q).2
  | _ => false

theorem passes_iff : s.passes clock key input = true ↔
    ∃ q sender, input = .packet (.rreq q) sender ∧ s.Admits q ∧ q.key = key ∧
      (s.markRreq clock q).2 = true := by
  unfold passes
  split
  · next q sender =>
    simp only [Bool.and_eq_true, decide_eq_true_eq, beq_iff_eq]
    constructor
    · rintro ⟨⟨ha, hkey⟩, hnew⟩
      exact ⟨q, sender, rfl, ha, hkey, hnew⟩
    · rintro ⟨q', sender', heq, ha, hkey, hnew⟩
      cases heq
      exact ⟨⟨ha, hkey⟩, hnew⟩
  · next hother =>
    simp only [Bool.false_eq_true, false_iff]
    rintro ⟨q, sender, heq, -⟩
    exact hother q sender heq

instance (s s' : ProtocolState) (key : RequestKey) : Decidable (s.StartedBy s' key) :=
  inferInstanceAs (Decidable (_ ∧ _ ∧ _))

/-- The call takes the request up. -/
def takes (s : ProtocolState) (clock : Clock) (key : RequestKey) (input : Input) : Bool :=
  s.passes clock key input || decide (s.StartedBy (s.call clock input).1 key)

theorem takes_iff : s.takes clock key input = true ↔
    s.passes clock key input = true ∨ s.StartedBy (s.call clock input).1 key := by
  simp only [takes, Bool.or_eq_true, decide_eq_true_eq]

/-- What passes the duplicate check is not in the cache. -/
theorem Retains.notMem_of_passes (h : s.Retains clock input)
    (hpasses : s.passes clock key input = true) : key ∉ s.seenRequests.seen := by
  obtain ⟨q, sender, rfl, ha, rfl, hnew⟩ := passes_iff.mp hpasses
  intro hmem
  rw [h.recognized q sender rfl ha hmem] at hnew
  cases hnew

/-- A cache that retains everything has a request after a call if it had it before, or if
the call takes it up. -/
theorem Retains.mem_iff (h : s.Retains clock input) :
    key ∈ (s.call clock input).1.seenRequests.seen ↔
      key ∈ s.seenRequests.seen ∨ s.takes clock key input = true := by
  rw [takes_iff, passes_iff]
  constructor
  · intro hmem
    rcases call_seen hmem with hold | ⟨q, sender, rfl, ha, hkey⟩ | hstarted
    · exact .inl hold
    · -- An RREQ that is not new is in the cache.
      cases hnew : (s.markRreq clock q).2 with
      | false => exact .inl (hkey ▸ SeenRequests.mem_of_markIfNew_snd hnew)
      | true => exact .inr (.inl ⟨q, sender, rfl, ha, hkey, hnew⟩)
    · exact .inr (.inr hstarted)
  · rintro (hold | ⟨q, sender, rfl, ha, rfl, -⟩ | hstarted)
    · exact h.kept key hold
    · exact h.handled q sender rfl ha
    · exact h.started key hstarted

/-- Only a call that takes the request up sends RREQs of it. -/
theorem takes_of_rreq {o : OutboundPacket} (ho : o ∈ (s.call clock input).2.outbound)
    (hkey : o.packet.isRreqOf key = true) : s.takes clock key input = true := by
  obtain ⟨q, hq, hkey⟩ := Packet.isRreqOf_iff.mp hkey
  rw [takes_iff, passes_iff]
  rcases (emits_of_mem ho).of_rreq hq with
    ⟨now, dst, id, -, hlow, hhigh, rfl⟩ | ⟨q₀, e, sender, rfl, ha, hnew, he, rfl⟩
  · rw [← hkey]
    exact .inr ⟨rfl, hlow, hhigh⟩
  · exact .inl ⟨q₀, sender, rfl, ha, (extendRreq_key he).symm.trans hkey, hnew⟩

/-! ## What it sends -/

theorem floodRreq_dsts (s : ProtocolState) (now : Nat) (dst : NodeId) (requestId : Nat) :
    (s.floodRreq now dst requestId).map OutboundPacket.dst =
      s.logicalNeighbors.filterMap s.endpoint := by
  unfold floodRreq
  rw [List.map_filterMap]
  refine List.filterMap_congr fun v _ => ?_
  rw [Option.map_map]
  exact Option.map_id'

theorem rreqCopies_dsts (s : ProtocolState) (q : Rreq) :
    (s.rreqCopies q).map OutboundPacket.dst =
      (s.logicalNeighbors.filter fun v => v != q.previousHop).filterMap s.endpoint := by
  unfold rreqCopies
  rw [List.map_filterMap]
  refine List.filterMap_congr fun v _ => ?_
  rw [Option.map_map]
  exact Option.map_id'

/-- **A call sends at most one RREQ of a request to each entry of the neighbour list.** -/
theorem rreqs_sublist (s : ProtocolState) (clock : Clock) (input : Input) (key : RequestKey) :
    (((s.call clock input).2.outbound.filter fun o => o.packet.isRreqOf key).map
      OutboundPacket.dst).Sublist (s.logicalNeighbors.filterMap s.endpoint) := by
  by_cases htakes : s.takes clock key input = true
  · rcases takes_iff.mp htakes with hpasses | hstarted
    · obtain ⟨q, sender, rfl, -⟩ := passes_iff.mp hpasses
      have hout := handleRreq_outcome s clock q
      show List.Sublist (((s.handleRreq clock q).2.outbound.filter _).map _) _
      generalize s.handleRreq clock q = r at hout ⊢
      cases hout with
      | refused => exact List.nil_sublist _
      | duplicate => exact List.nil_sublist _
      | noLabel => exact List.nil_sublist _
      | answered e =>
        -- An answer is no RREQ.
        rw [answerRreq_outbound, List.filter_eq_nil_iff.mpr]
        · exact List.nil_sublist _
        · intro o ho hkey
          obtain ⟨dst, -, rfl⟩ := List.mem_map.mp ho
          cases hkey
      | forwarded e =>
        refine (List.filter_sublist.map _).trans ?_
        show ((s.rreqCopies e).map OutboundPacket.dst).Sublist _
        rw [rreqCopies_dsts]
        exact List.filter_sublist.filterMap _
    · obtain ⟨src, id⟩ := key
      obtain rfl : src = s.config.nodeId := hstarted.1
      obtain ⟨dst, -, now, hflood⟩ := discovers_of_startedBy hstarted
      rw [← floodRreq_dsts s now dst id, ← hflood]
      refine List.Sublist.map _ (List.monotone_filter_right _ fun o hkey => ?_)
      rw [Packet.requestKey_of_isRreqOf hkey]
      exact beq_self_eq_true _
  · have hnone : ((s.call clock input).2.outbound.filter fun o => o.packet.isRreqOf key) = [] :=
      List.filter_eq_nil_iff.mpr fun o ho hkey => htakes (takes_of_rreq ho hkey)
    rw [hnone]
    exact List.nil_sublist _

/-- A call that serves no RREP of the request sends one if it answers an RREQ that it lets
through, and otherwise none. -/
theorem rreps_length_le (hinput : input.isRrepOf key = false) :
    ((s.call clock input).2.outbound.filter fun o => o.packet.isRrepOf key).length ≤
      if s.passes clock key input then 1 else 0 := by
  split
  · next hpasses =>
    obtain ⟨q, sender, rfl, -⟩ := passes_iff.mp hpasses
    have hout := handleRreq_outcome s clock q
    show (List.filter _ (s.handleRreq clock q).2.outbound).length ≤ 1
    generalize s.handleRreq clock q = r at hout ⊢
    cases hout with
    | refused => exact Nat.zero_le _
    | duplicate => exact Nat.zero_le _
    | noLabel => exact Nat.zero_le _
    | answered e =>
      rw [answerRreq_outbound]
      refine (List.length_filter_le _ _).trans ?_
      unfold answers
      rw [List.length_map]
      exact Option.length_toList_le
    | forwarded e =>
      rw [List.filter_eq_nil_iff.mpr]
      · exact Nat.zero_le _
      · intro o ho hkey
        obtain ⟨v, -, -, -, hpacket⟩ := mem_rreqCopies.mp ho
        rw [hpacket] at hkey
        cases hkey
  · next hpasses =>
    rw [List.filter_eq_nil_iff.mpr]
    · exact Nat.le_refl _
    · intro o ho hkey
      obtain ⟨a, ha, hkey⟩ := Packet.isRrepOf_iff.mp hkey
      rcases (emits_of_mem ho).of_rrep ha with
        ⟨q, e, sender, prev, rfl, hadmits, hnew, he, -, -, -, rfl⟩ | ⟨sender, prev, rfl, -⟩
      · have hkey : q.key = key := (extendRreq_key he).symm.trans hkey
        exact hpasses (passes_iff.mpr ⟨q, sender, rfl, hadmits, hkey, hnew⟩)
      · have hother : (a.key == key) = false := hinput
        simp [hkey] at hother

end ProtocolState

end DlDsr
