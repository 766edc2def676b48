import DlDsr.Node.Events

/-!
# Request ids and the duplicate cache

A node numbers its discoveries with a counter that only grows while it runs
(`call_nextRequestId_le`), and a received packet does not move it. The keys of the
duplicate cache come from two places: RREQs the node has admitted, and discoveries
it has started itself (`call_seen`).
-/

namespace DlDsr

/-- The key the duplicate cache files an RREQ under. -/
def Rreq.key (q : Rreq) : RequestKey := (q.srcNodeId, q.requestId)

/-- The key of the request that an RREP answers. -/
def Rrep.key (p : Rrep) : RequestKey := (p.srcNodeId, p.requestId)

/-- The request that a packet belongs to. -/
def Packet.requestKey : Packet → Option RequestKey
  | .rreq q => some q.key
  | .rrep p => some p.key
  | _ => none

/-- The request that a received packet belongs to. -/
def Input.requestKey : Input → Option RequestKey
  | .packet p _ => p.requestKey
  | _ => none

/-- The packet is an RREP of this request. -/
def Packet.isRrepOf (key : RequestKey) : Packet → Bool
  | .rrep p => p.key == key
  | _ => false

theorem Packet.isRrepOf_iff {key : RequestKey} {packet : Packet} :
    packet.isRrepOf key = true ↔ ∃ a, packet = .rrep a ∧ a.key = key := by
  cases packet with
  | rrep a => simp [isRrepOf]
  | _ => simp [isRrepOf]

/-- The received packet is an RREP of this request. -/
def Input.isRrepOf (key : RequestKey) : Input → Bool
  | .packet p _ => p.isRrepOf key
  | _ => false

namespace ProtocolState

variable {s : ProtocolState} {clock : Clock}

/-! ## The request counter -/

theorem handlePacket_nextRequestId (s : ProtocolState) (clock : Clock) (packet : Packet)
    (sender : SocketAddr) :
    (s.handlePacket clock packet sender).1.nextRequestId = s.nextRequestId := by
  have heff := handlePacket_effect s clock packet sender
  generalize (s.handlePacket clock packet sender).1 = s' at heff ⊢
  cases heff <;> rfl

/-! ## The duplicate cache -/

/-- The key is that of a discovery that was started between `s` and `s'`. -/
def StartedBy (s s' : ProtocolState) (key : RequestKey) : Prop :=
  key.1 = s.config.nodeId ∧ s.nextRequestId ≤ key.2 ∧ key.2 < s'.nextRequestId

/-- What commands and ticks do to the counter and to the duplicate cache. -/
structure Numbered (s s' : ProtocolState) : Prop where
  config : s'.config = s.config
  counter : s.nextRequestId ≤ s'.nextRequestId
  seen : ∀ key ∈ s'.seenRequests.seen, key ∈ s.seenRequests.seen ∨ s.StartedBy s' key

/-- A discovery takes the next number and marks it as seen. -/
theorem Numbered.startDiscovery {t : ProtocolState} (h : s.Numbered t) (clock : Clock)
    (dst : NodeId) (retriesDone : Nat) :
    s.Numbered (t.startDiscovery clock dst retriesDone).1 := by
  have hcounter : (t.startDiscovery clock dst retriesDone).1.nextRequestId =
      t.nextRequestId + 1 := rfl
  refine ⟨h.config, Nat.le_succ_of_le h.counter, fun key hkey => ?_⟩
  rcases SeenRequests.mem_of_markIfNew hkey with rfl | hold
  · refine .inr ⟨congrArg NodeConfig.nodeId h.config, h.counter, ?_⟩
    rw [hcounter]
    exact Nat.lt_succ_self _
  -- A number that was taken before stays below the counter.
  · rcases h.seen key hold with hseen | ⟨hid, hlow, hhigh⟩
    · exact .inl hseen
    · exact .inr ⟨hid, hlow, hcounter ▸ Nat.lt_succ_of_lt hhigh⟩

theorem call_command_numbered (c : ProtocolCommand) :
    s.Numbered (s.call clock (.command c)).1 := by
  obtain ⟨dst, payload⟩ := c
  change s.Numbered (s.discoverAndSend clock dst payload).1
  rcases discoverAndSend_cases s clock dst payload with
    ⟨route, -, heq⟩ | ⟨-, -, heq⟩ | ⟨-, -, heq⟩
  · rw [heq]
    obtain ⟨m, hm⟩ := originData_state s (clock.later 1) dst payload route
    rw [hm]
    exact ⟨rfl, Nat.le_refl _, fun _ => .inl⟩
  · rw [heq]
    exact ⟨rfl, Nat.le_refl _, fun _ => .inl⟩
  · rw [heq]
    have hqueued : s.Numbered { s with pendingData := s.pendingData ++ [⟨dst, payload⟩] } :=
      ⟨rfl, Nat.le_refl _, fun _ => .inl⟩
    exact hqueued.startDiscovery (clock.later 1) dst 0

theorem call_tick_numbered (now : Nat) : s.Numbered (s.call clock (.tick now)).1 := by
  refine handleTick_induction (P := s.Numbered) ?_ ?_ ?_
  · exact ⟨rfl, Nat.le_refl _, fun _ hkey => .inl (SeenRequests.mem_of_prune hkey)⟩
  · intro t dst state h
    exact ⟨h.config, h.counter, h.seen⟩
  · intro t clock dst k h
    exact h.startDiscovery clock dst k

/-- The counter only grows. -/
theorem call_nextRequestId_le (s : ProtocolState) (clock : Clock) (input : Input) :
    s.nextRequestId ≤ (s.call clock input).1.nextRequestId := by
  cases input with
  | command c => exact (call_command_numbered c).counter
  | tick now => exact (call_tick_numbered now).counter
  | hello => exact Nat.le_refl _
  | packet packet sender => exact (handlePacket_nextRequestId s clock packet sender).ge

/-- The request ids of the outstanding discoveries have been taken. -/
def DiscoveriesNumbered (s : ProtocolState) : Prop :=
  ∀ d state, s.discoveries.lookup d = some state → state.requestId < s.nextRequestId

theorem DiscoveriesNumbered.startDiscovery (h : s.DiscoveriesNumbered) (clock : Clock)
    (dst : NodeId) (retriesDone : Nat) :
    (s.startDiscovery clock dst retriesDone).1.DiscoveriesNumbered := by
  intro d state hd
  show state.requestId < s.nextRequestId + 1
  change (s.discoveries.insert dst _).lookup d = some state at hd
  rw [AList.lookup_insert_eq] at hd
  split at hd
  · cases hd
    exact Nat.lt_succ_self _
  · exact Nat.lt_succ_of_lt (h d state hd)

theorem DiscoveriesNumbered.erase (h : s.DiscoveriesNumbered) {d dst : NodeId}
    {state : DiscoveryState} (hd : (s.discoveries.erase dst).lookup d = some state) :
    state.requestId < s.nextRequestId := by
  rw [AList.lookup_erase_eq] at hd
  split at hd
  · cases hd
  · exact h d state hd

theorem DiscoveriesNumbered.call (h : s.DiscoveriesNumbered) (clock : Clock) (input : Input) :
    (s.call clock input).1.DiscoveriesNumbered := by
  cases input with
  | command c =>
    obtain ⟨dst, payload⟩ := c
    change (s.discoverAndSend clock dst payload).1.DiscoveriesNumbered
    rcases discoverAndSend_cases s clock dst payload with
      ⟨route, -, heq⟩ | ⟨-, -, heq⟩ | ⟨-, -, heq⟩
    · obtain ⟨m, hm⟩ := originData_state s (clock.later 1) dst payload route
      rw [heq, hm]
      exact h
    · rw [heq]
      exact h
    · rw [heq]
      exact DiscoveriesNumbered.startDiscovery (s := { s with
        pendingData := s.pendingData ++ [⟨dst, payload⟩] }) h _ _ _
  | tick now =>
    exact handleTick_induction (P := DiscoveriesNumbered) h
      (fun _ _ _ ht _ _ hd => ht.erase hd) (fun _ clock dst k ht => ht.startDiscovery clock dst k)
  | hello => exact h
  | packet packet sender =>
    intro d state hd
    have hcounter := handlePacket_nextRequestId s clock packet sender
    show state.requestId < (s.handlePacket clock packet sender).1.nextRequestId
    rw [hcounter]
    change (s.handlePacket clock packet sender).1.discoveries.lookup d = some state at hd
    rcases handlePacket_queue s clock packet sender with ⟨-, hsame⟩ | ⟨p, -, -, -, -, herase⟩
    · rw [hsame] at hd
      exact h d state hd
    · rw [herase] at hd
      exact h.erase hd

theorem ReachableFrom.discoveriesNumbered {config : NodeConfig} (h : ReachableFrom config s) :
    s.DiscoveriesNumbered := by
  induction h with
  | new => exact fun d state hd => nomatch (show (none : Option DiscoveryState) = _ from hd)
  | call clock input _ ih => exact ih.call clock input
  | reorder _ hs ih =>
    intro d state hd
    rw [hs.nextRequestId]
    exact ih d state ((hs.discoveries.lookup_eq d).trans hd)

/-- Only commands and ticks take numbers. -/
theorem StartedBy.input {input : Input} {key : RequestKey}
    (h : s.StartedBy (s.call clock input).1 key) :
    (∃ c, input = .command c) ∨ ∃ t, input = .tick t := by
  obtain ⟨-, hlow, hhigh⟩ := h
  cases input with
  | command c => exact .inl ⟨c, rfl⟩
  | tick now => exact .inr ⟨now, rfl⟩
  | hello => exact absurd (Nat.lt_of_le_of_lt hlow hhigh) (Nat.lt_irrefl _)
  | packet packet sender =>
    have hcounter : (s.call clock (.packet packet sender)).1.nextRequestId = s.nextRequestId :=
      handlePacket_nextRequestId s clock packet sender
    omega

/-- A received packet leaves the duplicate cache alone, unless it is an admitted
RREQ. -/
theorem handlePacket_seenRequests (s : ProtocolState) (clock : Clock) (packet : Packet)
    (sender : SocketAddr) :
    (s.handlePacket clock packet sender).1.seenRequests = s.seenRequests ∨
      ∃ q, packet = .rreq q ∧ s.Admits q ∧
        (s.handlePacket clock packet sender).1.seenRequests = (s.markRreq clock q).1 := by
  have heff := handlePacket_effect s clock packet sender
  generalize (s.handlePacket clock packet sender).1 = s' at heff ⊢
  cases heff with
  | rreq q _ ha => exact .inr ⟨q, rfl, ha, rfl⟩
  | _ => exact .inl rfl

/-- Where the keys of the duplicate cache come from. -/
theorem call_seen {input : Input} {key : RequestKey}
    (h : key ∈ (s.call clock input).1.seenRequests.seen) :
    key ∈ s.seenRequests.seen ∨
      (∃ q sender, input = .packet (.rreq q) sender ∧ s.Admits q ∧ q.key = key) ∨
      s.StartedBy (s.call clock input).1 key := by
  cases input with
  | command c => exact ((call_command_numbered c).seen key h).imp_right .inr
  | tick now => exact ((call_tick_numbered now).seen key h).imp_right .inr
  | hello => exact .inl h
  | packet packet sender =>
    have h : key ∈ (s.handlePacket clock packet sender).1.seenRequests.seen := h
    rcases handlePacket_seenRequests s clock packet sender with hsame | ⟨q, rfl, hadmits, hmark⟩
    · rw [hsame] at h
      exact .inl h
    · rw [hmark] at h
      rcases SeenRequests.mem_of_markIfNew h with heq | hold
      · exact .inr (.inl ⟨q, sender, rfl, hadmits, heq.symm⟩)
      · exact .inl hold

/-- An RREQ is counted as a duplicate only if its key is in the cache. -/
theorem handleRreq_duplicate {q : Rreq}
    (h : (s.handleRreq clock q).1.metrics.rreqDroppedDuplicate ≠ s.metrics.rreqDroppedDuplicate) :
    s.Admits q ∧ q.key ∈ s.seenRequests.seen := by
  have hout := handleRreq_outcome s clock q
  generalize s.handleRreq clock q = r at hout h
  cases hout with
  | refused m _ hm =>
    rcases hm with rfl | rfl <;> exact absurd rfl h
  | duplicate hadmits hdup => exact ⟨hadmits, SeenRequests.mem_of_markIfNew_snd hdup⟩
  | noLabel => exact absurd rfl h
  | answered e =>
    rw [answerRreq_state] at h
    exact absurd rfl h
  | forwarded e => exact absurd rfl h

/-! ## The packets of a request -/

theorem extendRreq_key {q e : Rreq} (h : s.extendRreq q = some e) : e.key = q.key := by
  obtain ⟨he, -⟩ := extendRreq_eq_some.mp h
  rw [he]
  rfl

/-- A call sends packets of the request it serves, and of discoveries it starts. -/
theorem emits_requestKey {input : Input} {o : OutboundPacket} {key : RequestKey}
    (h : s.Emits clock input o) (hkey : o.packet.requestKey = some key) :
    input.requestKey = some key ∨ s.StartedBy (s.call clock input).1 key := by
  cases hpacket : o.packet with
  | rreq q =>
    rw [hpacket] at hkey
    rcases h.of_rreq hpacket with
      ⟨now, dst, id, -, hlow, hhigh, rfl⟩ | ⟨q₀, e, sender, rfl, -, -, he, rfl⟩
    · obtain rfl := Option.some.inj hkey
      exact .inr ⟨rfl, hlow, hhigh⟩
    · exact .inl ((congrArg some (extendRreq_key he)).symm.trans hkey)
  | rrep a =>
    rw [hpacket] at hkey
    rcases h.of_rrep hpacket with
      ⟨q, e, sender, prev, rfl, -, -, he, -, -, -, rfl⟩ | ⟨sender, prev, rfl, -⟩
    · exact .inl ((congrArg some (extendRreq_key he)).symm.trans hkey)
    · exact .inl hkey
  | _ =>
    rw [hpacket] at hkey
    cases hkey

/-- A route is cached by an RREP of the request. -/
theorem Announces.rrep_of_routeCached {input : Input} {n dst : NodeId} {requestId : Nat}
    (h : s.Announces clock input (.routeCached n dst requestId)) :
    ∃ p sender, input = .packet (.rrep p) sender ∧ p.key = (n, requestId) ∧ p.dstNodeId = dst := by
  generalize hevent : ProtocolEvent.routeCached n dst requestId = e at h
  cases h with
  | routeCached p sender hok hsrc =>
    cases hevent
    exact ⟨p, sender, rfl, Prod.ext hsrc.symm rfl, rfl⟩
  | _ => cases hevent

/-- What a call does to a request that it neither serves nor starts: nothing. -/
theorem call_unconcerned {input : Input} {key : RequestKey} (hinput : input.requestKey ≠ some key)
    (hstarted : ¬ s.StartedBy (s.call clock input).1 key) :
    (key ∈ (s.call clock input).1.seenRequests.seen → key ∈ s.seenRequests.seen) ∧
      (∀ o ∈ (s.call clock input).2.outbound, o.packet.requestKey ≠ some key) ∧
      ∀ dst, .routeCached key.1 dst key.2 ∉ (s.call clock input).2.events := by
  refine ⟨fun hkey => ?_, fun o ho hkey => ?_, fun dst hmem => ?_⟩
  · rcases call_seen hkey with hold | ⟨q, sender, rfl, -, rfl⟩ | hnew
    · exact hold
    · exact absurd rfl hinput
    · exact absurd hnew hstarted
  · rcases emits_requestKey (emits_of_mem ho) hkey with hsame | hnew
    · exact hinput hsame
    · exact hstarted hnew
  · obtain ⟨p, sender, rfl, hkey, -⟩ := (announces_of_mem hmem).rrep_of_routeCached
    exact hinput (congrArg some hkey)

/-- In this call the node starts the discovery of `dst` under this request id. -/
structure Discovers (s : ProtocolState) (clock : Clock) (input : Input) (requestId : Nat)
    (dst : NodeId) : Prop where
  started : s.StartedBy (s.call clock input).1 (s.config.nodeId, requestId)
  flood : ∃ now,
    (s.call clock input).2.outbound.filter
        (fun o => o.packet.requestKey == some (s.config.nodeId, requestId)) =
      s.floodRreq now dst requestId

theorem filter_floodRreq (s : ProtocolState) (now : Nat) (dst : NodeId) (id requestId : Nat) :
    (s.floodRreq now dst id).filter
        (fun o => o.packet.requestKey == some (s.config.nodeId, requestId)) =
      if id = requestId then s.floodRreq now dst id else [] := by
  have hkey : ∀ o ∈ s.floodRreq now dst id,
      o.packet.requestKey = some (s.config.nodeId, id) := by
    intro o ho
    obtain ⟨v, -, -, hpacket⟩ := mem_floodRreq.mp ho
    rw [hpacket]
    rfl
  split
  · next hid =>
    refine List.filter_eq_self.mpr fun o ho => ?_
    rw [hkey o ho, hid]
    exact beq_self_eq_true _
  · next hid =>
    refine List.filter_eq_nil_iff.mpr fun o ho heq => ?_
    rw [hkey o ho] at heq
    exact hid (congrArg Prod.snd (Option.some.inj (eq_of_beq heq)))

/-- The tick loop floods nothing under the numbers taken before. -/
theorem retryLoop_flood_of_lt (expired : List (Sigma fun _ : NodeId => DiscoveryState))
    {requestId : Nat} (hlt : requestId < s.nextRequestId) :
    (s.retryLoop clock expired).2.outbound.filter
      (fun o => o.packet.requestKey == some (s.config.nodeId, requestId)) = [] := by
  refine List.filter_eq_nil_iff.mpr fun o ho heq => ?_
  obtain ⟨now, dst, id, hid, -, hflood⟩ := retryLoop_outbound ho
  obtain ⟨v, -, -, hpacket⟩ := mem_floodRreq.mp hflood
  rw [hpacket] at heq
  have hkey : (s.config.nodeId, id) = (s.config.nodeId, requestId) :=
    Option.some.inj (eq_of_beq heq)
  have hsame : id = requestId := congrArg Prod.snd hkey
  omega

/-- The tick loop floods one request for every number it takes. -/
theorem retryLoop_flood (expired : List (Sigma fun _ : NodeId => DiscoveryState)) {requestId : Nat}
    (hlow : s.nextRequestId ≤ requestId)
    (hhigh : requestId < (s.retryLoop clock expired).1.nextRequestId) :
    ∃ now dst, (s.retryLoop clock expired).2.outbound.filter
        (fun o => o.packet.requestKey == some (s.config.nodeId, requestId)) =
      s.floodRreq now dst requestId := by
  induction expired generalizing s clock with
  | nil => exact absurd (Nat.lt_of_le_of_lt hlow hhigh) (Nat.lt_irrefl _)
  | cons entry expired ih =>
    by_cases hmax : s.config.routeDiscoveryMaxRetries ≤ entry.2.retriesDone
    · rw [retryLoop_cons_of_le s clock expired hmax] at hhigh ⊢
      exact ih (s := (s.failDiscovery entry.1 entry.2).1) hlow hhigh
    · rw [retryLoop_cons_of_not_le s clock expired hmax] at hhigh ⊢
      have hnext : (s.startDiscovery clock entry.1 (entry.2.retriesDone + 1)).1.nextRequestId =
        s.nextRequestId + 1 := rfl
      show ∃ now dst', List.filter _ (s.floodRreq (clock 0) entry.1 s.nextRequestId ++ _) = _
      by_cases hfirst : requestId = s.nextRequestId
      · -- This discovery takes the number, so the rest of the loop does not.
        refine ⟨clock 0, entry.1, ?_⟩
        have hrest : List.filter (fun o : OutboundPacket =>
            o.packet.requestKey == some (s.config.nodeId, requestId))
              ((s.startDiscovery clock entry.1 (entry.2.retriesDone + 1)).1.retryLoop
                (clock.later 1) expired).2.outbound = [] :=
          retryLoop_flood_of_lt
            (s := (s.startDiscovery clock entry.1 (entry.2.retriesDone + 1)).1) expired (by omega)
        rw [List.filter_append, hrest, List.append_nil, filter_floodRreq, if_pos hfirst.symm,
          hfirst]
      · obtain ⟨now, dst', hrest⟩ := ih
          (s := (s.startDiscovery clock entry.1 (entry.2.retriesDone + 1)).1) (by omega) hhigh
        refine ⟨now, dst', ?_⟩
        rw [List.filter_append, filter_floodRreq, if_neg (Ne.symm hfirst), List.nil_append]
        exact hrest

/-- Every number that a call takes belongs to the discovery of some node. -/
theorem discovers_of_startedBy {input : Input} {requestId : Nat}
    (h : s.StartedBy (s.call clock input).1 (s.config.nodeId, requestId)) :
    ∃ dst, s.Discovers clock input requestId dst := by
  suffices hflood : ∃ now dst, (s.call clock input).2.outbound.filter
      (fun o => o.packet.requestKey == some (s.config.nodeId, requestId)) =
        s.floodRreq now dst requestId by
    obtain ⟨now, dst, hflood⟩ := hflood
    exact ⟨dst, h, now, hflood⟩
  rcases h.input with ⟨c, rfl⟩ | ⟨now, rfl⟩
  · obtain ⟨dst, payload⟩ := c
    obtain ⟨-, hlow, hhigh⟩ := h
    change requestId < (s.discoverAndSend clock dst payload).1.nextRequestId at hhigh
    show ∃ now dst', (s.discoverAndSend clock dst payload).2.outbound.filter _ = _
    rcases discoverAndSend_cases s clock dst payload with
      ⟨route, -, heq⟩ | ⟨-, -, heq⟩ | ⟨-, -, heq⟩
    · obtain ⟨m, hm⟩ := originData_state s (clock.later 1) dst payload route
      rw [heq, hm] at hhigh
      exact absurd (Nat.lt_of_le_of_lt hlow hhigh) (Nat.lt_irrefl _)
    · rw [heq] at hhigh
      exact absurd (Nat.lt_of_le_of_lt hlow hhigh) (Nat.lt_irrefl _)
    · rw [heq] at hhigh ⊢
      have hid : s.nextRequestId = requestId := by
        have hhigh : requestId < s.nextRequestId + 1 := hhigh
        have hlow : s.nextRequestId ≤ requestId := hlow
        omega
      refine ⟨clock.later 1 0, dst, ?_⟩
      show (s.floodRreq _ dst s.nextRequestId).filter _ = _
      rw [filter_floodRreq, if_pos hid, hid]
  · exact retryLoop_flood (s := { s with
      seenRequests := s.seenRequests.prune now s.config.seenRequestTtlMs }) _ h.2.1 h.2.2

/-! ## RREQs when the duplicate cache retains everything -/

/-- In this call the duplicate cache neither evicts an entry nor lets one expire. -/
structure Retains (s : ProtocolState) (clock : Clock) (input : Input) : Prop where
  kept : ∀ key ∈ s.seenRequests.seen, key ∈ (s.call clock input).1.seenRequests.seen
  started : ∀ key, s.StartedBy (s.call clock input).1 key →
    key ∈ (s.call clock input).1.seenRequests.seen
  handled : ∀ q sender, input = .packet (.rreq q) sender → s.Admits q →
    q.key ∈ (s.call clock input).1.seenRequests.seen
  recognized : ∀ q sender, input = .packet (.rreq q) sender → s.Admits q →
    q.key ∈ s.seenRequests.seen → (s.markRreq clock q).2 = false

instance (s : ProtocolState) (clock : Clock) (input : Input) :
    Decidable (s.Retains clock input) :=
  decidable_of_iff
    ((∀ e ∈ s.seenRequests.seen.entries, e.1 ∈ (s.call clock input).1.seenRequests.seen) ∧
      (∀ id ∈ List.range' s.nextRequestId ((s.call clock input).1.nextRequestId - s.nextRequestId),
        (s.config.nodeId, id) ∈ (s.call clock input).1.seenRequests.seen) ∧
      (match input with
        | .packet (.rreq q) sender => decide (s.Admits q →
            q.key ∈ (s.call clock (.packet (.rreq q) sender)).1.seenRequests.seen ∧
              (q.key ∈ s.seenRequests.seen → (s.markRreq clock q).2 = false))
        | _ => true) = true)
    (by
      constructor
      -- A key that the call may have started has a number in the range it has taken.
      · rintro ⟨hkept, hstarted, hrreq⟩
        refine ⟨fun key hkey => ?_, fun key hkey => ?_, ?_, ?_⟩
        · obtain ⟨e, he, rfl⟩ := List.mem_map.mp (AList.mem_keys.mpr hkey)
          exact hkept e he
        · obtain ⟨src, id⟩ := key
          obtain ⟨rfl, hlow, hhigh⟩ := hkey
          have hlow : s.nextRequestId ≤ id := hlow
          have hhigh : id < (s.call clock input).1.nextRequestId := hhigh
          exact hstarted id (List.mem_range'_1.mpr ⟨hlow, by omega⟩)
        · rintro q sender rfl ha
          exact (of_decide_eq_true hrreq ha).1
        · rintro q sender rfl ha
          exact (of_decide_eq_true hrreq ha).2
      · intro h
        refine ⟨fun e he => h.kept e.1 (AList.mem_keys.mpr (List.mem_map_of_mem he)),
          fun id hid => ?_, ?_⟩
        · obtain ⟨hlow, hhigh⟩ := List.mem_range'_1.mp hid
          exact h.started _ ⟨rfl, hlow, show id < _ by omega⟩
        · split
          · next q sender =>
            exact decide_eq_true fun ha =>
              ⟨h.handled q sender rfl ha, h.recognized q sender rfl ha⟩
          · rfl)

theorem relayRrep_actions {p : Rrep} {prev : NodeId} {dst : SocketAddr}
    (hprev : previousInTrace p.tracePath s.config.nodeId = some prev)
    (hend : s.endpoint prev = some dst) :
    (s.relayRrep p).2 = { outbound := [⟨.rrep p, dst⟩] } := by
  have hbind : (previousInTrace p.tracePath s.config.nodeId).bind s.endpoint = some dst := by
    rw [hprev]
    exact hend
  unfold relayRrep
  rw [hbind]

/-- What a node does with an RREQ if the cache retains everything and the label of the
previous hop is known where it is needed. -/
theorem handleRreq_cases {q : Rreq} {sender : SocketAddr}
    (hretains : s.Retains clock (.packet (.rreq q) sender))
    (hlabel : s.Admits q → ∃ e, s.extendRreq q = some e) :
    (¬ s.Admits q ∧ (s.handleRreq clock q).2.outbound = []) ∨
    (s.Admits q ∧ q.key ∈ s.seenRequests.seen ∧ (s.handleRreq clock q).2.outbound = []) ∨
    (s.Admits q ∧ q.key ∉ s.seenRequests.seen ∧ ∃ e, s.extendRreq q = some e ∧
      ((s.config.nodeId = q.dstNodeId ∧
          (s.handleRreq clock q).2.outbound = s.answers e) ∨
        (s.config.nodeId ≠ q.dstNodeId ∧
          (s.handleRreq clock q).2.outbound = s.rreqCopies e))) := by
  have hnotSeen : s.Admits q → (s.markRreq clock q).2 = true → q.key ∉ s.seenRequests.seen := by
    intro hadmits hnew hseen
    rw [hretains.recognized q sender rfl hadmits hseen] at hnew
    cases hnew
  have hout := handleRreq_outcome s clock q
  generalize s.handleRreq clock q = r at hout ⊢
  cases hout with
  | refused m h => exact .inl ⟨h, rfl⟩
  | duplicate h hdup => exact .inr (.inl ⟨h, SeenRequests.mem_of_markIfNew_snd hdup, rfl⟩)
  | noLabel h hnew hnone =>
    obtain ⟨e, he⟩ := hlabel h
    rw [he] at hnone
    cases hnone
  | answered e h hnew he hdst =>
    exact .inr (.inr ⟨h, hnotSeen h hnew, e, he, .inl ⟨hdst, answerRreq_outbound _ e⟩⟩)
  | forwarded e h hnew he hdst => exact .inr (.inr ⟨h, hnotSeen h hnew, e, he, .inr ⟨hdst, rfl⟩⟩)

end ProtocolState

end DlDsr
