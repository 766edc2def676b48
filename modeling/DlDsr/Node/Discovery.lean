import DlDsr.Node.Effects

/-!
# The queue and the discoveries

Payloads wait in `pendingData`; what they wait for is an entry of `discoveries`.
Four operations write the two: a command (queue, and start a discovery unless one
is running), an accepted RREP (flush, and end the discovery), a failed retry (drop,
and end the discovery) and a retry (replace the discovery). `Tracked` says that
they do it in step: the destinations of the queue are the keys of the
discoveries.

The tick loop works on a snapshot of the expired discoveries, so its step needs
to know that the entry it looks at has not been ended meanwhile: the keys of the
snapshot are distinct, and the loop ends only the discovery it looks at
(`retryLoop_tracked`).
-/

namespace DlDsr

namespace ProtocolState

/-- The destinations of the queue are the keys of the discoveries. -/
def Tracked (s : ProtocolState) : Prop :=
  ∀ d, (∃ p ∈ s.pendingData, p.dstNodeId = d) ↔ d ∈ s.discoveries

variable {s : ProtocolState} {clock : Clock}

/-- Only the queue and the keys of the discoveries matter. -/
theorem Tracked.of_eq {s' : ProtocolState} (h : s.Tracked)
    (hpending : s'.pendingData = s.pendingData)
    (hkeys : ∀ d, d ∈ s'.discoveries ↔ d ∈ s.discoveries) : s'.Tracked := by
  intro d
  rw [hpending, hkeys d]
  exact h d

/-- Taking one destination out of both keeps them in step. -/
theorem Tracked.remove {s' : ProtocolState} {dst : NodeId} (h : s.Tracked)
    (hpending : s'.pendingData = s.pendingData.filter fun p => p.dstNodeId != dst)
    (hdiscoveries : s'.discoveries = s.discoveries.erase dst) : s'.Tracked := by
  intro d
  rw [hpending, hdiscoveries, AList.mem_erase, ← h d]
  constructor
  · rintro ⟨p, hp, rfl⟩
    obtain ⟨hmem, hne⟩ := List.mem_filter.mp hp
    exact ⟨by simpa using hne, p, hmem, rfl⟩
  · rintro ⟨hne, p, hmem, rfl⟩
    exact ⟨p, List.mem_filter.mpr ⟨hmem, by simpa using hne⟩, rfl⟩

/-- A queued payload whose discovery is running, or is started. -/
theorem Tracked.add {s' : ProtocolState} {dst : NodeId} {payload : List UInt8} (h : s.Tracked)
    (hpending : s'.pendingData = s.pendingData ++ [⟨dst, payload⟩])
    (hkeys : ∀ d, d ∈ s'.discoveries ↔ d = dst ∨ d ∈ s.discoveries) : s'.Tracked := by
  intro d
  rw [hpending, hkeys d, ← h d]
  constructor
  · rintro ⟨p, hp, rfl⟩
    rcases List.mem_append.mp hp with hold | hnew
    · exact .inr ⟨p, hold, rfl⟩
    · rw [List.mem_singleton.mp hnew]
      exact .inl rfl
  · rintro (rfl | ⟨p, hp, rfl⟩)
    · exact ⟨_, List.mem_append_right _ (List.mem_singleton_self _), rfl⟩
    · exact ⟨p, List.mem_append_left _ hp, rfl⟩

theorem discoverAndSend_tracked {dst : NodeId} {payload : List UInt8} (h : s.Tracked) :
    (s.discoverAndSend clock dst payload).1.Tracked := by
  rcases discoverAndSend_cases s clock dst payload with
    ⟨route, -, heq⟩ | ⟨-, hmem, heq⟩ | ⟨-, -, heq⟩
  · obtain ⟨m, hm⟩ := originData_state s (clock.later 1) dst payload route
    rw [heq, hm]
    exact h.of_eq rfl fun _ => Iff.rfl
  · rw [heq]
    refine h.add rfl fun d => ?_
    constructor
    · exact .inr
    · rintro (rfl | hd)
      · exact hmem
      · exact hd
  · rw [heq]
    exact h.add rfl fun d => AList.mem_insert _

/-- The tick loop, over a snapshot whose entries are still running. -/
theorem retryLoop_tracked {expired : List (Sigma fun _ : NodeId => DiscoveryState)}
    (h : s.Tracked) (hnodup : (expired.map Sigma.fst).Nodup)
    (hmem : ∀ entry ∈ expired, entry.1 ∈ s.discoveries) :
    (s.retryLoop clock expired).1.Tracked := by
  induction expired generalizing s clock with
  | nil => exact h
  | cons entry expired ih =>
    obtain ⟨dst, state⟩ := entry
    rw [List.map_cons, List.nodup_cons] at hnodup
    obtain ⟨hfresh, hnodup⟩ := hnodup
    have hrest : ∀ entry ∈ expired, entry.1 ≠ dst ∧ entry.1 ∈ s.discoveries := by
      intro entry hentry
      refine ⟨fun heq => hfresh ?_, hmem entry (List.mem_cons_of_mem _ hentry)⟩
      exact List.mem_map.mpr ⟨entry, hentry, heq⟩
    simp only [retryLoop]
    split
    · -- The discovery fails: its payloads go with it.
      refine ih (h.remove rfl rfl) hnodup fun entry hentry => ?_
      exact AList.mem_erase.mpr (hrest entry hentry)
    · -- The discovery is retried: its key stays, and was there before.
      refine ih ?_ hnodup fun entry hentry => ?_
      · refine h.of_eq rfl fun d => ?_
        show d ∈ s.discoveries.insert dst _ ↔ _
        rw [AList.mem_insert]
        constructor
        · rintro (rfl | hd)
          · exact hmem _ List.mem_cons_self
          · exact hd
        · exact .inr
      · exact (AList.mem_insert _).mpr (.inr (hrest entry hentry).2)

theorem handleTick_tracked {now : Nat} (h : s.Tracked) : (s.handleTick clock now).1.Tracked := by
  refine retryLoop_tracked (h.of_eq rfl fun _ => Iff.rfl) ?_ ?_
  · exact (List.Nodup.sublist (List.filter_sublist.map _) s.discoveries.nodupKeys)
  · intro entry hentry
    have hmem : entry ∈ s.discoveries.entries := List.mem_of_mem_filter hentry
    exact AList.mem_keys.mpr (List.mem_map_of_mem hmem)

/-- One call keeps the queue and the discoveries in step. -/
theorem call_tracked (input : Input) (h : s.Tracked) : (s.call clock input).1.Tracked := by
  cases input with
  | command c => exact discoverAndSend_tracked h
  | tick now => exact handleTick_tracked h
  | hello => exact h
  | packet packet sender =>
    rcases handlePacket_queue s clock packet sender with
      ⟨hpending, hdiscoveries⟩ | ⟨p, -, -, -, hpending, hdiscoveries⟩
    · refine h.of_eq hpending fun d => ?_
      show d ∈ (s.handlePacket clock packet sender).1.discoveries ↔ _
      rw [hdiscoveries]
    · exact h.remove hpending hdiscoveries

/-- **No stranded payload, no idle discovery.** In every state a node can get
into, the destinations occurring in the queue are exactly the destinations a
discovery is outstanding for. -/
theorem pending_iff_discovery {config : NodeConfig} (h : ReachableFrom config s) (d : NodeId) :
    (∃ p ∈ s.pendingData, p.dstNodeId = d) ↔ d ∈ s.discoveries := by
  revert d
  show s.Tracked
  induction h with
  | new =>
    intro d
    constructor
    · rintro ⟨p, hp, -⟩
      exact absurd hp List.not_mem_nil
    · intro hd
      exact absurd hd (AList.notMem_empty d)
  | call clock input _ ih => exact call_tracked input ih
  | reorder _ hs ih =>
    refine ih.of_eq hs.pendingData fun d => ?_
    exact (AList.mem_of_perm hs.discoveries).symm

/-- A node that was asked to send to node 2 has queued the payload and looks for
node 2. -/
theorem pending_iff_discovery_queued :
    let s := ((new (.testSettings .dsr)).call (fun _ => 10)
      (.command (.discoverAndSend 2 [7]))).1
    s.pendingData = [⟨2, [7]⟩] ∧ 2 ∈ s.discoveries :=
  ⟨rfl, (pending_iff_discovery (.call _ _ .new) 2).mp ⟨⟨2, [7]⟩, List.mem_cons_self, rfl⟩⟩

end ProtocolState

end DlDsr
