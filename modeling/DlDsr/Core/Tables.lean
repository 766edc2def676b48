import DlDsr.Core.Packet
import DlDsr.Lib.HashMap

/-!
# Neighbor and label tables (`dldsr-core/src/tables.rs`)

`NeighborTable` holds the labels this node assigned to its neighbours and the
endpoint each was last heard from; `LabelTable` holds the labels the neighbours
assigned to this node.
-/

namespace DlDsr

/-- A neighbour this node has assigned a label to. -/
structure NeighborEntry where
  nodeId : NodeId
  labelAssignedByMeToNeighbor : Label
  lastSeenMillis : Nat
  endpoint : SocketAddr
  alive : Bool
deriving DecidableEq

/-- Labels assigned by this node, per neighbour. -/
structure NeighborTable where
  entries : HashMap NodeId NeighborEntry := ∅
deriving DecidableEq

/-- `DldsrError`, as far as the tables raise it. -/
inductive DldsrError where
  | labelSpaceExhausted
deriving DecidableEq

namespace NeighborTable

/-- The candidates `1..=u8::MAX` of the label search, in order. -/
def labelCandidates : List Label := (List.range' 1 255).map UInt8.ofNat

/-- Whether an alive entry holds `candidate`. -/
def labelInUse (self : NeighborTable) (candidate : Label) : Bool :=
  self.entries.values.any fun entry =>
    entry.alive && entry.labelAssignedByMeToNeighbor == candidate

/-- `NeighborTable::assign_or_reuse_label`. -/
def assignOrReuseLabel (self : NeighborTable) (nodeId : NodeId) (endpoint : SocketAddr)
    (now : Nat) : NeighborTable × Except DldsrError Label :=
  match self.entries.lookup nodeId with
  | some entry =>
    let entry := { entry with endpoint := endpoint, lastSeenMillis := now, alive := true }
    ({ entries := self.entries.insert nodeId entry }, .ok entry.labelAssignedByMeToNeighbor)
  | none =>
    match labelCandidates.find? fun candidate => !self.labelInUse candidate with
    | none => (self, .error .labelSpaceExhausted)
    | some label =>
      let entry : NeighborEntry :=
        { nodeId := nodeId, labelAssignedByMeToNeighbor := label, lastSeenMillis := now,
          endpoint := endpoint, alive := true }
      ({ entries := self.entries.insert nodeId entry }, .ok label)

/-- `NeighborTable::neighbor_by_label`: the first alive entry, in iteration
order, that holds `label`. -/
def neighborByLabel (self : NeighborTable) (label : Label) : Option NeighborEntry :=
  self.entries.values.find? fun entry =>
    entry.alive && entry.labelAssignedByMeToNeighbor == label

/-- The label assigned to a node, if any. -/
def labelOf (self : NeighborTable) (nodeId : NodeId) : Option Label :=
  (self.entries.lookup nodeId).map NeighborEntry.labelAssignedByMeToNeighbor

/-- What an assignment does: it refreshes the entry of a known node, adds an
entry with an unused label for an unknown one, or fails when no label is free. -/
theorem assignOrReuseLabel_cases (t : NeighborTable) (n : NodeId) (endpoint : SocketAddr)
    (now : Nat) :
    (∃ entry, t.entries.lookup n = some entry ∧
      t.assignOrReuseLabel n endpoint now =
        (⟨t.entries.insert n
            { entry with endpoint := endpoint, lastSeenMillis := now, alive := true }⟩,
          .ok entry.labelAssignedByMeToNeighbor)) ∨
    (∃ label ∈ labelCandidates, t.entries.lookup n = none ∧ t.labelInUse label = false ∧
      t.assignOrReuseLabel n endpoint now =
        (⟨t.entries.insert n
            { nodeId := n, labelAssignedByMeToNeighbor := label, lastSeenMillis := now,
              endpoint := endpoint, alive := true }⟩,
          .ok label)) ∨
    (t.entries.lookup n = none ∧
      (labelCandidates.find? fun candidate => !t.labelInUse candidate) = none ∧
      t.assignOrReuseLabel n endpoint now = (t, .error .labelSpaceExhausted)) := by
  unfold assignOrReuseLabel
  split
  · next entry hentry => exact .inl ⟨entry, hentry, rfl⟩
  next hnone =>
  split
  · next hexhausted => exact .inr (.inr ⟨hnone, hexhausted, rfl⟩)
  · next label hlabel =>
    have hfree := List.find?_some hlabel
    exact .inr (.inl ⟨label, List.mem_of_find?_eq_some hlabel, hnone, by simpa using hfree, rfl⟩)

/-- Assigned labels are never changed. -/
theorem labelOf_assign {t : NeighborTable} {m n : NodeId} {endpoint : SocketAddr} {now : Nat}
    {label : Label} (h : t.labelOf m = some label) :
    (t.assignOrReuseLabel n endpoint now).1.labelOf m = some label := by
  unfold labelOf at h ⊢
  rcases assignOrReuseLabel_cases t n endpoint now with
    ⟨entry, hentry, heq⟩ | ⟨fresh, -, hnone, -, heq⟩ | ⟨-, -, heq⟩
  · rw [heq, AList.lookup_insert_eq]
    split
    · next hmn =>
      rw [hmn, hentry] at h
      exact h
    · exact h
  · rw [heq, AList.lookup_insert_eq]
    split
    · next hmn =>
      rw [hmn, hnone] at h
      cases h
    · exact h
  · rw [heq]
    exact h

/-- The label an assignment returns is the one that is held from then on. -/
theorem labelOf_assign_self {t : NeighborTable} {n : NodeId} {endpoint : SocketAddr} {now : Nat}
    {label : Label} (h : (t.assignOrReuseLabel n endpoint now).2 = .ok label) :
    (t.assignOrReuseLabel n endpoint now).1.labelOf n = some label := by
  unfold labelOf
  rcases assignOrReuseLabel_cases t n endpoint now with
    ⟨entry, -, heq⟩ | ⟨fresh, -, -, -, heq⟩ | ⟨-, -, heq⟩
  · rw [heq] at h ⊢
    rw [AList.lookup_insert_eq, if_pos rfl]
    cases h
    rfl
  · rw [heq] at h ⊢
    rw [AList.lookup_insert_eq, if_pos rfl]
    cases h
    rfl
  · rw [heq] at h
    cases h

/-- An assignment writes the endpoint of its own node only. -/
theorem endpoint_of_assign {t : NeighborTable} {m n : NodeId} {endpoint : SocketAddr} {now : Nat}
    {entry : NeighborEntry} (h : (t.assignOrReuseLabel n endpoint now).1.entries.lookup m = some entry) :
    (m = n ∧ entry.endpoint = endpoint) ∨ t.entries.lookup m = some entry := by
  rcases assignOrReuseLabel_cases t n endpoint now with
    ⟨old, -, heq⟩ | ⟨fresh, -, -, -, heq⟩ | ⟨-, -, heq⟩
  · rw [heq, AList.lookup_insert_eq] at h
    split at h
    · next hmn =>
      cases h
      exact .inl ⟨hmn, rfl⟩
    · exact .inr h
  · rw [heq, AList.lookup_insert_eq] at h
    split at h
    · next hmn =>
      cases h
      exact .inl ⟨hmn, rfl⟩
    · exact .inr h
  · rw [heq] at h
    exact .inr h

/-- A table as the protocol builds it: entries are kept under their node's id,
are alive, and hold distinct labels. -/
structure WellFormed (t : NeighborTable) : Prop where
  keyed : ∀ {n entry}, t.entries.lookup n = some entry → entry.nodeId = n ∧ entry.alive = true
  distinct : ∀ {m n e e'}, t.entries.lookup m = some e → t.entries.lookup n = some e' →
    e.labelAssignedByMeToNeighbor = e'.labelAssignedByMeToNeighbor → m = n

theorem wellFormed_empty : WellFormed {} where
  keyed h := absurd h (by simp)
  distinct h := absurd h (by simp)

theorem labelInUse_of_lookup {t : NeighborTable} (ht : t.WellFormed) {n : NodeId}
    {entry : NeighborEntry} (h : t.entries.lookup n = some entry) :
    t.labelInUse entry.labelAssignedByMeToNeighbor = true := by
  refine List.any_eq_true.mpr ⟨entry, AList.mem_values_iff.mpr ⟨n, h⟩, ?_⟩
  simp [(ht.keyed h).2]

/-- An entry whose label no other node holds may be written. -/
theorem WellFormed.insert {t : NeighborTable} (ht : t.WellFormed) {n : NodeId}
    {entry : NeighborEntry} (hid : entry.nodeId = n) (halive : entry.alive = true)
    (hother : ∀ m e, m ≠ n → t.entries.lookup m = some e →
      e.labelAssignedByMeToNeighbor ≠ entry.labelAssignedByMeToNeighbor) :
    WellFormed ⟨t.entries.insert n entry⟩ := by
  refine ⟨fun {k e} hk => ?_, fun {k k' e e'} hk hk' hlabel => ?_⟩
  · rw [AList.lookup_insert_eq] at hk
    split at hk
    · next hkn =>
      cases hk
      exact ⟨hid.trans hkn.symm, halive⟩
    · exact ht.keyed hk
  · rw [AList.lookup_insert_eq] at hk hk'
    by_cases hkn : k = n <;> by_cases hkn' : k' = n
    · rw [hkn, hkn']
    · rw [if_pos hkn] at hk
      rw [if_neg hkn'] at hk'
      cases hk
      exact absurd hlabel.symm (hother k' e' hkn' hk')
    · rw [if_neg hkn] at hk
      rw [if_pos hkn'] at hk'
      cases hk'
      exact absurd hlabel (hother k e hkn hk)
    · rw [if_neg hkn] at hk
      rw [if_neg hkn'] at hk'
      exact ht.distinct hk hk' hlabel

/-- Assigning a label keeps a table well formed. -/
theorem WellFormed.assign {t : NeighborTable} (ht : t.WellFormed) (n : NodeId)
    (endpoint : SocketAddr) (now : Nat) :
    (t.assignOrReuseLabel n endpoint now).1.WellFormed := by
  rcases assignOrReuseLabel_cases t n endpoint now with
    ⟨entry, hentry, heq⟩ | ⟨fresh, -, -, hfree, heq⟩ | ⟨-, -, heq⟩
  · rw [heq]
    refine ht.insert (ht.keyed hentry).1 rfl fun m e hm he hlabel => ?_
    exact hm (ht.distinct he hentry hlabel)
  · rw [heq]
    refine ht.insert rfl rfl fun m e _ he hlabel => ?_
    have hused := labelInUse_of_lookup ht he
    rw [hlabel] at hused
    exact Bool.false_ne_true (hfree.symm.trans hused)
  · rw [heq]
    exact ht

/-- In a well-formed table, a label resolves to the node it was assigned to, in
whatever order the table iterates. -/
theorem WellFormed.neighborByLabel {t : NeighborTable} (ht : t.WellFormed) {n : NodeId}
    {entry : NeighborEntry} (h : t.entries.lookup n = some entry) :
    t.neighborByLabel entry.labelAssignedByMeToNeighbor = some entry := by
  refine AList.find?_values_eq_some h (by simp [(ht.keyed h).2]) fun m e hm he => ?_
  have hlabel : e.labelAssignedByMeToNeighbor = entry.labelAssignedByMeToNeighbor := by
    have := (Bool.and_eq_true _ _ ▸ he).2
    exact eq_of_beq this
  obtain rfl : m = n := ht.distinct hm h hlabel
  exact Option.some.inj (hm.symm.trans h)

/-- Iterating in another order keeps a table well formed. -/
theorem WellFormed.reorder {t t' : NeighborTable} (ht : t.WellFormed)
    (h : t.entries.SameMap t'.entries) : t'.WellFormed := by
  refine ⟨fun {n entry} hn => ?_, fun {m n e e'} hm hn => ?_⟩
  · exact ht.keyed ((h.lookup_eq n).trans hn)
  · exact ht.distinct ((h.lookup_eq m).trans hm) ((h.lookup_eq n).trans hn)

end NeighborTable

/-- A label a neighbour assigned to this node. -/
structure LabelEntry where
  neighborNodeId : NodeId
  labelAssignedByNeighborToMe : Label
  lastSeenMillis : Nat
deriving DecidableEq

/-- Labels assigned to this node, per neighbour. -/
structure LabelTable where
  entries : HashMap NodeId LabelEntry := ∅
deriving DecidableEq

namespace LabelTable

/-- `LabelTable::update_from_hello_reply`. -/
def updateFromHelloReply (self : LabelTable) (neighborNodeId : NodeId) (label : Label)
    (now : Nat) : LabelTable :=
  { entries := self.entries.insert neighborNodeId
      { neighborNodeId := neighborNodeId, labelAssignedByNeighborToMe := label,
        lastSeenMillis := now } }

/-- `LabelTable::label_assigned_by_neighbor`. -/
def labelAssignedByNeighbor (self : LabelTable) (neighborNodeId : NodeId) : Option Label :=
  (self.entries.lookup neighborNodeId).map LabelEntry.labelAssignedByNeighborToMe

theorem labelAssignedByNeighbor_update (t : LabelTable) (m n : NodeId) (label : Label)
    (now : Nat) :
    (t.updateFromHelloReply n label now).labelAssignedByNeighbor m =
      if m = n then some label else t.labelAssignedByNeighbor m := by
  unfold labelAssignedByNeighbor updateFromHelloReply
  simp only [AList.lookup_insert_eq]
  split <;> rfl

end LabelTable

end DlDsr
