import DlDsr.Core.Tables
import Mathlib.Data.Finset.Card

/-!
# Label allocation

A table that is only written by `assign_or_reuse_label` hands out a label for good: the
node that asks first gets the least free one, and keeps it when it asks again
(`allocation`). Every entry of such a table is alive. The type also admits dead entries,
and the two branches of the function treat them differently: the labels of dead entries
count as free, but a dead entry is revived with the label it had. Reviving is safe
exactly if that label has not been given to somebody else (`revival_iff`).
-/

namespace DlDsr

/-- One call of `assign_or_reuse_label`. -/
structure Assignment where
  nodeId : NodeId
  endpoint : SocketAddr
  now : Nat
deriving DecidableEq

namespace NeighborTable

variable {t : NeighborTable} {n : NodeId}

/-- The call. -/
def assign (self : NeighborTable) (a : Assignment) : NeighborTable × Except DldsrError Label :=
  self.assignOrReuseLabel a.nodeId a.endpoint a.now

/-- The table after a sequence of calls, listed latest first, on the empty table. -/
def afterAssigns : List Assignment → NeighborTable
  | [] => {}
  | a :: earlier => ((afterAssigns earlier).assign a).1

/-- The successful ones of these calls, with the labels they returned. -/
def grants : List Assignment → List (Assignment × Label)
  | [] => []
  | a :: earlier =>
    match ((afterAssigns earlier).assign a).2 with
    | .ok label => (a, label) :: grants earlier
    | .error _ => grants earlier

/-- The successful calls for one node. -/
def grantsOf (n : NodeId) (calls : List Assignment) : List (Assignment × Label) :=
  (grants calls).filter fun g => g.1.nodeId == n

/-- The entry that the successful calls for a node make: the label of the first one, and
the endpoint and the time of the latest. -/
def grantedEntry (n : NodeId) (granted : List (Assignment × Label)) : Option NeighborEntry :=
  granted.head?.bind fun latest => granted.getLast?.map fun first =>
    { nodeId := n, labelAssignedByMeToNeighbor := first.2, lastSeenMillis := latest.1.now,
      endpoint := latest.1.endpoint, alive := true }

/-! ## Free labels -/

theorem mem_labelCandidates {label : Label} : label ∈ labelCandidates ↔ label ≠ 0 := by
  unfold labelCandidates
  rw [List.mem_map]
  constructor
  · rintro ⟨k, hk, rfl⟩ hzero
    have hrange := List.mem_range'_1.mp hk
    have hmod : k % 256 = 0 := by simpa using congrArg UInt8.toNat hzero
    omega
  · intro hne
    refine ⟨label.toNat, List.mem_range'_1.mpr ?_, UInt8.ofNat_toNat⟩
    have hlt := label.toNat_lt
    have hpos : label.toNat ≠ 0 := fun hzero => hne (UInt8.toNat_inj.mp hzero)
    omega

theorem card_labelCandidates : labelCandidates.toFinset.card = 255 := by
  have hnodup : labelCandidates.Nodup := by
    refine List.Nodup.map_on (fun i hi j hj heq => ?_) (List.nodup_range' ..)
    have hi := List.mem_range'_1.mp hi
    have hj := List.mem_range'_1.mp hj
    have hmod : i % 256 = j % 256 := by simpa using congrArg UInt8.toNat heq
    omega
  rw [List.toFinset_card_of_nodup hnodup, labelCandidates, List.length_map, List.length_range']

/-- The labels of the entries, in iteration order. -/
def heldLabels (self : NeighborTable) : List Label :=
  self.entries.values.map NeighborEntry.labelAssignedByMeToNeighbor

theorem length_heldLabels (t : NeighborTable) : t.heldLabels.length = t.entries.size := by
  simp [heldLabels, AList.values, AList.size]

theorem mem_heldLabels {label : Label} :
    label ∈ t.heldLabels ↔ ∃ n entry, t.entries.lookup n = some entry ∧
      entry.labelAssignedByMeToNeighbor = label := by
  unfold heldLabels
  rw [List.mem_map]
  constructor
  · rintro ⟨entry, hmem, rfl⟩
    obtain ⟨n, hn⟩ := AList.mem_values_iff.mp hmem
    exact ⟨n, entry, hn, rfl⟩
  · rintro ⟨n, entry, hn, rfl⟩
    exact ⟨entry, AList.mem_values_iff.mpr ⟨n, hn⟩, rfl⟩

theorem WellFormed.heldLabels_nodup (ht : t.WellFormed) : t.heldLabels.Nodup := by
  unfold heldLabels AList.values
  rw [List.map_map]
  refine List.Nodup.map_on (fun e he e' he' hlabel => ?_)
    (List.Nodup.of_map Sigma.fst t.entries.nodupKeys)
  have hlookup := AList.mem_entries_iff.mp (show ⟨e.1, e.2⟩ ∈ t.entries.entries from he)
  have hlookup' := AList.mem_entries_iff.mp (show ⟨e'.1, e'.2⟩ ∈ t.entries.entries from he')
  have hkey : e.1 = e'.1 := ht.distinct hlookup hlookup' hlabel
  rw [hkey, hlookup'] at hlookup
  exact Sigma.ext hkey (heq_of_eq (Option.some.inj hlookup).symm)

/-- In a table as the protocol builds it, the labels in use are those of the entries. -/
theorem WellFormed.labelInUse_iff (ht : t.WellFormed) {label : Label} :
    t.labelInUse label = true ↔ label ∈ t.heldLabels := by
  rw [mem_heldLabels]
  constructor
  · intro h
    obtain ⟨entry, hmem, hentry⟩ := List.any_eq_true.mp h
    obtain ⟨n, hn⟩ := AList.mem_values_iff.mp hmem
    exact ⟨n, entry, hn, eq_of_beq (Bool.and_eq_true _ _ ▸ hentry).2⟩
  · rintro ⟨n, entry, hn, rfl⟩
    exact labelInUse_of_lookup ht hn

/-- The search for a free label fails only if 255 entries hold one each. -/
theorem WellFormed.exhausted_iff (ht : t.WellFormed) (hrange : ∀ l ∈ t.heldLabels, l ≠ 0) :
    (labelCandidates.find? fun candidate => !t.labelInUse candidate) = none ↔
      t.entries.size = 255 := by
  have hcard : t.heldLabels.toFinset.card = t.entries.size := by
    rw [List.toFinset_card_of_nodup ht.heldLabels_nodup, length_heldLabels]
  have hsub : t.heldLabels.toFinset ⊆ labelCandidates.toFinset := by
    intro label hlabel
    rw [List.mem_toFinset] at hlabel ⊢
    exact mem_labelCandidates.mpr (hrange label hlabel)
  rw [List.find?_eq_none]
  constructor
  · intro hall
    -- Every candidate is held, so there are as many entries as candidates.
    have hle : labelCandidates.toFinset ⊆ t.heldLabels.toFinset := by
      intro label hlabel
      rw [List.mem_toFinset] at hlabel ⊢
      exact ht.labelInUse_iff.mp (by simpa using hall label hlabel)
    rw [← hcard, hsub.antisymm hle, card_labelCandidates]
  · intro hsize label hlabel
    -- As many labels are held as there are candidates, so they are all of them.
    have heq : t.heldLabels.toFinset = labelCandidates.toFinset := by
      refine Finset.eq_of_subset_of_card_le hsub ?_
      rw [hcard, hsize, card_labelCandidates]
    have hheld : label ∈ t.heldLabels := by
      rw [← List.mem_toFinset, heq, List.mem_toFinset]
      exact hlabel
    simpa using ht.labelInUse_iff.mpr hheld

/-! ## Sequences of calls -/

theorem afterAssigns_wellFormed (calls : List Assignment) : (afterAssigns calls).WellFormed := by
  induction calls with
  | nil => exact wellFormed_empty
  | cons a earlier ih => exact ih.assign a.nodeId a.endpoint a.now

/-- Label 0 is never assigned. -/
theorem assign_label_ne_zero (hrange : ∀ l ∈ t.heldLabels, l ≠ 0) (a : Assignment) :
    ∀ l ∈ (t.assign a).1.heldLabels, l ≠ 0 := by
  intro l hl
  obtain ⟨m, entry, hm, rfl⟩ := mem_heldLabels.mp hl
  change ((t.assignOrReuseLabel a.nodeId a.endpoint a.now).1).entries.lookup m = some entry at hm
  rcases assignOrReuseLabel_cases t a.nodeId a.endpoint a.now with
    ⟨old, hold, heq⟩ | ⟨label, hlabel, -, -, heq⟩ | ⟨-, -, heq⟩
  · rw [heq, AList.lookup_insert_eq] at hm
    split at hm
    · cases hm
      exact hrange _ (mem_heldLabels.mpr ⟨_, old, hold, rfl⟩)
    · exact hrange _ (mem_heldLabels.mpr ⟨m, entry, hm, rfl⟩)
  · rw [heq, AList.lookup_insert_eq] at hm
    split at hm
    · cases hm
      exact mem_labelCandidates.mp hlabel
    · exact hrange _ (mem_heldLabels.mpr ⟨m, entry, hm, rfl⟩)
  · rw [heq] at hm
    exact hrange _ (mem_heldLabels.mpr ⟨m, entry, hm, rfl⟩)

theorem afterAssigns_label_ne_zero (calls : List Assignment) :
    ∀ l ∈ (afterAssigns calls).heldLabels, l ≠ 0 := by
  induction calls with
  | nil => exact fun l hl => absurd hl List.not_mem_nil
  | cons a earlier ih => exact assign_label_ne_zero ih a

theorem grantsOf_cons_ok {a : Assignment} {earlier : List Assignment} {label : Label}
    (h : ((afterAssigns earlier).assign a).2 = .ok label) (n : NodeId) :
    grantsOf n (a :: earlier) =
      if a.nodeId = n then (a, label) :: grantsOf n earlier else grantsOf n earlier := by
  unfold grantsOf
  rw [grants, h]
  by_cases hn : a.nodeId = n <;> simp [hn]

theorem grantsOf_cons_error {a : Assignment} {earlier : List Assignment} {err : DldsrError}
    (h : ((afterAssigns earlier).assign a).2 = .error err) (n : NodeId) :
    grantsOf n (a :: earlier) = grantsOf n earlier := by
  unfold grantsOf
  rw [grants, h]

/-- A further successful call for a node whose entry is the granted one. -/
theorem grantedEntry_cons {granted : List (Assignment × Label)} {entry : NeighborEntry}
    (h : grantedEntry n granted = some entry) (a : Assignment) (label : Label) :
    grantedEntry n ((a, label) :: granted) =
      some { entry with endpoint := a.endpoint, lastSeenMillis := a.now, alive := true } := by
  cases granted with
  | nil => cases h
  | cons g rest =>
    have h : ((g :: rest).getLast?.map fun first =>
        (⟨n, first.2, g.1.now, g.1.endpoint, true⟩ : NeighborEntry)) = some entry := h
    obtain ⟨first, hfirst, rfl⟩ := Option.map_eq_some_iff.mp h
    unfold grantedEntry
    rw [List.getLast?_cons_cons, hfirst]
    rfl

/-- The table holds what was granted. -/
theorem lookup_afterAssigns (calls : List Assignment) (n : NodeId) :
    (afterAssigns calls).entries.lookup n = grantedEntry n (grantsOf n calls) := by
  induction calls with
  | nil => rfl
  | cons a earlier ih =>
    rcases assignOrReuseLabel_cases (afterAssigns earlier) a.nodeId a.endpoint a.now with
      ⟨entry, hentry, heq⟩ | ⟨label, -, hnone, -, heq⟩ | ⟨-, -, heq⟩
    · have htable : afterAssigns (a :: earlier) = _ := congrArg Prod.fst heq
      have hok : ((afterAssigns earlier).assign a).2 = _ := congrArg Prod.snd heq
      rw [htable, grantsOf_cons_ok hok n, AList.lookup_insert_eq]
      by_cases hn : n = a.nodeId
      · subst hn
        rw [if_pos rfl, if_pos rfl, grantedEntry_cons (ih.symm.trans hentry)]
      · rw [if_neg hn, if_neg (Ne.symm hn), ih]
    · have htable : afterAssigns (a :: earlier) = _ := congrArg Prod.fst heq
      have hok : ((afterAssigns earlier).assign a).2 = _ := congrArg Prod.snd heq
      rw [htable, grantsOf_cons_ok hok n, AList.lookup_insert_eq]
      by_cases hn : n = a.nodeId
      · subst hn
        rw [if_pos rfl, if_pos rfl]
        -- Nothing was granted to the node before.
        cases hgranted : grantsOf a.nodeId earlier with
        | nil => rfl
        | cons g rest =>
          rw [hgranted, hnone] at ih
          cases hlast : (g :: rest).getLast? with
          | none => simp at hlast
          | some first => simp [grantedEntry, hlast] at ih
      · rw [if_neg hn, if_neg (Ne.symm hn), ih]
    · have htable : afterAssigns (a :: earlier) = _ := congrArg Prod.fst heq
      have herr : ((afterAssigns earlier).assign a).2 = _ := congrArg Prod.snd heq
      rw [htable, grantsOf_cons_error herr n, ih]

/-- Every grant for a node is of the label of the first one. -/
theorem label_of_mem_grantsOf (calls : List Assignment) {g : Assignment × Label}
    (h : g ∈ grantsOf n calls) : (afterAssigns calls).labelOf n = some g.2 := by
  induction calls with
  | nil => cases h
  | cons a earlier ih =>
    cases hresult : ((afterAssigns earlier).assign a).2 with
    | error err =>
      rw [grantsOf_cons_error hresult n] at h
      exact labelOf_assign (ih h)
    | ok label =>
      rw [grantsOf_cons_ok hresult n] at h
      split at h
      · next hn =>
        rcases List.mem_cons.mp h with rfl | hold
        · subst hn
          exact labelOf_assign_self hresult
        · exact labelOf_assign (ih hold)
      · exact labelOf_assign (ih h)

/-- In a table as the protocol builds it, the search by label finds the entry that holds
the label, and nothing else. -/
theorem WellFormed.neighborByLabel_eq_some (ht : t.WellFormed) {label : Label}
    {entry : NeighborEntry} :
    t.neighborByLabel label = some entry ↔
      ∃ n, t.entries.lookup n = some entry ∧ entry.labelAssignedByMeToNeighbor = label := by
  constructor
  · intro h
    obtain ⟨n, hn, hentry⟩ := AList.lookup_of_find?_values h
    exact ⟨n, hn, eq_of_beq (Bool.and_eq_true _ _ ▸ hentry).2⟩
  · rintro ⟨n, hn, rfl⟩
    exact ht.neighborByLabel hn

/-- An assignment fails if the node is new and 255 nodes hold a label. -/
theorem WellFormed.assign_error_iff (ht : t.WellFormed) (hrange : ∀ l ∈ t.heldLabels, l ≠ 0)
    (a : Assignment) :
    (∃ err, (t.assign a).2 = .error err) ↔ a.nodeId ∉ t.entries ∧ t.entries.size = 255 := by
  rw [← AList.lookup_eq_none, ← ht.exhausted_iff hrange]
  unfold NeighborTable.assign
  rcases assignOrReuseLabel_cases t a.nodeId a.endpoint a.now with
    ⟨entry, hentry, heq⟩ | ⟨label, hlabel, -, hfree, heq⟩ | ⟨hnone, hexhausted, heq⟩
  · rw [heq, hentry]
    simp
  · rw [heq]
    refine ⟨fun ⟨_, herr⟩ => (by cases herr), fun ⟨_, hall⟩ => ?_⟩
    have hused := List.find?_eq_none.mp hall label hlabel
    rw [hfree] at hused
    exact absurd rfl hused
  · rw [heq]
    exact ⟨fun _ => ⟨hnone, hexhausted⟩, fun _ => ⟨_, rfl⟩⟩

theorem assign_eq_of_error {a : Assignment} {err : DldsrError}
    (h : (t.assign a).2 = .error err) : (t.assign a).1 = t := by
  unfold assign at h ⊢
  rcases assignOrReuseLabel_cases t a.nodeId a.endpoint a.now with
    ⟨entry, -, heq⟩ | ⟨label, -, -, -, heq⟩ | ⟨-, -, heq⟩
  · rw [heq] at h
    cases h
  · rw [heq] at h
    cases h
  · rw [heq]

/-- What a sequence of calls on the empty table amounts to. -/
structure Allocated (calls : List Assignment) : Prop where
  range : ∀ {n entry}, (afterAssigns calls).entries.lookup n = some entry →
    1 ≤ entry.labelAssignedByMeToNeighbor.toNat ∧ entry.labelAssignedByMeToNeighbor.toNat ≤ 255
  distinct : ∀ {m n e e'}, (afterAssigns calls).entries.lookup m = some e →
    (afterAssigns calls).entries.lookup n = some e' →
    e.labelAssignedByMeToNeighbor = e'.labelAssignedByMeToNeighbor → m = n
  /-- A node keeps its first label, and its latest endpoint and time. -/
  entry : ∀ n, (afterAssigns calls).entries.lookup n = grantedEntry n (grantsOf n calls)
  keeps : ∀ n, ∀ g ∈ grantsOf n calls, ∀ g' ∈ grantsOf n calls, g.2 = g'.2
  /-- Whatever the iteration order, a label resolves to the node that it was granted to. -/
  resolves : ∀ t : NeighborTable, (afterAssigns calls).entries.SameMap t.entries →
    ∀ label entry, t.neighborByLabel label = some entry ↔
      ∃ g ∈ grants calls, g.2 = label ∧ t.entries.lookup g.1.nodeId = some entry
  fails : ∀ a, (∃ err, ((afterAssigns calls).assign a).2 = .error err) ↔
    a.nodeId ∉ (afterAssigns calls).entries ∧ (afterAssigns calls).entries.size = 255
  unchanged : ∀ a err, ((afterAssigns calls).assign a).2 = .error err →
    ((afterAssigns calls).assign a).1 = afterAssigns calls

/-- An entry is held exactly if its label was granted to its node. -/
theorem exists_grant_iff (calls : List Assignment) {label : Label} {entry : NeighborEntry} :
    (∃ n, (afterAssigns calls).entries.lookup n = some entry ∧
        entry.labelAssignedByMeToNeighbor = label) ↔
      ∃ g ∈ grants calls, g.2 = label ∧
        (afterAssigns calls).entries.lookup g.1.nodeId = some entry := by
  constructor
  · rintro ⟨n, hn, rfl⟩
    have hgranted := hn
    rw [lookup_afterAssigns] at hgranted
    obtain ⟨latest, hlatest, -⟩ := Option.bind_eq_some_iff.mp hgranted
    have hmem : latest ∈ grantsOf n calls := List.mem_of_mem_head? hlatest
    obtain ⟨hgrant, hnode⟩ := List.mem_filter.mp hmem
    obtain rfl : latest.1.nodeId = n := eq_of_beq hnode
    refine ⟨latest, hgrant, ?_, hn⟩
    have hlabel := label_of_mem_grantsOf calls hmem
    rw [labelOf, hn] at hlabel
    exact (Option.some.inj hlabel).symm
  · rintro ⟨g, hg, rfl, hlookup⟩
    refine ⟨g.1.nodeId, hlookup, ?_⟩
    have hlabel := label_of_mem_grantsOf calls (n := g.1.nodeId)
      (List.mem_filter.mpr ⟨hg, beq_self_eq_true _⟩)
    rw [labelOf, hlookup] at hlabel
    exact Option.some.inj hlabel

/-- **Label allocation.** After any sequence of calls, every label that was granted stays
with the node it was first granted to, no two nodes share one, and a node is refused
only when all 255 are held. -/
theorem allocation (calls : List Assignment) : Allocated calls where
  range := by
    intro n entry hn
    have hne : entry.labelAssignedByMeToNeighbor ≠ 0 :=
      afterAssigns_label_ne_zero calls _ (mem_heldLabels.mpr ⟨n, entry, hn, rfl⟩)
    have hlt := entry.labelAssignedByMeToNeighbor.toNat_lt
    have hpos : entry.labelAssignedByMeToNeighbor.toNat ≠ 0 :=
      fun hzero => hne (UInt8.toNat_inj.mp hzero)
    omega
  distinct := (afterAssigns_wellFormed calls).distinct
  entry := lookup_afterAssigns calls
  keeps := by
    intro n g hg g' hg'
    exact Option.some.inj
      ((label_of_mem_grantsOf calls hg).symm.trans (label_of_mem_grantsOf calls hg'))
  resolves := by
    intro t ht label entry
    rw [((afterAssigns_wellFormed calls).reorder ht).neighborByLabel_eq_some]
    simp only [← ht.lookup_eq]
    exact exists_grant_iff calls
  fails := (afterAssigns_wellFormed calls).assign_error_iff (afterAssigns_label_ne_zero calls)
  unchanged _ _ := assign_eq_of_error

/-! ## Tables with dead entries -/

/-- The alive entries hold distinct labels from `1..=255`. -/
structure Unambiguous (t : NeighborTable) : Prop where
  range : ∀ {n entry}, t.entries.lookup n = some entry → entry.alive = true →
    1 ≤ entry.labelAssignedByMeToNeighbor.toNat ∧ entry.labelAssignedByMeToNeighbor.toNat ≤ 255
  distinct : ∀ {m n e e'}, t.entries.lookup m = some e → t.entries.lookup n = some e' →
    e.alive = true → e'.alive = true →
    e.labelAssignedByMeToNeighbor = e'.labelAssignedByMeToNeighbor → m = n

/-- A table as the type admits it: dead entries may hold any label. -/
structure Admissible (t : NeighborTable) : Prop extends Unambiguous t where
  keyed : ∀ {n entry}, t.entries.lookup n = some entry → entry.nodeId = n
  dead : ∀ {n entry}, t.entries.lookup n = some entry → entry.alive = false →
    1 ≤ entry.labelAssignedByMeToNeighbor.toNat ∧ entry.labelAssignedByMeToNeighbor.toNat ≤ 255

theorem Admissible.label_range (ht : t.Admissible) {entry : NeighborEntry}
    (h : t.entries.lookup n = some entry) :
    1 ≤ entry.labelAssignedByMeToNeighbor.toNat ∧
      entry.labelAssignedByMeToNeighbor.toNat ≤ 255 := by
  cases halive : entry.alive with
  | true => exact ht.range h halive
  | false => exact ht.dead h halive

/-- A successful call leaves the labels unambiguous, and the label that it returns
resolves to the entry of the node it was made for, in every iteration order. -/
def LabelsStayUnambiguous (t : NeighborTable) (a : Assignment) : Prop :=
  ∀ label, (t.assign a).2 = .ok label →
    Unambiguous (t.assign a).1 ∧
      ∀ t' : NeighborTable, (t.assign a).1.entries.SameMap t'.entries →
        ∃ entry, t'.entries.lookup a.nodeId = some entry ∧ entry.nodeId = a.nodeId ∧
          t'.neighborByLabel label = some entry

/-- No other alive entry holds the label that is recorded for the node. -/
def NotTakenOver (t : NeighborTable) (n : NodeId) : Prop :=
  ∀ entry, t.entries.lookup n = some entry → ∀ m other, m ≠ n →
    t.entries.lookup m = some other → other.alive = true →
      other.labelAssignedByMeToNeighbor ≠ entry.labelAssignedByMeToNeighbor

/-- An entry may be written if no other alive entry holds its label. -/
theorem Unambiguous.insert (ht : t.Unambiguous) {entry : NeighborEntry}
    (hrange : 1 ≤ entry.labelAssignedByMeToNeighbor.toNat ∧
      entry.labelAssignedByMeToNeighbor.toNat ≤ 255)
    (hother : ∀ m other, m ≠ n → t.entries.lookup m = some other → other.alive = true →
      other.labelAssignedByMeToNeighbor ≠ entry.labelAssignedByMeToNeighbor) :
    Unambiguous ⟨t.entries.insert n entry⟩ := by
  constructor
  · intro m e hm halive
    rw [AList.lookup_insert_eq] at hm
    split at hm
    · cases hm
      exact hrange
    · exact ht.range hm halive
  · intro m m' e e' hm hm' halive halive' hlabel
    rw [AList.lookup_insert_eq] at hm hm'
    by_cases hn : m = n
    · by_cases hn' : m' = n
      · rw [hn, hn']
      · rw [if_pos hn] at hm
        rw [if_neg hn'] at hm'
        cases hm
        exact absurd hlabel.symm (hother m' e' hn' hm' halive')
    · rw [if_neg hn] at hm
      by_cases hn' : m' = n
      · rw [if_pos hn'] at hm'
        cases hm'
        exact absurd hlabel (hother m e hn hm halive)
      · rw [if_neg hn'] at hm'
        exact ht.distinct hm hm' halive halive' hlabel

/-- In an unambiguous table the label of an alive entry resolves to it. -/
theorem Unambiguous.neighborByLabel (ht : t.Unambiguous) {entry : NeighborEntry}
    (h : t.entries.lookup n = some entry) (halive : entry.alive = true) :
    t.neighborByLabel entry.labelAssignedByMeToNeighbor = some entry := by
  refine AList.find?_values_eq_some h (by simp [halive]) fun m other hm hother => ?_
  obtain ⟨halive', hlabel⟩ := (Bool.and_eq_true _ _).mp hother
  obtain rfl : m = n := ht.distinct hm h halive' halive (eq_of_beq hlabel)
  exact Option.some.inj (hm.symm.trans h)

theorem Unambiguous.reorder {t' : NeighborTable} (ht : t.Unambiguous)
    (h : t.entries.SameMap t'.entries) : t'.Unambiguous := by
  constructor
  · intro m e hm halive
    exact ht.range ((h.lookup_eq m).trans hm) halive
  · intro m m' e e' hm hm' halive halive' hlabel
    exact ht.distinct ((h.lookup_eq m).trans hm) ((h.lookup_eq m').trans hm') halive halive' hlabel

/-- A call that writes an alive entry with a label that nobody else holds. -/
theorem labelsStayUnambiguous_of_insert (ht : t.Admissible) {a : Assignment}
    {entry : NeighborEntry} (hid : entry.nodeId = a.nodeId) (halive : entry.alive = true)
    (hrange : 1 ≤ entry.labelAssignedByMeToNeighbor.toNat ∧
      entry.labelAssignedByMeToNeighbor.toNat ≤ 255)
    (hother : ∀ m other, m ≠ a.nodeId → t.entries.lookup m = some other → other.alive = true →
      other.labelAssignedByMeToNeighbor ≠ entry.labelAssignedByMeToNeighbor)
    (heq : t.assign a =
      (⟨t.entries.insert a.nodeId entry⟩, .ok entry.labelAssignedByMeToNeighbor)) :
    t.LabelsStayUnambiguous a := by
  intro label hlabel
  rw [heq] at hlabel ⊢
  cases hlabel
  have hafter : Unambiguous ⟨t.entries.insert a.nodeId entry⟩ := ht.insert hrange hother
  refine ⟨hafter, fun t' ht' => ?_⟩
  have hlookup : t'.entries.lookup a.nodeId = some entry := by
    rw [← ht'.lookup_eq, AList.lookup_insert_eq, if_pos rfl]
  exact ⟨entry, hlookup, hid, (hafter.reorder ht').neighborByLabel hlookup halive⟩

/-- **Reviving a neighbour.** A call keeps the labels unambiguous exactly if the label
recorded for the node, if any, has not been given to another node that is alive. -/
theorem revival_iff (ht : t.Admissible) (a : Assignment) :
    t.LabelsStayUnambiguous a ↔ t.NotTakenOver a.nodeId := by
  rcases assignOrReuseLabel_cases t a.nodeId a.endpoint a.now with
    ⟨entry, hentry, heq⟩ | ⟨label, hlabel, hnone, hfree, heq⟩ | ⟨hnone, -, heq⟩
  · constructor
    · intro h entry' hentry' m other hm hother halive hsame
      obtain rfl : entry = entry' := Option.some.inj (hentry.symm.trans hentry')
      -- Both entries are alive after the call, with one label.
      obtain ⟨hafter, -⟩ := h entry.labelAssignedByMeToNeighbor (congrArg Prod.snd heq)
      change Unambiguous (t.assignOrReuseLabel a.nodeId a.endpoint a.now).1 at hafter
      rw [heq] at hafter
      have hother' := hother
      rw [← AList.lookup_insert_ne hm] at hother'
      exact hm (hafter.distinct hother' (AList.lookup_insert _) halive rfl hsame)
    · intro h
      have hid : entry.nodeId = a.nodeId := ht.keyed hentry
      have hrange := ht.label_range hentry
      refine labelsStayUnambiguous_of_insert ht ?_ ?_ ?_ ?_ heq
      · exact hid
      · rfl
      · exact hrange
      · exact h entry hentry
  · constructor
    · intro _ entry hentry
      rw [hnone] at hentry
      cases hentry
    · intro _
      have hne := mem_labelCandidates.mp hlabel
      have hlt := label.toNat_lt
      have hpos : label.toNat ≠ 0 := fun hzero => hne (UInt8.toNat_inj.mp hzero)
      have hrange : 1 ≤ label.toNat ∧ label.toNat ≤ 255 := by omega
      refine labelsStayUnambiguous_of_insert ht rfl rfl hrange ?_ heq
      intro m other _ hother halive hsame
      have hused : t.labelInUse label = true := by
        refine List.any_eq_true.mpr ⟨other, AList.mem_values_iff.mpr ⟨m, hother⟩, ?_⟩
        simp [halive, hsame]
      rw [hfree] at hused
      cases hused
  · constructor
    · intro _ entry hentry
      rw [hnone] at hentry
      cases hentry
    · intro _ label hlabel
      have herr : (t.assign a).2 = .error .labelSpaceExhausted := congrArg Prod.snd heq
      rw [herr] at hlabel
      cases hlabel

/-- Node 1 is dead, and its label is 1. -/
def deadNeighbor : NeighborTable := ⟨AList.insert 1 ⟨1, 1, 10, .localhost 7001, false⟩ ∅⟩

/-- Label 1 has been given to node 2 meanwhile. -/
def deadNeighborTakenOver : NeighborTable :=
  ⟨deadNeighbor.entries.insert 2 ⟨2, 1, 20, .localhost 7002, true⟩⟩

example : (deadNeighbor.assign ⟨2, .localhost 7002, 20⟩).1 = deadNeighborTakenOver := rfl

theorem deadNeighbor_admissible : deadNeighbor.Admissible := by
  have hlookup : ∀ {n entry}, deadNeighbor.entries.lookup n = some entry →
      n = 1 ∧ entry = ⟨1, 1, 10, .localhost 7001, false⟩ := by
    intro n entry h
    unfold deadNeighbor at h
    rw [AList.lookup_insert_eq] at h
    split at h
    · next hn => exact ⟨hn, (Option.some.inj h).symm⟩
    · cases h
  refine ⟨⟨fun h halive => ?_, fun h h' _ _ _ => ?_⟩, fun h => ?_, fun h _ => ?_⟩
  · obtain ⟨-, rfl⟩ := hlookup h
    cases halive
  · rw [(hlookup h).1, (hlookup h').1]
  · obtain ⟨rfl, rfl⟩ := hlookup h
    rfl
  · obtain ⟨-, rfl⟩ := hlookup h
    decide

theorem deadNeighborTakenOver_admissible : deadNeighborTakenOver.Admissible := by
  have hlookup : ∀ {n entry}, deadNeighborTakenOver.entries.lookup n = some entry →
      (n = 2 ∧ entry = ⟨2, 1, 20, .localhost 7002, true⟩) ∨
        (entry.alive = false ∧ deadNeighbor.entries.lookup n = some entry) := by
    intro n entry h
    unfold deadNeighborTakenOver at h
    rw [AList.lookup_insert_eq] at h
    split at h
    · next hn => exact .inl ⟨hn, (Option.some.inj h).symm⟩
    · refine .inr ⟨?_, h⟩
      cases halive : entry.alive with
      | false => rfl
      | true =>
        unfold deadNeighbor at h
        rw [AList.lookup_insert_eq] at h
        split at h
        · cases h
          cases halive
        · cases h
  refine ⟨⟨fun h halive => ?_, fun h h' halive halive' _ => ?_⟩, fun h => ?_, fun h hdead => ?_⟩
  · rcases hlookup h with ⟨-, rfl⟩ | ⟨hdead, -⟩
    · decide
    · rw [halive] at hdead
      cases hdead
  · rcases hlookup h with ⟨hn, -⟩ | ⟨hdead, -⟩
    · rcases hlookup h' with ⟨hn', -⟩ | ⟨hdead', -⟩
      · rw [hn, hn']
      · rw [halive'] at hdead'
        cases hdead'
    · rw [halive] at hdead
      cases hdead
  · rcases hlookup h with ⟨rfl, rfl⟩ | ⟨-, hold⟩
    · rfl
    · exact deadNeighbor_admissible.keyed hold
  · rcases hlookup h with ⟨-, rfl⟩ | ⟨-, hold⟩
    · cases hdead
    · exact deadNeighbor_admissible.dead hold hdead

/-- While label 1 is free, node 1 may be revived. -/
theorem revival_iff_dead : deadNeighbor.LabelsStayUnambiguous ⟨1, .localhost 7001, 30⟩ := by
  refine (revival_iff deadNeighbor_admissible _).mpr fun entry _ m other hm hother _ _ => ?_
  unfold deadNeighbor at hother
  rw [AList.lookup_insert_eq, if_neg hm] at hother
  cases hother

/-- Reviving node 1 when node 2 has its label gives both of them label 1. -/
theorem revived_label_taken :
    ¬ ∀ t : NeighborTable, t.Admissible → ∀ a, t.LabelsStayUnambiguous a := by
  intro h
  obtain ⟨hafter, -⟩ := h _ deadNeighborTakenOver_admissible ⟨1, .localhost 7001, 30⟩ 1 (by decide)
  exact absurd (hafter.distinct (m := 1) (n := 2) rfl rfl rfl rfl rfl) (by decide)

end NeighborTable

end DlDsr
