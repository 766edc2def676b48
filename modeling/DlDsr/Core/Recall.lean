import DlDsr.Core.Route
import DlDsr.Lib.Greatest

/-!
# What the duplicate cache remembers

After a sequence of `mark_if_new` calls with non-decreasing clock values, the cache
holds the `maxEntries` latest of the marks that have not expired (`ages_afterMarks`),
where a mark counts as later if it comes later in the *eviction order*: by time, then by
source, then by request id. Among marks of one millisecond the order of the calls is
thus forgotten, and a key that was marked last may be the first to go
(`remembered_iff`, `just_marked_forgotten`).
-/

namespace DlDsr

/-- A place in the eviction order. -/
abbrev Age := Nat ×ₗ Nat ×ₗ Nat

/-- One call of `mark_if_new`. -/
structure Mark where
  key : RequestKey
  now : Nat
deriving DecidableEq

/-- The place of a mark in the eviction order. -/
def Mark.age (mark : Mark) : Age := SeenRequests.evictionKey ⟨mark.key, mark.now⟩

/-- The latest mark of every key; the marks are listed latest first. -/
def latestMarks : List Mark → List Mark
  | [] => []
  | mark :: earlier => mark :: (latestMarks earlier).filter fun m => m.key ≠ mark.key

/-- The marks that come after `mark` in the eviction order, one for every key. -/
def outranking (mark : Mark) (marks : List Mark) : List Mark :=
  (latestMarks marks).filter fun m => mark.age < m.age

/-- The clock values do not decrease; the marks are listed latest first. -/
def NonDecreasing (marks : List Mark) : Prop :=
  marks.Pairwise fun later earlier => earlier.now ≤ later.now

instance (marks : List Mark) : Decidable (NonDecreasing marks) :=
  inferInstanceAs (Decidable (List.Pairwise _ _))

namespace Mark

theorem age_injective : Function.Injective age := by
  rintro ⟨⟨src, id⟩, now⟩ ⟨⟨src', id'⟩, now'⟩ h
  simp only [age, SeenRequests.evictionKey, EmbeddingLike.apply_eq_iff_eq, Prod.mk.injEq] at h
  obtain ⟨rfl, hsrc, rfl⟩ := h
  rw [UInt32.toNat_inj.mp hsrc]

/-- The place shows the key. -/
theorem key_eq_iff {m m' : Mark} : (ofLex m.age).2 = (ofLex m'.age).2 ↔ m.key = m'.key := by
  obtain ⟨⟨src, id⟩, now⟩ := m
  obtain ⟨⟨src', id'⟩, now'⟩ := m'
  simp only [age, SeenRequests.evictionKey, ofLex_toLex, EmbeddingLike.apply_eq_iff_eq,
    Prod.mk.injEq, UInt32.toNat_inj]

/-- Of two marks of one key the later one is not below the earlier. -/
theorem age_le_age {m m' : Mark} (hkey : m.key = m'.key) (hnow : m.now ≤ m'.now) :
    m.age ≤ m'.age := by
  rw [age, age, SeenRequests.evictionKey, SeenRequests.evictionKey, Prod.Lex.toLex_le_toLex]
  rcases Nat.lt_or_eq_of_le hnow with hlt | heq
  · exact .inl hlt
  · exact .inr ⟨heq, by rw [hkey]⟩

end Mark

theorem mem_latestMarks {marks : List Mark} {m : Mark} (h : m ∈ latestMarks marks) :
    m ∈ marks := by
  induction marks with
  | nil => cases h
  | cons mark earlier ih =>
    rcases List.mem_cons.mp h with rfl | h
    · exact List.mem_cons_self
    · exact List.mem_cons_of_mem _ (ih (List.mem_of_mem_filter h))

/-- Every key has one latest mark. -/
theorem latestMarks_unique {marks : List Mark} {m m' : Mark} (h : m ∈ latestMarks marks)
    (h' : m' ∈ latestMarks marks) (hkey : m.key = m'.key) : m = m' := by
  induction marks with
  | nil => cases h
  | cons mark earlier ih =>
    rcases List.mem_cons.mp h with rfl | h <;> rcases List.mem_cons.mp h' with rfl | h'
    · rfl
    · have hne := (List.mem_filter.mp h').2
      simp [hkey] at hne
    · have hne := (List.mem_filter.mp h).2
      simp [hkey] at hne
    · exact ih (List.mem_of_mem_filter h) (List.mem_of_mem_filter h')

theorem latestMarks_nodup (marks : List Mark) : (latestMarks marks).Nodup := by
  induction marks with
  | nil => exact List.nodup_nil
  | cons mark earlier ih =>
    refine List.nodup_cons.mpr ⟨fun hmem => ?_, ih.filter _⟩
    have hne := (List.mem_filter.mp hmem).2
    simp at hne

/-- A mark that is not repeated afterwards is the latest of its key. -/
theorem mem_latestMarks_append {recent earlier : List Mark} {m : Mark}
    (h : ∀ r ∈ recent, r.key ≠ m.key) : m ∈ latestMarks (recent ++ m :: earlier) := by
  induction recent with
  | nil => exact List.mem_cons_self
  | cons r recent ih =>
    refine List.mem_cons_of_mem _ (List.mem_filter.mpr ⟨?_, ?_⟩)
    · exact ih fun r' hr' => h r' (List.mem_cons_of_mem _ hr')
    · simpa using Ne.symm (h r List.mem_cons_self)

/-- The places of the latest marks. -/
def latestAges (marks : List Mark) : Finset Age := ((latestMarks marks).map Mark.age).toFinset

theorem mem_latestAges {marks : List Mark} {a : Age} :
    a ∈ latestAges marks ↔ ∃ m ∈ latestMarks marks, m.age = a := by
  simp [latestAges]

theorem latestAges_cons (mark : Mark) (earlier : List Mark) :
    latestAges (mark :: earlier) =
      insert mark.age ((latestAges earlier).filter fun a => (ofLex a).2 ≠ (ofLex mark.age).2) := by
  ext a
  rw [Finset.mem_insert, Finset.mem_filter, mem_latestAges, mem_latestAges]
  constructor
  · rintro ⟨m, hm, rfl⟩
    rcases List.mem_cons.mp hm with rfl | hm
    · exact .inl rfl
    · obtain ⟨hm, hne⟩ := List.mem_filter.mp hm
      refine .inr ⟨⟨m, hm, rfl⟩, fun heq => ?_⟩
      simp [Mark.key_eq_iff.mp heq] at hne
  · rintro (rfl | ⟨⟨m, hm, rfl⟩, hne⟩)
    · exact ⟨mark, List.mem_cons_self, rfl⟩
    · refine ⟨m, List.mem_cons_of_mem _ (List.mem_filter.mpr ⟨hm, ?_⟩), rfl⟩
      rw [ne_eq, Mark.key_eq_iff] at hne
      simpa using hne

/-- How many marks outrank one. -/
theorem card_above_latestAges (mark : Mark) (marks : List Mark) :
    ((latestAges marks).above mark.age).card = (outranking mark marks).length := by
  have himage : (latestAges marks).above mark.age =
      ((outranking mark marks).map Mark.age).toFinset := by
    ext a
    simp only [latestAges, outranking, Finset.mem_above, List.mem_toFinset, List.mem_map,
      List.mem_filter, decide_eq_true_eq]
    constructor
    · rintro ⟨⟨m, hm, rfl⟩, hlt⟩
      exact ⟨m, ⟨hm, hlt⟩, rfl⟩
    · rintro ⟨m, ⟨hm, hlt⟩, rfl⟩
      exact ⟨⟨m, hm, rfl⟩, hlt⟩
  have hnodup : (outranking mark marks).Nodup := (latestMarks_nodup marks).filter _
  rw [himage, List.toFinset_card_of_nodup (hnodup.map Mark.age_injective), List.length_map]

namespace SeenRequests

variable {self : SeenRequests} {maxEntries ttlMs now : Nat}

/-- The places of the entries of a cache. -/
def ages (self : SeenRequests) : Finset Age := (self.seen.entries.map evictionKey).toFinset

theorem mem_ages {m : Mark} : m.age ∈ self.ages ↔ self.seen.lookup m.key = some m.now := by
  rw [ages, List.mem_toFinset, List.mem_map]
  constructor
  · rintro ⟨⟨key, seenAt⟩, hmem, heq⟩
    obtain rfl : Mark.mk key seenAt = m := Mark.age_injective heq
    exact AList.mem_entries_iff.mp hmem
  · intro h
    exact ⟨_, AList.mem_entries_iff.mpr h, rfl⟩

/-- Every place belongs to a mark. -/
theorem exists_mark_of_mem_ages {a : Age} (h : a ∈ self.ages) : ∃ m : Mark, m.age = a := by
  obtain ⟨⟨key, seenAt⟩, -, heq⟩ := List.mem_map.mp (List.mem_toFinset.mp h)
  exact ⟨⟨key, seenAt⟩, heq⟩

/-- A set of places is that of a cache if it agrees on all marks. -/
theorem ages_eq {s : Finset Age} (hmark : ∀ a ∈ s, ∃ m : Mark, m.age = a)
    (h : ∀ m : Mark, self.seen.lookup m.key = some m.now ↔ m.age ∈ s) : self.ages = s := by
  ext a
  constructor
  · intro ha
    obtain ⟨m, rfl⟩ := exists_mark_of_mem_ages ha
    exact (h m).mp (mem_ages.mp ha)
  · intro ha
    obtain ⟨m, rfl⟩ := hmark a ha
    exact mem_ages.mpr ((h m).mpr ha)

theorem card_ages (self : SeenRequests) : self.ages.card = self.len := by
  have hnodup : (self.seen.entries.map evictionKey).Nodup := by
    refine List.Nodup.map_on (fun e _ e' _ heq => ?_)
      (List.Nodup.of_map Sigma.fst self.seen.nodupKeys)
    have hmark : Mark.mk e.1 e.2 = Mark.mk e'.1 e'.2 := Mark.age_injective heq
    exact Sigma.ext (congrArg Mark.key hmark) (heq_of_eq (congrArg Mark.now hmark))
  rw [ages, List.toFinset_card_of_nodup hnodup, List.length_map]
  rfl

/-- A place whose time has not expired. -/
def FreshAge (now ttlMs : Nat) (a : Age) : Prop := now - (ofLex a).1 ≤ ttlMs

instance : DecidablePred (FreshAge now ttlMs) := fun _ => inferInstanceAs (Decidable (_ ≤ _))

theorem freshAge_up (a b : Age) (h : a < b) (ha : FreshAge now ttlMs a) : FreshAge now ttlMs b := by
  have hle : (ofLex a).1 ≤ (ofLex b).1 := by
    rcases (Prod.Lex.lt_iff (x := a) (y := b)).mp h with hlt | ⟨heq, -⟩
    · exact Nat.le_of_lt hlt
    · exact Nat.le_of_eq heq
  unfold FreshAge at ha ⊢
  omega

/-- Pruning keeps the places that have not expired. -/
theorem ages_prune : (self.prune now ttlMs).ages = self.ages.filter (FreshAge now ttlMs) := by
  refine ages_eq (fun a ha => exists_mark_of_mem_ages (Finset.mem_filter.mp ha).1) fun m => ?_
  rw [Finset.mem_filter, mem_ages]
  have hretain := AList.lookup_retain (m := self.seen) (k := m.key) (v := m.now)
    (p := fun _ seenAt => decide (now - seenAt ≤ ttlMs))
  exact hretain.trans (and_congr_right fun _ => decide_eq_true_iff)

/-- A mark takes the place of the earlier one of its key. -/
theorem ages_marked (mark : Mark) :
    (self.marked mark.key mark.now ttlMs).ages =
      insert mark.age ((self.prune mark.now ttlMs).ages.filter
        fun a => (ofLex a).2 ≠ (ofLex mark.age).2) := by
  refine ages_eq (fun a ha => ?_) fun m => ?_
  · rcases Finset.mem_insert.mp ha with rfl | ha
    · exact ⟨mark, rfl⟩
    · exact exists_mark_of_mem_ages (Finset.mem_filter.mp ha).1
  · rw [lookup_marked, Finset.mem_insert, Finset.mem_filter, mem_ages, ne_eq, Mark.key_eq_iff,
      Mark.age_injective.eq_iff]
    split
    · next hkey =>
      constructor
      · intro hnow
        obtain ⟨key, now⟩ := m
        obtain rfl : key = mark.key := hkey
        cases Option.some.inj hnow
        exact .inl rfl
      · rintro (rfl | ⟨-, hne⟩)
        · rfl
        · exact absurd hkey hne
    · next hkey =>
      constructor
      · intro hlookup
        exact .inr ⟨hlookup, hkey⟩
      · rintro (rfl | ⟨hlookup, -⟩)
        · exact absurd rfl hkey
        · exact hlookup

/-- Eviction keeps the latest places. -/
theorem ages_enforceMaxEntries (self : SeenRequests) (maxEntries : Nat) :
    (self.enforceMaxEntries maxEntries).ages = self.ages.greatest maxEntries := by
  by_cases hmax : maxEntries = 0
  · subst hmax
    refine ages_eq (fun a ha => ?_) fun m => ?_
    · exact absurd (Finset.mem_greatest.mp ha).2 (Nat.not_lt_zero _)
    · rw [seen_enforceMaxEntries_zero, Finset.mem_greatest]
      simp
  by_cases hlen : self.len ≤ maxEntries
  · rw [enforceMaxEntries_of_le hmax hlen, Finset.greatest_eq_self]
    rw [card_ages]
    exact hlen
  -- Too much: the first entries of the sorted list go.
  have hsorted : (self.byAge.map evictionKey).Pairwise (· < ·) := by
    have hle : self.byAge.Pairwise fun a b => evictionKey a ≤ evictionKey b :=
      List.pairwise_insertionSort _ _
    have hne : self.byAge.Pairwise fun a b => a.1 ≠ b.1 :=
      List.pairwise_map.mp self.byAge_keys_nodup
    refine List.pairwise_map.mpr ((hle.and hne).imp fun {a b} h => lt_of_le_of_ne h.1 fun heq => ?_)
    have hmark : Mark.mk a.1 a.2 = Mark.mk b.1 b.2 := Mark.age_injective heq
    exact h.2 (congrArg Mark.key hmark)
  have hages : (self.byAge.map evictionKey).toFinset = self.ages :=
    List.toFinset_eq_of_perm _ _ (self.byAge_perm.map evictionKey)
  have hlength : (self.byAge.map evictionKey).length = self.len := by
    rw [List.length_map]
    exact self.byAge_perm.length_eq
  refine ages_eq (fun a ha => exists_mark_of_mem_ages (Finset.greatest_subset ha)) fun m => ?_
  rw [lookup_enforceMaxEntries hmax (by omega), Finset.mem_greatest, mem_ages]
  -- The key is among those that go exactly if its place is.
  have hgoes : self.seen.lookup m.key = some m.now →
      (m.key ∈ (self.byAge.take (self.len - maxEntries)).map Sigma.fst ↔
        maxEntries ≤ (self.ages.above m.age).card) := by
    intro hlookup
    have hmem : m.age ∈ self.byAge.map evictionKey := by
      rw [← List.mem_toFinset, hages]
      exact mem_ages.mpr hlookup
    rw [← hages, ← List.mem_take_iff_of_pairwise_lt hsorted maxEntries hmem, hlength,
      ← List.map_take, List.mem_map, List.mem_map]
    constructor
    · rintro ⟨e, he, hkey⟩
      refine ⟨e, he, ?_⟩
      have hentry := AList.mem_entries_iff.mp (self.byAge_perm.subset (List.mem_of_mem_take he))
      rw [hkey, hlookup] at hentry
      rw [Mark.age, ← hkey, Option.some.inj hentry]
    · rintro ⟨e, he, heq⟩
      have hmark : Mark.mk e.1 e.2 = m := Mark.age_injective heq
      exact ⟨e, he, congrArg Mark.key hmark⟩
  constructor
  · intro h
    split at h
    · cases h
    · next hkept =>
      refine ⟨h, ?_⟩
      rw [hgoes h] at hkept
      omega
  · rintro ⟨hlookup, hfew⟩
    rw [if_neg (fun hgone => absurd ((hgoes hlookup).mp hgone) (by omega))]
    exact hlookup

/-! ## Iteration orders -/

/-- The places of the entries determine the cache, up to its iteration order. -/
theorem sameMap_iff_ages {other : SeenRequests} :
    self.seen.SameMap other.seen ↔ self.ages = other.ages := by
  constructor
  · intro h
    exact List.toFinset_eq_of_perm _ _ (h.map evictionKey)
  · intro h
    refine AList.sameMap_of_lookup fun key => ?_
    -- Either lookup yields a time exactly if its place is among the ages.
    have hlookup : ∀ seenAt, self.seen.lookup key = some seenAt ↔
        other.seen.lookup key = some seenAt := by
      intro seenAt
      rw [← mem_ages (m := ⟨key, seenAt⟩), h, mem_ages]
    exact Option.ext hlookup

/-- The iteration order of the cache makes no difference to pruning. -/
theorem sameMap_prune {other : SeenRequests} (h : self.seen.SameMap other.seen) :
    (self.prune now ttlMs).seen.SameMap (other.prune now ttlMs).seen := by
  rw [sameMap_iff_ages] at h ⊢
  rw [ages_prune, ages_prune, h]

/-- Nor does it to marking a request, or to whether the request is new. -/
theorem sameMap_markIfNew {other : SeenRequests} (h : self.seen.SameMap other.seen)
    (srcNodeId : NodeId) (requestId now ttlMs maxEntries : Nat) :
    (self.markIfNew srcNodeId requestId now ttlMs maxEntries).1.seen.SameMap
        (other.markIfNew srcNodeId requestId now ttlMs maxEntries).1.seen ∧
      (self.markIfNew srcNodeId requestId now ttlMs maxEntries).2 =
        (other.markIfNew srcNodeId requestId now ttlMs maxEntries).2 := by
  have hprune : (self.prune now ttlMs).seen.SameMap (other.prune now ttlMs).seen := sameMap_prune h
  constructor
  · rw [markIfNew_fst, markIfNew_fst, sameMap_iff_ages, ages_enforceMaxEntries,
      ages_enforceMaxEntries, ages_marked ⟨(srcNodeId, requestId), now⟩,
      ages_marked ⟨(srcNodeId, requestId), now⟩, sameMap_iff_ages.mp hprune]
  · show ((self.prune now ttlMs).seen.lookup _).isNone =
      ((other.prune now ttlMs).seen.lookup _).isNone
    rw [hprune.lookup_eq]

/-! ## Sequences of marks -/

/-- The cache after a sequence of `mark_if_new` calls, listed latest first, on the empty
cache. -/
def afterMarks (ttlMs maxEntries : Nat) : List Mark → SeenRequests
  | [] => {}
  | mark :: earlier =>
    ((afterMarks ttlMs maxEntries earlier).markIfNew mark.key.1 mark.key.2 mark.now ttlMs
      maxEntries).1

/-- **What the cache holds**: of the latest marks, one for every key, the `maxEntries`
last ones in the eviction order, as far as they have not expired. -/
theorem ages_afterMarks {marks : List Mark} (hmono : NonDecreasing marks)
    (hnow : ∀ m ∈ marks, m.now ≤ now) :
    ((afterMarks ttlMs maxEntries marks).prune now ttlMs).ages =
      ((latestAges marks).filter (FreshAge now ttlMs)).greatest maxEntries := by
  induction marks generalizing now with
  | nil => rfl
  | cons mark earlier ih =>
    obtain ⟨hlast, hmono⟩ := List.pairwise_cons.mp hmono
    have hprune := ih hmono hlast
    have hfresh : FreshAge mark.now ttlMs mark.age := by
      show mark.now - mark.now ≤ ttlMs
      omega
    -- The mark comes in for the earlier one of its key, if there was one.
    have hreplace := Finset.greatest_insert_filter (n := maxEntries) (x := mark.age)
      (s := (latestAges earlier).filter (FreshAge mark.now ttlMs))
      (q := fun a => (ofLex a).2 ≠ (ofLex mark.age).2) (by simp)
      (by
        intro a ha hkey
        obtain ⟨m, hm, rfl⟩ := mem_latestAges.mp (Finset.mem_filter.mp ha).1
        exact Mark.age_le_age (Mark.key_eq_iff.mp (not_not.mp hkey))
          (hlast m (mem_latestMarks hm)))
      (by
        intro a ha b hb hkey hkey'
        obtain ⟨m, hm, rfl⟩ := mem_latestAges.mp (Finset.mem_filter.mp ha).1
        obtain ⟨m', hm', rfl⟩ := mem_latestAges.mp (Finset.mem_filter.mp hb).1
        rw [latestMarks_unique hm hm'
          (Mark.key_eq_iff.mp ((not_not.mp hkey).trans (not_not.mp hkey').symm))])
    have hlatest : (latestAges (mark :: earlier)).filter (FreshAge mark.now ttlMs) =
        insert mark.age (((latestAges earlier).filter (FreshAge mark.now ttlMs)).filter
          fun a => (ofLex a).2 ≠ (ofLex mark.age).2) := by
      rw [latestAges_cons, Finset.filter_insert, if_pos hfresh, Finset.filter_comm]
    have hages : (afterMarks ttlMs maxEntries (mark :: earlier)).ages =
        ((latestAges (mark :: earlier)).filter (FreshAge mark.now ttlMs)).greatest maxEntries := by
      show (((afterMarks ttlMs maxEntries earlier).marked mark.key mark.now
        ttlMs).enforceMaxEntries maxEntries).ages = _
      rw [ages_enforceMaxEntries, ages_marked, hprune, hlatest, hreplace]
    -- What is still fresh at `now` was fresh at the mark.
    rw [ages_prune, hages, ← Finset.greatest_filter freshAge_up, Finset.filter_filter]
    congr 1
    refine Finset.filter_congr fun a _ => ?_
    have hlater := hnow mark List.mem_cons_self
    unfold FreshAge
    omega

/-- A key is not new if an entry for it survives the pruning. -/
theorem markIfNew_snd_eq_false_iff {key : RequestKey} :
    (self.markIfNew key.1 key.2 now ttlMs maxEntries).2 = false ↔
      ∃ seenAt, (self.prune now ttlMs).seen.lookup key = some seenAt := by
  rw [← Option.isSome_iff_exists, ← Option.not_isNone, Bool.not_eq_true']
  rfl

/-- **What a key is recalled by.** A key was last marked at `mark.now`, and is marked
again before it has expired. The cache recognizes it exactly if fewer than `maxEntries`
other keys have their latest mark after it in the eviction order. -/
theorem remembered_iff {recent earlier : List Mark} {mark : Mark}
    (hmono : NonDecreasing (recent ++ mark :: earlier))
    (hlatest : ∀ m ∈ recent, m.key ≠ mark.key)
    (hnow : ∀ m ∈ recent ++ mark :: earlier, m.now ≤ now) (hlive : now ≤ mark.now + ttlMs) :
    ((afterMarks ttlMs maxEntries (recent ++ mark :: earlier)).markIfNew mark.key.1 mark.key.2
        now ttlMs maxEntries).2 = false ↔
      (outranking mark (recent ++ mark :: earlier)).length < maxEntries := by
  have hages : ((afterMarks ttlMs maxEntries _).prune now ttlMs).ages = _ :=
    ages_afterMarks hmono hnow
  have hmem : mark ∈ latestMarks (recent ++ mark :: earlier) := mem_latestMarks_append hlatest
  have hfresh : FreshAge now ttlMs mark.age := by
    show now - mark.now ≤ ttlMs
    omega
  rw [Finset.greatest_filter freshAge_up] at hages
  -- The entry by which the key is recognized is that of its latest mark.
  have hrecognized : ((afterMarks ttlMs maxEntries (recent ++ mark :: earlier)).markIfNew
      mark.key.1 mark.key.2 now ttlMs maxEntries).2 = false ↔
        mark.age ∈ ((afterMarks ttlMs maxEntries (recent ++ mark :: earlier)).prune
          now ttlMs).ages := by
    rw [markIfNew_snd_eq_false_iff, mem_ages]
    constructor
    · rintro ⟨seenAt, hseenAt⟩
      have hentry := mem_ages (m := ⟨mark.key, seenAt⟩).mpr hseenAt
      rw [hages] at hentry
      obtain ⟨m, hm, hage⟩ :=
        mem_latestAges.mp (Finset.greatest_subset (Finset.mem_filter.mp hentry).1)
      obtain rfl := Mark.age_injective hage
      have hsame : seenAt = mark.now := congrArg Mark.now (latestMarks_unique hm hmem rfl)
      rw [hseenAt, hsame]
    · intro hlookup
      exact ⟨mark.now, hlookup⟩
  rw [hrecognized, hages, Finset.mem_filter, Finset.mem_greatest, card_above_latestAges]
  constructor
  · rintro ⟨⟨-, hfew⟩, -⟩
    exact hfew
  · intro hfew
    exact ⟨⟨mem_latestAges.mpr ⟨mark, hmem, rfl⟩, hfew⟩, hfresh⟩

/-- Request 1 of node 3 is remembered while another request was marked since. -/
theorem remembered_iff_pair :
    ((afterMarks 1000 2 [⟨(5, 1), 11⟩, ⟨(3, 1), 10⟩]).markIfNew 3 1 20 1000 2).2 = false := by
  have hmono : NonDecreasing ([⟨(5, 1), 11⟩] ++ ⟨(3, 1), 10⟩ :: []) := by decide
  exact (remembered_iff hmono (by decide) (by decide) (by decide)).mpr (by decide)

/-- The cache may forget a key that was marked last, with no other key marked since:
node 5 and then node 3 are heard of in one millisecond, and there is room for one. -/
theorem just_marked_forgotten :
    ¬ ∀ (ttlMs maxEntries now : Nat) (recent earlier : List Mark) (mark : Mark),
      1 ≤ maxEntries → NonDecreasing (recent ++ mark :: earlier) →
      (∀ m ∈ recent, m.key ≠ mark.key) → (∀ m ∈ recent ++ mark :: earlier, m.now ≤ now) →
      now ≤ mark.now + ttlMs → (recent.map Mark.key).toFinset.card < maxEntries →
      ((afterMarks ttlMs maxEntries (recent ++ mark :: earlier)).markIfNew mark.key.1
        mark.key.2 now ttlMs maxEntries).2 = false := by
  intro h
  have hforgotten := h 1000 1 10 [] [⟨(5, 1), 10⟩] ⟨(3, 1), 10⟩ (by decide) (by decide)
    (by decide) (by decide) (by decide) (by decide)
  exact absurd hforgotten (by decide)

/-- A key is outranked only by keys that were marked since, or before it in the same
millisecond and are greater. -/
theorem mem_of_mem_outranking {recent earlier : List Mark} {mark m : Mark}
    (hmono : NonDecreasing (recent ++ mark :: earlier))
    (h : m ∈ outranking mark (recent ++ mark :: earlier)) :
    m ∈ recent ∨ (m ∈ earlier ∧ m.now = mark.now ∧
      toLex (mark.key.1.toNat, mark.key.2) < toLex (m.key.1.toNat, m.key.2)) := by
  obtain ⟨hmem, hlt⟩ := List.mem_filter.mp h
  have hlt : mark.age < m.age := of_decide_eq_true hlt
  rcases List.mem_append.mp (mem_latestMarks hmem) with hrecent | hrest
  · exact .inl hrecent
  rcases List.mem_cons.mp hrest with rfl | hearlier
  · exact absurd hlt (lt_irrefl _)
  · have hle := (List.pairwise_cons.mp (List.pairwise_append.mp hmono).2.1).1 m hearlier
    rcases (Prod.Lex.lt_iff (x := mark.age) (y := m.age)).mp hlt with hnow | ⟨hnow, hkey⟩
    · exact absurd hle (not_le_of_gt hnow)
    · exact .inr ⟨hearlier, hnow.symm, hkey⟩

/-- The cache keeps what it must, unless a greater key was marked in the same
millisecond before. -/
theorem remembered_of_few {recent earlier : List Mark} {mark : Mark}
    (hmono : NonDecreasing (recent ++ mark :: earlier))
    (hlatest : ∀ m ∈ recent, m.key ≠ mark.key)
    (hnow : ∀ m ∈ recent ++ mark :: earlier, m.now ≤ now) (hlive : now ≤ mark.now + ttlMs)
    (hfew : (recent.map Mark.key).toFinset.card < maxEntries)
    (htie : ∀ m ∈ earlier, m.now = mark.now →
      ¬ toLex (mark.key.1.toNat, mark.key.2) < toLex (m.key.1.toNat, m.key.2)) :
    ((afterMarks ttlMs maxEntries (recent ++ mark :: earlier)).markIfNew mark.key.1 mark.key.2
      now ttlMs maxEntries).2 = false := by
  refine (remembered_iff hmono hlatest hnow hlive).mpr (lt_of_le_of_lt ?_ hfew)
  -- Every outranking mark is one of the recent ones, and has a key of its own.
  have hnodup : ((outranking mark (recent ++ mark :: earlier)).map Mark.key).Nodup := by
    refine List.Nodup.map_on (fun m hm m' hm' hkey => ?_) ((latestMarks_nodup _).filter _)
    exact latestMarks_unique (List.mem_of_mem_filter hm) (List.mem_of_mem_filter hm') hkey
  rw [← List.length_map (f := Mark.key), ← List.toFinset_card_of_nodup hnodup]
  refine Finset.card_le_card fun key hkey => ?_
  obtain ⟨m, hm, rfl⟩ := List.mem_map.mp (List.mem_toFinset.mp hkey)
  rcases mem_of_mem_outranking hmono hm with hrecent | ⟨hearlier, hsame, hgreater⟩
  · exact List.mem_toFinset.mpr (List.mem_map_of_mem hrecent)
  · exact absurd hgreater (htie m hearlier hsame)

end SeenRequests

end DlDsr
