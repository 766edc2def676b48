import DlDsr.Core.Recall

/-!
# `mark_if_new` as an operation on a set

Seen from outside, a duplicate cache is a finite set of triples (time, source, request
id), no two of the same key; the order in which the map iterates is not part of it. On
this set `mark_if_new` does three things: it drops what has expired, replaces or adds the
triple of the request, and keeps the last `max_entries` triples in ascending order
(`specMarkIfNew`). The code does the same for every cache and all arguments
(`markIfNew_spec`); in particular nothing is assumed about the clock.
-/

namespace DlDsr

/-- The entries that have not expired; the age is cut off at 0. -/
def unexpired (entries : Finset Age) (now ttlMs : Nat) : Finset Age :=
  entries.filter fun a => now - (ofLex a).1 ≤ ttlMs

/-- The entries with the one of the marked key replaced or added. -/
def updated (entries : Finset Age) (mark : Mark) : Finset Age :=
  insert mark.age (entries.filter fun a => (ofLex a).2 ≠ (ofLex mark.age).2)

/-- The last `n` entries in ascending order of time, source and request id. -/
def lastEntries (n : Nat) (entries : Finset Age) : Finset Age :=
  ((entries.sort (· ≤ ·)).drop (entries.card - n)).toFinset

/-- What `mark_if_new` is for: the entries after it, and whether the key is new. -/
def specMarkIfNew (entries : Finset Age) (mark : Mark) (ttlMs maxEntries : Nat) :
    Finset Age × Bool :=
  let live := unexpired entries mark.now ttlMs
  (lastEntries maxEntries (updated live mark),
   decide (∀ a ∈ live, (ofLex a).2 ≠ (ofLex mark.age).2))

namespace SeenRequests

variable {self other : SeenRequests} {ttlMs maxEntries now requestId : Nat} {srcNodeId : NodeId}

theorem ages_prune_eq_unexpired : (self.prune now ttlMs).ages = unexpired self.ages now ttlMs := by
  rw [ages_prune]
  exact Finset.filter_congr fun _ _ => Iff.rfl

/-- A key is new if no live entry has it. -/
theorem markIfNew_snd_iff (self : SeenRequests) (mark : Mark) (ttlMs maxEntries : Nat) :
    (self.markIfNew mark.key.1 mark.key.2 mark.now ttlMs maxEntries).2 = true ↔
      ∀ a ∈ unexpired self.ages mark.now ttlMs, (ofLex a).2 ≠ (ofLex mark.age).2 := by
  rw [← ages_prune_eq_unexpired]
  constructor
  · intro hnew a ha hkey
    obtain ⟨m, rfl⟩ := exists_mark_of_mem_ages ha
    rw [Mark.key_eq_iff] at hkey
    have hold : (self.markIfNew mark.key.1 mark.key.2 mark.now ttlMs maxEntries).2 = false :=
      markIfNew_snd_eq_false_iff.mpr ⟨m.now, hkey ▸ mem_ages.mp ha⟩
    rw [hnew] at hold
    cases hold
  · intro hall
    by_contra hold
    obtain ⟨seenAt, hseenAt⟩ := markIfNew_snd_eq_false_iff.mp (Bool.eq_false_of_not_eq_true hold)
    have hmem := mem_ages (m := ⟨mark.key, seenAt⟩).mpr hseenAt
    exact hall _ hmem (Mark.key_eq_iff.mpr rfl)

/-- The entries after a call. -/
theorem ages_markIfNew (mark : Mark) :
    (self.markIfNew mark.key.1 mark.key.2 mark.now ttlMs maxEntries).1.ages =
      lastEntries maxEntries (updated (unexpired self.ages mark.now ttlMs) mark) := by
  rw [markIfNew_fst, ages_enforceMaxEntries, Finset.greatest_eq_drop_sort]
  show lastEntries maxEntries (self.marked mark.key mark.now ttlMs).ages = _
  rw [ages_marked, ages_prune_eq_unexpired]
  rfl

/-- A call leaves at most `maxEntries` entries. -/
theorem len_markIfNew_le :
    (self.markIfNew srcNodeId requestId now ttlMs maxEntries).1.len ≤ maxEntries := by
  rw [markIfNew_fst, ← card_ages, ages_enforceMaxEntries]
  exact Finset.card_greatest_le _ _

/-- **`mark_if_new` does what it is for**, whatever the cache holds, the clock reads, and
the limits are; and a cache with the same entries in another iteration order answers the
same and ends up with the same entries. -/
theorem markIfNew_spec (self : SeenRequests) (srcNodeId : NodeId)
    (requestId now ttlMs maxEntries : Nat) :
    let result := self.markIfNew srcNodeId requestId now ttlMs maxEntries
    (result.1.ages, result.2) =
        specMarkIfNew self.ages ⟨(srcNodeId, requestId), now⟩ ttlMs maxEntries ∧
      result.1.len ≤ maxEntries ∧
      ∀ other : SeenRequests, self.seen.SameMap other.seen →
        result.1.seen.SameMap (other.markIfNew srcNodeId requestId now ttlMs maxEntries).1.seen ∧
          result.2 = (other.markIfNew srcNodeId requestId now ttlMs maxEntries).2 := by
  refine ⟨Prod.ext ?_ ?_, len_markIfNew_le, fun other hother => ?_⟩
  · exact ages_markIfNew ⟨(srcNodeId, requestId), now⟩
  · have hnew := self.markIfNew_snd_iff ⟨(srcNodeId, requestId), now⟩ ttlMs maxEntries
    exact Bool.eq_iff_iff.mpr (hnew.trans decide_eq_true_iff.symm)
  · exact sameMap_markIfNew hother srcNodeId requestId now ttlMs maxEntries

end SeenRequests

end DlDsr
