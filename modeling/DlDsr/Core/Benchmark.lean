import DlDsr.Core.Packet
import DlDsr.Lib.Wrapping

/-!
# The chain benchmark (`dldsr-core/src/metrics.rs`, `dldsr-bench/src/main.rs`)

`simulate_chain` computes byte totals for a chain of nodes, and `ComparisonReport`
subtracts those of a DL-DSR run from those of a DSR run. `usize` and `u64` are 64-bit
words, and the arithmetic of a release build wraps. The floating-point fields (latencies,
ratios, energy) are left out, but for the vector that the latencies are collected into: it
has one element for each packet, and where that is more than a vector can hold, the run
panics and there is no report.

The savings are exact as long as there is a report and the two runs wrap equally often
(`comparisonExact_iff`); a run that wraps once more than the other turns a saving into 0.
-/

namespace DlDsr

/-- `BenchmarkReport`, without its floating-point fields. -/
structure BenchmarkReport where
  mode : ProtocolMode
  hops : UInt64
  payloadSize : UInt64
  packetCount : UInt64
  totalTxBytes : UInt64
  totalRxBytes : UInt64
  controlBytes : UInt64
  dataBytes : UInt64
  pathHeaderBytes : UInt64
  deliveredPackets : UInt64
  lostPackets : UInt64
deriving DecidableEq

/-- `path_header_bytes` on machine words. -/
def wordPathHeaderBytes (mode : ProtocolMode) (hops : UInt64) : UInt64 :=
  match mode with
  | .dsr => hops * 4
  | .dlDsr => hops * 1

/-- `isize::MAX`, the number of bytes that a vector may take at most. -/
def isizeMax : Nat := 2 ^ 63 - 1

/-- The latencies of all packets, eight bytes each, fit into one vector. -/
def LatenciesFit (packetCount : UInt64) : Prop := 8 * packetCount.toNat ≤ isizeMax

instance (packetCount : UInt64) : Decidable (LatenciesFit packetCount) :=
  inferInstanceAs (Decidable (_ ≤ _))

/-- The `collect` of the latencies, of which only the length of the vector is kept: it
panics before any memory is allocated if they do not fit. -/
def collectLatencies (packetCount : UInt64) : Except String UInt64 :=
  if LatenciesFit packetCount then .ok packetCount else .error "capacity overflow"

/-- `simulate_chain`; an error is the message of a panic. -/
def simulateChain (hops : UInt64) (mode : ProtocolMode) (payloadSize packetCount : UInt64) :
    Except String BenchmarkReport := do
  let pathBytes := wordPathHeaderBytes mode hops
  let serializedOverhead : UInt64 := 32
  let perPacket := payloadSize + pathBytes + serializedOverhead
  let linkTransmissions := max (hops.saturatingSub 1) 1
  let totalTxBytes := perPacket * packetCount * linkTransmissions
  let totalRxBytes := perPacket * packetCount * linkTransmissions
  let _latencies ← collectLatencies packetCount
  return { mode := mode, hops := hops, payloadSize := payloadSize, packetCount := packetCount,
           totalTxBytes := totalTxBytes, totalRxBytes := totalRxBytes, controlBytes := 0,
           dataBytes := totalTxBytes, pathHeaderBytes := pathBytes * packetCount,
           deliveredPackets := packetCount, lostPackets := 0 }

/-- `ComparisonReport`, without the energy savings. -/
structure ComparisonReport where
  dsr : BenchmarkReport
  dldsr : BenchmarkReport
  pathHeaderSavingsBytes : UInt64
  totalTxSavingsBytes : UInt64
deriving DecidableEq

/-- `ComparisonReport::new`. -/
def ComparisonReport.new (hops payloadSize packetCount : UInt64) :
    Except String ComparisonReport := do
  let dsr ← simulateChain hops .dsr payloadSize packetCount
  let dldsr ← simulateChain hops .dlDsr payloadSize packetCount
  return { dsr := dsr, dldsr := dldsr,
           pathHeaderSavingsBytes := dsr.pathHeaderBytes.saturatingSub dldsr.pathHeaderBytes,
           totalTxSavingsBytes := dsr.totalTxBytes.saturatingSub dldsr.totalTxBytes }

/-! ## Exact totals -/

/-- The number of links that a packet crosses: one less than the hops, but at least one. -/
def chainLinks (hops : Nat) : Nat := max (hops - 1) 1

/-- The path header bytes of a run, without wrapping. -/
def exactPathHeaderBytes (mode : ProtocolMode) (hops packets : Nat) : Nat :=
  pathHeaderBytes mode hops * packets

/-- The transmitted bytes of a run, without wrapping. -/
def exactTotalTxBytes (mode : ProtocolMode) (hops payloadSize packets : Nat) : Nat :=
  (payloadSize + pathHeaderBytes mode hops + 32) * packets * chainLinks hops

/-- The report has the exact savings, and no run of DSR takes fewer bytes. -/
structure ComparisonReport.Exact (report : ComparisonReport) (hops packets : Nat) : Prop where
  pathHeader : report.pathHeaderSavingsBytes.toNat = 3 * hops * packets
  totalTx : report.totalTxSavingsBytes.toNat = 3 * hops * packets * max (hops - 1) 1
  pathHeader_le : report.dldsr.pathHeaderBytes ≤ report.dsr.pathHeaderBytes
  totalTx_le : report.dldsr.totalTxBytes ≤ report.dsr.totalTxBytes

/-- The comparison reports, and what it reports is exact. -/
def ComparisonExact (hops payloadSize packets : UInt64) : Prop :=
  ∃ report, ComparisonReport.new hops payloadSize packets = .ok report ∧
    report.Exact hops.toNat packets.toNat

/-- Neither total wraps more often for DSR than for DL-DSR. -/
def WrapAlike (hops payloadSize packets : Nat) : Prop :=
  exactPathHeaderBytes .dsr hops packets / 2 ^ 64 =
      exactPathHeaderBytes .dlDsr hops packets / 2 ^ 64 ∧
    exactTotalTxBytes .dsr hops payloadSize packets / 2 ^ 64 =
      exactTotalTxBytes .dlDsr hops payloadSize packets / 2 ^ 64

instance (hops payloadSize packets : Nat) : Decidable (WrapAlike hops payloadSize packets) :=
  inferInstanceAs (Decidable (_ ∧ _))

/-- The inputs on which the comparison is exact. -/
def Comparable (hops payloadSize packets : UInt64) : Prop :=
  LatenciesFit packets ∧ WrapAlike hops.toNat payloadSize.toNat packets.toNat

instance (hops payloadSize packets : UInt64) : Decidable (Comparable hops payloadSize packets) :=
  inferInstanceAs (Decidable (_ ∧ _))

variable {hops payloadSize packets : UInt64} {mode : ProtocolMode} {run : BenchmarkReport}
  {report : ComparisonReport}

/-! ## What a run computes -/

/-- A run reports if and only if the latencies fit. -/
theorem exists_simulateChain (hops payloadSize : UInt64) (mode : ProtocolMode)
    (h : LatenciesFit packets) : ∃ run, simulateChain hops mode payloadSize packets = .ok run := by
  unfold simulateChain collectLatencies
  rw [if_pos h]
  exact ⟨_, rfl⟩

theorem simulateChain_reports (h : simulateChain hops mode payloadSize packets = .ok run) :
    LatenciesFit packets ∧ run.pathHeaderBytes = wordPathHeaderBytes mode hops * packets ∧
      run.totalTxBytes = (payloadSize + wordPathHeaderBytes mode hops + 32) * packets *
        max (hops.saturatingSub 1) 1 := by
  unfold simulateChain collectLatencies at h
  split at h
  · next hfit =>
    cases h
    exact ⟨hfit, rfl, rfl⟩
  · cases h

theorem toNat_wordPathHeaderBytes (mode : ProtocolMode) (hops : UInt64) :
    (wordPathHeaderBytes mode hops).toNat = pathHeaderBytes mode hops.toNat % 2 ^ 64 := by
  cases mode <;> exact UInt64.toNat_mul _ _

theorem toNat_linkTransmissions (hops : UInt64) :
    (max (hops.saturatingSub 1) 1).toNat = chainLinks hops.toNat := by
  have hle : hops.saturatingSub 1 ≤ 1 ↔ hops.toNat - 1 ≤ 1 := by
    rw [UInt64.le_iff_toNat_le, UInt64.toNat_saturatingSub]
    exact Iff.rfl
  show (if hops.saturatingSub 1 ≤ 1 then (1 : UInt64) else hops.saturatingSub 1).toNat = _
  unfold chainLinks
  by_cases h : hops.toNat - 1 ≤ 1
  · rw [if_pos (hle.mpr h), Nat.max_eq_right h]
    rfl
  · rw [if_neg (fun hword => h (hle.mp hword)), UInt64.toNat_saturatingSub,
      Nat.max_eq_left (Nat.le_of_not_le h)]
    rfl

/-- The header bytes are the exact ones, wrapped. -/
theorem toNat_pathHeaderBytes (h : simulateChain hops mode payloadSize packets = .ok run) :
    run.pathHeaderBytes.toNat = exactPathHeaderBytes mode hops.toNat packets.toNat % 2 ^ 64 := by
  obtain ⟨-, hheader, -⟩ := simulateChain_reports h
  rw [hheader, UInt64.toNat_mul, toNat_wordPathHeaderBytes, Nat.mod_mul_mod]
  rfl

/-- So are the transmitted bytes. -/
theorem toNat_totalTxBytes (h : simulateChain hops mode payloadSize packets = .ok run) :
    run.totalTxBytes.toNat =
      exactTotalTxBytes mode hops.toNat payloadSize.toNat packets.toNat % 2 ^ 64 := by
  obtain ⟨-, -, htotal⟩ := simulateChain_reports h
  rw [htotal, UInt64.toNat_mul, UInt64.toNat_mul, UInt64.toNat_add, UInt64.toNat_add,
    toNat_wordPathHeaderBytes, toNat_linkTransmissions, Nat.add_mod_mod, Nat.mod_add_mod,
    Nat.mod_mul_mod, Nat.mul_assoc, Nat.mod_mul_mod, ← Nat.mul_assoc]
  rfl

/-! ## The savings -/

theorem exactPathHeaderBytes_sub (hops packets : Nat) :
    exactPathHeaderBytes .dsr hops packets - exactPathHeaderBytes .dlDsr hops packets =
      3 * hops * packets := by
  show hops * 4 * packets - hops * 1 * packets = _
  rw [← Nat.sub_mul]
  congr 1
  omega

theorem exactTotalTxBytes_sub (hops payloadSize packets : Nat) :
    exactTotalTxBytes .dsr hops payloadSize packets -
        exactTotalTxBytes .dlDsr hops payloadSize packets =
      3 * hops * packets * max (hops - 1) 1 := by
  show (payloadSize + hops * 4 + 32) * packets * chainLinks hops -
    (payloadSize + hops * 1 + 32) * packets * chainLinks hops = _
  rw [← Nat.sub_mul, ← Nat.sub_mul]
  congr 2
  omega

theorem exactPathHeaderBytes_le (hops packets : Nat) :
    exactPathHeaderBytes .dlDsr hops packets ≤ exactPathHeaderBytes .dsr hops packets := by
  refine Nat.mul_le_mul_right packets ?_
  show hops * 1 ≤ hops * 4
  omega

theorem exactTotalTxBytes_le (hops payloadSize packets : Nat) :
    exactTotalTxBytes .dlDsr hops payloadSize packets ≤
      exactTotalTxBytes .dsr hops payloadSize packets := by
  refine Nat.mul_le_mul_right _ (Nat.mul_le_mul_right _ ?_)
  show payloadSize + hops * 1 + 32 ≤ payloadSize + hops * 4 + 32
  omega

/-- A comparison reports if and only if the latencies fit. -/
theorem exists_comparison (hops payloadSize : UInt64) (h : LatenciesFit packets) :
    ∃ report, ComparisonReport.new hops payloadSize packets = .ok report := by
  obtain ⟨dsr, hdsr⟩ := exists_simulateChain hops payloadSize .dsr h
  obtain ⟨dldsr, hdldsr⟩ := exists_simulateChain hops payloadSize .dlDsr h
  unfold ComparisonReport.new
  rw [hdsr, hdldsr]
  exact ⟨_, rfl⟩

/-- A comparison is that of two runs. -/
theorem comparison_reports (h : ComparisonReport.new hops payloadSize packets = .ok report) :
    simulateChain hops .dsr payloadSize packets = .ok report.dsr ∧
      simulateChain hops .dlDsr payloadSize packets = .ok report.dldsr ∧
      report.pathHeaderSavingsBytes =
        report.dsr.pathHeaderBytes.saturatingSub report.dldsr.pathHeaderBytes ∧
      report.totalTxSavingsBytes =
        report.dsr.totalTxBytes.saturatingSub report.dldsr.totalTxBytes := by
  unfold ComparisonReport.new at h
  cases hdsr : simulateChain hops .dsr payloadSize packets with
  | error message =>
    rw [hdsr] at h
    cases h
  | ok dsr =>
    cases hdldsr : simulateChain hops .dlDsr payloadSize packets with
    | error message =>
      rw [hdsr, hdldsr] at h
      cases h
    | ok dldsr =>
      rw [hdsr, hdldsr] at h
      cases h
      exact ⟨rfl, rfl, rfl, rfl⟩

theorem toNat_pathHeaderSavingsBytes
    (h : ComparisonReport.new hops payloadSize packets = .ok report) :
    report.pathHeaderSavingsBytes.toNat =
      exactPathHeaderBytes .dsr hops.toNat packets.toNat % 2 ^ 64 -
        exactPathHeaderBytes .dlDsr hops.toNat packets.toNat % 2 ^ 64 := by
  obtain ⟨hdsr, hdldsr, hsavings, -⟩ := comparison_reports h
  rw [hsavings, UInt64.toNat_saturatingSub, toNat_pathHeaderBytes hdsr,
    toNat_pathHeaderBytes hdldsr]

theorem toNat_totalTxSavingsBytes
    (h : ComparisonReport.new hops payloadSize packets = .ok report) :
    report.totalTxSavingsBytes.toNat =
      exactTotalTxBytes .dsr hops.toNat payloadSize.toNat packets.toNat % 2 ^ 64 -
        exactTotalTxBytes .dlDsr hops.toNat payloadSize.toNat packets.toNat % 2 ^ 64 := by
  obtain ⟨hdsr, hdldsr, -, hsavings⟩ := comparison_reports h
  rw [hsavings, UInt64.toNat_saturatingSub, toNat_totalTxBytes hdsr, toNat_totalTxBytes hdldsr]

/-- The exact savings grow with the hops and the packets. -/
theorem exactSavings_mono {hops hops' packets packets' : Nat} (hhops : hops ≤ hops')
    (hpackets : packets ≤ packets') :
    3 * hops * packets ≤ 3 * hops' * packets' ∧
      3 * hops * packets * max (hops - 1) 1 ≤ 3 * hops' * packets' * max (hops' - 1) 1 := by
  have hheader : 3 * hops * packets ≤ 3 * hops' * packets' :=
    Nat.mul_le_mul (Nat.mul_le_mul_left 3 hhops) hpackets
  refine ⟨hheader, Nat.mul_le_mul hheader ?_⟩
  omega

theorem exact_of_wrapAlike (h : ComparisonReport.new hops payloadSize packets = .ok report)
    (hwrap : WrapAlike hops.toNat payloadSize.toNat packets.toNat) :
    report.Exact hops.toNat packets.toNat where
  pathHeader := by
    rw [toNat_pathHeaderSavingsBytes h, Nat.mod_sub_mod_of_div_eq hwrap.1,
      exactPathHeaderBytes_sub]
  totalTx := by
    rw [toNat_totalTxSavingsBytes h, Nat.mod_sub_mod_of_div_eq hwrap.2, exactTotalTxBytes_sub]
  pathHeader_le := by
    obtain ⟨hdsr, hdldsr, -, -⟩ := comparison_reports h
    rw [UInt64.le_iff_toNat_le, toNat_pathHeaderBytes hdsr, toNat_pathHeaderBytes hdldsr]
    exact Nat.mod_le_mod_of_div_eq (exactPathHeaderBytes_le _ _) hwrap.1
  totalTx_le := by
    obtain ⟨hdsr, hdldsr, -, -⟩ := comparison_reports h
    rw [UInt64.le_iff_toNat_le, toNat_totalTxBytes hdsr, toNat_totalTxBytes hdldsr]
    exact Nat.mod_le_mod_of_div_eq (exactTotalTxBytes_le _ _ _) hwrap.2

theorem comparisonExact_of_comparable (h : Comparable hops payloadSize packets) :
    ComparisonExact hops payloadSize packets := by
  obtain ⟨report, hreport⟩ := exists_comparison hops payloadSize h.1
  exact ⟨report, hreport, exact_of_wrapAlike hreport h.2⟩

theorem comparable_of_comparisonExact (h : ComparisonExact hops payloadSize packets) :
    Comparable hops payloadSize packets := by
  obtain ⟨report, hreport, hexact⟩ := h
  refine ⟨(simulateChain_reports (comparison_reports hreport).1).1, ?_, ?_⟩
  · refine Nat.div_eq_of_mod_sub_mod (by decide) (exactPathHeaderBytes_le _ _) ?_
    rw [← toNat_pathHeaderSavingsBytes hreport, hexact.pathHeader, exactPathHeaderBytes_sub]
  · refine Nat.div_eq_of_mod_sub_mod (by decide) (exactTotalTxBytes_le _ _ _) ?_
    rw [← toNat_totalTxSavingsBytes hreport, hexact.totalTx, exactTotalTxBytes_sub]

/-- **When the comparison is exact.** For all inputs, there is a report and its savings are
the exact ones if and only if the latencies fit into a vector and both totals of the two runs
wrap equally often; and among such inputs the savings grow with the hops and the packets. -/
theorem comparisonExact_iff (hops payloadSize packets : UInt64) :
    (ComparisonExact hops payloadSize packets ↔ Comparable hops payloadSize packets) ∧
      ∀ hops' payloadSize' packets' : UInt64, hops ≤ hops' → packets ≤ packets' →
        Comparable hops payloadSize packets → Comparable hops' payloadSize' packets' →
        ∃ report report', ComparisonReport.new hops payloadSize packets = .ok report ∧
          ComparisonReport.new hops' payloadSize' packets' = .ok report' ∧
          report.pathHeaderSavingsBytes ≤ report'.pathHeaderSavingsBytes ∧
          report.totalTxSavingsBytes ≤ report'.totalTxSavingsBytes := by
  refine ⟨⟨comparable_of_comparisonExact, comparisonExact_of_comparable⟩, ?_⟩
  intro hops' payloadSize' packets' hhops hpackets h h'
  obtain ⟨report, hreport, hexact⟩ := comparisonExact_of_comparable h
  obtain ⟨report', hreport', hexact'⟩ := comparisonExact_of_comparable h'
  refine ⟨report, report', hreport, hreport', ?_⟩
  have hmono := exactSavings_mono (UInt64.le_iff_toNat_le.mp hhops)
    (UInt64.le_iff_toNat_le.mp hpackets)
  rw [UInt64.le_iff_toNat_le, UInt64.le_iff_toNat_le, hexact.pathHeader, hexact.totalTx,
    hexact'.pathHeader, hexact'.totalTx]
  exact hmono

/-- The default run of the benchmark is exact. -/
example : ComparisonExact 4 64 100 := comparisonExact_of_comparable (by decide)

/-- The latencies of `2 ^ 60` packets do not fit: there is no report. -/
example : ComparisonReport.new 1 0 1152921504606846976 = .error "capacity overflow" := by
  decide

/-- Of one packet over `2 ^ 62` hops, DSR's header bytes wrap to 0, and so do the
savings. -/
theorem comparison_wraps : ¬ ∀ hops payloadSize packets : UInt64,
    ComparisonExact hops payloadSize packets := by
  intro h
  obtain ⟨report, hreport, hexact⟩ := h 4611686018427387904 0 1
  have hsavings := toNat_pathHeaderSavingsBytes hreport
  rw [hexact.pathHeader] at hsavings
  exact absurd hsavings (by decide)

end DlDsr
