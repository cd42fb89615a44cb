import MbmsModem.Schedule

/-!
# PMCH windows

The PMCH loop of `mbsfn_config_for_tti` takes the first PMCH whose end offset reaches the
allocation index it computes for that PMCH, from the frame number modulo the PMCH's own
scheduling period. When the PMCHs share one period the index is the same for all of them,
and strictly increasing end offsets cut it into disjoint windows `[start_i, e_i]`, so the
first match is the one window that holds the index. With periods that differ, the indices
differ too, and two windows can each hold their own PMCH's index for the same subframe.
-/

namespace MbmsModem

set_option autoImplicit false

/-- The allocation index `mbsfn_config_for_tti` computes for PMCH `i` at `tti`. -/
def allocIndex (phy : Phy) (tti : UInt32) (i : Nat) : Nat :=
  (sfIdx phy.cell.mbmsDedicated (tti / 10 % (phy.mcch.pmch i).mchSchedPeriod)
    (tti % 10).toUInt8).toNat

def InWindow (phy : Phy) (tti : UInt32) (i : Nat) : Prop :=
  phy.mcch.allocStart i ≤ allocIndex phy tti i ∧ allocIndex phy tti i ≤ phy.mcch.allocEnd i

instance (phy : Phy) (tti : UInt32) (i : Nat) : Decidable (InWindow phy tti i) :=
  inferInstanceAs (Decidable (_ ∧ _))

/-- Two PMCHs with scheduling periods of 8 and 16 frames, allocations ending at 10 and 100,
in the MBMS-dedicated cell of `dedicatedScenario`. -/
def distinctPeriods : Phy :=
  { dedicatedScenario with
    mcch :=
      { nofPmchInfo := 2
        pmchInfoList := [{ sfAllocEnd := 10, mchSchedPeriod := 8 },
          { sfAllocEnd := 100, mchSchedPeriod := 16 }] } }

/-- Frame 8, subframe 1 (TTI 81) is index 0 of PMCH 0's period and index 78 of PMCH 1's: it
lies in both windows, and the scan gives it to PMCH 0. -/
theorem distinct_periods_share_subframe :
    distinctPeriods.mcchConfigured = true ∧ distinctPeriods.mchConfigured = true ∧
      distinctPeriods.mcch.Increasing distinctPeriods.mcch.nofPmchInfo.toNat ∧
      (∀ i < distinctPeriods.mcch.nofPmchInfo.toNat,
        0 < (distinctPeriods.mcch.pmch i).mchSchedPeriod.toNat ∧
        (distinctPeriods.mcch.pmch i).mchSchedPeriod.toNat ≤ 1024 ∧
        4 ∣ (distinctPeriods.mcch.pmch i).mchSchedPeriod.toNat) ∧
      isMbsfnSubframe distinctPeriods 81 = true ∧
      InWindow distinctPeriods 81 0 ∧ InWindow distinctPeriods 81 1 ∧
      (mbsfnConfigForTti distinctPeriods 81).2 = some 0 := by
  refine ⟨rfl, rfl, fun i next => ?_, by decide, by decide, by decide, by decide, by decide⟩
  have first : i = 0 := by
    change i + 1 < 2 at next
    omega
  subst first
  decide

section CommonPeriod

variable (phy : Phy) (tti period : UInt32)
  (increasing : phy.mcch.Increasing phy.mcch.nofPmchInfo.toNat)
  (common : ∀ i < phy.mcch.nofPmchInfo.toNat, (phy.mcch.pmch i).mchSchedPeriod = period)

include common in
theorem alloc_index_common {i : Nat} (bound : i < phy.mcch.nofPmchInfo.toNat) :
    allocIndex phy tti i =
      (sfIdx phy.cell.mbmsDedicated (tti / 10 % period) (tti % 10).toUInt8).toNat := by
  rw [allocIndex, common i bound]

include increasing common

theorem pmch_scan_of_in_window {i : Nat} (bound : i < phy.mcch.nofPmchInfo.toNat)
    (inside : InWindow phy tti i) :
    ∃ mcs, pmchScan phy (tti / 10) (tti % 10).toUInt8 = some (i, mcs) := by
  obtain ⟨start, reaches⟩ := inside
  rw [alloc_index_common phy tti period common bound] at start reaches
  obtain ⟨mcs, taken⟩ := pmch_match_isSome (by rwa [common i bound])
  refine ⟨mcs, find_some_range_of_first _ bound (fun j less => pmch_match_none ?_) taken⟩
  rw [common j (by omega)]
  have mono := McchMsg.alloc_end_mono increasing (show j ≤ i - 1 by omega) (by omega)
  simp only [McchMsg.allocStart, show i ≠ 0 by omega, if_false] at start
  omega

/-- With one scheduling period for all PMCHs, the windows are disjoint and the first-match
scan assigns a subframe to PMCH `i` exactly when `i`'s window holds it. -/
theorem pmch_windows_common_period :
    (∀ i < phy.mcch.nofPmchInfo.toNat, ∀ j < phy.mcch.nofPmchInfo.toNat,
      InWindow phy tti i → InWindow phy tti j → i = j) ∧
    (∀ i, (∃ mcs, pmchScan phy (tti / 10) (tti % 10).toUInt8 = some (i, mcs)) ↔
      i < phy.mcch.nofPmchInfo.toNat ∧ InWindow phy tti i) := by
  refine ⟨fun i iBound j jBound iInside jInside => ?_, fun i => ⟨?_, ?_⟩⟩
  · rw [InWindow, alloc_index_common phy tti period common iBound] at iInside
    rw [InWindow, alloc_index_common phy tti period common jBound] at jInside
    exact window_unique increasing jBound jInside.1 jInside.2 iBound iInside.1 iInside.2
  · rintro ⟨mcs, scanned⟩
    obtain ⟨j, jBound, taken⟩ := find_some_range_mem _ scanned
    obtain ⟨rfl, reaches⟩ := pmch_match_some taken
    rw [common i jBound] at reaches
    obtain ⟨k, kBound, start, holds, _⟩ := first_window ⟨i, jBound, reaches⟩
    have kInside : InWindow phy tti k := by
      rw [InWindow, alloc_index_common phy tti period common kBound]
      exact ⟨start, holds⟩
    obtain ⟨other, picked⟩ :=
      pmch_scan_of_in_window phy tti period increasing common kBound kInside
    rw [scanned, Option.some.injEq, Prod.mk.injEq] at picked
    rw [picked.1]
    exact ⟨kBound, kInside⟩
  · rintro ⟨bound, inside⟩
    exact pmch_scan_of_in_window phy tti period increasing common bound inside

end CommonPeriod

theorem dedicated_scenario_first_subframe :
    ∃ mcs, pmchScan dedicatedScenario (1 / 10) (1 % 10).toUInt8 = some (0, mcs) :=
  ((pmch_windows_common_period dedicatedScenario 1 32 dedicated_scenario_increasing
    (by decide)).2 0).mpr ⟨by decide, by decide⟩

/-! ## Subframes outside the MBSFN class -/

theorem sf_idx_mixed_shadow (fn : UInt32) :
    sfIdx false fn 4 = sfIdx false fn 6 ∧ sfIdx false fn 5 = sfIdx false fn 7 := by
  simp only [sfIdx, Bool.false_eq_true, if_false, show (4 : UInt8) < 6 by decide,
    show ¬(6 : UInt8) < 6 by decide, show (5 : UInt8) < 6 by decide,
    show ¬(7 : UInt8) < 6 by decide, if_true]
  exact ⟨congrArg _ (by decide), congrArg _ (by decide)⟩

/-- `mbsfn_config_for_tti` does not look at the class of the subframe it is asked about. In a
mixed cell the index formula gives CAS subframes 4 and 5 the indices of MBSFN subframes 6 and
7, so unless an MCCH occasion tells them apart a CAS subframe gets the decision of the MBSFN
subframe two TTIs later: callers have to filter with `is_mbsfn_subframe`. -/
theorem mbsfn_config_for_tti_mixed_shadow (phy : Phy) (tti : UInt32)
    (mixed : phy.cell.mbmsDedicated = false) (cas : tti.toNat % 10 = 4 ∨ tti.toNat % 10 = 5)
    (noWrap : tti.toNat + 2 < 2 ^ 32) (quiet : ¬McchOccasion phy tti)
    (laterQuiet : ¬McchOccasion phy (tti + 2)) :
    isCasSubframe phy tti = true ∧ isMbsfnSubframe phy (tti + 2) = true ∧
      mbsfnConfigForTti phy tti = mbsfnConfigForTti phy (tti + 2) := by
  have later : (tti + 2).toNat = tti.toNat + 2 := by
    simp only [UInt32.toNat_add, word_size, UInt32.reduceToNat]
    omega
  have frame : (tti + 2) / 10 = tti / 10 := by
    rw [UInt32.ext_iff, UInt32.toNat_div, UInt32.toNat_div, later]
    simp only [UInt32.reduceToNat]
    omega
  have scan : pmchScan phy (tti / 10) (tti % 10).toUInt8 =
      pmchScan phy ((tti + 2) / 10) ((tti + 2) % 10).toUInt8 := by
    rw [frame]
    have subframes : ((tti % 10).toUInt8 = 4 ∧ ((tti + 2) % 10).toUInt8 = 6) ∨
        ((tti % 10).toUInt8 = 5 ∧ ((tti + 2) % 10).toUInt8 = 7) := by
      simp only [UInt8.ext_iff, sf_toNat, later, UInt8.reduceToNat]
      omega
    refine find_some_range_congr fun i _ => ?_
    rcases subframes with ⟨four, six⟩ | ⟨five, seven⟩
    · simp only [pmchMatch, four, six, mixed, (sf_idx_mixed_shadow _).1,
        show (4 : UInt8) ≠ 1 by decide, show (6 : UInt8) ≠ 1 by decide]
    · simp only [pmchMatch, five, seven, mixed, (sf_idx_mixed_shadow _).2,
        show (5 : UInt8) ≠ 1 by decide, show (7 : UInt8) ≠ 1 by decide]
  refine ⟨?_, ?_, ?_⟩
  · rw [is_cas_subframe_eq, mixed]
    simp only [CasPosition, Bool.false_eq_true, if_false, decide_eq_true_eq]
    omega
  · rw [is_mbsfn_subframe_eq, mixed, later]
    simp only [CasPosition, Bool.false_eq_true, if_false, Bool.not_eq_true',
      decide_eq_false_iff_not]
    omega
  · cases configured : phy.mcchConfigured
    · rw [mbsfn_config_for_tti_unconfigured phy _ configured,
        mbsfn_config_for_tti_unconfigured phy _ configured]
    · rw [mbsfn_config_for_tti_configured phy _ configured,
        mbsfn_config_for_tti_configured phy _ configured, if_neg quiet, if_neg laterQuiet, scan]

def mixedScenario : Phy := { dedicatedScenario with cell := {} }

theorem mixed_scenario_cas_scheduled :
    ((mbsfnConfigForTti mixedScenario 14).1.enable = true ∧
      (mbsfnConfigForTti mixedScenario 14).2 = some 0) ∧
    isCasSubframe mixedScenario 14 = true ∧ isMbsfnSubframe mixedScenario (14 + 2) = true ∧
      mbsfnConfigForTti mixedScenario 14 = mbsfnConfigForTti mixedScenario (14 + 2) :=
  ⟨by decide, mbsfn_config_for_tti_mixed_shadow mixedScenario 14 rfl (by decide) (by decide)
    (by decide) (by decide)⟩

end MbmsModem
