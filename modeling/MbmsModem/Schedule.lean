import MbmsModem.Classifier

/-!
# The scheduling engine

`Phy::set_mch_scheduling_info`, which accepts SIB13 and derives the MCCH table, and
`Phy::mbsfn_config_for_tti`, which maps a TTI to the decoding parameters of its subframe.
The PMCH loop with its `break` is `List.findSome?` over the PMCH indices. The out-parameter
`area` is returned as the value the call writes into it, `none` when it leaves it alone.
-/

namespace MbmsModem

set_option autoImplicit false

/-- `Phy::set_mch_scheduling_info`. The warning about more than one MBSFN area is only
logged. The PMCH bandwidth override happens even when the SIB13 itself is not taken. -/
def setMchSchedulingInfo (lib : Srsran) (phy : Phy) (sib13 : Sib13) : Phy :=
  let areaInfo := sib13.areaInfo
  let phy :=
    if areaInfo.pmchBandwidth ≠ 0 then { phy with cell.mbsfnPrb := areaInfo.pmchBandwidth }
    else phy
  if sib13.nofMbsfnAreaInfo > 0 then
    let generate :=
      if areaInfo.mcchCfg.sfAllocInfoIsR16 then lib.generateMcchTableR16
      else lib.generateMcchTable
    { phy with
      sib13 := sib13
      mcchTable := generate areaInfo.mcchCfg.sfAllocInfo.toUInt32
      mcchConfigured := true }
  else phy

/-- `sf_idx`: the place of subframe `sf` of frame `fnInSchedulingPeriod` among the MBSFN
subframes of the scheduling period. In the mixed branch the conditional is an `int` (`sf` is
promoted); adding it to the unsigned frame term converts it modulo 2^32, which is what the
`UInt32` subtraction computes. -/
def sfIdx (mbmsDedicated : Bool) (fnInSchedulingPeriod : UInt32) (sf : UInt8) : UInt32 :=
  if mbmsDedicated then
    fnInSchedulingPeriod * 10 + sf.toUInt32 - fnInSchedulingPeriod / 4 - 1
  else
    fnInSchedulingPeriod * 6 + (if sf < 6 then sf.toUInt32 - 1 else sf.toUInt32 - 3)

/-- One pass of the PMCH loop of `mbsfn_config_for_tti`, for PMCH `i`: `some (i, mbsfn_mcs)`
when the subframe falls in its allocation and the loop breaks. The first subframe of PMCH 0's
period, or the one right after the previous PMCH's allocation, carries the signalling MCS. -/
def pmchMatch (phy : Phy) (sfn : UInt32) (sf : UInt8) (i : Nat) : Option (Nat × UInt32) :=
  let pmch := phy.mcch.pmch i
  let fnInSchedulingPeriod := sfn % pmch.mchSchedPeriod
  let idx := sfIdx phy.cell.mbmsDedicated fnInSchedulingPeriod sf
  if idx.toNat ≤ pmch.sfAllocEnd.toNat then
    if (i = 0 ∧ fnInSchedulingPeriod = 0 ∧ sf = 1) ∨
        (i > 0 ∧ (phy.mcch.pmch (i - 1)).sfAllocEnd.toNat + 1 = idx.toNat) then
      some (i, phy.sib13.areaInfo.mcchCfg.sigMcs)
    else
      some (i, pmch.dataMcs.toUInt32)
  else none

def pmchScan (phy : Phy) (sfn : UInt32) (sf : UInt8) : Option (Nat × UInt32) :=
  (List.range phy.mcch.nofPmchInfo.toNat).findSome? (pmchMatch phy sfn sf)

/-- `Phy::mbsfn_config_for_tti`: the decision and the value written to `area`, if any.
`_mcch_table[sf]` is read at `Fin.ofNat sf`, which is `sf` itself since `sf < 10`. -/
def mbsfnConfigForTti (phy : Phy) (tti : UInt32) : MbsfnCfg × Option Nat :=
  let cfg : MbsfnCfg := { enable := false, isMcch := false }
  if !phy.mcchConfigured then (cfg, none)
  else
    let sfn := tti / 10
    let sf : UInt8 := (tti % 10).toUInt8
    let areaInfo := phy.sib13.areaInfo
    let cfg := { cfg with
      mbsfnAreaId := some areaInfo.mbsfnAreaId.toUInt32
      nonMbsfnRegionLength := some areaInfo.nonMbsfnRegionLen }
    if sfn % areaInfo.mcchCfg.mcchRepeatPeriod = areaInfo.mcchCfg.mcchOffset.toUInt32 ∧
        phy.mcchTable (Fin.ofNat sf.toNat) = 1 then
      if phy.decodeMcch then
        ({ cfg with mbsfnMcs := some areaInfo.mcchCfg.sigMcs, enable := true, isMcch := true },
          none)
      else (cfg, none)
    else if phy.mchConfigured then
      let cfg := { cfg with mbsfnAreaId := some areaInfo.mbsfnAreaId.toUInt32 }
      match pmchScan phy sfn sf with
      | some (i, mcs) => ({ cfg with mbsfnMcs := some mcs, enable := true }, some i)
      | none => (cfg, none)
    else (cfg, none)

/-! ## Reading the scheduler on the subframe count -/

def idleCfg (phy : Phy) : MbsfnCfg :=
  { enable := false, isMcch := false
    mbsfnAreaId := some phy.sib13.areaInfo.mbsfnAreaId.toUInt32
    nonMbsfnRegionLength := some phy.sib13.areaInfo.nonMbsfnRegionLen }

def McchOccasion (phy : Phy) (tti : UInt32) : Prop :=
  tti.toNat / 10 % phy.sib13.areaInfo.mcchCfg.mcchRepeatPeriod.toNat =
      phy.sib13.areaInfo.mcchCfg.mcchOffset.toNat ∧
    phy.mcchTable (Fin.ofNat (tti.toNat % 10)) = 1

instance (phy : Phy) (tti : UInt32) : Decidable (McchOccasion phy tti) :=
  inferInstanceAs (Decidable (_ ∧ _))

@[simp] theorem sf_toNat (tti : UInt32) : (tti % 10).toUInt8.toNat = tti.toNat % 10 := by
  simp only [UInt32.toUInt8_toNat, UInt32.toNat_mod, UInt32.reduceToNat]
  omega

theorem mcch_test_iff (phy : Phy) (tti : UInt32) :
    (tti / 10 % phy.sib13.areaInfo.mcchCfg.mcchRepeatPeriod =
        phy.sib13.areaInfo.mcchCfg.mcchOffset.toUInt32 ∧
      phy.mcchTable (Fin.ofNat (tti % 10).toUInt8.toNat) = 1) ↔ McchOccasion phy tti := by
  rw [sf_toNat]
  simp [McchOccasion, UInt32.ext_iff]

theorem mbsfn_config_for_tti_configured (phy : Phy) (tti : UInt32)
    (configured : phy.mcchConfigured = true) :
    mbsfnConfigForTti phy tti =
      if McchOccasion phy tti then
        if phy.decodeMcch then
          ({ idleCfg phy with
              mbsfnMcs := some phy.sib13.areaInfo.mcchCfg.sigMcs
              enable := true
              isMcch := true }, none)
        else (idleCfg phy, none)
      else if phy.mchConfigured then
        match pmchScan phy (tti / 10) (tti % 10).toUInt8 with
        | some (i, mcs) => ({ idleCfg phy with mbsfnMcs := some mcs, enable := true }, some i)
        | none => (idleCfg phy, none)
      else (idleCfg phy, none) := by
  simp only [mbsfnConfigForTti, configured, Bool.not_true, mcch_test_iff]
  rfl

theorem mbsfn_config_for_tti_unconfigured (phy : Phy) (tti : UInt32)
    (unconfigured : phy.mcchConfigured = false) :
    mbsfnConfigForTti phy tti = ({ enable := false, isMcch := false }, none) := by
  simp [mbsfnConfigForTti, unconfigured]

theorem pmch_match_some {phy : Phy} {sfn : UInt32} {sf : UInt8} {j i : Nat} {mcs : UInt32}
    (taken : pmchMatch phy sfn sf j = some (i, mcs)) :
    i = j ∧ (sfIdx phy.cell.mbmsDedicated (sfn % (phy.mcch.pmch j).mchSchedPeriod) sf).toNat ≤
      phy.mcch.allocEnd j := by
  unfold pmchMatch at taken
  simp only at taken
  split at taken
  · split at taken <;> cases taken <;> exact ⟨rfl, ‹_›⟩
  · cases taken

theorem pmch_match_none {phy : Phy} {sfn : UInt32} {sf : UInt8} {j : Nat}
    (beyond : phy.mcch.allocEnd j <
      (sfIdx phy.cell.mbmsDedicated (sfn % (phy.mcch.pmch j).mchSchedPeriod) sf).toNat) :
    pmchMatch phy sfn sf j = none := by
  unfold pmchMatch McchMsg.allocEnd at *
  simp [Nat.not_le.mpr beyond]

theorem pmch_match_isSome {phy : Phy} {sfn : UInt32} {sf : UInt8} {j : Nat}
    (reaches : (sfIdx phy.cell.mbmsDedicated (sfn % (phy.mcch.pmch j).mchSchedPeriod) sf).toNat ≤
      phy.mcch.allocEnd j) :
    ∃ mcs, pmchMatch phy sfn sf j = some (j, mcs) := by
  unfold pmchMatch McchMsg.allocEnd at *
  simp only [reaches, if_true]
  split
  · exact ⟨_, rfl⟩
  · exact ⟨_, rfl⟩

/-! ## The first-match loop -/

theorem find_some_range_of_first {β : Type} (f : Nat → Option β) {n i : Nat} {b : β}
    (bound : i < n) (before : ∀ j < i, f j = none) (found : f i = some b) :
    (List.range n).findSome? f = some b := by
  induction n with
  | zero => omega
  | succ n induction =>
      rw [List.range_succ, List.findSome?_append]
      rcases Nat.lt_or_ge i n with earlier | last
      · simp [induction earlier]
      · have quiet : (List.range n).findSome? f = none :=
          List.findSome?_eq_none_iff.mpr fun j member =>
            before j (by simp at member; omega)
        have same : i = n := by omega
        subst same
        simp [quiet, found]

theorem find_some_range_mem {β : Type} (f : Nat → Option β) {n : Nat} {b : β}
    (found : (List.range n).findSome? f = some b) : ∃ i < n, f i = some b := by
  obtain ⟨_, i, _, split, answer, _⟩ := List.findSome?_eq_some_iff.mp found
  have member : i ∈ List.range n := by simp [split]
  exact ⟨i, List.mem_range.mp member, answer⟩

theorem find_some_range_congr {β : Type} {f g : Nat → Option β} {n : Nat}
    (same : ∀ i < n, f i = g i) : (List.range n).findSome? f = (List.range n).findSome? g := by
  induction n with
  | zero => rfl
  | succ n induction =>
      rw [List.range_succ, List.findSome?_append, List.findSome?_append,
        induction fun i bound => same i (by omega)]
      simp only [List.findSome?_cons, List.findSome?_nil, same n (by omega)]

theorem mbsfn_config_for_tti_area_lt {phy : Phy} {tti : UInt32} {i : Nat}
    (written : (mbsfnConfigForTti phy tti).2 = some i) : i < phy.mcch.nofPmchInfo.toNat := by
  cases configured : phy.mcchConfigured
  · rw [mbsfn_config_for_tti_unconfigured phy tti configured] at written
    cases written
  · rw [mbsfn_config_for_tti_configured phy tti configured] at written
    split at written
    · split at written <;> cases written
    · split at written
      · split at written
        · rename_i scanned
          cases written
          obtain ⟨k, bound, taken⟩ := find_some_range_mem _ scanned
          obtain ⟨rfl, -⟩ := pmch_match_some taken
          exact bound
        · cases written
      · cases written

/-! ## PMCH windows -/

/-- The rank's window is unique: strictly increasing end offsets make the windows disjoint. -/
theorem window_unique {mcch : McchMsg} {n r i j : Nat} (increasing : mcch.Increasing n)
    (iBound : i < n) (iStart : mcch.allocStart i ≤ r) (iEnd : r ≤ mcch.allocEnd i)
    (jBound : j < n) (jStart : mcch.allocStart j ≤ r) (jEnd : r ≤ mcch.allocEnd j) : j = i := by
  by_contra different
  have separated : ∀ a b, a < b → b < n → mcch.allocStart a ≤ r →
      r ≤ mcch.allocEnd a →
      mcch.allocStart b ≤ r → False := by
    intro a b less bBound _ aEnd bStart
    have mono := McchMsg.alloc_end_mono increasing (show a ≤ b - 1 by omega) (by omega)
    simp only [McchMsg.allocStart, show b ≠ 0 by omega, if_false] at bStart
    omega
  rcases Nat.lt_or_gt_of_ne different with less | greater
  · exact separated j i less iBound jStart jEnd iStart
  · exact separated i j greater jBound iStart iEnd jStart

theorem first_window {mcch : McchMsg} {n x : Nat} (covered : ∃ i < n, x ≤ mcch.allocEnd i) :
    ∃ i < n, mcch.allocStart i ≤ x ∧ x ≤ mcch.allocEnd i ∧
      ∀ j < i, mcch.allocEnd j < x := by
  classical
  have covering : ∃ i, i < n ∧ x ≤ mcch.allocEnd i := by simpa using covered
  obtain ⟨bound, holds⟩ := Nat.find_spec covering
  have before : ∀ j < Nat.find covering, mcch.allocEnd j < x := fun j less => by
    have missed := Nat.find_min covering less
    omega
  refine ⟨Nat.find covering, bound, ?_, holds, before⟩
  unfold McchMsg.allocStart
  split
  · omega
  · have := before (Nat.find covering - 1) (by omega)
    omega

/-- A reference MBMS-dedicated configuration: MCCH in subframe 0 of every 32nd frame, and one
PMCH with a 32-frame period whose allocation ends at index 9. -/
def dedicatedScenario : Phy :=
  { Phy.initial with
    cell := { mbmsDedicated := true }
    decodeMcch := true
    mcchTable := fun sf => if sf = 0 then 1 else 0
    mcchConfigured := true
    sib13 := { nofMbsfnAreaInfo := 1, areaInfo := { mcchCfg := { mcchRepeatPeriod := 32 } } }
    mcch := { nofPmchInfo := 1, pmchInfoList := [{ sfAllocEnd := 9, mchSchedPeriod := 32 }] }
    mchConfigured := true }

theorem dedicated_scenario_increasing :
    dedicatedScenario.mcch.Increasing dedicatedScenario.mcch.nofPmchInfo.toNat := by
  intro i next
  change i + 1 < 1 at next
  omega

/-! ## One hyperframe later -/

theorem frame_mod_hyperframe (sfn k period : Nat) (divides : period ∣ 1024) :
    (sfn + 1024 * k) % period = sfn % period := by
  obtain ⟨m, hm⟩ := divides
  rw [hm, Nat.mul_assoc, Nat.add_mul_mod_self_left]

/-- The schedule is a function of the TTI modulo a hyperframe: when the MCCH repetition
period and every PMCH's scheduling period divide 1024, `mbsfn_config_for_tti` decides the
same and writes the same area at `tti` and at `tti + 10240 k`, and so do the classifiers. -/
theorem mbsfn_config_for_tti_hyperframe (phy : Phy) (tti : UInt32) (k : Nat)
    (repeatDivides : phy.sib13.areaInfo.mcchCfg.mcchRepeatPeriod.toNat ∣ 1024)
    (schedDivides : ∀ i < phy.mcch.nofPmchInfo.toNat,
      (phy.mcch.pmch i).mchSchedPeriod.toNat ∣ 1024)
    (noWrap : tti.toNat + 10240 * k < 2 ^ 32) :
    mbsfnConfigForTti phy (tti + UInt32.ofNat (10240 * k)) = mbsfnConfigForTti phy tti ∧
      isCasSubframe phy (tti + UInt32.ofNat (10240 * k)) = isCasSubframe phy tti ∧
      isMbsfnSubframe phy (tti + UInt32.ofNat (10240 * k)) = isMbsfnSubframe phy tti := by
  refine ⟨?_, is_cas_subframe_hyperframe phy tti k noWrap,
    is_mbsfn_subframe_hyperframe phy tti k noWrap⟩
  have later : (tti + UInt32.ofNat (10240 * k)).toNat = tti.toNat + 10240 * k := by
    simp only [UInt32.toNat_add, word_size, word_toNat_ofNat]
    omega
  have frame : (tti + UInt32.ofNat (10240 * k)).toNat / 10 = tti.toNat / 10 + 1024 * k := by
    omega
  have sf : (tti + UInt32.ofNat (10240 * k)) % 10 = tti % 10 := by
    rw [UInt32.ext_iff, UInt32.toNat_mod, UInt32.toNat_mod, later]
    simp
    omega
  have scan : pmchScan phy ((tti + UInt32.ofNat (10240 * k)) / 10)
        ((tti + UInt32.ofNat (10240 * k)) % 10).toUInt8 =
      pmchScan phy (tti / 10) (tti % 10).toUInt8 := by
    refine find_some_range_congr fun i bound => ?_
    have periodic : (tti + UInt32.ofNat (10240 * k)) / 10 % (phy.mcch.pmch i).mchSchedPeriod =
        tti / 10 % (phy.mcch.pmch i).mchSchedPeriod := by
      rw [UInt32.ext_iff, UInt32.toNat_mod, UInt32.toNat_mod, UInt32.toNat_div, UInt32.toNat_div]
      simp only [UInt32.reduceToNat]
      rw [frame, frame_mod_hyperframe _ _ _ (schedDivides i bound)]
    simp only [pmchMatch, periodic, sf]
  have occasion : McchOccasion phy (tti + UInt32.ofNat (10240 * k)) ↔ McchOccasion phy tti := by
    have subframe : (tti.toNat + 10240 * k) % 10 = tti.toNat % 10 := by omega
    unfold McchOccasion
    rw [frame, frame_mod_hyperframe _ _ _ repeatDivides, later, subframe]
  cases configured : phy.mcchConfigured
  · simp only [mbsfn_config_for_tti_unconfigured phy _ configured]
  · simp only [mbsfn_config_for_tti_configured phy _ configured, occasion, scan]

theorem dedicated_scenario_next_hyperframe :
    mbsfnConfigForTti dedicatedScenario (11 + UInt32.ofNat (10240 * 3)) =
      mbsfnConfigForTti dedicatedScenario 11 :=
  (mbsfn_config_for_tti_hyperframe dedicatedScenario 11 3 (by decide) (by decide)
    (by decide)).1

end MbmsModem
