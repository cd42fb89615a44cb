import MbmsModem.Schedule

/-!
# The allocation index is a rank

`mbsfn_config_for_tti` places a subframe in the PMCH allocations by a closed form, `sf_idx`.
What it is meant to be is a count: how many MBSFN subframes of the scheduling period come
before this one. The count is `mbsfnRank`, defined by counting; `mbsfnCount` is its value
after a frame boundary, found by induction over the subframes; `sf_idx_eq_rank` joins the two.
With one scheduling period for all PMCHs, `mbsfn_config_for_tti_rank` then reads the whole
decision off the rank: the MCCH occasion first, otherwise the PMCH whose window holds it.
-/

namespace MbmsModem

set_option autoImplicit false

/-- The rank of `tti` among the MBSFN subframes of its scheduling period of `period` frames:
the number of MBSFN subframes `t` with `10 * (sfn - sfn % period) ≤ t < tti`. -/
def mbsfnRank (phy : Phy) (period : Nat) (tti : UInt32) : Nat :=
  let sfn := tti.toNat / 10
  let start := 10 * (sfn - sfn % period)
  (List.range' start (tti.toNat - start)).countP fun t => isMbsfnSubframe phy (UInt32.ofNat t)

/-- How many CAS subframes the `n` subframes after a boundary hold: the boundary is one of
four frames in an MBMS-dedicated cell, with one CAS subframe in 40, and one of a frame in a
mixed cell, with subframes 0, 4, 5 and 9 of each ten. For a partial frame of `r < 10`
subframes, `(r + 9) / 10`, `(r + 5) / 10` and `(r + 4) / 10` count subframes 0, 4 and 5. -/
def casCount (mbmsDedicated : Bool) (n : Nat) : Nat :=
  if mbmsDedicated then (n + 39) / 40
  else 4 * (n / 10) + (n % 10 + 9) / 10 + (n % 10 + 5) / 10 + (n % 10 + 4) / 10

def mbsfnCount (mbmsDedicated : Bool) (n : Nat) : Nat := n - casCount mbmsDedicated n

theorem is_mbsfn_subframe_of_lt (phy : Phy) {t : Nat} (small : t < 2 ^ 32) :
    isMbsfnSubframe phy (UInt32.ofNat t) = !decide (CasPosition phy.cell.mbmsDedicated t) := by
  rw [is_mbsfn_subframe_eq, word_toNat_ofNat, Nat.mod_eq_of_lt small]

theorem mixed_partial_succ : ∀ r < 9,
    (r + 1 + 9) / 10 + (r + 1 + 5) / 10 + (r + 1 + 4) / 10 =
      (r + 9) / 10 + (r + 5) / 10 + (r + 4) / 10 +
        if r = 0 ∨ r = 4 ∨ r = 5 ∨ r = 9 then 1 else 0 := by
  decide

theorem cas_count_succ (mbmsDedicated : Bool) (start n : Nat) (frame : start % 10 = 0)
    (quad : mbmsDedicated = true → start % 40 = 0) :
    casCount mbmsDedicated (n + 1) =
      casCount mbmsDedicated n + if CasPosition mbmsDedicated (start + n) then 1 else 0 := by
  unfold casCount CasPosition
  cases mbmsDedicated
  · have residue : (start + n) % 10 = n % 10 := by omega
    simp only [Bool.false_eq_true, if_false, residue]
    by_cases last : n % 10 = 9
    · have next : (n + 1) / 10 = n / 10 + 1 ∧ (n + 1) % 10 = 0 := by omega
      simp only [next, last]
      simp
      omega
    · have next : (n + 1) / 10 = n / 10 ∧ (n + 1) % 10 = n % 10 + 1 := by omega
      have inFrame := mixed_partial_succ (n % 10) (by omega)
      simp only [next]
      omega
  · have aligned := quad rfl
    simp only [if_true]
    split <;> omega

theorem cas_count_le (mbmsDedicated : Bool) (n : Nat) : casCount mbmsDedicated n ≤ n := by
  unfold casCount
  split <;> omega

theorem count_from_boundary (phy : Phy) (start n : Nat) (frame : start % 10 = 0)
    (quad : phy.cell.mbmsDedicated = true → start % 40 = 0) (fits : start + n ≤ 2 ^ 32) :
    (List.range' start n).countP (fun t => isMbsfnSubframe phy (UInt32.ofNat t)) =
      mbsfnCount phy.cell.mbmsDedicated n := by
  induction n with
  | zero => simp [mbsfnCount, casCount]
  | succ n induction =>
      have step := cas_count_succ phy.cell.mbmsDedicated start n frame quad
      have below := cas_count_le phy.cell.mbmsDedicated n
      rw [List.range'_concat, List.countP_append, induction (by omega), Nat.one_mul,
        List.countP_singleton, is_mbsfn_subframe_of_lt phy (show start + n < 2 ^ 32 by omega)]
      unfold mbsfnCount
      by_cases cas : CasPosition phy.cell.mbmsDedicated (start + n) <;> simp [cas] at step ⊢ <;>
        omega

theorem period_start_aligned (sfn period : Nat) (quad : 4 ∣ period) :
    (10 * (sfn - sfn % period)) % 40 = 0 := by
  obtain ⟨k, rfl⟩ := quad
  have split := Nat.div_add_mod sfn (4 * k)
  generalize sfn / (4 * k) = q at split
  generalize sfn % (4 * k) = r at split ⊢
  have grouped : 4 * k * q = 4 * (k * q) := Nat.mul_assoc 4 k q
  omega

theorem mbsfn_rank_eq_count (phy : Phy) (period : Nat) (tti : UInt32)
    (quad : phy.cell.mbmsDedicated = true → 4 ∣ period) :
    mbsfnRank phy period tti =
      mbsfnCount phy.cell.mbmsDedicated (10 * (tti.toNat / 10 % period) + tti.toNat % 10) := by
  have modLe := Nat.mod_le (tti.toNat / 10) period
  have decomposition := Nat.div_add_mod tti.toNat 10
  have length : tti.toNat - 10 * (tti.toNat / 10 - tti.toNat / 10 % period) =
      10 * (tti.toNat / 10 % period) + tti.toNat % 10 := by omega
  unfold mbsfnRank
  rw [← length]
  apply count_from_boundary
  · omega
  · exact fun dedicated => period_start_aligned _ _ (quad dedicated)
  · have := UInt32.toNat_lt tti
    omega

/-- Inside a period of a multiple of four frames, a frame sits at the same place of the
four-frame CAS cycle as its number in the period. -/
theorem cas_position_in_period (mbmsDedicated : Bool) (sfn period s : Nat)
    (quad : mbmsDedicated = true → 4 ∣ period) :
    CasPosition mbmsDedicated (10 * (sfn % period) + s) ↔
      CasPosition mbmsDedicated (10 * sfn + s) := by
  unfold CasPosition
  cases mbmsDedicated
  · simp only [Bool.false_eq_true, if_false]
    omega
  · obtain ⟨k, rfl⟩ := quad rfl
    have split := Nat.div_add_mod sfn (4 * k)
    generalize sfn / (4 * k) = q at split
    generalize sfn % (4 * k) = r at split ⊢
    have grouped : 4 * k * q = 4 * (k * q) := Nat.mul_assoc 4 k q
    simp only [if_true]
    omega

theorem mixed_mbsfn_count (f s : Nat) (subframe : s < 10)
    (nonCas : ¬CasPosition false (10 * f + s)) :
    mbsfnCount false (10 * f + s) = 6 * f + if s < 6 then s - 1 else s - 3 := by
  have residue : (10 * f + s) % 10 = s ∧ (10 * f + s) / 10 = f := by omega
  have table : ∀ s < 10, ¬(s = 0 ∨ s = 4 ∨ s = 5 ∨ s = 9) →
      (s + 9) / 10 + (s + 5) / 10 + (s + 4) / 10 = if s < 6 then 1 else 3 := by decide
  unfold CasPosition at nonCas
  simp only [Bool.false_eq_true, if_false, residue.1] at nonCas
  have inFrame := table s subframe nonCas
  unfold mbsfnCount casCount
  simp only [Bool.false_eq_true, if_false, residue.1, residue.2]
  split at inFrame <;> split <;> omega

theorem dedicated_mbsfn_count (f s : Nat) (subframe : s < 10)
    (nonCas : ¬CasPosition true (10 * f + s)) :
    mbsfnCount true (10 * f + s) = 10 * f + s - f / 4 - 1 := by
  unfold CasPosition at nonCas
  unfold mbsfnCount casCount
  simp only [if_true] at nonCas ⊢
  omega

theorem mixed_subframe_pos {f s : Nat} (nonCas : ¬CasPosition false (10 * f + s)) : 1 ≤ s := by
  by_contra zero
  exact nonCas (by unfold CasPosition; simp only [Bool.false_eq_true, if_false]; omega)

/-- The closed form of the source is the count, for every non-CAS subframe of a frame with
a small number in its period (no 32-bit wrap-around). -/
theorem sf_idx_eq_count (mbmsDedicated : Bool) (fn : UInt32) (sf : UInt8)
    (small : fn.toNat < 2 ^ 28) (subframe : sf.toNat < 10)
    (nonCas : ¬CasPosition mbmsDedicated (10 * fn.toNat + sf.toNat)) :
    (sfIdx mbmsDedicated fn sf).toNat = mbsfnCount mbmsDedicated (10 * fn.toNat + sf.toNat) := by
  unfold sfIdx
  cases mbmsDedicated
  · have first := mixed_subframe_pos nonCas
    rw [mixed_mbsfn_count _ _ subframe nonCas]
    simp only [Bool.false_eq_true, if_false, byte_lt_iff, UInt8.reduceToNat]
    split <;> simp (disch := omega) only [UInt32.toNat_add, UInt32.toNat_mul, UInt32.toNat_sub,
        word_size, UInt8.toUInt32_toNat, UInt32.reduceToNat, Nat.mod_eq_of_lt, word_wrap_sub] <;>
      omega
  · rw [dedicated_mbsfn_count _ _ subframe nonCas]
    unfold CasPosition at nonCas
    simp only [if_true] at nonCas ⊢
    have nonzero : 1 ≤ 10 * fn.toNat + sf.toNat := by omega
    have quarter : fn.toNat / 4 ≤ fn.toNat := Nat.div_le_self _ _
    simp (disch := omega) only [UInt32.toNat_add, UInt32.toNat_mul, UInt32.toNat_sub, word_size,
      UInt8.toUInt32_toNat, UInt32.toNat_div, UInt32.reduceToNat, Nat.mod_eq_of_lt, word_wrap_sub]
    omega

/-- Rank 0 is subframe 1 of the period's first frame: the source's test for PMCH 0's
signalling subframe. -/
theorem mbsfn_count_eq_zero_iff (mbmsDedicated : Bool) (f s : Nat) (subframe : s < 10)
    (nonCas : ¬CasPosition mbmsDedicated (10 * f + s)) :
    mbsfnCount mbmsDedicated (10 * f + s) = 0 ↔ f = 0 ∧ s = 1 := by
  cases mbmsDedicated
  · have first := mixed_subframe_pos nonCas
    rw [mixed_mbsfn_count _ _ subframe nonCas]
    split <;> omega
  · rw [dedicated_mbsfn_count _ _ subframe nonCas]
    unfold CasPosition at nonCas
    simp only [if_true] at nonCas
    omega

section CommonPeriod

variable (phy : Phy) (tti period : UInt32)
  (periodPos : 0 < period.toNat) (periodLe : period.toNat ≤ 1024)
  (quad : phy.cell.mbmsDedicated = true → 4 ∣ period.toNat)
  (mbsfn : isMbsfnSubframe phy tti = true)

include periodPos periodLe quad mbsfn

/-- For a PMCH on the common period, `sf_idx` is the rank of the subframe. -/
theorem sf_idx_eq_rank :
    (sfIdx phy.cell.mbmsDedicated (tti / 10 % period) (tti % 10).toUInt8).toNat =
      mbsfnRank phy period.toNat tti := by
  have frame := Nat.div_add_mod tti.toNat 10
  have within := Nat.mod_lt (tti.toNat / 10) periodPos
  have fn : (tti / 10 % period).toNat = tti.toNat / 10 % period.toNat := by simp
  have nonCas : ¬CasPosition phy.cell.mbmsDedicated
      (10 * (tti.toNat / 10 % period.toNat) + tti.toNat % 10) := by
    rw [cas_position_in_period _ _ _ _ quad, frame]
    simpa [is_mbsfn_subframe_eq] using mbsfn
  have sf := sf_toNat tti
  rw [sf_idx_eq_count _ _ _ (by omega) (by omega) (by rw [fn, sf]; exact nonCas), fn, sf,
    mbsfn_rank_eq_count _ _ _ quad]

theorem pmch_match_of_rank (j : Nat) (onPeriod : (phy.mcch.pmch j).mchSchedPeriod = period) :
    pmchMatch phy (tti / 10) (tti % 10).toUInt8 j =
      if mbsfnRank phy period.toNat tti ≤ phy.mcch.allocEnd j then
        if mbsfnRank phy period.toNat tti = phy.mcch.allocStart j then
          some (j, phy.sib13.areaInfo.mcchCfg.sigMcs)
        else some (j, (phy.mcch.pmch j).dataMcs.toUInt32)
      else none := by
  have idx := sf_idx_eq_rank phy tti period periodPos periodLe quad mbsfn
  have frame := Nat.div_add_mod tti.toNat 10
  have within := Nat.mod_lt (tti.toNat / 10) periodPos
  have nonCas : ¬CasPosition phy.cell.mbmsDedicated
      (10 * (tti.toNat / 10 % period.toNat) + tti.toNat % 10) := by
    rw [cas_position_in_period _ _ _ _ quad, frame]
    simpa [is_mbsfn_subframe_eq] using mbsfn
  have first := mbsfn_count_eq_zero_iff phy.cell.mbmsDedicated _ _ (Nat.mod_lt _ (by omega))
    nonCas
  rw [← mbsfn_rank_eq_count _ _ _ quad] at first
  unfold pmchMatch McchMsg.allocStart McchMsg.allocEnd
  simp only [onPeriod, idx]
  rcases Nat.eq_zero_or_pos j with rfl | later
  · simp only [UInt32.ext_iff, UInt8.ext_iff, UInt32.toNat_mod, UInt32.toNat_div, sf_toNat,
      UInt32.reduceToNat, UInt8.reduceToNat, if_true, ← first]
    simp
  · simp [Nat.pos_iff_ne_zero.mp later, later, eq_comm]

/-- With one scheduling period for all PMCHs, the decision for an MBSFN subframe is read off
its rank `r`: an MCCH occasion first; otherwise the PMCH whose window `(e_{i-1}, e_i]` holds
`r`, with the signalling MCS at the window's first index; nothing past the last window. -/
theorem mbsfn_config_for_tti_rank
    (mcchConfigured : phy.mcchConfigured = true) (mchConfigured : phy.mchConfigured = true)
    (nonempty : 0 < phy.mcch.nofPmchInfo.toNat)
    (increasing : phy.mcch.Increasing phy.mcch.nofPmchInfo.toNat)
    (common : ∀ i < phy.mcch.nofPmchInfo.toNat, (phy.mcch.pmch i).mchSchedPeriod = period) :
    let n := phy.mcch.nofPmchInfo.toNat
    let r := mbsfnRank phy period.toNat tti
    let sigMcs := phy.sib13.areaInfo.mcchCfg.sigMcs
    (McchOccasion phy tti →
      mbsfnConfigForTti phy tti =
        ({ idleCfg phy with
            enable := phy.decodeMcch
            isMcch := phy.decodeMcch
            mbsfnMcs := if phy.decodeMcch then some sigMcs else none }, none)) ∧
    (¬McchOccasion phy tti → r ≤ phy.mcch.allocEnd (n - 1) →
      ∃ i < n, phy.mcch.allocStart i ≤ r ∧ r ≤ phy.mcch.allocEnd i ∧
        (∀ j < n, phy.mcch.allocStart j ≤ r → r ≤ phy.mcch.allocEnd j → j = i) ∧
        mbsfnConfigForTti phy tti =
          ({ idleCfg phy with
              enable := true
              mbsfnMcs := some (if r = phy.mcch.allocStart i then sigMcs
                else (phy.mcch.pmch i).dataMcs.toUInt32) }, some i)) ∧
    (¬McchOccasion phy tti → phy.mcch.allocEnd (n - 1) < r →
      mbsfnConfigForTti phy tti = (idleCfg phy, none)) := by
  intro n r sigMcs
  have rankMatch := fun j (bound : j < n) =>
    pmch_match_of_rank phy tti period periodPos periodLe quad mbsfn j (common j bound)
  rw [mbsfn_config_for_tti_configured phy tti mcchConfigured]
  refine ⟨fun occasion => ?_, fun quiet covered => ?_, fun quiet beyond => ?_⟩
  · cases phy.decodeMcch <;> simp [occasion, idleCfg]
  · obtain ⟨i, bound, start, holds, before⟩ :=
      first_window (show ∃ i < n, r ≤ phy.mcch.allocEnd i from ⟨n - 1, by omega, covered⟩)
    have scan : pmchScan phy (tti / 10) (tti % 10).toUInt8 =
        some (i, if r = phy.mcch.allocStart i then sigMcs
          else (phy.mcch.pmch i).dataMcs.toUInt32) := by
      apply find_some_range_of_first _ bound
      · intro j less
        rw [rankMatch j (by omega), if_neg (by have := before j less; omega)]
      · rw [rankMatch _ bound, if_pos holds]
        split <;> rfl
    refine ⟨i, bound, start, holds,
      fun j jBound jStart jEnd =>
        window_unique increasing bound start holds jBound jStart jEnd, ?_⟩
    simp [quiet, mchConfigured, scan]
  · have scan : pmchScan phy (tti / 10) (tti % 10).toUInt8 = none := by
      refine List.findSome?_eq_none_iff.mpr fun j member => ?_
      have bound := List.mem_range.mp member
      have mono := McchMsg.alloc_end_mono increasing (show j ≤ n - 1 by omega) (by omega)
      rw [rankMatch j bound, if_neg (by omega)]
    simp [quiet, mchConfigured, scan]

end CommonPeriod

theorem dedicated_scenario_past_window :
    mbsfnConfigForTti dedicatedScenario 11 = (idleCfg dedicatedScenario, none) :=
  (mbsfn_config_for_tti_rank dedicatedScenario 11 32 (by decide) (by decide) (by decide)
    (by decide) rfl rfl (by decide) dedicated_scenario_increasing
    (by decide)).2.2 (by decide) (by decide)

end MbmsModem
