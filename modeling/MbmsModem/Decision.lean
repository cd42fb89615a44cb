import MbmsModem.Schedule

/-!
# What the scheduler hands out

`mbsfn_config_for_tti` fills a `srsran_mbsfn_cfg_t` that it never initialises, and writes the
channel index to its out-parameter only when a PMCH takes the subframe. A caller reads the MCS,
the area ID and the region length of an enabled decision, and the channel index of a PMCH
decision. `mbsfn_config_for_tti_cases` says once what a call can return; from it,
`mbsfn_config_for_tti_well_formed` shows that such a caller never reads a field the call left
uninitialised, that the out-parameter alone tells MCCH decisions from PMCH ones, and that the
area ID written is always the one `mbsfn_area_id()` reports.
-/

namespace MbmsModem

set_option autoImplicit false

/-- `Phy::mbsfn_area_id`. -/
def mbsfnAreaId (phy : Phy) : UInt8 := phy.sib13.areaInfo.mbsfnAreaId

def mcchDecision (phy : Phy) : MbsfnCfg :=
  { idleCfg phy with
    mbsfnMcs := some phy.sib13.areaInfo.mcchCfg.sigMcs
    enable := true
    isMcch := true }

def pmchDecision (phy : Phy) (mcs : UInt32) : MbsfnCfg :=
  { idleCfg phy with mbsfnMcs := some mcs, enable := true }

/-- Everything `mbsfn_config_for_tti` can return, with what each outcome needs. -/
theorem mbsfn_config_for_tti_cases (phy : Phy) (tti : UInt32) :
    (phy.mcchConfigured = false ∧
      mbsfnConfigForTti phy tti = ({ enable := false, isMcch := false }, none)) ∨
    (phy.mcchConfigured = true ∧ mbsfnConfigForTti phy tti = (idleCfg phy, none)) ∨
    (phy.mcchConfigured = true ∧ phy.decodeMcch = true ∧
      mbsfnConfigForTti phy tti = (mcchDecision phy, none)) ∨
    ∃ i mcs, phy.mcchConfigured = true ∧ phy.mchConfigured = true ∧
      pmchScan phy (tti / 10) (tti % 10).toUInt8 = some (i, mcs) ∧
      mbsfnConfigForTti phy tti = (pmchDecision phy mcs, some i) := by
  cases configured : phy.mcchConfigured
  · exact .inl ⟨rfl, mbsfn_config_for_tti_unconfigured phy tti configured⟩
  rw [mbsfn_config_for_tti_configured phy tti configured]
  split
  · cases decode : phy.decodeMcch
    · exact .inr (.inl ⟨rfl, rfl⟩)
    · exact .inr (.inr (.inl ⟨rfl, rfl, rfl⟩))
  · cases mch : phy.mchConfigured
    · exact .inr (.inl ⟨rfl, rfl⟩)
    · cases scanned : pmchScan phy (tti / 10) (tti % 10).toUInt8 with
      | none => exact .inr (.inl ⟨rfl, rfl⟩)
      | some taken => exact .inr (.inr (.inr ⟨taken.1, taken.2, rfl, rfl, rfl, rfl⟩))

theorem pmch_scan_mcs {phy : Phy} {sfn : UInt32} {sf : UInt8} {i : Nat} {mcs : UInt32}
    (scanned : pmchScan phy sfn sf = some (i, mcs)) :
    i < phy.mcch.nofPmchInfo.toNat ∧
      (mcs = phy.sib13.areaInfo.mcchCfg.sigMcs ∨ mcs = (phy.mcch.pmch i).dataMcs.toUInt32) := by
  obtain ⟨j, bound, taken⟩ := find_some_range_mem _ scanned
  obtain ⟨rfl, -⟩ := pmch_match_some taken
  refine ⟨bound, ?_⟩
  unfold pmchMatch at taken
  simp only at taken
  split at taken
  · split at taken <;> cases taken
    · exact .inl rfl
    · exact .inr rfl
  · cases taken

/-- What a caller of `mbsfn_config_for_tti` may rely on. -/
structure WellFormed (phy : Phy) (decision : MbsfnCfg × Option Nat) : Prop where
  written : decision.1.enable = true →
    decision.1.mbsfnMcs.isSome ∧ decision.1.mbsfnAreaId.isSome ∧
      decision.1.nonMbsfnRegionLength.isSome
  idle : decision.1.enable = false →
    decision.1.mbsfnMcs = none ∧ decision.1.isMcch = false ∧ decision.2 = none
  mcchOrChannel : decision.1.enable = true → (decision.1.isMcch = true ↔ decision.2 = none)
  areaId : ∀ id, decision.1.mbsfnAreaId = some id → id = (mbsfnAreaId phy).toUInt32

/-- Whatever the state and the TTI, `mbsfn_config_for_tti` returns a well-formed decision: a
caller that reads the MCS, area ID and region length only of an enabled decision never reads
a field the call left uninitialised; an enabled decision is for the MCCH exactly when no
channel index is written; and every area ID written is `mbsfn_area_id()`. -/
theorem mbsfn_config_for_tti_well_formed (phy : Phy) (tti : UInt32) :
    WellFormed phy (mbsfnConfigForTti phy tti) := by
  rcases mbsfn_config_for_tti_cases phy tti with
    ⟨-, result⟩ | ⟨-, result⟩ | ⟨-, -, result⟩ | ⟨i, mcs, -, -, -, result⟩ <;>
    rw [result] <;> constructor <;>
    simp [idleCfg, mcchDecision, pmchDecision, mbsfnAreaId]

end MbmsModem
