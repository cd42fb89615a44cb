import MbmsModem.Machine
import MbmsModem.Decision

/-!
# The configuration lifecycle

`mbsfn_config_for_tti` branches on `_mcch_configured`, `_mch_configured` and `_decode_mcch`.
`Phy.mode` abstracts a state to these flags and `Mode.next` is the abstract machine that every
run follows (`run_mode`). From it: `reset` stops the scheduler while `mch_info()` keeps the old
channels (`schedule_after_reset`); every reachable decision that names a channel carries an MCS
that `mch_info()` reports (`reachable_decision_mcs`); and the MCCH message, broadcast again
every repetition period, can be handed to `set_mbsfn_config` again with no effect
(`mcch_redelivery`).
-/

namespace MbmsModem

set_option autoImplicit false

/-! ## The mode machine -/

/-- The flags `mbsfn_config_for_tti` branches on. -/
structure Mode where
  mcchConfigured : Bool
  mchConfigured : Bool
  decodeMcch : Bool
  deriving DecidableEq, Repr

def Phy.mode (phy : Phy) : Mode := ⟨phy.mcchConfigured, phy.mchConfigured, phy.decodeMcch⟩

def Mode.next (mode : Mode) : PhyOp → Mode
  | .setMchSchedulingInfo sib13 =>
      if 0 < sib13.nofMbsfnAreaInfo.toNat then { mode with mcchConfigured := true } else mode
  | .setMbsfnConfig _ => { mode with mchConfigured := true }
  | .reset => { mode with mcchConfigured := false, mchConfigured := false }
  | .setDecodeMcch d => { mode with decodeMcch := d }
  | _ => mode

/-- Every call moves the mode as the abstract machine says. -/
theorem step_mode (lib : Srsran) (phy : Phy) (op : PhyOp) :
    (step lib phy op).mode = phy.mode.next op := by
  cases op with
  | setMchSchedulingInfo sib13 =>
      by_cases taken : 0 < sib13.nofMbsfnAreaInfo.toNat
      · have wordTaken : sib13.nofMbsfnAreaInfo > 0 := taken
        simp only [step, setMchSchedulingInfo, Mode.next, Phy.mode, taken, wordTaken, if_true]
        split <;> rfl
      · have wordTaken : ¬sib13.nofMbsfnAreaInfo > 0 := taken
        simp only [step, setMchSchedulingInfo, Mode.next, Phy.mode, taken, wordTaken, if_false]
        split <;> rfl
  | cellSearch env => rw [step, cell_search_step_frame]; rfl
  | synchronizeSubframe env => rw [step, synchronize_subframe_frame]; rfl
  | _ => rfl

theorem run_mode (lib : Srsran) (phy : Phy) (ops : List PhyOp) :
    (run lib phy ops).mode = ops.foldl Mode.next phy.mode :=
  (List.foldl_hom Phy.mode (step lib) Mode.next ops phy fun phy op =>
    (step_mode lib phy op).symm).symm

/-- The decisions a mode allows: none enabled before a SIB13 is taken, no channel named
before an MCCH message is, and no MCCH decision while MCCH decoding is off. -/
structure Mode.Allows (mode : Mode) (decision : MbsfnCfg × Option Nat) : Prop where
  mcch : mode.mcchConfigured = false → decision.1.enable = false
  mch : mode.mchConfigured = false → decision.2 = none
  decode : mode.decodeMcch = false → decision.1.isMcch = false

theorem mode_allows (phy : Phy) (tti : UInt32) : phy.mode.Allows (mbsfnConfigForTti phy tti) := by
  rcases mbsfn_config_for_tti_cases phy tti with
    ⟨-, result⟩ | ⟨configured, result⟩ | ⟨configured, decode, result⟩ |
      ⟨i, mcs, configured, mch, -, result⟩ <;>
    rw [result] <;> constructor <;> simp_all [Phy.mode, idleCfg, mcchDecision, pmchDecision]

/-! ## After `reset` -/

def PhyOp.TakesSib13 : PhyOp → Bool
  | .setMchSchedulingInfo sib13 => decide (0 < sib13.nofMbsfnAreaInfo.toNat)
  | _ => false

theorem next_mcch_unconfigured {op : PhyOp} (other : op.TakesSib13 = false) {mode : Mode}
    (unconfigured : mode.mcchConfigured = false) : (mode.next op).mcchConfigured = false := by
  cases op with
  | setMchSchedulingInfo sib13 =>
      simp only [PhyOp.TakesSib13, decide_eq_false_iff_not] at other
      simp only [Mode.next, if_neg other, unconfigured]
  | reset => rfl
  | _ => exact unconfigured

theorem next_mch_unconfigured {op : PhyOp} (other : op.IsSetMbsfnConfig = false) {mode : Mode}
    (unconfigured : mode.mchConfigured = false) : (mode.next op).mchConfigured = false := by
  cases op with
  | setMchSchedulingInfo sib13 =>
      simp only [Mode.next]
      split <;> exact unconfigured
  | setMbsfnConfig mcch => cases other
  | reset => rfl
  | _ => exact unconfigured

/-- `reset` stops the scheduler until the PHY is configured again. After it, and any calls
that take no SIB13 with an MBSFN area, no subframe is enabled. After it, and any calls other
than `set_mbsfn_config`, no subframe is given to a PMCH, while `mch_info()` still lists the
channels of the message configured before the reset. -/
theorem schedule_after_reset (lib : Srsran) (phy : Phy) (ops : List PhyOp) (tti : UInt32) :
    let after := run lib phy (.reset :: ops)
    ((∀ op ∈ ops, op.TakesSib13 = false) → (mbsfnConfigForTti after tti).1.enable = false) ∧
    ((∀ op ∈ ops, op.IsSetMbsfnConfig = false) →
      (mbsfnConfigForTti after tti).2 = none ∧ after.mchInfo = phy.mchInfo) := by
  intro after
  have mode : after.mode = ops.foldl Mode.next (phy.mode.next .reset) :=
    run_mode lib phy (.reset :: ops)
  refine ⟨fun noSib13 => (mode_allows after tti).mcch ?_,
    fun noMessage => ⟨(mode_allows after tti).mch ?_, (run_registry lib (reset phy) noMessage).2⟩⟩
  · rw [mode]
    exact List.foldlRecOn (motive := fun mode => mode.mcchConfigured = false) ops Mode.next
      (phy.mode.next .reset) rfl
      fun _ off op member => next_mcch_unconfigured (noSib13 op member) off
  · rw [mode]
    exact List.foldlRecOn (motive := fun mode => mode.mchConfigured = false) ops Mode.next
      (phy.mode.next .reset) rfl
      fun _ off op member => next_mch_unconfigured (noMessage op member) off

theorem dedicated_scenario_reset :
    let after := run acceptingSrsran dedicatedScenario
      [.reset, .synchronizeSubframe resync, .setDecodeMcch true]
    (mbsfnConfigForTti after 1).1.enable = false ∧
      (mbsfnConfigForTti after 1).2 = none ∧ after.mchInfo = dedicatedScenario.mchInfo :=
  ⟨(schedule_after_reset acceptingSrsran dedicatedScenario
      [.synchronizeSubframe resync, .setDecodeMcch true] 1).1 (by decide),
    (schedule_after_reset acceptingSrsran dedicatedScenario
      [.synchronizeSubframe resync, .setDecodeMcch true] 1).2 (by decide)⟩

/-! ## The scheduler and the registry -/

/-- In every state the PHY reaches from its construction, whatever the calls and whatever
srsran returns, a decision that names channel `i` is enabled, `mch_info()` has an entry `i`,
and the decision's MCS is the signalling MCS or the MCS that entry reports. -/
theorem reachable_decision_mcs (lib : Srsran) (ops : List PhyOp) (tti : UInt32) (i : Nat)
    (written : (mbsfnConfigForTti (run lib Phy.initial ops) tti).2 = some i) :
    let phy := run lib Phy.initial ops
    (mbsfnConfigForTti phy tti).1.enable = true ∧
      ∃ entry mcs, phy.mchInfo[i]? = some entry ∧
        (mbsfnConfigForTti phy tti).1.mbsfnMcs = some mcs ∧
        (mcs = phy.sib13.areaInfo.mcchCfg.sigMcs ∨ (mcs.toNat : Int) = entry.mcs) := by
  intro phy
  obtain ⟨dest, registry⟩ : ∃ dest, phy.mchInfo = registryOf phy.mcch dest :=
    (run_invariant lib ops (initial_invariant lib)).registry
  rcases mbsfn_config_for_tti_cases phy tti with
    ⟨-, result⟩ | ⟨-, result⟩ | ⟨-, -, result⟩ | ⟨k, mcs, -, -, scanned, result⟩ <;>
    rw [result] at written ⊢ <;> cases written
  obtain ⟨bound, choice⟩ := pmch_scan_mcs scanned
  refine ⟨rfl, mchInfoOf phy.mcch dest i, mcs, by simp [registry, registryOf, bound], rfl, ?_⟩
  exact choice.imp_right fun data => by simp [data, mchInfoOf]

def sessionRun : List PhyOp := [.setMchSchedulingInfo { nofMbsfnAreaInfo := 1 },
  .setMbsfnConfig sessionMessage]

theorem session_run_decision :
    let phy := run acceptingSrsran Phy.initial sessionRun
    (mbsfnConfigForTti phy 1).1.enable = true ∧
      ∃ entry mcs, phy.mchInfo[0]? = some entry ∧
        (mbsfnConfigForTti phy 1).1.mbsfnMcs = some mcs ∧
        (mcs = phy.sib13.areaInfo.mcchCfg.sigMcs ∨ (mcs.toNat : Int) = entry.mcs) :=
  reachable_decision_mcs acceptingSrsran sessionRun 1 0 (by decide)

/-! ## The same message again -/

def Phy.mchConfig (phy : Phy) : McchMsg × Bool × List MchInfo × Dests :=
  (phy.mcch, phy.mchConfigured, phy.mchInfo, phy.dests)

def PhyOp.KeepsMchConfig : PhyOp → Bool
  | .setMbsfnConfig _ | .reset | .setDestForLcid _ _ _ => false
  | _ => true

theorem step_mch_config (lib : Srsran) (phy : Phy) {op : PhyOp}
    (keeps : op.KeepsMchConfig = true) : (step lib phy op).mchConfig = phy.mchConfig := by
  cases op with
  | setMchSchedulingInfo sib13 =>
      simp only [step, setMchSchedulingInfo]
      split <;> split <;> rfl
  | cellSearch env => rw [step, cell_search_step_frame]; rfl
  | synchronizeSubframe env => rw [step, synchronize_subframe_frame]; rfl
  | setMbsfnConfig | reset | setDestForLcid => cases keeps
  | _ => rfl

theorem run_mch_config (lib : Srsran) (phy : Phy) {ops : List PhyOp}
    (keeps : ∀ op ∈ ops, op.KeepsMchConfig = true) :
    (run lib phy ops).mchConfig = phy.mchConfig :=
  run_keeps lib (fun after => after.mchConfig = phy.mchConfig)
    (fun op member before same => (step_mch_config lib before (keeps op member)).trans same) rfl

/-- Handing `set_mbsfn_config` the message it was last given changes nothing: after
`set_mbsfn_config(m)` and any calls other than `set_mbsfn_config`, `reset` and
`set_dest_for_lcid`, whatever srsran returns, a second `set_mbsfn_config(m)` leaves the whole
state as it was. The first call left every key its loops read present in `_dests`, so the
second inserts nothing, and rebuilds the registry it finds. -/
theorem mcch_redelivery (lib : Srsran) (phy : Phy) (mcch : McchMsg) (ops : List PhyOp)
    (keeps : ∀ op ∈ ops, op.KeepsMchConfig = true) :
    run lib phy (.setMbsfnConfig mcch :: ops ++ [.setMbsfnConfig mcch]) =
      run lib phy (.setMbsfnConfig mcch :: ops) := by
  rw [run_append]
  show setMbsfnConfig (run lib (setMbsfnConfig phy mcch) ops) mcch =
    run lib (setMbsfnConfig phy mcch) ops
  have kept := run_mch_config lib (setMbsfnConfig phy mcch) keeps
  simp only [Phy.mchConfig, Prod.mk.injEq] at kept
  obtain ⟨stored, configured, registry, dests⟩ := kept
  refine set_mbsfn_config_fixed _ mcch stored configured ?_
    (dests ▸ set_mbsfn_config_covers phy mcch)
  rw [registry, dests, (set_mbsfn_config_registry phy mcch).1,
    (set_mbsfn_config_registry phy mcch).2]

theorem session_message_redelivery :
    run acceptingSrsran dedicatedScenario
        (.setMbsfnConfig sessionMessage :: [.synchronizeSubframe resync, .mbsfnConfigForTti 1] ++
          [.setMbsfnConfig sessionMessage]) =
      run acceptingSrsran dedicatedScenario
        (.setMbsfnConfig sessionMessage :: [.synchronizeSubframe resync, .mbsfnConfigForTti 1]) :=
  mcch_redelivery acceptingSrsran dedicatedScenario sessionMessage _ (by decide)

end MbmsModem
