import MbmsModem.Schedule
import MbmsModem.Registry
import MbmsModem.Acquisition

/-!
# The PHY as a state machine

The public operations of `Phy` that write its members, as one step function; a run is a
sequence of them, and `run_keeps` is the one induction over runs. An exception of
`cell_search` is thrown before its first write, so it leaves the state as it was. Over whole
runs: the registry after `set_mbsfn_config` (`mch_info_after_config`), the schedule across
resynchronisation (`schedule_across_resync`), and what every reachable state keeps
(`reachable_phy_safe`).
-/

namespace MbmsModem

set_option autoImplicit false

/-! ## Operations -/

/-- `Phy::reset`: `_mcch_configured = _mch_configured = false`. -/
def reset (phy : Phy) : Phy := { phy with mcchConfigured := false, mchConfigured := false }

/-- `Phy::set_decode_mcch`. -/
def setDecodeMcch (phy : Phy) (d : Bool) : Phy := { phy with decodeMcch := d }

/-- `Phy::set_dest_for_lcid`: `_dests[mch_idx][lcid] = dest`. -/
def setDestForLcid (phy : Phy) (mchIdx : UInt32) (lcid : Int) (dest : String) : Phy :=
  { phy with dests := phy.dests.assign mchIdx lcid dest }

/-- `Phy::set_nof_mbsfn_prb`: the `uint8_t` widened into `_cell.mbsfn_prb`. -/
def setNofMbsfnPrb (phy : Phy) (prb : UInt8) : Phy := { phy with cell.mbsfnPrb := prb.toUInt32 }

/-- The calls on a `Phy` that can change it, with their arguments and, for the calls into
srsran, what srsran returns. Writes through the reference `mcch()` returns are not
operations of the model. -/
inductive PhyOp where
  | setMchSchedulingInfo (sib13 : Sib13)
  | setMbsfnConfig (mcch : McchMsg)
  | reset
  | setDecodeMcch (d : Bool)
  | setDestForLcid (mchIdx : UInt32) (lcid : Int) (dest : String)
  | setNofMbsfnPrb (prb : UInt8)
  | cellSearch (env : CellSearchEnv)
  | synchronizeSubframe (env : SyncEnv)
  | mbsfnConfigForTti (tti : UInt32)

/-- `cell_search` as a step: the state it leaves, the state before it when it throws. -/
def cellSearchStep (lib : Srsran) (phy : Phy) (env : CellSearchEnv) : Phy :=
  match cellSearch lib phy env with
  | .ok (after, _) => after
  | .error _ => phy

def step (lib : Srsran) (phy : Phy) : PhyOp → Phy
  | .setMchSchedulingInfo sib13 => setMchSchedulingInfo lib phy sib13
  | .setMbsfnConfig mcch => setMbsfnConfig phy mcch
  | .reset => reset phy
  | .setDecodeMcch d => setDecodeMcch phy d
  | .setDestForLcid mchIdx lcid dest => setDestForLcid phy mchIdx lcid dest
  | .setNofMbsfnPrb prb => setNofMbsfnPrb phy prb
  | .cellSearch env => cellSearchStep lib phy env
  | .synchronizeSubframe env => (synchronizeSubframe phy env).1
  | .mbsfnConfigForTti _ => phy

def run (lib : Srsran) (phy : Phy) (ops : List PhyOp) : Phy := ops.foldl (step lib) phy

@[simp] theorem run_nil (lib : Srsran) (phy : Phy) : run lib phy [] = phy := rfl

@[simp] theorem run_cons (lib : Srsran) (phy : Phy) (op : PhyOp) (ops : List PhyOp) :
    run lib phy (op :: ops) = run lib (step lib phy op) ops := rfl

theorem run_append (lib : Srsran) (phy : Phy) (ops more : List PhyOp) :
    run lib phy (ops ++ more) = run lib (run lib phy ops) more :=
  List.foldl_append _ _ _ _

/-- What every call of a sequence keeps holds after it: the one induction over runs. -/
theorem run_keeps (lib : Srsran) (holds : Phy → Prop) {ops : List PhyOp}
    (keeps : ∀ op ∈ ops, ∀ phy, holds phy → holds (step lib phy op)) {phy : Phy}
    (start : holds phy) : holds (run lib phy ops) :=
  List.foldlRecOn (motive := holds) ops (step lib) phy start fun phy holding op member =>
    keeps op member phy holding

theorem cell_search_step_frame (lib : Srsran) (phy : Phy) (env : CellSearchEnv) :
    cellSearchStep lib phy env = { phy with cell := (cellSearchStep lib phy env).cell } := by
  unfold cellSearchStep
  split
  · exact cell_search_frame ‹_›
  · rfl

theorem synchronize_subframe_frame (phy : Phy) (env : SyncEnv) :
    (synchronizeSubframe phy env).1 = { phy with
      cell := (synchronizeSubframe phy env).1.cell
      tti := (synchronizeSubframe phy env).1.tti } := by
  rw [synchronize_subframe_eq]
  split <;> rfl

/-! ## The registry after `set_mbsfn_config` -/

def PhyOp.IsSetMbsfnConfig : PhyOp → Bool
  | .setMbsfnConfig _ => true
  | _ => false

def PhyOp.storedDest (op : PhyOp) (mchIdx : UInt32) (lcid : Int) : Option String :=
  match op with
  | .setDestForLcid i l dest => if mchIdx = i ∧ lcid = l then some dest else none
  | _ => none

def lastDest : List PhyOp → UInt32 → Int → Option String
  | [], _, _ => none
  | op :: ops, mchIdx, lcid => (lastDest ops mchIdx lcid).or (op.storedDest mchIdx lcid)

theorem step_dest_of (lib : Srsran) (phy : Phy) (op : PhyOp) (mchIdx : UInt32) (lcid : Int) :
    destOf (step lib phy op).dests mchIdx lcid =
      (op.storedDest mchIdx lcid).getD (destOf phy.dests mchIdx lcid) := by
  cases op with
  | setMchSchedulingInfo sib13 =>
      simp only [step, setMchSchedulingInfo]
      split <;> split <;> rfl
  | setMbsfnConfig mcch => rw [step, (set_mbsfn_config_registry phy mcch).2]; rfl
  | setDestForLcid i l dest =>
      simp only [step, setDestForLcid, dest_of_assign, PhyOp.storedDest]
      split <;> rfl
  | cellSearch env => rw [step, cell_search_step_frame]; rfl
  | synchronizeSubframe env => rw [step, synchronize_subframe_frame]; rfl
  | _ => rfl

theorem last_dest_foldl (ops : List PhyOp) (mchIdx : UInt32) (lcid : Int) (dest : String) :
    ops.foldl (fun dest op => (op.storedDest mchIdx lcid).getD dest) dest =
      (lastDest ops mchIdx lcid).getD dest := by
  induction ops generalizing dest with
  | nil => rfl
  | cons op ops induction =>
      rw [List.foldl_cons, induction, lastDest]
      cases lastDest ops mchIdx lcid <;> rfl

theorem run_dest_of (lib : Srsran) (phy : Phy) (ops : List PhyOp) (mchIdx : UInt32)
    (lcid : Int) :
    destOf (run lib phy ops).dests mchIdx lcid =
      (lastDest ops mchIdx lcid).getD (destOf phy.dests mchIdx lcid) := by
  rw [← last_dest_foldl]
  exact (List.foldl_hom (fun phy => destOf phy.dests mchIdx lcid) (step lib)
    (fun dest op => (op.storedDest mchIdx lcid).getD dest) ops phy
    fun phy op => (step_dest_of lib phy op mchIdx lcid).symm).symm

theorem step_registry (lib : Srsran) (phy : Phy) {op : PhyOp}
    (other : op.IsSetMbsfnConfig = false) :
    (step lib phy op).mcch = phy.mcch ∧ (step lib phy op).mchInfo = phy.mchInfo := by
  cases op with
  | setMchSchedulingInfo sib13 =>
      simp only [step, setMchSchedulingInfo]
      split <;> split <;> exact ⟨rfl, rfl⟩
  | setMbsfnConfig mcch => cases other
  | cellSearch env => rw [step, cell_search_step_frame]; exact ⟨rfl, rfl⟩
  | synchronizeSubframe env => rw [step, synchronize_subframe_frame]; exact ⟨rfl, rfl⟩
  | _ => exact ⟨rfl, rfl⟩

theorem run_registry (lib : Srsran) (phy : Phy) {ops : List PhyOp}
    (others : ∀ op ∈ ops, op.IsSetMbsfnConfig = false) :
    (run lib phy ops).mcch = phy.mcch ∧ (run lib phy ops).mchInfo = phy.mchInfo :=
  run_keeps lib (fun after => after.mcch = phy.mcch ∧ after.mchInfo = phy.mchInfo)
    (fun op member before ⟨message, registry⟩ =>
      ⟨(step_registry lib before (others op member)).1.trans message,
        (step_registry lib before (others op member)).2.trans registry⟩) ⟨rfl, rfl⟩

/-- After `set_mbsfn_config(m)` and any later calls other than `set_mbsfn_config`, the
registry holds one entry per PMCH of `m` with its data MCS, and in it one entry per session
in order, with its logical channel, its TMGI string and the destination that the last
`set_dest_for_lcid` before the configuration stored (the one held before the history, if
none did); every channel index the scheduler then writes names an entry. -/
theorem mch_info_after_config (lib : Srsran) (phy : Phy) (before : List PhyOp) (mcch : McchMsg)
    (after : List PhyOp) (others : ∀ op ∈ after, op.IsSetMbsfnConfig = false) :
    let state := run lib phy (before ++ .setMbsfnConfig mcch :: after)
    state.mchInfo =
        registryOf mcch (fun i l => (lastDest before i l).getD (destOf phy.dests i l)) ∧
      state.mchInfo.length = mcch.nofPmchInfo.toNat ∧
      ∀ tti i, (mbsfnConfigForTti state tti).2 = some i → i < state.mchInfo.length := by
  intro state
  have kept := run_registry lib (setMbsfnConfig (run lib phy before) mcch) others
  have built := (set_mbsfn_config_registry (run lib phy before) mcch).1
  have registry : state.mchInfo =
      registryOf mcch (fun i l => (lastDest before i l).getD (destOf phy.dests i l)) := by
    simp only [state, run_append, run_cons, step]
    rw [kept.2, built]
    congr
    funext i l
    exact run_dest_of lib phy before i l
  have message : state.mcch = mcch := by
    simp only [state, run_append, run_cons, step]
    rw [kept.1]
    rfl
  refine ⟨registry, by rw [registry, registry_of_length], fun tti i written => ?_⟩
  rw [registry, registry_of_length, ← message]
  exact mbsfn_config_for_tti_area_lt written

def sessionMessage : McchMsg where
  nofPmchInfo := 1
  pmchInfoList :=
    [{ dataMcs := 16
       nofMbmsSessionInfo := 1
       mbmsSessionInfoList := [{ lcChId := 5, tmgi := commentTmgi }] }]

theorem session_message_registry :
    (run acceptingSrsran Phy.initial
        ([.setDestForLcid 0 5 "tun0"] ++ .setMbsfnConfig sessionMessage ::
          [.reset, .mbsfnConfigForTti 1])).mchInfo =
      [{ mcs := 16
         mtchs := [{ tmgi := tmgiString commentTmgi, dest := "tun0", lcid := 5 }] }] := by
  rw [(mch_info_after_config acceptingSrsran Phy.initial [.setDestForLcid 0 5 "tun0"]
    sessionMessage [.reset, .mbsfnConfigForTti 1] (by decide)).1]
  rfl

/-! ## The schedule across resynchronisation -/

structure ScheduleInputs where
  mbmsDedicated : Bool
  decodeMcch : Bool
  mcchTable : Fin 10 → UInt8
  mcchConfigured : Bool
  sib13 : Sib13
  mcch : McchMsg
  mchConfigured : Bool

def Phy.scheduleInputs (phy : Phy) : ScheduleInputs :=
  ⟨phy.cell.mbmsDedicated, phy.decodeMcch, phy.mcchTable, phy.mcchConfigured, phy.sib13,
    phy.mcch, phy.mchConfigured⟩

theorem schedule_congr {phy other : Phy} (same : phy.scheduleInputs = other.scheduleInputs)
    (tti : UInt32) :
    mbsfnConfigForTti phy tti = mbsfnConfigForTti other tti ∧
      isCasSubframe phy tti = isCasSubframe other tti ∧
      isMbsfnSubframe phy tti = isMbsfnSubframe other tti := by
  simp only [Phy.scheduleInputs, ScheduleInputs.mk.injEq] at same
  obtain ⟨dedicated, decode, table, configured, sib13, mcch, mch⟩ := same
  have scan : pmchMatch phy = pmchMatch other := by
    funext sfn sf i
    simp only [pmchMatch, dedicated, sib13, mcch]
  refine ⟨?_, by simp only [isCasSubframe, dedicated], by
    simp only [isMbsfnSubframe, isCasSubframe, dedicated]⟩
  simp only [mbsfnConfigForTti, pmchScan, scan, decode, table, configured, sib13, mcch, mch]

def PhyOp.KeepsSchedule : PhyOp → Bool
  | .synchronizeSubframe _ | .setDestForLcid _ _ _ | .setNofMbsfnPrb _ | .mbsfnConfigForTti _ =>
      true
  | _ => false

theorem step_schedule_inputs (lib : Srsran) (phy : Phy) {op : PhyOp}
    (keeps : op.KeepsSchedule = true) : (step lib phy op).scheduleInputs = phy.scheduleInputs := by
  cases op with
  | synchronizeSubframe env =>
      rw [step, synchronize_subframe_eq]
      split <;> rfl
  | setDestForLcid | setNofMbsfnPrb | mbsfnConfigForTti => rfl
  | _ => cases keeps

theorem run_schedule_inputs (lib : Srsran) (phy : Phy) {ops : List PhyOp}
    (keeps : ∀ op ∈ ops, op.KeepsSchedule = true) :
    (run lib phy ops).scheduleInputs = phy.scheduleInputs :=
  run_keeps lib (fun after => after.scheduleInputs = phy.scheduleInputs)
    (fun op member before same => (step_schedule_inputs lib before (keeps op member)).trans same)
    rfl

/-- Resynchronisation never moves the schedule: after any run of `synchronize_subframe`,
`set_dest_for_lcid`, `set_nof_mbsfn_prb` and `mbsfn_config_for_tti` calls, whatever srsran
returns, every TTI is classified and scheduled as before. `synchronize_subframe` writes
`_tti` and the cell's bandwidth, neither of which the scheduler reads. -/
theorem schedule_across_resync (lib : Srsran) (phy : Phy) (ops : List PhyOp)
    (keeps : ∀ op ∈ ops, op.KeepsSchedule = true) (tti : UInt32) :
    mbsfnConfigForTti (run lib phy ops) tti = mbsfnConfigForTti phy tti ∧
      isCasSubframe (run lib phy ops) tti = isCasSubframe phy tti ∧
      isMbsfnSubframe (run lib phy ops) tti = isMbsfnSubframe phy tti :=
  schedule_congr (run_schedule_inputs lib phy keeps) tti

def resync : SyncEnv :=
  { zerocopyRet := 1, sfidx := 0, mibDecodeRet := 1, sfnOffset := -3
    unpack := { nofPrb := 25, sfn := 100 } }

theorem dedicated_scenario_resync :
    mbsfnConfigForTti (run acceptingSrsran dedicatedScenario
        [.synchronizeSubframe resync, .setDestForLcid 0 5 "tun0", .mbsfnConfigForTti 11]) 1 =
      mbsfnConfigForTti dedicatedScenario 1 ∧
    isCasSubframe (run acceptingSrsran dedicatedScenario
        [.synchronizeSubframe resync, .setDestForLcid 0 5 "tun0", .mbsfnConfigForTti 11]) 1 =
      isCasSubframe dedicatedScenario 1 ∧
    isMbsfnSubframe (run acceptingSrsran dedicatedScenario
        [.synchronizeSubframe resync, .setDestForLcid 0 5 "tun0", .mbsfnConfigForTti 11]) 1 =
      isMbsfnSubframe dedicatedScenario 1 :=
  schedule_across_resync acceptingSrsran dedicatedScenario _ (by decide) 1

/-! ## What every reachable state keeps -/

def mcchTableOf (lib : Srsran) (cfg : McchCfg) : Fin 10 → UInt8 :=
  (if cfg.sfAllocInfoIsR16 then lib.generateMcchTableR16 else lib.generateMcchTable)
    cfg.sfAllocInfo.toUInt32

/-- What holds in every state reachable from the constructor: `_mch_info` is the registry of
`_mcch`, `_tti` is a frame start of the hyperframe, and a configured MCCH table is the one
generated from the stored SIB13. -/
structure PhyInvariant (lib : Srsran) (phy : Phy) : Prop where
  registry : ∃ dest, phy.mchInfo = registryOf phy.mcch dest
  frameStart : phy.tti.toNat % 10 = 0 ∧ phy.tti.toNat < 10240
  mcchTable : phy.mcchConfigured = true →
    0 < phy.sib13.nofMbsfnAreaInfo.toNat ∧
      phy.mcchTable = mcchTableOf lib phy.sib13.areaInfo.mcchCfg

theorem initial_invariant (lib : Srsran) : PhyInvariant lib Phy.initial :=
  ⟨⟨fun _ _ => "", rfl⟩, by decide, nofun⟩

theorem set_mch_scheduling_info_frame (lib : Srsran) (phy : Phy) (sib13 : Sib13) :
    let after := setMchSchedulingInfo lib phy sib13
    after.mcch = phy.mcch ∧ after.mchInfo = phy.mchInfo ∧ after.tti = phy.tti ∧
    ((0 < sib13.nofMbsfnAreaInfo.toNat ∧ after.sib13 = sib13 ∧
        after.mcchTable = mcchTableOf lib sib13.areaInfo.mcchCfg ∧
        after.mcchConfigured = true) ∨
      (after.sib13 = phy.sib13 ∧ after.mcchTable = phy.mcchTable ∧
        after.mcchConfigured = phy.mcchConfigured)) := by
  intro after
  simp only [after, setMchSchedulingInfo]
  split
  · rename_i taken
    split
    · exact ⟨rfl, rfl, rfl, .inl ⟨taken, rfl, rfl, rfl⟩⟩
    · exact ⟨rfl, rfl, rfl, .inl ⟨taken, rfl, rfl, rfl⟩⟩
  · split
    · exact ⟨rfl, rfl, rfl, .inr ⟨rfl, rfl, rfl⟩⟩
    · exact ⟨rfl, rfl, rfl, .inr ⟨rfl, rfl, rfl⟩⟩

theorem step_invariant (lib : Srsran) {phy : Phy} (op : PhyOp) (holds : PhyInvariant lib phy) :
    PhyInvariant lib (step lib phy op) := by
  cases op with
  | setMchSchedulingInfo sib13 =>
      obtain ⟨message, registry, tti, taken | kept⟩ :=
        set_mch_scheduling_info_frame lib phy sib13
      · refine ⟨by rw [step, message, registry]; exact holds.registry,
          by rw [step, tti]; exact holds.frameStart, fun _ => ?_⟩
        obtain ⟨positive, sib, table, -⟩ := taken
        rw [step, sib, table]
        exact ⟨positive, rfl⟩
      · obtain ⟨sib, table, configured⟩ := kept
        refine ⟨by rw [step, message, registry]; exact holds.registry,
          by rw [step, tti]; exact holds.frameStart, fun active => ?_⟩
        rw [step, sib, table]
        exact holds.mcchTable (configured.symm.trans active)
  | setMbsfnConfig mcch =>
      exact ⟨⟨_, (set_mbsfn_config_registry phy mcch).1⟩, holds.frameStart, holds.mcchTable⟩
  | reset => exact ⟨holds.registry, holds.frameStart, nofun⟩
  | cellSearch env =>
      rw [step, cell_search_step_frame]
      exact ⟨holds.registry, holds.frameStart, holds.mcchTable⟩
  | synchronizeSubframe env =>
      rw [step, synchronize_subframe_eq]
      split
      · have small := corrected_sfn_lt phy.cell.mbmsDedicated env.unpack.sfn env.sfnOffset
        have tti := synced_tti phy env
        refine ⟨holds.registry, ?_, holds.mcchTable⟩
        show (synced phy env).tti.toNat % 10 = 0 ∧ (synced phy env).tti.toNat < 10240
        omega
      · exact holds
  | _ => exact ⟨holds.registry, holds.frameStart, holds.mcchTable⟩

theorem run_invariant (lib : Srsran) {phy : Phy} (ops : List PhyOp) (holds : PhyInvariant lib phy) :
    PhyInvariant lib (run lib phy ops) :=
  run_keeps lib (PhyInvariant lib) (fun op _ _ holding => step_invariant lib op holding) holds

/-- In every state the PHY reaches from its construction, whatever the calls and whatever
srsran returns: the registry is that of the stored MCCH message, so every channel index the
scheduler writes to `area` names an entry of `mch_info()`; `tti()` is the first subframe of a
frame below 10240; and a configured MCCH table is the one generated from the stored SIB13. -/
theorem reachable_phy_safe (lib : Srsran) (ops : List PhyOp) :
    let phy := run lib Phy.initial ops
    PhyInvariant lib phy ∧
      ∀ tti i, (mbsfnConfigForTti phy tti).2 = some i → i < phy.mchInfo.length := by
  intro phy
  have holds := run_invariant lib ops (initial_invariant lib)
  refine ⟨holds, fun tti i written => ?_⟩
  obtain ⟨dest, registry⟩ := holds.registry
  rw [registry, registry_of_length]
  exact mbsfn_config_for_tti_area_lt written

end MbmsModem
