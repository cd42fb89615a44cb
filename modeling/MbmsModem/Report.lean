import MbmsModem.Machine

/-!
# What the PHY reports

The bandwidth getters of `Phy.h`, and the two places of `RestHandler.cpp` that compute on what
the PHY reports; the rest of the REST handler only copies values into JSON. The `status`
resource's choice of `nof_prb` yields `mbsfn_prb` on both branches, so resynchronisations,
which rewrite `nr_prb()`, leave what it reports alone (`mbsfn_bandwidth_report`).
`add_cinr_value` keeps the last `CINR_RAVG_CNT + 1` samples, one more than the constant names
(`cinr_window`).
-/

namespace MbmsModem

set_option autoImplicit false

/-! ## The bandwidth getters -/

/-- `Phy::nr_prb`. -/
def nrPrb (phy : Phy) : UInt32 := phy.cell.nofPrb

/-- `Phy::nof_mbsfn_prb`: the `uint32_t` member returned as `uint8_t`. -/
def nofMbsfnPrb (phy : Phy) : UInt8 := phy.cell.mbsfnPrb.toUInt8

/-- The `nof_prb` member of the `status` object that `RestHandler::get` builds from
`_phy.cell()`. -/
def statusNofPrb (cell : Cell) : UInt32 :=
  if cell.nofPrb = cell.mbsfnPrb then cell.nofPrb else cell.mbsfnPrb

theorem status_nof_prb_eq (cell : Cell) : statusNofPrb cell = cell.mbsfnPrb := by
  unfold statusNofPrb
  split
  · assumption
  · rfl

theorem nof_mbsfn_prb_set (phy : Phy) (prb : UInt8) :
    nofMbsfnPrb (setNofMbsfnPrb phy prb) = prb := by
  rw [UInt8.ext_iff]
  simp only [nofMbsfnPrb, setNofMbsfnPrb, UInt32.toUInt8_toNat, UInt8.toUInt32_toNat]
  exact Nat.mod_eq_of_lt prb.toNat_lt_size

theorem synchronize_subframe_bandwidth {phy : Phy} {env : SyncEnv}
    (succeeded : (synchronizeSubframe phy env).2 = true) :
    nrPrb (synchronizeSubframe phy env).1 = env.unpack.nofPrb ∧
      (synchronizeSubframe phy env).1.cell.mbsfnPrb = phy.cell.mbsfnPrb := by
  rw [synchronize_subframe_of_true succeeded]
  exact ⟨rfl, rfl⟩

def PhyOp.KeepsMbsfnPrb : PhyOp → Bool
  | .setMchSchedulingInfo sib13 => sib13.areaInfo.pmchBandwidth == 0
  | .setNofMbsfnPrb _ | .cellSearch _ => false
  | _ => true

theorem step_mbsfn_prb (lib : Srsran) (phy : Phy) {op : PhyOp}
    (keeps : op.KeepsMbsfnPrb = true) : (step lib phy op).cell.mbsfnPrb = phy.cell.mbsfnPrb := by
  cases op with
  | setMchSchedulingInfo sib13 =>
      have none : ¬sib13.areaInfo.pmchBandwidth ≠ 0 := by
        simpa [PhyOp.KeepsMbsfnPrb, UInt32.ext_iff] using keeps
      simp only [step, setMchSchedulingInfo, if_neg none]
      split <;> rfl
  | synchronizeSubframe env => rw [step, synchronize_subframe_eq]; split <;> rfl
  | setNofMbsfnPrb | cellSearch => cases keeps
  | _ => rfl

/-- The status resource reports `_cell.mbsfn_prb` whatever `nr_prb()` is. Over a run of calls
other than cell search, `set_nof_mbsfn_prb` and a SIB13 with a PMCH bandwidth, whatever
srsran returns, and although each resynchronisation rewrites `nr_prb()`, the status and
`nof_mbsfn_prb()` go on reporting the MBSFN bandwidth held before the run. -/
theorem mbsfn_bandwidth_report (lib : Srsran) (phy : Phy) (ops : List PhyOp)
    (keeps : ∀ op ∈ ops, op.KeepsMbsfnPrb = true) :
    statusNofPrb (run lib phy ops).cell = phy.cell.mbsfnPrb ∧
      nofMbsfnPrb (run lib phy ops) = nofMbsfnPrb phy := by
  have kept : (run lib phy ops).cell.mbsfnPrb = phy.cell.mbsfnPrb :=
    run_keeps lib (fun after => after.cell.mbsfnPrb = phy.cell.mbsfnPrb)
      (fun op member before same => (step_mbsfn_prb lib before (keeps op member)).trans same) rfl
  rw [status_nof_prb_eq, nofMbsfnPrb, nofMbsfnPrb, kept]
  exact ⟨rfl, rfl⟩

theorem dedicated_scenario_resync_bandwidth :
    statusNofPrb (run acceptingSrsran dedicatedScenario
        [.synchronizeSubframe resync, .setDestForLcid 0 5 "tun0"]).cell =
      dedicatedScenario.cell.mbsfnPrb ∧
    nofMbsfnPrb (run acceptingSrsran dedicatedScenario
        [.synchronizeSubframe resync, .setDestForLcid 0 5 "tun0"]) =
      nofMbsfnPrb dedicatedScenario :=
  mbsfn_bandwidth_report acceptingSrsran dedicatedScenario _ (by decide)

/-! ## The CINR window -/

section CinrWindow

variable {α : Type} (cinrRavgCnt : Nat)

/-- `RestHandler::add_cinr_value`: once the window holds more than `CINR_RAVG_CNT` samples its
oldest is erased, then the new one is appended. `CINR_RAVG_CNT` is defined in
`RestHandler.h`, which is not among the sources, so it is a parameter; the samples are only
moved, so their type is one too. -/
def addCinrValue (cinrDb : List α) (cinr : α) : List α :=
  (if cinrDb.length > cinrRavgCnt then cinrDb.tail else cinrDb) ++ [cinr]

theorem trim_rtake (history : List α) :
    (if (history.rtake (cinrRavgCnt + 1)).length > cinrRavgCnt then
        (history.rtake (cinrRavgCnt + 1)).tail
      else history.rtake (cinrRavgCnt + 1)) = history.rtake cinrRavgCnt := by
  simp only [List.rtake, List.length_drop]
  split
  · rw [List.tail_drop]
    congr 1
    omega
  · congr 1
    omega

theorem add_cinr_value_rtake (history : List α) (cinr : α) :
    addCinrValue cinrRavgCnt (history.rtake (cinrRavgCnt + 1)) cinr =
      (history ++ [cinr]).rtake (cinrRavgCnt + 1) := by
  rw [List.rtake_concat_succ, ← trim_rtake cinrRavgCnt history]
  rfl

/-- The window after any sequence of samples, from the empty window or from any window that
holds the end of an earlier history, is the last `CINR_RAVG_CNT + 1` samples of the whole
history. -/
theorem cinr_window (history samples : List α) :
    samples.foldl (addCinrValue cinrRavgCnt) (history.rtake (cinrRavgCnt + 1)) =
      (history ++ samples).rtake (cinrRavgCnt + 1) := by
  induction samples generalizing history with
  | nil => simp
  | cons cinr samples induction =>
      rw [List.foldl_cons, add_cinr_value_rtake, induction, List.append_assoc,
        List.singleton_append]

example : [1, 2, 3, 4].foldl (addCinrValue 2) [] = [2, 3, 4] := by decide

end CinrWindow

end MbmsModem
