import MbmsModem.Classifier

/-!
# Cell acquisition and subframe synchronisation

`Phy::cell_search` finds a cell, decodes its MIB (as MIB-MBMS, then as the MIB of a mixed
cell) and installs it; `Phy::synchronize_subframe` sets `_tti` from the MIB at subframe 0.
Every srsran call they make is external: an environment record holds what each call returns
and writes, so a theorem over every environment covers every combination of outcomes. The
frame number is corrected in unsigned arithmetic; since 1024 divides 2^32 that is the integer
correction modulo 1024 (`corrected_sfn_eq`).
-/

namespace MbmsModem

set_option autoImplicit false

/-! ## The frame number -/

/-- The conversion of an `int` to `uint32_t` that the usual arithmetic conversions apply:
the value modulo 2^32. -/
def toUnsigned (value : Int) : UInt32 := ⟨BitVec.ofInt 32 value⟩

@[simp] theorem to_unsigned_toNat (value : Int) :
    ((toUnsigned value).toNat : Int) = value % 2 ^ 32 := by
  simp [toUnsigned, UInt32.toNat, BitVec.toNat_ofInt]
  omega

/-- `sfn = (sfn + sfn_offset * kSfnOffset) % kMaxSfn` in an MBMS-dedicated cell and
`sfn = (sfn + sfn_offset) % kMaxSfn` in a mixed one, as `synchronize_subframe` and
`cell_search` (for its log line) both compute it. -/
def correctedSfn (mbmsDedicated : Bool) (sfn : UInt32) (sfnOffset : Int) : UInt32 :=
  if mbmsDedicated then (sfn + toUnsigned sfnOffset * kSfnOffset) % kMaxSfn
  else (sfn + toUnsigned sfnOffset) % kMaxSfn

theorem corrected_sfn_eq (mbmsDedicated : Bool) (sfn : UInt32) (sfnOffset : Int) :
    ((correctedSfn mbmsDedicated sfn sfnOffset).toNat : Int) =
      (sfn.toNat + (if mbmsDedicated then 4 else 1) * sfnOffset) % 1024 := by
  have offset := to_unsigned_toNat sfnOffset
  unfold correctedSfn kSfnOffset kMaxSfn
  split
  · simp only [UInt32.toNat_mod, UInt32.toNat_add, UInt32.toNat_mul, word_size, UInt32.reduceToNat]
    push_cast
    omega
  · simp only [UInt32.toNat_mod, UInt32.toNat_add, word_size, UInt32.reduceToNat]
    push_cast
    omega

theorem corrected_sfn_lt (mbmsDedicated : Bool) (sfn : UInt32) (sfnOffset : Int) :
    (correctedSfn mbmsDedicated sfn sfnOffset).toNat < 1024 := by
  have value := corrected_sfn_eq mbmsDedicated sfn sfnOffset
  omega

/-! ## `synchronize_subframe` -/

structure MibUnpack where
  nofPrb : UInt32
  sfn : UInt32
  deriving DecidableEq, Repr

structure SyncEnv where
  zerocopyRet : Int
  sfidx : UInt32
  mibDecodeRet : Int
  sfnOffset : Int
  unpack : MibUnpack
  deriving DecidableEq, Repr

/-- `Phy::synchronize_subframe`: the state after the call and its result. The unpack
writes into `_cell` itself. -/
def synchronizeSubframe (phy : Phy) (env : SyncEnv) : Phy × Bool :=
  if env.zerocopyRet < 0 then (phy, false)
  else if env.zerocopyRet = 1 then
    if env.sfidx = 0 then
      if env.mibDecodeRet = 1 then
        let sfn := correctedSfn phy.cell.mbmsDedicated env.unpack.sfn env.sfnOffset
        ({ phy with
            cell.nofPrb := env.unpack.nofPrb
            tti := sfn * kSubframesPerFrame }, true)
      else (phy, false)
    else (phy, false)
  else (phy, false)

def synced (phy : Phy) (env : SyncEnv) : Phy :=
  { phy with
    cell.nofPrb := env.unpack.nofPrb
    tti := correctedSfn phy.cell.mbmsDedicated env.unpack.sfn env.sfnOffset * kSubframesPerFrame }

theorem synchronize_subframe_eq (phy : Phy) (env : SyncEnv) :
    synchronizeSubframe phy env =
      if env.zerocopyRet = 1 ∧ env.sfidx = 0 ∧ env.mibDecodeRet = 1 then (synced phy env, true)
      else (phy, false) := by
  unfold synchronizeSubframe
  by_cases ready : env.zerocopyRet = 1
  · simp only [ready, show ¬(1 : Int) < 0 by decide, if_false, if_true, true_and]
    by_cases frame : env.sfidx = 0 <;> by_cases decoded : env.mibDecodeRet = 1 <;>
      simp [frame, decoded, synced]
  · simp only [ready, false_and, if_false]
    split <;> rfl

theorem synchronize_subframe_of_true {phy : Phy} {env : SyncEnv}
    (succeeded : (synchronizeSubframe phy env).2 = true) :
    (synchronizeSubframe phy env).1 = synced phy env := by
  rw [synchronize_subframe_eq] at succeeded ⊢
  split
  · rfl
  · rw [if_neg ‹_›] at succeeded
    cases succeeded

theorem synchronize_subframe_of_false {phy : Phy} {env : SyncEnv}
    (failed : (synchronizeSubframe phy env).2 = false) :
    (synchronizeSubframe phy env).1 = phy := by
  rw [synchronize_subframe_eq] at failed ⊢
  split
  · rw [if_pos ‹_›] at failed
    cases failed
  · rfl

theorem synced_tti (phy : Phy) (env : SyncEnv) :
    (synced phy env).tti.toNat =
      10 * (correctedSfn phy.cell.mbmsDedicated env.unpack.sfn env.sfnOffset).toNat := by
  have small := corrected_sfn_lt phy.cell.mbmsDedicated env.unpack.sfn env.sfnOffset
  simp only [synced, kSubframesPerFrame, UInt32.toNat_mul, word_size, UInt32.reduceToNat]
  omega

theorem synced_is_cas (phy : Phy) (env : SyncEnv) :
    isCasSubframe (synced phy env) (synced phy env).tti =
      (!phy.cell.mbmsDedicated || decide (env.unpack.sfn.toNat % 4 = 0)) := by
  have value := corrected_sfn_eq phy.cell.mbmsDedicated env.unpack.sfn env.sfnOffset
  rw [is_cas_subframe_eq, synced_tti]
  change decide (CasPosition phy.cell.mbmsDedicated _) = _
  unfold CasPosition
  cases dedicated : phy.cell.mbmsDedicated
  · simp
  · rw [dedicated, if_pos rfl] at value
    simp only [if_true, Bool.not_true, Bool.false_or, decide_eq_decide]
    omega

/-- `synchronize_subframe` sets `_tti` to the start of the frame `(sfn + m * sfn_offset) mod
1024` (`m` = 4 in an MBMS-dedicated cell, 1 in a mixed one), so below 10240 and on a CAS
subframe whenever the unpacked frame number is a multiple of 4 or the cell is mixed; when
it fails it leaves the whole state, `_tti` included, as it was. -/
theorem synchronize_subframe_tti (phy : Phy) (env : SyncEnv) :
    (∀ mbmsDedicated sfn sfnOffset, ((correctedSfn mbmsDedicated sfn sfnOffset).toNat : Int) =
      (sfn.toNat + (if mbmsDedicated then 4 else 1) * sfnOffset) % 1024) ∧
    ((synchronizeSubframe phy env).2 = true →
      ((synchronizeSubframe phy env).1.tti.toNat : Int) = 10 *
        ((env.unpack.sfn.toNat + (if phy.cell.mbmsDedicated then 4 else 1) * env.sfnOffset) %
          1024) ∧
      (synchronizeSubframe phy env).1.tti.toNat < 10240 ∧
      isCasSubframe (synchronizeSubframe phy env).1 (synchronizeSubframe phy env).1.tti =
        (!phy.cell.mbmsDedicated || decide (env.unpack.sfn.toNat % 4 = 0))) ∧
    ((synchronizeSubframe phy env).2 = false → (synchronizeSubframe phy env).1 = phy) := by
  refine ⟨corrected_sfn_eq, fun succeeded => ?_, synchronize_subframe_of_false⟩
  have value := corrected_sfn_eq phy.cell.mbmsDedicated env.unpack.sfn env.sfnOffset
  have tti := synced_tti phy env
  rw [synchronize_subframe_of_true succeeded, synced_is_cas]
  exact ⟨by omega, by omega, rfl⟩

/-! ## `cell_search` -/

structure CellSearchResult where
  cellId : UInt32
  cp : Cp
  frameType : FrameType
  deriving DecidableEq, Repr

structure MibSyncDecode where
  ret : Int
  nofPorts : UInt32
  deriving DecidableEq, Repr

/-- The results of the srsran calls of `cell_search`, in the order it makes them: the scan
with the `found_cells` and `max_peak_cell` it fills, `srsran_ue_mib_sync_set_cell_prb` and
`srsran_ue_mib_sync_decode_prb` for the MIB-MBMS and then the mixed-cell attempt (the
`sfn_offset` a decode writes feeds only the log line), the unpack, and the two `set_cell`
calls. -/
structure CellSearchEnv where
  scanRet : Int
  foundCells : Fin kMaxCellsToDiscover → CellSearchResult
  maxPeakCell : UInt32
  setCellPrbRet : Int
  decode : MibSyncDecode
  fallbackSetCellPrbRet : Int
  fallbackDecode : MibSyncDecode
  unpack : MibUnpack
  ueSyncSetCellRet : Int
  ueMibSetCellRet : Int

structure OutOfRange where
  index : UInt32
  deriving DecidableEq, Repr

def arrayAt {α : Type} (cells : Fin kMaxCellsToDiscover → α) (index : UInt32) :
    Except OutOfRange α :=
  if bound : index.toNat < kMaxCellsToDiscover then .ok (cells ⟨index.toNat, bound⟩)
  else .error ⟨index⟩

/-- The two MIB attempts of `cell_search`: `none` when a `set_cell_prb` fails, which makes
`cell_search` return false at once, else the new cell and the last decode's result. The
fallback runs only when the MIB-MBMS decode returned 0; its `init()` re-creates srsran
objects only. -/
def decodeMib (env : CellSearchEnv) (newCell : Cell) : Option (Cell × Int) :=
  let newCell := { newCell with mbmsDedicated := true }
  if env.setCellPrbRet ≠ 0 then none
  else
    let newCell := { newCell with nofPorts := env.decode.nofPorts }
    if env.decode.ret = 0 then
      let newCell := { newCell with mbmsDedicated := false }
      if env.fallbackSetCellPrbRet ≠ 0 then none
      else some ({ newCell with nofPorts := env.fallbackDecode.nofPorts }, env.fallbackDecode.ret)
    else some (newCell, env.decode.ret)

/-- `Phy::cell_search`: the state after the call and its result, or the exception of
`found_cells.at` for a peak index past the array. `_cell` is assigned before the two
`set_cell` calls whose failure still makes it return false. -/
def cellSearch (lib : Srsran) (phy : Phy) (env : CellSearchEnv) : Except OutOfRange (Phy × Bool) :=
  if env.scanRet < 0 then .ok (phy, false)
  else if env.scanRet = 0 then .ok (phy, false)
  else
    (arrayAt env.foundCells env.maxPeakCell).map fun found =>
      let newCell : Cell := { id := found.cellId, cp := found.cp, frameType := found.frameType }
      match decodeMib env newCell with
      | none => (phy, false)
      | some (newCell, ret) =>
          if ret = 1 then
            let newCell := { newCell with nofPrb := env.unpack.nofPrb }
            if !lib.cellIsvalid newCell then (phy, false)
            else
              let phy := { phy with cell := { newCell with mbsfnPrb := newCell.nofPrb } }
              if env.ueSyncSetCellRet ≠ 0 then (phy, false)
              else if env.ueMibSetCellRet ≠ 0 then (phy, false)
              else (phy, true)
          else (phy, false)

def CellSearchEnv.composed (env : CellSearchEnv) (found : CellSearchResult) (dedicated : Bool) :
    Cell :=
  { id := found.cellId, cp := found.cp, frameType := found.frameType
    mbmsDedicated := dedicated
    nofPorts := if dedicated then env.decode.nofPorts else env.fallbackDecode.nofPorts
    nofPrb := env.unpack.nofPrb }

theorem decode_mib_one (env : CellSearchEnv) (found : CellSearchResult) {newCell : Cell}
    (decoded : decodeMib env { id := found.cellId, cp := found.cp, frameType := found.frameType } =
      some (newCell, 1)) :
    { newCell with nofPrb := env.unpack.nofPrb } =
      env.composed found (decide (env.decode.ret = 1)) := by
  unfold decodeMib at decoded
  by_cases prb : env.setCellPrbRet = 0
  · by_cases first : env.decode.ret = 0
    · by_cases fallbackPrb : env.fallbackSetCellPrbRet = 0
      · simp only [prb, first, fallbackPrb, ne_eq, not_true_eq_false, if_false, if_true,
          Option.some.injEq, Prod.mk.injEq] at decoded
        obtain ⟨rfl, -⟩ := decoded
        simp [CellSearchEnv.composed, first]
      · simp [prb, first, fallbackPrb] at decoded
    · simp only [prb, first, ne_eq, not_true_eq_false, if_false, Option.some.injEq,
        Prod.mk.injEq] at decoded
      obtain ⟨rfl, one⟩ := decoded
      simp [CellSearchEnv.composed, one]
  · simp [prb] at decoded

theorem array_at_error {α : Type} {cells : Fin kMaxCellsToDiscover → α} {index : UInt32}
    {failure : OutOfRange} (thrown : arrayAt cells index = .error failure) :
    kMaxCellsToDiscover ≤ index.toNat ∧ failure.index = index := by
  unfold arrayAt at thrown
  split at thrown
  · cases thrown
  · cases thrown
    exact ⟨by omega, rfl⟩

theorem cell_search_cases (lib : Srsran) (phy : Phy) (env : CellSearchEnv) :
    (∃ failure, cellSearch lib phy env = .error failure ∧ 0 < env.scanRet ∧
      kMaxCellsToDiscover ≤ env.maxPeakCell.toNat) ∨
    cellSearch lib phy env = .ok (phy, false) ∨
    ∃ found, arrayAt env.foundCells env.maxPeakCell = .ok found ∧
      lib.cellIsvalid (env.composed found (decide (env.decode.ret = 1))) = true ∧
      cellSearch lib phy env =
        .ok ({ phy with
            cell := { env.composed found (decide (env.decode.ret = 1)) with
              mbsfnPrb := env.unpack.nofPrb } },
          decide (env.ueSyncSetCellRet = 0 ∧ env.ueMibSetCellRet = 0)) := by
  unfold cellSearch
  by_cases negative : env.scanRet < 0
  · exact .inr (.inl (by simp [negative]))
  by_cases empty : env.scanRet = 0
  · exact .inr (.inl (by simp [empty]))
  rw [if_neg negative, if_neg empty]
  cases peak : arrayAt env.foundCells env.maxPeakCell with
  | error failure =>
      exact .inl ⟨failure, rfl, by omega, (array_at_error peak).1⟩
  | ok found =>
      refine .inr ?_
      simp only [Except.map]
      cases decoded :
          decodeMib env { id := found.cellId, cp := found.cp, frameType := found.frameType } with
      | none => exact .inl rfl
      | some result =>
          obtain ⟨newCell, ret⟩ := result
          by_cases one : ret = 1
          · subst one
            have composed := decode_mib_one env found decoded
            by_cases valid : lib.cellIsvalid { newCell with nofPrb := env.unpack.nofPrb } = true
            · refine .inr ⟨found, rfl, composed ▸ valid, ?_⟩
              rw [← composed]
              by_cases sync : env.ueSyncSetCellRet = 0 <;>
                by_cases mib : env.ueMibSetCellRet = 0 <;>
                simp [valid, sync, mib]
            · exact .inl (by simp [valid])
          · exact .inl (by simp [one])

theorem cell_search_frame {lib : Srsran} {phy after : Phy} {env : CellSearchEnv} {found : Bool}
    (returned : cellSearch lib phy env = .ok (after, found)) :
    after = { phy with cell := after.cell } := by
  rcases cell_search_cases lib phy env with
    ⟨failure, thrown, -⟩ | unchanged | ⟨_, _, _, installed⟩
  · rw [thrown] at returned
    cases returned
  · rw [unchanged] at returned
    cases returned
    rfl
  · rw [installed] at returned
    cases returned
    rfl

theorem cell_search_throws (lib : Srsran) (phy : Phy) {env : CellSearchEnv}
    (scanned : 0 < env.scanRet) (beyond : kMaxCellsToDiscover ≤ env.maxPeakCell.toNat) :
    cellSearch lib phy env = .error ⟨env.maxPeakCell⟩ := by
  unfold cellSearch arrayAt
  rw [if_neg (by omega), if_neg (by omega), dif_neg (by omega)]
  rfl

/-- `after` is `phy` with the cell composed from the result at `max_peak_cell` installed, its
`mbsfn_prb` set to its bandwidth, after it passed `srsran_cell_isvalid`. -/
def CellSearchEnv.Installs (env : CellSearchEnv) (lib : Srsran) (phy after : Phy) : Prop :=
  ∃ found, arrayAt env.foundCells env.maxPeakCell = .ok found ∧
    lib.cellIsvalid (env.composed found (decide (env.decode.ret = 1))) = true ∧
    after = { phy with cell := { env.composed found (decide (env.decode.ret = 1)) with
      mbsfnPrb := (env.composed found (decide (env.decode.ret = 1))).nofPrb } }

/-- Everything `cell_search` can do, for every outcome of the srsran calls. It throws exactly
when the scan found a cell and `max_peak_cell` is past the array. It returns true only after
installing the cell composed from the search result, the decoded ports and bandwidth, and MBMS
dedication iff the MIB-MBMS decode returned 1, with both `set_cell` calls succeeding. It returns
false with the state unchanged, or with that cell installed and one `set_cell` call failed. -/
theorem cell_search_result (lib : Srsran) (phy : Phy) (env : CellSearchEnv) :
    ((∃ failure, cellSearch lib phy env = .error failure) ↔
      0 < env.scanRet ∧ kMaxCellsToDiscover ≤ env.maxPeakCell.toNat) ∧
    (∀ after, cellSearch lib phy env = .ok (after, true) →
      env.Installs lib phy after ∧ env.ueSyncSetCellRet = 0 ∧ env.ueMibSetCellRet = 0) ∧
    (∀ after, cellSearch lib phy env = .ok (after, false) →
      after = phy ∨
        ((env.ueSyncSetCellRet ≠ 0 ∨ env.ueMibSetCellRet ≠ 0) ∧ env.Installs lib phy after)) := by
  rcases cell_search_cases lib phy env with
    ⟨failure, thrown, scanned, beyond⟩ | unchanged | ⟨found, peak, valid, installed⟩
  · rw [thrown]
    refine ⟨⟨fun _ => ⟨scanned, beyond⟩, fun _ => ⟨failure, rfl⟩⟩, fun _ returned => ?_,
      fun _ returned => ?_⟩ <;> cases returned
  · rw [unchanged]
    refine ⟨⟨nofun, fun ⟨scanned, beyond⟩ => ?_⟩, fun _ returned => ?_, fun _ returned => ?_⟩
    · exact ⟨_, unchanged.symm.trans (cell_search_throws lib phy scanned beyond)⟩
    · cases (Prod.mk.inj (Except.ok.inj returned)).2
    · exact .inl (Prod.mk.inj (Except.ok.inj returned)).1.symm
  · have installs := fun after (same : _ = after) => (⟨found, peak, valid, same.symm⟩ :
      env.Installs lib phy after)
    rw [installed]
    refine ⟨⟨nofun, fun ⟨scanned, beyond⟩ => ?_⟩, fun after returned => ?_,
      fun after returned => ?_⟩
    · exact ⟨_, installed.symm.trans (cell_search_throws lib phy scanned beyond)⟩
    · obtain ⟨same, succeeded⟩ := Prod.mk.inj (Except.ok.inj returned)
      exact ⟨installs after same, by simpa using succeeded⟩
    · obtain ⟨same, failed⟩ := Prod.mk.inj (Except.ok.inj returned)
      simp only [decide_eq_false_iff_not, not_and_or] at failed
      exact .inr ⟨failed, installs after same⟩

def acceptingSrsran : Srsran where
  generateMcchTable := fun _ _ => 0
  generateMcchTableR16 := fun _ _ => 0
  cellIsvalid := fun _ => true

/-- A search that finds cell 7, decodes its MIB-MBMS (one port, 25 PRB) and then fails to
hand the cell to `ue_sync`. -/
def setCellFailure : CellSearchEnv where
  scanRet := 1
  foundCells := fun _ => { cellId := 7, cp := .norm, frameType := .fdd }
  maxPeakCell := 0
  setCellPrbRet := 0
  decode := { ret := 1, nofPorts := 1 }
  fallbackSetCellPrbRet := 0
  fallbackDecode := { ret := 0, nofPorts := 0 }
  unpack := { nofPrb := 25, sfn := 0 }
  ueSyncSetCellRet := -1
  ueMibSetCellRet := 0

def dedicatedSearch : CellSearchEnv := { setCellFailure with ueSyncSetCellRet := 0 }

theorem dedicated_search_installs :
    (∃ after, cellSearch acceptingSrsran Phy.initial dedicatedSearch = .ok (after, true) ∧
      dedicatedSearch.Installs acceptingSrsran Phy.initial after ∧
      dedicatedSearch.ueSyncSetCellRet = 0 ∧ dedicatedSearch.ueMibSetCellRet = 0) ∧
    ∃ after, cellSearch acceptingSrsran Phy.initial setCellFailure = .ok (after, false) ∧
      (after = Phy.initial ∨
        ((setCellFailure.ueSyncSetCellRet ≠ 0 ∨ setCellFailure.ueMibSetCellRet ≠ 0) ∧
          setCellFailure.Installs acceptingSrsran Phy.initial after)) :=
  ⟨⟨_, rfl, (cell_search_result acceptingSrsran Phy.initial dedicatedSearch).2.1 _ rfl⟩,
    ⟨_, rfl, (cell_search_result acceptingSrsran Phy.initial setCellFailure).2.2 _ rfl⟩⟩

/-- When `srsran_ue_sync_set_cell` fails, `cell_search` returns false with `_cell` already
replaced by the new cell. -/
theorem set_cell_failure_replaces_cell :
    ∃ after, cellSearch acceptingSrsran Phy.initial setCellFailure = .ok (after, false) ∧
      after.cell ≠ Phy.initial.cell ∧
      after.cell =
        { id := 7, nofPrb := 25, nofPorts := 1, mbmsDedicated := true, mbsfnPrb := 25 } :=
  ⟨_, rfl, by decide, rfl⟩

end MbmsModem
