import Mathlib

/-!
# The PHY's data model

The records `Phy` reads and writes, transcribed from `Phy.h` and from the srsran types it
includes. Only the fields some modelled function reads or writes are kept. An enumerated
field of srsran (a repetition period, a scheduling period, a signalling MCS) is kept as the
number `enum_to_number` gives for it: the tables behind `enum_to_number` are srsran's, and
the scheduler's theorems quantify over those numbers. `uint32_t` values that take part
in arithmetic are `UInt32`, so the wrap-around of the source is the wrap-around of the model.
-/

namespace MbmsModem

set_option autoImplicit false

def kMaxSfn : UInt32 := 1024

def kSfnOffset : UInt32 := 4

def kSubframesPerFrame : UInt32 := 10

def kMaxCellsToDiscover : Nat := 3

/-! ## 32-bit words

The library states `UInt32` arithmetic on `toNat` modulo `UInt32.size`; `word_size` turns that
into the numeral `omega` reads. -/

@[simp] theorem word_size : UInt32.size = 4294967296 := rfl

@[simp] theorem byte_size : UInt8.size = 256 := rfl

@[simp] theorem word_toNat_ofNat (n : Nat) : (UInt32.ofNat n).toNat = n % 2 ^ 32 := by
  simp [UInt32.ofNat, UInt32.toNat]

theorem word_wrap_sub {a b : Nat} (le : b ≤ a) (small : a < 4294967296) :
    (4294967296 - b + a) % 4294967296 = a - b := by
  omega

@[simp] theorem word_beq (a b : UInt32) : (a == b) = decide (a.toNat = b.toNat) := by
  rw [Bool.eq_iff_iff, beq_iff_eq, decide_eq_true_iff, UInt32.ext_iff]

theorem byte_lt_iff (a b : UInt8) : a < b ↔ a.toNat < b.toNat := by
  simp [UInt8.lt_def, BitVec.lt_def, UInt8.toNat]

/-! ## The cell -/

inductive Cp where
  | norm
  | ext
  deriving DecidableEq, Repr, Inhabited

inductive FrameType where
  | fdd
  | tdd
  deriving DecidableEq, Repr, Inhabited

/-- `srsran_cell_t`; `{}` is the value-initialised cell of `new_cell = {}`. The PHICH fields
that the MIB unpack also writes are read by no modelled function. -/
structure Cell where
  nofPrb : UInt32 := 0
  nofPorts : UInt32 := 0
  id : UInt32 := 0
  cp : Cp := .norm
  frameType : FrameType := .fdd
  mbmsDedicated : Bool := false
  mbsfnPrb : UInt32 := 0
  deriving DecidableEq, Repr, Inhabited

/-! ## SIB13 -/

structure McchCfg where
  mcchRepeatPeriod : UInt32 := 32
  mcchOffset : UInt8 := 0
  sfAllocInfo : UInt8 := 0
  sfAllocInfoIsR16 : Bool := false
  sigMcs : UInt32 := 2
  deriving DecidableEq, Repr, Inhabited

structure MbsfnAreaInfo where
  mbsfnAreaId : UInt8 := 0
  nonMbsfnRegionLen : UInt8 := 1
  mcchCfg : McchCfg := {}
  pmchBandwidth : UInt32 := 0
  deriving DecidableEq, Repr, Inhabited

/-- `sib13_t`. The PHY reads only entry 0 of `mbsfn_area_info_list`, kept as `areaInfo`. -/
structure Sib13 where
  nofMbsfnAreaInfo : UInt32 := 0
  areaInfo : MbsfnAreaInfo := {}
  deriving DecidableEq, Repr, Inhabited

/-! ## The MCCH message -/

structure PlmnId where
  mcc : Fin 3 → UInt8
  mnc : Fin 3 → UInt8
  nofMncDigits : UInt8
  deriving DecidableEq, Inhabited

/-- `tmgi_t`; `set_mbsfn_config` reads the explicit PLMN whatever the choice tag says. -/
structure Tmgi where
  plmnId : PlmnId
  servicedId : Fin 3 → UInt8
  deriving DecidableEq, Inhabited

structure MbmsSessionInfo where
  lcChId : UInt8
  tmgi : Tmgi
  deriving DecidableEq, Inhabited

structure PmchInfo where
  sfAllocEnd : UInt16 := 0
  dataMcs : UInt8 := 0
  mchSchedPeriod : UInt32 := 8
  nofMbmsSessionInfo : UInt32 := 0
  mbmsSessionInfoList : List MbmsSessionInfo := []
  deriving DecidableEq, Inhabited

structure McchMsg where
  nofPmchInfo : UInt32 := 0
  pmchInfoList : List PmchInfo := []
  deriving DecidableEq, Inhabited

/-- `pmch_info_list[i]`. Reading past the array is undefined in C++; the model reads the
default entry there, which no result depends on. -/
def McchMsg.pmch (mcch : McchMsg) (i : Nat) : PmchInfo := mcch.pmchInfoList.getD i default

def PmchInfo.session (pmch : PmchInfo) (j : Nat) : MbmsSessionInfo :=
  pmch.mbmsSessionInfoList.getD j default

def McchMsg.allocEnd (mcch : McchMsg) (i : Nat) : Nat := (mcch.pmch i).sfAllocEnd.toNat

/-- The first allocation index of PMCH `i`: 0 for PMCH 0, one past the previous PMCH's end
offset otherwise. -/
def McchMsg.allocStart (mcch : McchMsg) (i : Nat) : Nat :=
  if i = 0 then 0 else mcch.allocEnd (i - 1) + 1

def McchMsg.Increasing (mcch : McchMsg) (n : Nat) : Prop :=
  ∀ i, i + 1 < n → mcch.allocEnd i < mcch.allocEnd (i + 1)

theorem McchMsg.alloc_end_mono {mcch : McchMsg} {n : Nat} (increasing : mcch.Increasing n)
    {i j : Nat} (le : i ≤ j) (bound : j < n) : mcch.allocEnd i ≤ mcch.allocEnd j := by
  induction j, le using Nat.le_induction with
  | base => exact Nat.le_refl _
  | succ j _ induction =>
      exact Nat.le_trans (induction (by omega)) (Nat.le_of_lt (increasing j bound))

/-! ## Results -/

/-- `srsran_mbsfn_cfg_t` as `mbsfn_config_for_tti` returns it. The local `cfg` is not
initialised in the source: a field it never writes is `none`. -/
structure MbsfnCfg where
  enable : Bool
  mbsfnAreaId : Option UInt32 := none
  nonMbsfnRegionLength : Option UInt8 := none
  mbsfnMcs : Option UInt32 := none
  isMcch : Bool
  deriving DecidableEq, Repr

structure MtchInfo where
  tmgi : String
  dest : String
  lcid : Int
  deriving DecidableEq, Repr

structure MchInfo where
  mcs : Int
  mtchs : List MtchInfo
  deriving DecidableEq, Repr

/-! ## The PHY -/

/-- `_dests`, a `std::map<uint32_t, std::map<int, std::string>>`; `none` is an absent key. -/
abbrev Dests := UInt32 → Int → Option String

/-- The members of `Phy` that its modelled methods read or write. The srsran objects
(`_ue_sync`, `_mib_sync`, `_cell_search`, `_mib`) and the sample buffers are external state:
the results of the calls on them are inputs of the operations that make those calls. -/
structure Phy where
  cell : Cell
  decodeMcch : Bool
  tti : UInt32
  mcchTable : Fin 10 → UInt8
  mcchConfigured : Bool
  sib13 : Sib13
  mcch : McchMsg
  mchConfigured : Bool
  mchInfo : List MchInfo
  dests : Dests

def Phy.initial : Phy where
  cell := {}
  decodeMcch := false
  tti := 0
  mcchTable := fun _ => 0
  mcchConfigured := false
  sib13 := {}
  mcch := {}
  mchConfigured := false
  mchInfo := []
  dests := fun _ _ => none

/-- The srsran routines the PHY calls as functions of their arguments alone: the two
`generate_mcch_table` variants, run on a table `bzero` has just cleared, and
`srsran_cell_isvalid`. They belong to srsran, not to this repository, so the model takes them
as parameters. -/
structure Srsran where
  generateMcchTable : UInt32 → Fin 10 → UInt8
  generateMcchTableR16 : UInt32 → Fin 10 → UInt8
  cellIsvalid : Cell → Bool

/-- The destination `_dests[i][lcid]` yields: the stored one, or the empty string that
`operator[]` inserts. -/
def destOf (dests : Dests) (mchIdx : UInt32) (lcid : Int) : String := (dests mchIdx lcid).getD ""

end MbmsModem
