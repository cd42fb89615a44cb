import MbmsModem.Basic

/-!
# Subframe classification

`Phy::is_cas_subframe` and `Phy::is_mbsfn_subframe`, read off the source, and their meaning
on the subframe number: in an MBMS-dedicated cell the CAS subframe is subframe 0 of every
fourth radio frame; in a mixed cell it is one of subframes 0, 4, 5 and 9. The mixed MBSFN
set lists exactly the other six, so no subframe is left in neither class.
-/

namespace MbmsModem

set_option autoImplicit false

/-- `Phy::is_cas_subframe`. -/
def isCasSubframe (phy : Phy) (tti : UInt32) : Bool :=
  if phy.cell.mbmsDedicated then
    tti % 40 == 0
  else
    tti % 10 == 0 || tti % 10 == 4 || tti % 10 == 5 || tti % 10 == 9

/-- `Phy::is_mbsfn_subframe`. -/
def isMbsfnSubframe (phy : Phy) (tti : UInt32) : Bool :=
  if phy.cell.mbmsDedicated then
    !isCasSubframe phy tti
  else
    !isCasSubframe phy tti &&
      (tti % 10 == 1 || tti % 10 == 2 || tti % 10 == 3 || tti % 10 == 6 || tti % 10 == 7 ||
        tti % 10 == 8)

def CasPosition (mbmsDedicated : Bool) (t : Nat) : Prop :=
  if mbmsDedicated then t % 40 = 0
  else t % 10 = 0 ∨ t % 10 = 4 ∨ t % 10 = 5 ∨ t % 10 = 9

instance (mbmsDedicated : Bool) (t : Nat) : Decidable (CasPosition mbmsDedicated t) :=
  inferInstanceAs (Decidable (if mbmsDedicated then t % 40 = 0
    else t % 10 = 0 ∨ t % 10 = 4 ∨ t % 10 = 5 ∨ t % 10 = 9))

theorem is_cas_subframe_eq (phy : Phy) (tti : UInt32) :
    isCasSubframe phy tti = decide (CasPosition phy.cell.mbmsDedicated tti.toNat) := by
  unfold isCasSubframe CasPosition
  split <;> simp [Bool.or_assoc]

/-- The mixed-cell MBSFN subframes are exactly the non-CAS ones: the classifier is a
partition, with nothing left over. -/
theorem is_mbsfn_subframe_eq_not_cas (phy : Phy) (tti : UInt32) :
    isMbsfnSubframe phy tti = !isCasSubframe phy tti := by
  unfold isMbsfnSubframe
  split
  · rfl
  · have partition : ∀ r < 10,
        (!(decide (r = 0) || decide (r = 4) || decide (r = 5) || decide (r = 9)) &&
          (decide (r = 1) || decide (r = 2) || decide (r = 3) || decide (r = 6) ||
            decide (r = 7) || decide (r = 8))) =
        !(decide (r = 0) || decide (r = 4) || decide (r = 5) || decide (r = 9)) := by decide
    simpa [isCasSubframe, *] using partition (tti.toNat % 10) (Nat.mod_lt _ (by decide))

theorem is_mbsfn_subframe_eq (phy : Phy) (tti : UInt32) :
    isMbsfnSubframe phy tti = !decide (CasPosition phy.cell.mbmsDedicated tti.toNat) := by
  rw [is_mbsfn_subframe_eq_not_cas, is_cas_subframe_eq]

/-- A whole hyperframe (1024 frames, 10240 subframes) later, the CAS pattern repeats: 40
divides 10240. -/
theorem cas_position_hyperframe (mbmsDedicated : Bool) (t k : Nat) :
    CasPosition mbmsDedicated (t + 10240 * k) ↔ CasPosition mbmsDedicated t := by
  unfold CasPosition
  split <;> omega

theorem is_cas_subframe_hyperframe (phy : Phy) (tti : UInt32) (k : Nat)
    (noWrap : tti.toNat + 10240 * k < 2 ^ 32) :
    isCasSubframe phy (tti + UInt32.ofNat (10240 * k)) = isCasSubframe phy tti := by
  have sum : (tti + UInt32.ofNat (10240 * k)).toNat = tti.toNat + 10240 * k := by
    simp only [UInt32.toNat_add, word_size, word_toNat_ofNat]
    omega
  simp only [is_cas_subframe_eq, sum, cas_position_hyperframe]

theorem is_mbsfn_subframe_hyperframe (phy : Phy) (tti : UInt32) (k : Nat)
    (noWrap : tti.toNat + 10240 * k < 2 ^ 32) :
    isMbsfnSubframe phy (tti + UInt32.ofNat (10240 * k)) = isMbsfnSubframe phy tti := by
  simp only [is_mbsfn_subframe_eq_not_cas, is_cas_subframe_hyperframe phy tti k noWrap]

end MbmsModem
