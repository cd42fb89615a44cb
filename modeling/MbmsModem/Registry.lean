import MbmsModem.Tmgi

/-!
# The MCH registry

`Phy::set_mbsfn_config` rebuilds `_mch_info` from the MCCH message in two nested loops, one
`mch_info_t` per PMCH and one `mtch_info_t` per session, reading each destination through
`std::map::operator[]`, which inserts an empty string under a missing key. The loops are folds
that thread the map; `registryOf` says in one `map` what they build
(`set_mbsfn_config_registry`). The inserted strings change no destination a later read sees,
and they make a second call with the same message change nothing (`set_mbsfn_config_fixed`).
-/

namespace MbmsModem

set_option autoImplicit false

/-! ## The destination map -/

/-- `_dests[mchIdx][lcid] = dest`. -/
def Dests.assign (dests : Dests) (mchIdx : UInt32) (lcid : Int) (dest : String) : Dests :=
  fun i l => if i = mchIdx ∧ l = lcid then some dest else dests i l

/-- `_dests[mchIdx][lcid]` read through `operator[]`: the stored destination, or the empty
string, which the read then also stores. -/
def destsIndex (dests : Dests) (mchIdx : UInt32) (lcid : Int) : String × Dests :=
  match dests mchIdx lcid with
  | some dest => (dest, dests)
  | none => ("", dests.assign mchIdx lcid "")

@[simp] theorem dest_of_assign (dests : Dests) (mchIdx i : UInt32) (lcid l : Int)
    (dest : String) :
    destOf (dests.assign mchIdx lcid dest) i l =
      if i = mchIdx ∧ l = lcid then dest else destOf dests i l := by
  unfold destOf Dests.assign
  split <;> rfl

@[simp] theorem dests_index_fst (dests : Dests) (mchIdx : UInt32) (lcid : Int) :
    (destsIndex dests mchIdx lcid).1 = destOf dests mchIdx lcid := by
  unfold destsIndex destOf
  split <;> simp_all

/-- The empty string the read may insert is the value `destOf` already gave. -/
@[simp] theorem dest_of_dests_index (dests : Dests) (mchIdx : UInt32) (lcid : Int) :
    destOf (destsIndex dests mchIdx lcid).2 = destOf dests := by
  unfold destsIndex
  split
  · rfl
  · rename_i absent
    funext i l
    rw [dest_of_assign]
    split
    · rename_i same
      obtain ⟨rfl, rfl⟩ := same
      simp [destOf, absent]
    · rfl

/-! ## The loops of `set_mbsfn_config` -/

/-- One pass of the inner loop: session `j` of PMCH `i` becomes an `mtch_info_t`. -/
def pushMtch (i : UInt32) (pmch : PmchInfo) (acc : List MtchInfo × Dests) (j : Nat) :
    List MtchInfo × Dests :=
  let session := pmch.session j
  let lcid : Int := session.lcChId.toNat
  let read := destsIndex acc.2 i lcid
  (acc.1 ++ [{ tmgi := tmgiString session.tmgi, dest := read.1, lcid := lcid }], read.2)

/-- One pass of the outer loop: PMCH `i` becomes an `mch_info_t`. -/
def pushMch (mcch : McchMsg) (acc : List MchInfo × Dests) (i : Nat) : List MchInfo × Dests :=
  let pmch := mcch.pmch i
  let inner :=
    (List.range pmch.nofMbmsSessionInfo.toNat).foldl (pushMtch i.toUInt32 pmch) ([], acc.2)
  (acc.1 ++ [{ mcs := pmch.dataMcs.toNat, mtchs := inner.1 }], inner.2)

/-- `Phy::set_mbsfn_config`: `_mcch = mcch`, `_mch_configured = true`, and `_mch_info`
cleared and refilled by the loops. -/
def setMbsfnConfig (phy : Phy) (mcch : McchMsg) : Phy :=
  let built := (List.range mcch.nofPmchInfo.toNat).foldl (pushMch mcch) ([], phy.dests)
  { phy with mcch := mcch, mchConfigured := true, mchInfo := built.1, dests := built.2 }

/-! ## What the loops build -/

def mtchInfoOf (dest : UInt32 → Int → String) (i : UInt32) (pmch : PmchInfo) (j : Nat) :
    MtchInfo :=
  { tmgi := tmgiString (pmch.session j).tmgi
    dest := dest i (pmch.session j).lcChId.toNat
    lcid := (pmch.session j).lcChId.toNat }

def mchInfoOf (mcch : McchMsg) (dest : UInt32 → Int → String) (i : Nat) : MchInfo :=
  { mcs := (mcch.pmch i).dataMcs.toNat
    mtchs := (List.range (mcch.pmch i).nofMbmsSessionInfo.toNat).map
      (mtchInfoOf dest i.toUInt32 (mcch.pmch i)) }

def registryOf (mcch : McchMsg) (dest : UInt32 → Int → String) : List MchInfo :=
  (List.range mcch.nofPmchInfo.toNat).map (mchInfoOf mcch dest)

theorem foldl_push {α β : Type} (pass : List β × Dests → α → List β × Dests)
    (entry : (UInt32 → Int → String) → α → β)
    (passSpec : ∀ acc dests x, (pass (acc, dests) x).1 = acc ++ [entry (destOf dests) x] ∧
      destOf (pass (acc, dests) x).2 = destOf dests)
    (xs : List α) (acc : List β) (dests : Dests) :
    (xs.foldl pass (acc, dests)).1 = acc ++ xs.map (entry (destOf dests)) ∧
      destOf (xs.foldl pass (acc, dests)).2 = destOf dests := by
  induction xs generalizing acc dests with
  | nil => simp
  | cons x xs induction =>
      obtain ⟨pushed, kept⟩ := passSpec acc dests x
      have rest := induction (pass (acc, dests) x).1 (pass (acc, dests) x).2
      rw [Prod.mk.eta, pushed, kept] at rest
      simpa using rest

theorem push_mtch_spec (i : UInt32) (pmch : PmchInfo) (acc : List MtchInfo) (dests : Dests)
    (j : Nat) :
    (pushMtch i pmch (acc, dests) j).1 = acc ++ [mtchInfoOf (destOf dests) i pmch j] ∧
      destOf (pushMtch i pmch (acc, dests) j).2 = destOf dests :=
  ⟨by simp [pushMtch, mtchInfoOf], by simp [pushMtch]⟩

theorem push_mch_spec (mcch : McchMsg) (acc : List MchInfo) (dests : Dests) (i : Nat) :
    (pushMch mcch (acc, dests) i).1 = acc ++ [mchInfoOf mcch (destOf dests) i] ∧
      destOf (pushMch mcch (acc, dests) i).2 = destOf dests := by
  have inner := foldl_push (pushMtch i.toUInt32 (mcch.pmch i))
    (fun dest => mtchInfoOf dest i.toUInt32 (mcch.pmch i)) (push_mtch_spec _ _)
    (List.range (mcch.pmch i).nofMbmsSessionInfo.toNat) [] dests
  simp only [List.nil_append] at inner
  exact ⟨by simp [pushMch, mchInfoOf, inner.1], inner.2⟩

/-- `set_mbsfn_config` builds the registry of the message from the destinations stored when
it is called, and leaves every destination a later read sees as it was. -/
theorem set_mbsfn_config_registry (phy : Phy) (mcch : McchMsg) :
    (setMbsfnConfig phy mcch).mchInfo = registryOf mcch (destOf phy.dests) ∧
      destOf (setMbsfnConfig phy mcch).dests = destOf phy.dests := by
  have outer := foldl_push (pushMch mcch) (mchInfoOf mcch) (push_mch_spec mcch)
    (List.range mcch.nofPmchInfo.toNat) [] phy.dests
  simp only [List.nil_append] at outer
  exact outer

@[simp] theorem registry_of_length (mcch : McchMsg) (dest : UInt32 → Int → String) :
    (registryOf mcch dest).length = mcch.nofPmchInfo.toNat := by
  simp [registryOf]

/-! ## Applying a message again -/

def Covers (mcch : McchMsg) (dests : Dests) : Prop :=
  ∀ i < mcch.nofPmchInfo.toNat, ∀ j < (mcch.pmch i).nofMbmsSessionInfo.toNat,
    (dests i.toUInt32 ((mcch.pmch i).session j).lcChId.toNat).isSome

theorem dests_index_of_some {dests : Dests} {mchIdx : UInt32} {lcid : Int} {dest : String}
    (stored : dests mchIdx lcid = some dest) : destsIndex dests mchIdx lcid = (dest, dests) := by
  simp [destsIndex, stored]

theorem dests_index_isSome (dests : Dests) (mchIdx : UInt32) (lcid : Int) (i : UInt32) (l : Int)
    (present : (i = mchIdx ∧ l = lcid) ∨ (dests i l).isSome) :
    ((destsIndex dests mchIdx lcid).2 i l).isSome := by
  unfold destsIndex
  split
  · rename_i dest stored
    rcases present with ⟨rfl, rfl⟩ | present
    · simp [stored]
    · exact present
  · simp only [Dests.assign]
    split
    · rfl
    · exact present.resolve_left ‹_›

theorem foldl_present {α β : Type} (pass : List β × Dests → α → List β × Dests)
    (reads : α → UInt32 → Int → Prop)
    (passPresent : ∀ (acc : List β × Dests) x i l, (reads x i l ∨ (acc.2 i l).isSome) →
      ((pass acc x).2 i l).isSome)
    (xs : List α) (start : List β × Dests) (i : UInt32) (l : Int)
    (present : (∃ x ∈ xs, reads x i l) ∨ (start.2 i l).isSome) :
    ((xs.foldl pass start).2 i l).isSome := by
  have keeps : ∀ (ys : List α) (acc : List β × Dests), (acc.2 i l).isSome →
      ((ys.foldl pass acc).2 i l).isSome := fun ys acc kept =>
    List.foldlRecOn (motive := fun acc => (acc.2 i l).isSome) ys pass acc kept
      fun acc kept x _ => passPresent acc x i l (.inr kept)
  rcases present with ⟨x, member, read⟩ | present
  · obtain ⟨before, after, rfl⟩ := List.append_of_mem member
    rw [List.foldl_append, List.foldl_cons]
    exact keeps after _ (passPresent _ x i l (.inl read))
  · exact keeps xs start present

theorem foldl_fixed {α β : Type} (pass : List β × Dests → α → List β × Dests) (dests : Dests)
    (xs : List α) (fixed : ∀ acc, ∀ x ∈ xs, (pass (acc, dests) x).2 = dests) (acc : List β) :
    (xs.foldl pass (acc, dests)).2 = dests :=
  List.foldlRecOn (motive := fun acc => acc.2 = dests) xs pass (acc, dests) rfl
    fun ⟨acc, _⟩ same x member => by cases same; exact fixed acc x member

theorem push_mch_present (mcch : McchMsg) (acc : List MchInfo × Dests) (i : Nat)
    (k : UInt32) (l : Int)
    (present : (∃ j < (mcch.pmch i).nofMbmsSessionInfo.toNat,
      k = i.toUInt32 ∧ l = ((mcch.pmch i).session j).lcChId.toNat) ∨ (acc.2 k l).isSome) :
    ((pushMch mcch acc i).2 k l).isSome :=
  foldl_present (pushMtch i.toUInt32 (mcch.pmch i))
    (fun j k l => k = i.toUInt32 ∧ l = ((mcch.pmch i).session j).lcChId.toNat)
    (fun acc _ _ _ read => dests_index_isSome acc.2 _ _ _ _ read) _ ([], acc.2) k l
    (present.imp_left fun ⟨j, bound, read⟩ => ⟨j, List.mem_range.mpr bound, read⟩)

theorem set_mbsfn_config_covers (phy : Phy) (mcch : McchMsg) :
    Covers mcch (setMbsfnConfig phy mcch).dests := fun i bound j sessionBound =>
  foldl_present (pushMch mcch)
    (fun i k l => ∃ j < (mcch.pmch i).nofMbmsSessionInfo.toNat,
      k = i.toUInt32 ∧ l = ((mcch.pmch i).session j).lcChId.toNat)
    (push_mch_present mcch) _ ([], phy.dests) _ _
    (.inl ⟨i, List.mem_range.mpr bound, j, sessionBound, rfl, rfl⟩)

theorem set_mbsfn_config_dests_fixed (phy : Phy) (mcch : McchMsg)
    (covers : Covers mcch phy.dests) : (setMbsfnConfig phy mcch).dests = phy.dests := by
  refine foldl_fixed (pushMch mcch) phy.dests _ (fun _ i member => ?_) []
  refine foldl_fixed (pushMtch i.toUInt32 (mcch.pmch i)) phy.dests _ (fun _ j inner => ?_) []
  obtain ⟨dest, stored⟩ := Option.isSome_iff_exists.mp
    (covers i (List.mem_range.mp member) j (List.mem_range.mp inner))
  show (destsIndex phy.dests _ _).2 = phy.dests
  rw [dests_index_of_some stored]

/-- `set_mbsfn_config(m)` changes nothing on a state that holds `m` as its configured message,
the registry of `m` under its destinations, and every key the loops read. -/
theorem set_mbsfn_config_fixed (phy : Phy) (mcch : McchMsg) (stored : phy.mcch = mcch)
    (configured : phy.mchConfigured = true)
    (registry : phy.mchInfo = registryOf mcch (destOf phy.dests)) (covers : Covers mcch phy.dests) :
    setMbsfnConfig phy mcch = phy := by
  calc setMbsfnConfig phy mcch
      = { phy with
          mcch := mcch
          mchConfigured := true
          mchInfo := (setMbsfnConfig phy mcch).mchInfo
          dests := (setMbsfnConfig phy mcch).dests } := rfl
    _ = phy := by
      rw [set_mbsfn_config_dests_fixed phy mcch covers, (set_mbsfn_config_registry phy mcch).1,
        ← registry, ← stored, ← configured]

end MbmsModem
