import MbmsModem.Basic

/-!
# TMGI strings

`set_mbsfn_config` prints each session's TMGI with `sprintf(tmgi, "%06x%02x%02x%02x", ...)`:
the 24-bit service id, then three octets packing the MCC and MNC digits as TS 24.008
10.5.6.13 orders them (the comment in the source: MCC 901, MNC 56 gives `09F165`).
`formatHex` is printf's `%0Nx`, built on the core's `Nat.toDigits`. For decimal digits the
string is the twelve lowercase hex digits of six octets, and two sessions print the same
string exactly when they name the same group.
-/

namespace MbmsModem

set_option autoImplicit false

/-! ## printf's `%0Nx` -/

/-- `%0Nx`: the value in lowercase hexadecimal, padded with zeros to at least `width` digits. -/
def formatHex (width value : Nat) : List Char :=
  List.replicate (width - (Nat.toDigits 16 value).length) '0' ++ Nat.toDigits 16 value

def fixedHex : Nat → Nat → List Char
  | 0, _ => []
  | width + 1, value => fixedHex width (value / 16) ++ [Nat.digitChar (value % 16)]

def hexOctet (octet : Nat) : List Char := [Nat.digitChar (octet / 16), Nat.digitChar (octet % 16)]

theorem to_digits_core_acc (fuel n : Nat) (ds : List Char) :
    Nat.toDigitsCore 16 fuel n ds = Nat.toDigitsCore 16 fuel n [] ++ ds := by
  induction fuel generalizing n ds with
  | zero => rfl
  | succ fuel induction =>
      simp only [Nat.toDigitsCore]
      split
      · rfl
      · rw [induction, induction _ [_], List.append_assoc, List.singleton_append]

theorem to_digits_core_fuel (fuel other n : Nat) (ds : List Char) (enough : n < fuel)
    (alsoEnough : n < other) :
    Nat.toDigitsCore 16 fuel n ds = Nat.toDigitsCore 16 other n ds := by
  induction fuel generalizing other n ds with
  | zero => omega
  | succ fuel induction =>
      obtain ⟨other, rfl⟩ : ∃ k, other = k + 1 := ⟨other - 1, by omega⟩
      simp only [Nat.toDigitsCore]
      split
      · rfl
      · exact induction _ _ _ (by omega) (by omega)

theorem to_digits_hex (value : Nat) :
    Nat.toDigits 16 value = if value < 16 then [Nat.digitChar value]
      else Nat.toDigits 16 (value / 16) ++ [Nat.digitChar (value % 16)] := by
  unfold Nat.toDigits
  rw [Nat.toDigitsCore]
  split
  · rename_i small
    rw [if_pos (by omega), Nat.mod_eq_of_lt (by omega)]
  · rename_i large
    rw [if_neg (by omega), to_digits_core_acc,
      to_digits_core_fuel value (value / 16 + 1) _ _ (by omega) (by omega)]

theorem format_hex_eq_fixed (width value : Nat) (fits : value < 16 ^ (width + 1)) :
    formatHex (width + 1) value = fixedHex (width + 1) value := by
  induction width generalizing value with
  | zero =>
      rw [formatHex, to_digits_hex, if_pos (by simpa using fits)]
      simp [fixedHex, Nat.div_eq_of_lt (show value < 16 by simpa using fits),
        Nat.mod_eq_of_lt (show value < 16 by simpa using fits)]
  | succ width induction =>
      rw [fixedHex, ← induction _ (by rw [pow_succ] at fits; omega), formatHex, formatHex,
        to_digits_hex value]
      split
      · rename_i small
        rw [Nat.div_eq_of_lt small, Nat.mod_eq_of_lt small, to_digits_hex 0, if_pos (by omega)]
        simp [List.replicate_succ', Nat.digitChar]
      · simp only [List.length_append, List.length_singleton, List.append_assoc]
        congr 2
        omega

theorem fixed_hex_append (high low : Nat) (x y : Nat) (small : y < 16 ^ low) :
    fixedHex (high + low) (x * 16 ^ low + y) = fixedHex high x ++ fixedHex low y := by
  induction low generalizing x y with
  | zero =>
      simp only [pow_zero] at small
      simp [Nat.lt_one_iff.mp small, fixedHex]
  | succ low induction =>
      have split : (x * 16 ^ (low + 1) + y) / 16 = x * 16 ^ low + y / 16 := by
        rw [pow_succ, ← Nat.mul_assoc]
        omega
      have last : (x * 16 ^ (low + 1) + y) % 16 = y % 16 := by
        rw [pow_succ, ← Nat.mul_assoc]
        omega
      rw [← Nat.add_assoc, fixedHex, split, last,
        induction _ _ (by rw [pow_succ] at small; omega), fixedHex, List.append_assoc]

theorem fixed_hex_two (octet : Nat) (small : octet < 256) : fixedHex 2 octet = hexOctet octet := by
  simp [fixedHex, hexOctet, Nat.div_div_eq_div_mul, Nat.div_eq_of_lt small,
    Nat.mod_eq_of_lt (show octet / 16 < 16 by omega)]

theorem or_shift_eq (x y k : Nat) (small : x < 2 ^ k) : x ||| y <<< k = y * 2 ^ k + x := by
  rw [Nat.shiftLeft_eq, Nat.lor_comm, Nat.mul_comm, ← Nat.mul_add_lt_is_or small]

/-- The 24-bit service id `serviced_id[2] | serviced_id[1] << 8 | serviced_id[0] << 16` is
the three bytes read in base 256, the first one most significant. -/
theorem service_id_eq (high middle low : Nat) (middleSmall : middle < 256)
    (lowSmall : low < 256) :
    low ||| middle <<< 8 ||| high <<< 16 = (high * 16 ^ 2 + middle) * 16 ^ 2 + low := by
  rw [or_shift_eq _ _ 8 (by simpa using lowSmall), or_shift_eq _ _ 16 (by simp; omega)]
  ring

theorem format_octet (high low : Nat) (highSmall : high < 16) (lowSmall : low < 16) :
    formatHex 2 (high <<< 4 ||| low) = hexOctet (high * 16 + low) := by
  rw [Nat.lor_comm, or_shift_eq _ _ _ lowSmall, format_hex_eq_fixed 1 _ (by omega),
    fixed_hex_two _ (by omega)]
  rfl

theorem to_digits_length_le (digits value : Nat) (fits : value < 16 ^ (digits + 1)) :
    (Nat.toDigits 16 value).length ≤ digits + 1 := by
  induction digits generalizing value with
  | zero =>
      rw [to_digits_hex, if_pos (by simpa using fits)]
      rfl
  | succ digits induction =>
      have shorter := induction (value / 16) (by rw [pow_succ] at fits; omega)
      rw [to_digits_hex]
      split
      · simp
      · simp only [List.length_append, List.length_singleton]
        omega

theorem format_hex_length_le (width digits value : Nat) (fits : value < 16 ^ (digits + 1)) :
    (formatHex width value).length ≤ max width (digits + 1) := by
  have := to_digits_length_le digits value fits
  simp only [formatHex, List.length_append, List.length_replicate]
  omega

theorem octet_field_lt (high low : Nat) (highSmall : high < 256) (lowSmall : low < 256) :
    high <<< 4 ||| low < 16 ^ (2 + 1) :=
  Nat.or_lt_two_pow (n := 12) (by rw [Nat.shiftLeft_eq]; omega) (by omega)

theorem digit_char_inj {a b : Nat} (aSmall : a < 16) (bSmall : b < 16)
    (same : Nat.digitChar a = Nat.digitChar b) : a = b := by
  have table : ∀ a < 16, ∀ b < 16, Nat.digitChar a = Nat.digitChar b → a = b := by decide
  exact table a aSmall b bSmall same

theorem hex_octet_inj {octet other : Nat} (small : octet < 256) (otherSmall : other < 256)
    (same : hexOctet octet = hexOctet other) : octet = other := by
  simp only [hexOctet, List.cons.injEq, and_true] at same
  have high := digit_char_inj (by omega) (by omega) same.1
  have low := digit_char_inj (Nat.mod_lt _ (by omega)) (Nat.mod_lt _ (by omega)) same.2
  omega

theorem hex_octets_inj : ∀ {octets others : List Nat}, (∀ o ∈ octets, o < 256) →
    (∀ o ∈ others, o < 256) → octets.flatMap hexOctet = others.flatMap hexOctet →
    octets = others
  | [], [], _, _, _ => rfl
  | [], _ :: _, _, _, same => by simp [hexOctet] at same
  | _ :: _, [], _, _, same => by simp [hexOctet] at same
  | octet :: octets, other :: others, small, otherSmall, same => by
      simp only [List.flatMap_cons] at same
      obtain ⟨head, tail⟩ := List.append_inj same (by simp [hexOctet])
      rw [hex_octet_inj (small _ (by simp)) (otherSmall _ (by simp)) head,
        hex_octets_inj (fun o member => small o (by simp [member]))
          (fun o member => otherSmall o (by simp [member])) tail]

/-! ## The TMGI string -/

/-- The string `set_mbsfn_config` prints into `tmgi[20]` for a session's TMGI. -/
def tmgiString (tmgi : Tmgi) : String :=
  let mcc := tmgi.plmnId.mcc
  let mnc := tmgi.plmnId.mnc
  let servicedId := tmgi.servicedId
  String.mk
    (formatHex 6 ((servicedId 2).toNat ||| (servicedId 1).toNat <<< 8 |||
        (servicedId 0).toNat <<< 16) ++
      formatHex 2 ((mcc 1).toNat <<< 4 ||| (mcc 0).toNat) ++
      formatHex 2 ((if tmgi.plmnId.nofMncDigits = 2 then 0xF else (mnc 2).toNat) <<< 4 |||
        (mcc 2).toNat) ++
      formatHex 2 ((mnc 1).toNat <<< 4 ||| (mnc 0).toNat))

def mncNibble (plmnId : PlmnId) : Nat :=
  if plmnId.nofMncDigits = 2 then 15 else (plmnId.mnc 2).toNat

/-- The six octets a TMGI stands for: the service id, then MCC digit 2 | MCC digit 1,
MNC digit 3 | MCC digit 3, MNC digit 2 | MNC digit 1. -/
def tmgiOctets (tmgi : Tmgi) : List Nat :=
  [(tmgi.servicedId 0).toNat, (tmgi.servicedId 1).toNat, (tmgi.servicedId 2).toNat,
    (tmgi.plmnId.mcc 1).toNat * 16 + (tmgi.plmnId.mcc 0).toNat,
    mncNibble tmgi.plmnId * 16 + (tmgi.plmnId.mcc 2).toNat,
    (tmgi.plmnId.mnc 1).toNat * 16 + (tmgi.plmnId.mnc 0).toNat]

def CanonicalTmgi (tmgi : Tmgi) : Prop :=
  (∀ k, (tmgi.plmnId.mcc k).toNat ≤ 9) ∧ (tmgi.plmnId.mnc 0).toNat ≤ 9 ∧
    (tmgi.plmnId.mnc 1).toNat ≤ 9 ∧
    (tmgi.plmnId.nofMncDigits = 2 ∨
      (tmgi.plmnId.nofMncDigits = 3 ∧ (tmgi.plmnId.mnc 2).toNat ≤ 9))

instance (tmgi : Tmgi) : Decidable (CanonicalTmgi tmgi) :=
  inferInstanceAs (Decidable (_ ∧ _))

theorem mnc_nibble_le (plmnId : PlmnId)
    (nof : plmnId.nofMncDigits = 2 ∨ (plmnId.nofMncDigits = 3 ∧ (plmnId.mnc 2).toNat ≤ 9)) :
    mncNibble plmnId ≤ 15 := by
  unfold mncNibble
  rcases nof with two | ⟨three, small⟩
  · simp [two]
  · rw [if_neg (by rw [three]; decide)]
    omega

def SameTmgi (tmgi other : Tmgi) : Prop :=
  tmgi.servicedId = other.servicedId ∧ tmgi.plmnId.mcc = other.plmnId.mcc ∧
    tmgi.plmnId.nofMncDigits = other.plmnId.nofMncDigits ∧
    tmgi.plmnId.mnc 0 = other.plmnId.mnc 0 ∧ tmgi.plmnId.mnc 1 = other.plmnId.mnc 1 ∧
    (tmgi.plmnId.nofMncDigits = 3 → tmgi.plmnId.mnc 2 = other.plmnId.mnc 2)

theorem mnc_nibble_eq_iff {plmnId other : PlmnId}
    (nof : plmnId.nofMncDigits = 2 ∨ (plmnId.nofMncDigits = 3 ∧ (plmnId.mnc 2).toNat ≤ 9))
    (otherNof : other.nofMncDigits = 2 ∨ (other.nofMncDigits = 3 ∧ (other.mnc 2).toNat ≤ 9)) :
    mncNibble plmnId = mncNibble other ↔ plmnId.nofMncDigits = other.nofMncDigits ∧
      (plmnId.nofMncDigits = 3 → plmnId.mnc 2 = other.mnc 2) := by
  unfold mncNibble
  rcases nof with two | ⟨three, small⟩ <;>
    rcases otherNof with otherTwo | ⟨otherThree, otherSmall⟩
  · simp [two, otherTwo]
  · simp [two, otherThree]
    omega
  · simp [three, otherTwo]
    omega
  · simp [three, otherThree, UInt8.ext_iff]

theorem nibbles_eq {high low otherHigh otherLow : Nat} (lowSmall : low < 16)
    (otherLowSmall : otherLow < 16) (same : high * 16 + low = otherHigh * 16 + otherLow) :
    high = otherHigh ∧ low = otherLow := by
  omega

theorem fin_three_ext {α : Type} {f g : Fin 3 → α} (zero : f 0 = g 0) (one : f 1 = g 1)
    (two : f 2 = g 2) : f = g := by
  funext k
  fin_cases k <;> assumption

theorem tmgi_octets_small (tmgi : Tmgi) (canonical : CanonicalTmgi tmgi) :
    ∀ o ∈ tmgiOctets tmgi, o < 256 := by
  obtain ⟨mcc, _, _, nof⟩ := canonical
  have nibble := mnc_nibble_le _ nof
  have := mcc 0; have := mcc 1; have := mcc 2
  have := (tmgi.servicedId 0).toNat_lt; have := (tmgi.servicedId 1).toNat_lt
  have := (tmgi.servicedId 2).toNat_lt
  simp only [tmgiOctets, List.mem_cons, List.mem_singleton, List.not_mem_nil, or_false]
  rintro o (rfl | rfl | rfl | rfl | rfl | rfl) <;> omega

/-- Valid TMGIs have the same octets exactly when they name the same group. -/
theorem tmgi_octets_eq_iff (tmgi other : Tmgi) (canonical : CanonicalTmgi tmgi)
    (otherCanonical : CanonicalTmgi other) :
    tmgiOctets tmgi = tmgiOctets other ↔ SameTmgi tmgi other := by
  obtain ⟨mcc, mnc0, mnc1, nof⟩ := canonical
  obtain ⟨otherMcc, otherMnc0, otherMnc1, otherNof⟩ := otherCanonical
  have := mcc 0; have := mcc 2; have := otherMcc 0; have := otherMcc 2
  simp only [tmgiOctets, List.cons.injEq, and_true, SameTmgi, ← UInt8.ext_iff]
  constructor
  · rintro ⟨sid0, sid1, sid2, mccLow, nibble, mncLow⟩
    obtain ⟨mcc1, mcc0⟩ := nibbles_eq (by omega) (by omega) mccLow
    obtain ⟨nibble, mcc2⟩ := nibbles_eq (by omega) (by omega) nibble
    obtain ⟨mncHigh, mncLow⟩ := nibbles_eq (by omega) (by omega) mncLow
    rw [← UInt8.ext_iff] at mcc0 mcc1 mcc2 mncHigh mncLow
    exact ⟨fin_three_ext sid0 sid1 sid2, fin_three_ext mcc0 mcc1 mcc2,
      ((mnc_nibble_eq_iff nof otherNof).mp nibble).1, mncLow, mncHigh,
      ((mnc_nibble_eq_iff nof otherNof).mp nibble).2⟩
  · rintro ⟨sid, mccSame, nofSame, mncLow, mncHigh, mnc2⟩
    simp only [sid, mccSame, mncLow, mncHigh,
      (mnc_nibble_eq_iff nof otherNof).mpr ⟨nofSame, mnc2⟩, and_self]

theorem tmgi_string_eq_octets (tmgi : Tmgi) (canonical : CanonicalTmgi tmgi) :
    tmgiString tmgi = String.mk ((tmgiOctets tmgi).flatMap hexOctet) := by
  obtain ⟨mcc, mnc0, mnc1, nof⟩ := canonical
  have nibble := mnc_nibble_le _ nof
  have s0 := (tmgi.servicedId 0).toNat_lt
  have s1 := (tmgi.servicedId 1).toNat_lt
  have s2 := (tmgi.servicedId 2).toNat_lt
  have serviceId : formatHex 6 ((tmgi.servicedId 2).toNat ||| (tmgi.servicedId 1).toNat <<< 8 |||
      (tmgi.servicedId 0).toNat <<< 16) = hexOctet (tmgi.servicedId 0).toNat ++
        hexOctet (tmgi.servicedId 1).toNat ++ hexOctet (tmgi.servicedId 2).toNat := by
    rw [service_id_eq _ _ _ (by simpa using s1) (by simpa using s2),
      format_hex_eq_fixed 5 _ (by simp; omega), show 5 + 1 = 2 + 2 + 2 from rfl,
      fixed_hex_append _ _ _ _ (by simpa using s2), fixed_hex_append _ _ _ _ (by simpa using s1),
      fixed_hex_two _ (by simpa using s0), fixed_hex_two _ (by simpa using s1),
      fixed_hex_two _ (by simpa using s2)]
  have third : (if tmgi.plmnId.nofMncDigits = 2 then 0xF else (tmgi.plmnId.mnc 2).toNat) =
      mncNibble tmgi.plmnId := rfl
  have mccOctet := format_octet (tmgi.plmnId.mcc 1).toNat (tmgi.plmnId.mcc 0).toNat
    (by have := mcc 1; omega) (by have := mcc 0; omega)
  have nibbleOctet := format_octet (mncNibble tmgi.plmnId) (tmgi.plmnId.mcc 2).toNat
    (by omega) (by have := mcc 2; omega)
  have mncOctet := format_octet (tmgi.plmnId.mnc 1).toNat (tmgi.plmnId.mnc 0).toNat
    (by omega) (by omega)
  simp only [tmgiString, serviceId, third, mccOctet, nibbleOctet, mncOctet, tmgiOctets,
    List.flatMap_cons, List.flatMap_nil, List.append_nil, List.append_assoc]

/-- For decimal PLMN digits the TMGI string is the twelve hex digits of the six octets, and
two sessions print the same string exactly when they name the same group. -/
theorem tmgi_string_encoding (tmgi other : Tmgi) (canonical : CanonicalTmgi tmgi)
    (otherCanonical : CanonicalTmgi other) :
    tmgiString tmgi = String.mk ((tmgiOctets tmgi).flatMap hexOctet) ∧
      (tmgiString tmgi).length = 12 ∧
      (tmgiString tmgi = tmgiString other ↔ SameTmgi tmgi other) := by
  rw [← tmgi_octets_eq_iff tmgi other canonical otherCanonical,
    tmgi_string_eq_octets tmgi canonical, tmgi_string_eq_octets other otherCanonical]
  refine ⟨rfl, by simp [tmgiOctets, hexOctet], fun same => ?_, fun same => by rw [same]⟩
  exact hex_octets_inj (tmgi_octets_small tmgi canonical) (tmgi_octets_small other otherCanonical)
    (congrArg String.data same)

/-- The TMGI of the source's comment: MCC 901, the two-digit MNC 56, service id 000001. -/
def commentTmgi : Tmgi where
  plmnId := { mcc := ![9, 0, 1], mnc := ![5, 6, 0], nofMncDigits := 2 }
  servicedId := ![0, 0, 1]

theorem comment_tmgi_encoding :
    CanonicalTmgi commentTmgi ∧ tmgiString commentTmgi = "00000109f165" ∧
      tmgiString commentTmgi ≠
        tmgiString { commentTmgi with plmnId.nofMncDigits := 3 } := by
  have encoding := tmgi_string_encoding commentTmgi { commentTmgi with plmnId.nofMncDigits := 3 }
    (by decide) (by decide)
  refine ⟨by decide, by rw [encoding.1]; rfl, fun same => ?_⟩
  exact absurd (encoding.2.2.mp same).2.2.1 (by decide)

/-- Whatever its bytes, the string `sprintf` writes has at most 15 characters: six for the
service ID, and at most three for each `%02x` field, whose argument `high << 4 | low` of two
bytes can reach `0xfff`. With its terminating NUL it fits `tmgi[20]`. -/
theorem tmgi_string_fits (tmgi : Tmgi) : (tmgiString tmgi).length ≤ 15 := by
  have s0 := (tmgi.servicedId 0).toNat_lt
  have s1 := (tmgi.servicedId 1).toNat_lt
  have s2 := (tmgi.servicedId 2).toNat_lt
  have serviceId := format_hex_length_le 6 5 ((tmgi.servicedId 2).toNat |||
    (tmgi.servicedId 1).toNat <<< 8 ||| (tmgi.servicedId 0).toNat <<< 16) (by
      rw [service_id_eq _ _ _ (by simpa using s1) (by simpa using s2)]
      simp
      omega)
  have nibble :
      (if tmgi.plmnId.nofMncDigits = 2 then 0xF else (tmgi.plmnId.mnc 2).toNat) < 256 := by
    split
    · decide
    · exact (tmgi.plmnId.mnc 2).toNat_lt
  have mcc := format_hex_length_le 2 2 _ (octet_field_lt _ _ (tmgi.plmnId.mcc 1).toNat_lt
    (tmgi.plmnId.mcc 0).toNat_lt)
  have mncMcc := format_hex_length_le 2 2 _ (octet_field_lt _ _ nibble
    (tmgi.plmnId.mcc 2).toNat_lt)
  have mnc := format_hex_length_le 2 2 _ (octet_field_lt _ _ (tmgi.plmnId.mnc 1).toNat_lt
    (tmgi.plmnId.mnc 0).toNat_lt)
  simp only [tmgiString, String.length, List.length_append] at *
  omega

end MbmsModem
