import FpaPlugin.System

/-! The mask of an L3-unicast entry. Addresses are in network byte order, so that on a
little-endian host the leading bit of each octet is its highest: a host-order shift gives
the mask of a prefix only where the prefix ends with an octet. -/

namespace FpaPlugin

/-- Where `in_addr_t` holds the bit that comes `index` places after the leading one. -/
def networkBit (index : Nat) : Nat := index / 8 * 8 + (7 - index % 8)

def LeadingBitsAgree (length : Nat) (address other : InAddr) : Prop :=
  ∀ index, index < length →
    address.getLsbD (networkBit index) = other.getLsbD (networkBit index)

def L3UnicastFlow.matches (flow : L3UnicastFlow) (destination : InAddr) : Prop :=
  destination &&& flow.dstIp4Mask = flow.dstIp4 &&& flow.dstIp4Mask

instance (flow : L3UnicastFlow) (destination : InAddr) : Decidable (flow.matches destination) :=
  inferInstanceAs (Decidable (_ = _))

def ShiftDefined (maskLen : Int) : Prop := 0 ≤ 32 - maskLen ∧ 32 - maskLen < 32

variable {env : Env}

theorem networkBit_involutive (index : Nat) : networkBit (networkBit index) = index := by
  simp only [networkBit]
  omega

theorem networkBit_lt {length index : Nat} (octets : 8 ∣ length) (inside : index < length) :
    networkBit index < length := by
  simp only [networkBit]
  omega

theorem shiftDefined_iff {length : Nat} (bound : length ≤ 32) :
    ShiftDefined length ↔ 0 < length := by
  rw [ShiftDefined]
  omega

theorem dstIp4Mask_eq {length : Nat} (bound : length ≤ 32) (positive : 0 < length) :
    dstIp4Mask env length = BitVec.allOnes 32 >>> (32 - length) := by
  have count : (32 - (length : Int)).toNat = 32 - length := by omega
  rw [dstIp4Mask, if_pos (by omega), count]
  rfl

theorem and_eq_and_iff (address other mask : BitVec 32) :
    address &&& mask = other &&& mask ↔
      ∀ bit, mask.getLsbD bit = true → address.getLsbD bit = other.getLsbD bit := by
  constructor
  · intro same bit inMask
    have here := congrArg (fun value => value.getLsbD bit) same
    simpa [inMask] using here
  · intro agree
    refine BitVec.eq_of_getLsbD_eq fun bit _ => ?_
    rw [BitVec.getLsbD_and, BitVec.getLsbD_and]
    cases inMask : mask.getLsbD bit with
    | false => simp
    | true => simp [agree bit inMask]

theorem matches_iff {length : Nat} (bound : length ≤ 32) (positive : 0 < length) (group : Nat)
    (output : OutputPort) (address destination : InAddr) :
    (routeFlow env group output address length).data.matches destination ↔
      ∀ bit, bit < length → destination.getLsbD bit = address.getLsbD bit := by
  rw [L3UnicastFlow.matches]
  simp only [routeFlow]
  rw [dstIp4Mask_eq bound positive, and_eq_and_iff]
  refine forall_congr' fun bit => ?_
  rw [BitVec.getLsbD_ushiftRight, BitVec.getLsbD_allOnes, decide_eq_true_iff]
  have same : 32 - length + bit < 32 ↔ bit < length := by omega
  rw [same]

theorem matches_octets {length : Nat} (bound : length ≤ 32) (positive : 0 < length)
    (octets : 8 ∣ length) (group : Nat) (output : OutputPort) (address destination : InAddr) :
    (routeFlow env group output address length).data.matches destination ↔
      LeadingBitsAgree length address destination := by
  rw [matches_iff bound positive]
  constructor
  · intro low index inside
    exact (low _ (networkBit_lt octets inside)).symm
  · intro leading bit inside
    have here := leading (networkBit bit) (networkBit_lt octets inside)
    rw [networkBit_involutive] at here
    exact here.symm

/-- A prefix that ends within an octet is compared in the wrong bits of that octet. -/
theorem matches_partial_octet {length : Nat} (bound : length ≤ 32) (within : ¬ 8 ∣ length)
    (group : Nat) (output : OutputPort) :
    ∃ address destination, LeadingBitsAgree length address destination ∧
      ¬ (routeFlow env group output address length).data.matches destination := by
  refine ⟨0#32, BitVec.twoPow 32 (length / 8 * 8), ?_, ?_⟩
  · intro index inside
    have elsewhere : length / 8 * 8 ≠ networkBit index := by
      simp only [networkBit]
      omega
    rw [BitVec.getLsbD_zero, BitVec.getLsbD_twoPow, decide_eq_false elsewhere, Bool.and_false]
  · rw [matches_iff bound (by omega)]
    intro low
    have here := low (length / 8 * 8) (by omega)
    have inside : length / 8 * 8 < 32 := by omega
    rw [BitVec.getLsbD_zero, BitVec.getLsbD_twoPow, decide_eq_true inside, decide_eq_true rfl] at here
    cases here

theorem prefixLen_iff {length : Nat} (bound : length ≤ 32) (positive : 0 < length) :
    opsFpaIp4maskToPrefixLen (dstIp4Mask env length) = length ↔ 8 ∣ length := by
  rw [dstIp4Mask_eq bound positive]
  revert length
  decide

/-- The entry that `ops_fpa_route_add_route` and `ops_fpa_route_add_route_trap` build is right
exactly for the prefixes of one, two, three or four octets. -/
theorem route_entry_exact_iff (env : Env) (group : Nat) (output : OutputPort) (address : InAddr)
    (length : Nat) (bound : length ≤ 32) (destination : InAddr) :
    ((routeFlow env group output address length).data.matches destination ↔
        LeadingBitsAgree length address destination) ∧
      ShiftDefined length ∧
      opsFpaIp4maskToPrefixLen (routeFlow env group output address length).data.dstIp4Mask = length ↔
    0 < length ∧ 8 ∣ length := by
  rw [shiftDefined_iff bound]
  constructor
  · rintro ⟨_, positive, isLength⟩
    exact ⟨positive, (prefixLen_iff bound positive).mp isLength⟩
  · rintro ⟨positive, octets⟩
    exact ⟨matches_octets bound positive octets group output address destination, positive,
      (prefixLen_iff bound positive).mpr octets⟩

theorem route_entry_exact_at_16 :
    ((routeFlow idealEnv 1 .none 0x0000010a#32 16).data.matches 0x0203010a#32 ↔
      LeadingBitsAgree 16 0x0000010a#32 0x0203010a#32) ∧ ShiftDefined 16 ∧
      opsFpaIp4maskToPrefixLen (routeFlow idealEnv 1 .none 0x0000010a#32 16).data.dstIp4Mask = 16 :=
  (route_entry_exact_iff idealEnv 1 .none 0x0000010a#32 16 (by decide) 0x0203010a#32).mpr (by decide)

/-- The entry of 10.1.16.0/20 matches 10.1.32.0 and is listed with 24 bits, and no shift gives
the mask of a default route. -/
theorem route_entry_wrong_at_20 :
    (routeFlow idealEnv 1 .none 0x0010010a#32 20).data.matches 0x0020010a#32 ∧
      ¬ LeadingBitsAgree 20 0x0010010a#32 0x0020010a#32 ∧
      opsFpaIp4maskToPrefixLen (routeFlow idealEnv 1 .none 0x0010010a#32 20).data.dstIp4Mask = 24 ∧
      ¬ ShiftDefined 0 := by
  refine ⟨by decide, fun agree => ?_, by decide, fun defined => ?_⟩
  · exact absurd (agree 18 (by decide)) (by decide)
  · have count := defined.2
    omega

end FpaPlugin
