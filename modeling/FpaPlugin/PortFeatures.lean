import FpaPlugin.Lib.BitTable
import FpaPlugin.Str

/-! The port features of `ops-fpa-netdev.c`: what a configuration asks for, and the translation
between the bits of the FPA library and those of Open vSwitch. The values of the bits are in
the headers of the two, so their positions are a parameter. -/

namespace FpaPlugin

open BitTable (mask)

/-- `FPA_PORT_FEAT_*`. -/
inductive PortFeature
  | mb10Hd
  | mb10Fd
  | mb100Hd
  | mb100Fd
  | gb1Hd
  | gb1Fd
  | gb2_5Fd
  | gb10Fd
  | gb20Fd
  | gb40Fd
  | gb100Fd
  | tb1Fd
  | other
  | copper
  | fiber
  | autoneg
  | pause
  | pauseAsym
  deriving DecidableEq, Repr

/-- `enum netdev_features`. -/
inductive NetdevFeature
  | mb10Hd
  | mb10Fd
  | mb100Hd
  | mb100Fd
  | gb1Hd
  | gb1Fd
  | gb10Fd
  | gb40Fd
  | gb100Fd
  | tb1Fd
  | other
  | copper
  | fiber
  | autoneg
  | pause
  | pauseAsym
  deriving DecidableEq, Repr

structure FeatureBits where
  fpa : PortFeature → Fin 32
  netdev : NetdevFeature → Fin 32
  fpa_injective : Function.Injective fpa
  netdev_injective : Function.Injective netdev

/-- The lines of `fpa_to_netdev_features` in their order, which is also that of
`netdev_to_fpa_features`. -/
def featureTable : List (PortFeature × NetdevFeature) :=
  [(.mb10Hd, .mb10Hd), (.mb10Fd, .mb10Fd), (.mb100Hd, .mb100Hd), (.mb100Fd, .mb100Fd),
    (.gb1Hd, .gb1Hd), (.gb1Fd, .gb1Fd), (.gb2_5Fd, .other), (.gb10Fd, .gb10Fd),
    (.gb20Fd, .other), (.gb40Fd, .gb40Fd), (.gb100Fd, .gb100Fd), (.tb1Fd, .tb1Fd),
    (.other, .other), (.copper, .copper), (.fiber, .fiber), (.autoneg, .autoneg),
    (.pause, .pause), (.pauseAsym, .pauseAsym)]

inductive PauseWord
  | rx
  | tx
  | rxtx
  | neither
  deriving DecidableEq, Repr

/-- The `hw_intf_config` of an interface. A word that is absent compares like any other that is
not the one looked for. -/
structure HwIntfConfig where
  enable : Bool
  duplexFull : Bool
  speeds : Option CString
  autonegOn : Bool
  pause : PauseWord

section Bits

variable (bits : FeatureBits)

def fpaToNetdevFeatures (f : BitVec 32) : BitVec 32 :=
  BitTable.translate featureTable bits.fpa bits.netdev f

def netdevToFpaFeatures (n : BitVec 32) : BitVec 32 :=
  BitTable.translate (featureTable.map Prod.swap) bits.netdev bits.fpa n

/-- A speed that cannot be read leaves the default. -/
def interfaceSpeed (args : HwIntfConfig) : Int := (args.speeds.bind opsFpaStr2int).getD 1000

def speedFeature (args : HwIntfConfig) : PortFeature :=
  match interfaceSpeed args with
  | 10 => if args.duplexFull then .mb10Fd else .mb10Hd
  | 100 => if args.duplexFull then .mb100Fd else .mb100Hd
  | 1000 => if args.duplexFull then .gb1Fd else .gb1Hd
  | 2500 => .gb2_5Fd
  | 10000 => .gb10Fd
  | 20000 => .gb20Fd
  | 40000 => .gb40Fd
  | 100000 => .gb100Fd
  | 1000000 => .tb1Fd
  | _ => if args.duplexFull then .gb1Fd else .gb1Hd

def getInterfaceSpeedFeatures (args : HwIntfConfig) : BitVec 32 :=
  mask bits.fpa (speedFeature args)

def getInterfaceAutonegFeatures (args : HwIntfConfig) : BitVec 32 :=
  if args.autonegOn then mask bits.fpa .autoneg else 0

def getInterfacePauseFeatures (args : HwIntfConfig) : BitVec 32 :=
  match args.pause with
  | .rx => mask bits.fpa .pause
  | .tx => mask bits.fpa .pauseAsym
  | .rxtx => mask bits.fpa .pause ||| mask bits.fpa .pauseAsym
  | .neither => 0

/-- The features that an enabled interface asks for, before the unsupported ones are dropped. -/
def requestedFeatures (args : HwIntfConfig) : BitVec 32 :=
  getInterfaceSpeedFeatures bits args ||| getInterfaceAutonegFeatures bits args |||
    getInterfacePauseFeatures bits args

def knownFpaFeatures : BitVec 32 := BitTable.union bits.fpa (featureTable.map Prod.fst)

def knownNetdevFeatures : BitVec 32 := BitTable.union bits.netdev (featureTable.map Prod.snd)

end Bits

def otherFeatures : List PortFeature := [.gb2_5Fd, .gb20Fd, .other]

theorem featureTable_functional :
    ∀ line ∈ featureTable, ∀ line' ∈ featureTable, line.1 = line'.1 → line.2 = line'.2 := by
  decide +kernel

theorem featureTable_shared :
    ∀ line ∈ featureTable, ∀ line' ∈ featureTable, line.2 = line'.2 →
      line.1 = line'.1 ∨ line.1 ∈ otherFeatures ∧ line'.1 ∈ otherFeatures := by
  decide +kernel

theorem otherFeatures_listed :
    ∀ feature ∈ otherFeatures, (feature, NetdevFeature.other) ∈ featureTable := by
  decide

section RoundTrips

variable (bits : FeatureBits)

theorem netdev_features_come_back (n : BitVec 32) :
    fpaToNetdevFeatures bits (netdevToFpaFeatures bits n) = n &&& knownNetdevFeatures bits := by
  refine BitTable.translate_back bits.fpa_injective bits.netdev_injective ?_ n
  intro a b b' listed alsoListed
  exact featureTable_functional (a, b) listed (a, b') alsoListed rfl

/-- What the FPA library says of a port survives the way through Open vSwitch exactly where the
features that are one feature there are all set or all unset. -/
theorem fpa_features_come_back_iff (f : BitVec 32) :
    netdevToFpaFeatures bits (fpaToNetdevFeatures bits f) = f &&& knownFpaFeatures bits ↔
      (∀ feature ∈ otherFeatures, f.getLsbD (bits.fpa feature) = true) ∨
      (∀ feature ∈ otherFeatures, f.getLsbD (bits.fpa feature) = false) := by
  refine (BitTable.translate_forth_iff bits.fpa_injective bits.netdev_injective f).trans ?_
  constructor
  · intro closed
    by_cases some : ∃ feature ∈ otherFeatures, f.getLsbD (bits.fpa feature) = true
    · obtain ⟨feature, isOther, isSet⟩ := some
      left
      intro feature' isOther'
      exact closed feature feature' .other (otherFeatures_listed feature isOther)
        (otherFeatures_listed feature' isOther') isSet
    · right
      intro feature isOther
      exact Bool.eq_false_iff.mpr fun isSet => some ⟨feature, isOther, isSet⟩
  · intro agree a a' b listed listed' isSet
    rcases featureTable_shared (a, b) listed (a', b) listed' rfl with same | ⟨isOther, isOther'⟩
    · obtain rfl : a = a' := same
      exact isSet
    · rcases agree with all | none
      · exact all a' isOther'
      · have unset := none a isOther
        rw [isSet] at unset
        cases unset

end RoundTrips

def speedFeatures : List PortFeature :=
  [.mb10Hd, .mb10Fd, .mb100Hd, .mb100Fd, .gb1Hd, .gb1Fd, .gb2_5Fd, .gb10Fd, .gb20Fd, .gb40Fd,
    .gb100Fd, .tb1Fd]

theorem requested_speed {bits : FeatureBits} {args : HwIntfConfig} {feature : PortFeature}
    (isSpeed : feature ∈ speedFeatures)
    (isSet : (requestedFeatures bits args).getLsbD (bits.fpa feature) = true) :
    feature = speedFeature args := by
  have apart : ∀ second : PortFeature, second ∉ speedFeatures →
      ¬(mask bits.fpa second).getLsbD (bits.fpa feature) = true := by
    intro second notSpeed isMask
    have same := bits.fpa_injective (Fin.ext (BitTable.getLsbD_mask.mp isMask))
    exact notSpeed (same ▸ isSpeed)
  rw [requestedFeatures, BitVec.getLsbD_or, BitVec.getLsbD_or, Bool.or_eq_true, Bool.or_eq_true]
    at isSet
  rcases isSet with (speed | autoneg) | pause
  · exact bits.fpa_injective (Fin.ext (BitTable.getLsbD_mask.mp speed))
  · rw [getInterfaceAutonegFeatures] at autoneg
    split at autoneg
    · exact (apart .autoneg (by decide) autoneg).elim
    · simp at autoneg
  · rw [getInterfacePauseFeatures] at pause
    split at pause
    · exact (apart .pause (by decide) pause).elim
    · exact (apart .pauseAsym (by decide) pause).elim
    · rw [BitVec.getLsbD_or, Bool.or_eq_true] at pause
      rcases pause with symmetric | asymmetric
      · exact (apart .pause (by decide) symmetric).elim
      · exact (apart .pauseAsym (by decide) asymmetric).elim
    · simp at pause

def orderedBits : FeatureBits where
  fpa feature := ⟨feature.ctorIdx, by cases feature <;> decide⟩
  netdev feature := ⟨feature.ctorIdx, by cases feature <;> decide⟩
  fpa_injective := by
    intro left right same
    rw [← PortFeature.ofNat_ctorIdx left, Fin.mk.inj same, PortFeature.ofNat_ctorIdx]
  netdev_injective := by
    intro left right same
    rw [← NetdevFeature.ofNat_ctorIdx left, Fin.mk.inj same, NetdevFeature.ofNat_ctorIdx]

end FpaPlugin
