import FpaPlugin.Lib.Hmap

/-! The switch as the plugin sees it through the FPA library: flow tables whose
entries carry a cookie, and a group table keyed by group identifier. The library
itself is not part of the plugin; its verdict on every call is a parameter. -/

namespace FpaPlugin

abbrev EthAddr := BitVec 48

abbrev InAddr := BitVec 32

abbrev CString := List Char

instance CString.lawfulBEq : LawfulBEq CString := inferInstanceAs (LawfulBEq (List Char))

inductive Status
  | ok
  | fail
  deriving DecidableEq, Repr

inductive FlowTableType
  | controlPkt
  | vlan
  | termination
  | l2Bridging
  | l3Unicast
  deriving DecidableEq, Repr

inductive VlanIdMask
  | tag
  | untag
  deriving DecidableEq, Repr

inductive ControlPktType
  | arpRequestMessages
  | udpBroadcastCtrl
  deriving DecidableEq, Repr

inductive OutputPort
  | none
  | controller
  deriving DecidableEq, Repr

/-- `none` in a tag field is `FPA_FLOW_VLAN_IGNORE_VAL`. -/
structure VlanFlow where
  inPort : Nat
  vlanId : Nat
  vlanIdMask : VlanIdMask
  newTagVid : Option Nat
  newTagPcp : Option Nat
  deriving DecidableEq, Repr

structure ControlPktFlow where
  entryType : ControlPktType
  dstMac : EthAddr
  vlanId : Nat
  etherType : Nat
  ipProtocol : Option Nat
  dstL4Port : Option Nat
  outputPort : OutputPort
  deriving DecidableEq, Repr

structure TerminationFlow where
  etherType : Nat
  vlanId : Nat
  destMac : EthAddr
  mac2me : Bool
  deriving DecidableEq, Repr

structure L2BridgingFlow where
  vlanId : Nat
  destMac : EthAddr
  groupId : Nat
  outputPort : OutputPort
  deriving DecidableEq, Repr

structure L3UnicastFlow where
  groupId : Nat
  etherType : Nat
  outputPort : OutputPort
  dstIp4 : InAddr
  dstIp4Mask : BitVec 32
  deriving DecidableEq, Repr

abbrev FlowData : FlowTableType → Type
  | .controlPkt => ControlPktFlow
  | .vlan => VlanFlow
  | .termination => TerminationFlow
  | .l2Bridging => L2BridgingFlow
  | .l3Unicast => L3UnicastFlow

structure FlowEntry (table : FlowTableType) where
  cookie : Nat
  data : FlowData table

structure L3UnicastBucket where
  dstMac : EthAddr
  srcMac : EthAddr
  vlanId : Nat
  mtu : Nat
  refGroupId : Nat
  deriving DecidableEq, Repr

inductive Bucket
  | l2Interface (outputPort : Nat) (popVlanTagAction : Bool)
  | l3Unicast (data : L3UnicastBucket)
  deriving DecidableEq, Repr

structure Group where
  groupIdentifier : Nat
  bucket : Option Bucket
  deriving DecidableEq, Repr

structure Asic where
  flows : (table : FlowTableType) → List (FlowEntry table)
  groups : List Group

inductive GroupIdent
  | l2Interface (portNum vlanId : Nat)
  | l3Unicast (index : Nat)

def GroupIdent.Fits : GroupIdent → Prop
  | .l2Interface portNum vlanId => portNum < 2 ^ 16 ∧ vlanId < 2 ^ 12
  | .l3Unicast index => index < 2 ^ 28

instance GroupIdent.Fits.decidable : ∀ ident : GroupIdent, Decidable ident.Fits
  | .l2Interface portNum vlanId => inferInstanceAs (Decidable (portNum < 2 ^ 16 ∧ vlanId < 2 ^ 12))
  | .l3Unicast index => inferInstanceAs (Decidable (index < 2 ^ 28))

/-- Port in bits 0-15 and VLAN in bits 16-27 of an L2-interface group, the index below the type
bits of an L3-unicast group. -/
def GroupIdent.identifier : GroupIdent → Nat
  | .l2Interface portNum vlanId => vlanId <<< 16 ||| portNum
  | .l3Unicast index => 2 <<< 28 ||| index

/-- Assumed of `fpaLibGroupIdentifierBuild`: it refuses, or builds this identifier. -/
structure GroupIdentBuild where
  build : GroupIdent → Option Nat
  fits : ∀ ident group, build ident = some group → ident.Fits
  layout : ∀ ident group, build ident = some group → group = ident.identifier

inductive FpaCall
  | flowEntryInit (table : FlowTableType)
  | flowEntryAdd (table : FlowTableType) (entry : FlowEntry table)
  | flowTableCookieDelete (table : FlowTableType) (cookie : Nat)
  | groupTableEntryAdd (groupIdentifier : Nat)
  | groupTableEntryDelete (groupIdentifier : Nat)
  | groupEntryBucketAdd (groupIdentifier : Nat) (bucket : Bucket)

namespace Asic

def hasGroup (asic : Asic) (groupIdentifier : Nat) : Bool :=
  asic.groups.any fun group => group.groupIdentifier = groupIdentifier

def bucketOf (asic : Asic) (groupIdentifier : Nat) : Option Bucket :=
  (asic.groups.find? fun group => group.groupIdentifier = groupIdentifier).bind Group.bucket

/-- Assumed of the tables: flows stay in the order they came until they are deleted by their cookie,
a group that exists is not replaced, and a bucket fills the group it is added to. -/
def apply (asic : Asic) : FpaCall → Asic
  | .flowEntryInit _ => asic
  | .flowEntryAdd table entry =>
      { asic with flows := Function.update asic.flows table (asic.flows table ++ [entry]) }
  | .flowTableCookieDelete table cookie =>
      { asic with
        flows := Function.update asic.flows table
          ((asic.flows table).filter fun entry => entry.cookie ≠ cookie) }
  | .groupTableEntryAdd groupIdentifier =>
      if asic.hasGroup groupIdentifier then asic
      else { asic with groups := asic.groups ++ [⟨groupIdentifier, none⟩] }
  | .groupTableEntryDelete groupIdentifier =>
      { asic with
        groups := asic.groups.filter fun group => group.groupIdentifier ≠ groupIdentifier }
  | .groupEntryBucketAdd groupIdentifier bucket =>
      { asic with
        groups := asic.groups.map fun group =>
          if group.groupIdentifier = groupIdentifier then { group with bucket := some bucket }
          else group }

end Asic

/-- What the plugin calls but does not contain: the FPA library's verdicts and
read-back, the Open vSwitch hash functions and parsers, and the value the machine
delivers where C leaves a shift undefined. -/
structure Env where
  verdict : List (FpaCall × Status) → FpaCall → Asic → Status
  readback : List (FpaCall × Status) → Asic → Asic
  groupIdent : GroupIdentBuild
  popOfL3Unicast : L3UnicastBucket → Bool
  undefinedShift : BitVec 32 → Int → BitVec 32
  growth : HmapGrowth
  hashPointer : Nat → Nat
  hashString : CString → Nat
  hashIpv4 : InAddr → Nat
  hashFdb : Nat → EthAddr → Nat
  ethAddrFromString : CString → Option EthAddr
  bufferSize : Nat

/-- The tables, and every call made so far with its verdict, most recent first. -/
structure Fpa where
  asic : Asic
  calls : List (FpaCall × Status)

def Fpa.issue (env : Env) (fpa : Fpa) (call : FpaCall) : Status × Fpa :=
  let status := env.verdict fpa.calls call fpa.asic
  (status,
    { asic := if status = .ok then fpa.asic.apply call else fpa.asic
      calls := (call, status) :: fpa.calls })

def Fpa.read (env : Env) (fpa : Fpa) : Asic := env.readback fpa.calls fpa.asic

def fpaLibGroupIdentifierBuild (env : Env) (ident : GroupIdent) : Option Nat :=
  env.groupIdent.build ident

namespace Env

def BuildsIdents (env : Env) : Prop :=
  ∀ ident : GroupIdent, ident.Fits → env.groupIdent.build ident = some ident.identifier

structure AllSucceed (env : Env) : Prop where
  calls : ∀ calls call asic, env.verdict calls call asic = .ok
  builds : env.BuildsIdents

def ReadsBack (env : Env) : Prop := ∀ calls asic, env.readback calls asic = asic

end Env

def fullGroupIdents : GroupIdentBuild where
  build := fun ident => if ident.Fits then some ident.identifier else none
  fits := by
    intro ident group built
    split_ifs at built with fits
    exact fits
  layout := by
    intro ident group built
    split_ifs at built
    exact (Option.some.inj built).symm

section Build

variable {env : Env} {ident : GroupIdent} {group : Nat}

theorem groupIdent_fits (built : fpaLibGroupIdentifierBuild env ident = some group) : ident.Fits :=
  env.groupIdent.fits ident group built

theorem groupIdent_eq (built : fpaLibGroupIdentifierBuild env ident = some group) :
    group = ident.identifier :=
  env.groupIdent.layout ident group built

end Build

theorem Fpa.issue_ok {env : Env} (succeeds : env.AllSucceed) (fpa : Fpa) (call : FpaCall) :
    fpa.issue env call = (.ok, ⟨fpa.asic.apply call, (call, .ok) :: fpa.calls⟩) := by
  simp [Fpa.issue, succeeds.calls fpa.calls call fpa.asic]

namespace Asic

@[simp] theorem groups_flowEntryInit (asic : Asic) (table : FlowTableType) :
    asic.apply (.flowEntryInit table) = asic := rfl

@[simp] theorem groups_flowEntryAdd (asic : Asic) (table : FlowTableType)
    (entry : FlowEntry table) : (asic.apply (.flowEntryAdd table entry)).groups = asic.groups := rfl

@[simp] theorem groups_cookieDelete (asic : Asic) (table : FlowTableType) (cookie : Nat) :
    (asic.apply (.flowTableCookieDelete table cookie)).groups = asic.groups := rfl

@[simp] theorem flows_groupTableEntryAdd (asic : Asic) (gid : Nat) :
    (asic.apply (.groupTableEntryAdd gid)).flows = asic.flows := by
  simp only [apply]
  split <;> rfl

@[simp] theorem flows_groupTableEntryDelete (asic : Asic) (gid : Nat) :
    (asic.apply (.groupTableEntryDelete gid)).flows = asic.flows := rfl

@[simp] theorem flows_groupEntryBucketAdd (asic : Asic) (gid : Nat) (bucket : Bucket) :
    (asic.apply (.groupEntryBucketAdd gid bucket)).flows = asic.flows := rfl

theorem flows_flowEntryAdd (asic : Asic) (table : FlowTableType) (entry : FlowEntry table) :
    (asic.apply (.flowEntryAdd table entry)).flows table = asic.flows table ++ [entry] := by
  simp [apply]

theorem flows_flowEntryAdd_ne (asic : Asic) {table other : FlowTableType}
    (entry : FlowEntry table) (different : other ≠ table) :
    (asic.apply (.flowEntryAdd table entry)).flows other = asic.flows other := by
  simp [apply, Function.update_of_ne different]

theorem flows_cookieDelete (asic : Asic) (table : FlowTableType) (cookie : Nat) :
    (asic.apply (.flowTableCookieDelete table cookie)).flows table =
      (asic.flows table).filter fun entry => entry.cookie ≠ cookie := by
  simp [apply]

theorem flows_cookieDelete_ne (asic : Asic) {table other : FlowTableType} (cookie : Nat)
    (different : other ≠ table) :
    (asic.apply (.flowTableCookieDelete table cookie)).flows other = asic.flows other := by
  simp [apply, Function.update_of_ne different]

theorem hasGroup_iff {asic : Asic} {gid : Nat} :
    asic.hasGroup gid = true ↔ ∃ group ∈ asic.groups, group.groupIdentifier = gid := by
  simp [hasGroup]

theorem hasGroup_congr {asic other : Asic} (same : other.groups = asic.groups) (gid : Nat) :
    other.hasGroup gid = asic.hasGroup gid := by
  rw [hasGroup, hasGroup, same]

theorem bucketOf_congr {asic other : Asic} (same : other.groups = asic.groups) (gid : Nat) :
    other.bucketOf gid = asic.bucketOf gid := by
  rw [bucketOf, bucketOf, same]

@[simp] theorem hasGroup_groupTableEntryAdd (asic : Asic) (added gid : Nat) :
    (asic.apply (.groupTableEntryAdd added)).hasGroup gid = (gid == added || asic.hasGroup gid) := by
  by_cases present : asic.hasGroup added
  · by_cases same : gid = added
    · subst same
      simp [apply, present]
    · simp [apply, present, same]
  · have grown : (asic.apply (.groupTableEntryAdd added)).groups = asic.groups ++ [⟨added, none⟩] := by
      simp [apply, present]
    rw [hasGroup, grown, List.any_append]
    by_cases same : gid = added
    · simp [same]
    · simp [hasGroup, same, Ne.symm same]

@[simp] theorem hasGroup_groupTableEntryDelete (asic : Asic) (deleted gid : Nat) :
    (asic.apply (.groupTableEntryDelete deleted)).hasGroup gid =
      (gid != deleted && asic.hasGroup gid) := by
  rw [Bool.eq_iff_iff, hasGroup_iff, Bool.and_eq_true, hasGroup_iff, bne_iff_ne]
  simp only [apply, List.mem_filter, ne_eq, decide_not, Bool.not_eq_true', decide_eq_false_iff_not]
  constructor
  · rintro ⟨group, ⟨member, kept⟩, same⟩
    exact ⟨same ▸ kept, group, member, same⟩
  · rintro ⟨kept, group, member, same⟩
    exact ⟨group, ⟨member, same ▸ kept⟩, same⟩

@[simp] theorem hasGroup_groupEntryBucketAdd (asic : Asic) (gid other : Nat) (bucket : Bucket) :
    (asic.apply (.groupEntryBucketAdd gid bucket)).hasGroup other = asic.hasGroup other := by
  rw [Bool.eq_iff_iff, hasGroup_iff, hasGroup_iff]
  simp only [apply, List.mem_map]
  constructor
  · rintro ⟨group, ⟨old, member, updated⟩, same⟩
    refine ⟨old, member, ?_⟩
    rw [← same, ← updated]
    split <;> rfl
  · rintro ⟨old, member, same⟩
    refine ⟨_, ⟨old, member, rfl⟩, ?_⟩
    split <;> exact same

end Asic

end FpaPlugin
