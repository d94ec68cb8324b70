import FpaPlugin.Dev
import FpaPlugin.Ofproto
import Mathlib.Data.Finset.Insert

/-! `protos` of `ops-fpa-ofproto.c`, the registry of the ofprotos, with what the ofproto
library does around construction and destruction. The node of an ofproto is part of its
memory; a run is not followed past a read of freed memory or a second link of one node. -/

namespace FpaPlugin

structure ProtoTexts where
  name : CString
  type : CString
  deriving DecidableEq, Repr

inductive ProtoFault
  | inUse
  | freedNode
  | linkedTwice
  | notLinked
  | dev (fault : DevFault)
  deriving DecidableEq, Repr

structure ProtoSys where
  protos : Hmap OfprotoRef
  memory : OfprotoRef → Option ProtoTexts
  devs : DevSys

def ProtoSys.readable (s : ProtoSys) (ref : OfprotoRef) : Bool := (s.memory ref).isSome

/-- The allocator hands out memory that is not in use; the library then fills in the texts. -/
def opsFpaOfprotoAlloc (s : ProtoSys) (ref : OfprotoRef) (texts : ProtoTexts) :
    Except ProtoFault ProtoSys :=
  match s.memory ref with
  | some _ => .error .inUse
  | none => .ok { s with memory := Function.update s.memory ref (some texts) }

def opsFpaOfprotoDealloc (s : ProtoSys) (ref : OfprotoRef) : ProtoSys :=
  { s with memory := Function.update s.memory ref none }

section Registry

variable (env : Env)

/-- `hmap_insert`. The chains are only walked when the map grows. -/
def linkProto (s : ProtoSys) (ref : OfprotoRef) (texts : ProtoTexts) :
    Except ProtoFault ProtoSys :=
  if ref ∈ s.protos.values then .error .linkedTwice
  else if s.protos.mask < (s.protos.count + 1) / 2 && !s.protos.values.all s.readable then
    .error .freedNode
  else .ok { s with protos := s.protos.insert env.growth (env.hashString texts.name) ref }

/-- `hmap_remove`. A node keeps the hash of its link, as no one changes the name. -/
def unlinkProto (s : ProtoSys) (ref : OfprotoRef) (texts : ProtoTexts) :
    Except ProtoFault ProtoSys :=
  let chain := s.protos.inBucket (env.hashString texts.name)
  if !(chain.takeWhile (· ≠ ref)).all s.readable then .error .freedNode
  else if ref ∉ chain then .error .notLinked
  else .ok { s with protos := s.protos.remove (env.hashString texts.name) ref }

def enumerateNamesIn (s : ProtoSys) (type : CString) :
    List OfprotoRef → Finset CString → Except ProtoFault (Finset CString)
  | [], names => .ok names
  | ref :: rest, names =>
      match s.memory ref with
      | none => .error .freedNode
      | some texts =>
          enumerateNamesIn s type rest
            (if type = texts.type then insert texts.type names else names)

/-- It adds the type of an ofproto where its name is meant. -/
def opsFpaOfprotoEnumerateNames (s : ProtoSys) (type : CString) (names : Finset CString) :
    Except ProtoFault (Finset CString) :=
  enumerateNamesIn s type s.protos.values names

def lookupIn (s : ProtoSys) (name : CString) (hash : Nat) :
    List (Nat × OfprotoRef) → Except ProtoFault (Option OfprotoRef)
  | [] => .ok none
  | (nodeHash, ref) :: rest =>
      match s.memory ref with
      | none => .error .freedNode
      | some texts =>
          if nodeHash = hash ∧ texts.name = name then .ok (some ref)
          else lookupIn s name hash rest

def opsFpaOfprotoLookup (s : ProtoSys) (name : CString) : Except ProtoFault (Option OfprotoRef) :=
  lookupIn s name (env.hashString name)
    (s.protos.chain (env.hashString name &&& s.protos.mask))

variable (portName : Nat → Option PortName) (maxEntries : Nat)

/-- The node is linked before the device can fail, and no one unlinks it then. -/
def opsFpaOfprotoConstruct (s : ProtoSys) (ref : OfprotoRef) (texts : ProtoTexts)
    (outcome : InitOutcome) : Except ProtoFault (DevRc × ProtoSys) :=
  match linkProto env s ref texts with
  | .error fault => .error fault
  | .ok s =>
      match opsFpaDevInit env maxEntries s.devs outcome with
      | .error fault => .error (.dev fault)
      | .ok (rc, devs) => .ok (rc, { s with devs := devs })

def opsFpaOfprotoDestruct (s : ProtoSys) (ref : OfprotoRef) :
    Except ProtoFault (DevRc × ProtoSys) :=
  match s.memory ref with
  | none => .error .freedNode
  | some texts =>
      match unlinkProto env s ref texts with
      | .error fault => .error fault
      | .ok s =>
          match opsFpaDevDeinit env portName s.devs with
          | .error fault => .error (.dev fault)
          | .ok (rc, devs) => .ok (rc, { s with devs := devs })

/-- The library deallocates an ofproto whose construction failed and does not destruct it. -/
def ofprotoCreate (s : ProtoSys) (ref : OfprotoRef) (texts : ProtoTexts) (outcome : InitOutcome) :
    Except ProtoFault (DevRc × ProtoSys) :=
  match opsFpaOfprotoAlloc s ref texts with
  | .error fault => .error fault
  | .ok s =>
      match opsFpaOfprotoConstruct env maxEntries s ref texts outcome with
      | .error fault => .error fault
      | .ok (rc, s) => .ok (rc, if rc = .ok then s else opsFpaOfprotoDealloc s ref)

def ofprotoDestroy (s : ProtoSys) (ref : OfprotoRef) : Except ProtoFault (DevRc × ProtoSys) :=
  match opsFpaOfprotoDestruct env portName s ref with
  | .error fault => .error fault
  | .ok (rc, s) => .ok (rc, opsFpaOfprotoDealloc s ref)

inductive ProtoCall
  | create (ref : OfprotoRef) (texts : ProtoTexts) (outcome : InitOutcome)
  | destroy (ref : OfprotoRef)

def protoStep (s : ProtoSys) : ProtoCall → Except ProtoFault (DevRc × ProtoSys)
  | .create ref texts outcome => ofprotoCreate env maxEntries s ref texts outcome
  | .destroy ref => ofprotoDestroy env portName s ref

end Registry

abbrev ProtoEvent := Runs.Event ProtoSys ProtoCall DevRc

abbrev ProtoTrace := List ProtoEvent

abbrev ProtoRun (env : Env) (portName : Nat → Option PortName) (maxEntries : Nat)
    (start : ProtoSys) : ProtoTrace → ProtoSys → Prop :=
  Runs.Run (protoStep env portName maxEntries) start

theorem protoRun_of_check (env : Env) (portName : Nat → Option PortName) (maxEntries : Nat)
    (start : ProtoSys) (calls : List ProtoCall) (check : ProtoTrace → ProtoSys → Prop)
    [∀ trace state, Decidable (check trace state)]
    (passed : (Runs.replay (protoStep env portName maxEntries) [] start calls).any
      (fun result => check result.1 result.2) = true) :
    ∃ trace state, ProtoRun env portName maxEntries start trace state ∧ check trace state :=
  Runs.Run.of_check calls check passed

def noProtos : ProtoSys := ⟨Hmap.empty 0, fun _ => none, noDev⟩

end FpaPlugin
