import FpaPlugin.Fpa

/-! `ops-fpa-route.c`: L2-interface and L3-unicast groups, and the flows of the
unicast routing table. -/

namespace FpaPlugin

def portNum (pid : Int) : Nat := (pid % 2 ^ 32).toNat

def opsFpaRouteIpv4Cookie (ipv4 : InAddr) (maskLen : Int) : Nat :=
  ipv4.toNat <<< 8 ||| (maskLen % 256).toNat

def dstIp4Mask (env : Env) (maskLen : Int) : BitVec 32 :=
  let shift := 32 - maskLen
  if 0 ≤ shift ∧ shift < 32 then 0xffffffff#32 >>> shift.toNat
  else env.undefinedShift 0xffffffff#32 shift

/-- The group identifier on success, `none` where the source returns 1. -/
def opsFpaRouteAddL2Group (env : Env) (fpa : Fpa) (pid : Int) (vid : Nat) (popTag : Bool) :
    Option Nat × Fpa :=
  match fpaLibGroupIdentifierBuild env (.l2Interface (portNum pid) vid) with
  | none => (none, fpa)
  | some group =>
      match fpa.issue env (.groupTableEntryAdd group) with
      | (.fail, fpa) => (none, fpa)
      | (.ok, fpa) =>
          match fpa.issue env (.groupEntryBucketAdd group (.l2Interface (portNum pid) popTag)) with
          | (.ok, fpa) => (some group, fpa)
          | (.fail, fpa) => (none, (fpa.issue env (.groupTableEntryDelete group)).2)

def opsFpaRouteAddL3Group (env : Env) (fpa : Fpa) (l2Group arpIndex vid mtu : Nat)
    (srcMac dstMac : EthAddr) : Option Nat × Fpa :=
  match fpaLibGroupIdentifierBuild env (.l3Unicast arpIndex) with
  | none => (none, fpa)
  | some l3Group =>
      -- an entry that exists already is refused before anything is written
      if (fpa.read env).hasGroup l3Group then (none, fpa)
      else
        match fpa.issue env (.groupTableEntryAdd l3Group) with
        | (.fail, fpa) => (none, fpa)
        | (.ok, fpa) =>
            match fpa.issue env (.groupEntryBucketAdd l3Group
              (.l3Unicast ⟨dstMac, srcMac, vid, mtu, l2Group⟩)) with
            | (.ok, fpa) => (some l3Group, fpa)
            | (.fail, fpa) => (none, (fpa.issue env (.groupTableEntryDelete l3Group)).2)

def routeFlow (env : Env) (group : Nat) (output : OutputPort) (ipv4 : InAddr) (maskLen : Int) :
    FlowEntry .l3Unicast where
  cookie := opsFpaRouteIpv4Cookie ipv4 maskLen
  data := ⟨group, 0x800, output, ipv4, dstIp4Mask env maskLen⟩

def addRouteFlow (env : Env) (fpa : Fpa) (flow : FlowEntry .l3Unicast) : Status × Fpa :=
  match fpa.issue env (.flowEntryInit .l3Unicast) with
  | (.fail, fpa) => (.fail, fpa)
  | (.ok, fpa) => fpa.issue env (.flowEntryAdd .l3Unicast flow)

def opsFpaRouteAddRoute (env : Env) (fpa : Fpa) (l3Group : Nat) (ipv4 : InAddr) (maskLen : Int) :
    Status × Fpa :=
  addRouteFlow env fpa (routeFlow env l3Group .none ipv4 maskLen)

def opsFpaRouteAddRouteTrap (env : Env) (fpa : Fpa) (ipv4 : InAddr) (maskLen : Int) :
    Status × Fpa :=
  addRouteFlow env fpa (routeFlow env 0xffffffff .controller ipv4 maskLen)

def opsFpaRouteDelRoute (env : Env) (fpa : Fpa) (ipv4 : InAddr) (maskLen : Int) : Status × Fpa :=
  fpa.issue env (.flowTableCookieDelete .l3Unicast (opsFpaRouteIpv4Cookie ipv4 maskLen))

def opsFpaRouteDelGroup (env : Env) (fpa : Fpa) (group : Nat) : Status × Fpa :=
  fpa.issue env (.groupTableEntryDelete group)

end FpaPlugin
