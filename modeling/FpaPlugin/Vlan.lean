import FpaPlugin.Lib.Bitmap
import FpaPlugin.Route

/-! `ops-fpa-vlan.c` and `ops-fpa-vlan.h`: the VIDX encoding of port VLAN
membership, the map between VIDX bitmaps and the hardware tables, and the global
map of internal VLANs. -/

namespace FpaPlugin

def vmapBits : Nat := 1 <<< 14

def vlanBitmapSize : Nat := 4096

def vidxIngress (vid : Nat) (tagged : Bool) : Nat := 0 <<< 13 ||| tagged.toNat <<< 12 ||| vid

def vidxEgress (vid : Nat) (popTag : Bool) : Nat := 1 <<< 13 ||| popTag.toNat <<< 12 ||| vid

def vidxVid (vidx : Nat) : Nat := vidx &&& (1 <<< 12 - 1)

def vidxIsEgress (vidx : Nat) : Bool := vidx &&& 1 <<< 13 != 0

/-- `OPS_FPA_VIDX_ARG`: match tagged on ingress, pop the tag on egress. -/
def vidxArg (vidx : Nat) : Bool := vidx &&& 1 <<< 12 != 0

/-- `OPS_FPA_VLAN_COOKIE`: an `int` operand is sign-extended to 64 bits. -/
def opsFpaVlanCookie (pid : Int) (vid : Nat) (tagged : Bool) : Nat :=
  if tagged then vid <<< 32 ||| (pid % 2 ^ 64).toNat else (pid % 2 ^ 64).toNat

def opsFpaGidVlan (groupIdentifier : Nat) : Nat := (groupIdentifier &&& 0x0FFF0000) >>> 16

def opsFpaGidPort (groupIdentifier : Nat) : Nat := groupIdentifier &&& 0x0000FFFF

/-- The hardware below the ofproto layer. `members` observes, per port number, the VIDX
that `ops_fpa_vlan_add` installed and `ops_fpa_vlan_del` has not removed; no
function reads it. -/
structure Hw where
  fpa : Fpa
  internalVlans : Bitmap
  members : Nat → Bitmap

def popVlanTagAction (env : Env) : Bucket → Bool
  | .l2Interface _ pop => pop
  | .l3Unicast data => env.popOfL3Unicast data

def fetchFlow (pid : Int) (vmap : Bitmap) (flow : FlowEntry .vlan) : Bitmap :=
  if portNum pid = flow.data.inPort then
    vmap.set1 (vidxIngress flow.data.vlanId (flow.data.vlanIdMask = .tag))
  else vmap

def fetchGroup (env : Env) (pid : Int) (vmap : Bitmap) (group : Group) : Bitmap :=
  if portNum pid = opsFpaGidPort group.groupIdentifier then
    match group.bucket with
    | none => vmap
    | some bucket =>
        vmap.set1 (vidxEgress (opsFpaGidVlan group.groupIdentifier) (popVlanTagAction env bucket))
  else vmap

def opsFpaVlanFetch (env : Env) (fpa : Fpa) (pid : Int) : Bitmap :=
  let asic := fpa.read env
  asic.groups.foldl (fetchGroup env pid) ((asic.flows .vlan).foldl (fetchFlow pid) Bitmap.zero)

def vlanFlow (pid : Int) (vid : Nat) (tagged : Bool) : FlowEntry .vlan where
  cookie := opsFpaVlanCookie pid vid tagged
  data :=
    { inPort := portNum pid
      vlanId := vid
      vlanIdMask := if tagged then .tag else .untag
      newTagVid := if tagged then none else some vid
      newTagPcp := none }

def Hw.observe (hw : Hw) (pid : Int) (vidx : Nat) (installed : Bool) : Status → Hw
  | .ok =>
      { hw with
        members := Function.update hw.members (portNum pid)
          ((hw.members (portNum pid)).set vidx installed) }
  | .fail => hw

def opsFpaVlanAdd (env : Env) (hw : Hw) (pid : Int) (vidx : Nat) : Status × Hw :=
  let vid := vidxVid vidx
  if vidxIsEgress vidx then
    match opsFpaRouteAddL2Group env hw.fpa pid vid (vidxArg vidx) with
    | (none, fpa) => (.fail, { hw with fpa := fpa })
    | (some _, fpa) => (.ok, { hw with fpa := fpa }.observe pid vidx true .ok)
  else
    let (status, fpa) :=
      hw.fpa.issue env (.flowEntryAdd .vlan (vlanFlow pid vid (vidxArg vidx)))
    (status, { hw with fpa := fpa }.observe pid vidx true status)

def opsFpaVlanDel (env : Env) (hw : Hw) (pid : Int) (vidx : Nat) : Status × Hw :=
  let vid := vidxVid vidx
  if vidxIsEgress vidx then
    -- the result of the build is ignored and `gid` stays unset when it fails
    match fpaLibGroupIdentifierBuild env (.l2Interface (portNum pid) vid) with
    | none => (.fail, hw)
    | some gid =>
        let (status, fpa) := hw.fpa.issue env (.groupTableEntryDelete gid)
        (status, { hw with fpa := fpa }.observe pid vidx false status)
  else
    let (status, fpa) := hw.fpa.issue env
      (.flowTableCookieDelete .vlan (opsFpaVlanCookie pid vid (vidxArg vidx)))
    (status, { hw with fpa := fpa }.observe pid vidx false status)

def opsFpaVlanInternal (hw : Hw) (vid : Nat) : Bool := hw.internalVlans vid

def opsFpaVlanAddInternal (env : Env) (hw : Hw) (pid : Int) (vid : Nat) : Status × Hw :=
  match opsFpaVlanAdd env hw pid (vidxIngress vid false) with
  | (.fail, hw) => (.fail, hw)
  | (.ok, hw) =>
      match opsFpaVlanAdd env hw pid (vidxEgress vid false) with
      | (.fail, hw) => (.fail, (opsFpaVlanDel env hw pid (vidxIngress vid false)).2)
      | (.ok, hw) =>
          -- both entries stay behind when the VLAN turns out to be internal already
          if opsFpaVlanInternal hw vid then (.fail, hw)
          else (.ok, { hw with internalVlans := hw.internalVlans.set1 vid })

/-- `ops_fpa_vlan_add_internal` gets as far as `internal_vlans` with an id that has no bit there. -/
def overrunsInternalVlans (env : Env) (hw : Hw) (pid : Int) (vid : Nat) : Bool :=
  vlanBitmapSize ≤ vid &&
    match opsFpaVlanAdd env hw pid (vidxIngress vid false) with
    | (.fail, _) => false
    | (.ok, hw) => (opsFpaVlanAdd env hw pid (vidxEgress vid false)).1 = .ok

def opsFpaVlanDelInternal (env : Env) (hw : Hw) (pid : Int) (vid : Nat) : Status × Hw :=
  let (ingress, hw) := opsFpaVlanDel env hw pid (vidxIngress vid false)
  let (egress, hw) := opsFpaVlanDel env hw pid (vidxEgress vid false)
  let known := opsFpaVlanInternal hw vid
  (if ingress = .ok ∧ egress = .ok ∧ known then .ok else .fail,
    { hw with internalVlans := hw.internalVlans.set0 vid })

end FpaPlugin
