import FpaPlugin.Lib.Runs
import FpaPlugin.BundleSet

/-! Routes, the lifetime of ports, and the whole plugin as a transition system: one
step is one call into the plugin, or one address message from the switch. -/

namespace FpaPlugin

inductive RouteFamily
  | ipv4
  | ipv6
  deriving DecidableEq, Repr

inductive RouteAction
  | add
  | delete
  | deleteNh
  deriving DecidableEq, Repr

structure RouteNexthop where
  resolved : Bool
  id : CString
  deriving DecidableEq, Repr

structure OfprotoRoute where
  family : RouteFamily
  ipPrefix : CString
  nexthops : List RouteNexthop
  deriving DecidableEq, Repr

def replaceRoute (env : Env) (s : Sys) (ipv4 : InAddr) (maskLen : Int)
    (add : Fpa → Status × Fpa) : Rc × Sys :=
  let fpa := (opsFpaRouteDelRoute env s.hw.fpa ipv4 maskLen).2
  match add fpa with
  | (.ok, fpa) => (.ok, { s with hw := { s.hw with fpa } })
  | (.fail, fpa) => (.einval, { s with hw := { s.hw with fpa } })

def addRoute (env : Env) (s : Sys) (ipv4 : InAddr) (maskLen : Int) (nexthop : RouteNexthop) :
    Rc × Sys :=
  if nexthop.resolved then
    match opsFpaStr2ip nexthop.id with
    | none => (.einval, s)
    | some (hostIpv4, _) =>
        match hostTableFind env s.hostTable hostIpv4 with
        | none => (.einval, s)
        | some host =>
            replaceRoute env s ipv4 maskLen fun fpa =>
              opsFpaRouteAddRoute env fpa host.l3Group ipv4 maskLen
  else
    replaceRoute env s ipv4 maskLen fun fpa => opsFpaRouteAddRouteTrap env fpa ipv4 maskLen

def l3RouteAction (env : Env) (s : Sys) (action : RouteAction) (route : OfprotoRoute) : Rc × Sys :=
  match route.family with
  | .ipv6 => (.einval, s)
  | .ipv4 =>
      match opsFpaStr2ip route.ipPrefix with
      | none => (.einval, s)
      | some (ipv4, maskLen) =>
          match action with
          | .add =>
              match route.nexthops with
              | [nexthop] => addRoute env s ipv4 maskLen nexthop
              | _ => (.einval, s)
          | .delete =>
              (.ok, { s with
                hw := { s.hw with fpa := (opsFpaRouteDelRoute env s.hw.fpa ipv4 maskLen).2 } })
          | .deleteNh => (.einval, s)

/-- The ofproto layer allocates the port, constructs it and files it by number. -/
def opsFpaOfprotoPortConstruct (s : Sys) (up : OfprotoRef) (ofpPort : Nat) (ref : OfportRef)
    (netdev : Netdev) (mtu : Nat) : Sys :=
  { s with
    ofports := Function.update s.ofports ref (some { ofpPort, netdev, mtu, vmap := Bitmap.zero })
    ofprotos := Function.update s.ofprotos up
      { s.ofprotos up with ports := Function.update (s.ofprotos up).ports ofpPort (some ref) } }

/-- Destruction and deallocation only free the port; `ports_by_pid` is not touched. -/
def opsFpaOfprotoPortDestruct (s : Sys) (up : OfprotoRef) (ofpPort : Nat) : Sys :=
  match ofprotoGetPort s up ofpPort with
  | none => s
  | some ref =>
      { s with
        ofports := Function.update s.ofports ref none
        ofprotos := Function.update s.ofprotos up
          { s.ofprotos up with ports := Function.update (s.ofprotos up).ports ofpPort none } }

def portNameByPid (s : Sys) (pid : Nat) : Option PortName :=
  (opsFpaGetOfportByPid s pid).map fun ref =>
    match s.ofports ref with
    | some port => .named port.netdev.name
    | none => .freed

inductive Call
  | bundleSet (up : OfprotoRef) (aux : Aux) (set : Option BundleSettings)
  | setVlan (up : OfprotoRef) (vid : Fin 4096) (add : Bool)
  | addL3Host (up : OfprotoRef) (aux : Aux) (isIpv6Addr : Bool) (ipAddr : CString)
      (nextHopMacAddr : Option CString)
  | deleteL3Host (up : OfprotoRef) (aux : Aux) (isIpv6Addr : Bool) (ipAddr : CString)
  | routeAction (action : RouteAction) (route : OfprotoRoute)
  | portConstruct (up : OfprotoRef) (ofpPort : Nat) (ref : OfportRef) (netdev : Netdev) (mtu : Nat)
  | portDestruct (up : OfprotoRef) (ofpPort : Nat)
  | addressMsg (msg : AddressMsg)
  | fdbFlush

def step (env : Env) (s : Sys) : Call → Except Fault (Rc × Sys)
  | .bundleSet up aux set => opsFpaOfprotoBundleSet env s up aux set
  | .setVlan up vid add => opsFpaOfprotoSetVlan env s up vid add
  | .addL3Host up aux isIpv6Addr ipAddr nextHopMacAddr =>
      match addL3HostEntry env s up aux isIpv6Addr ipAddr nextHopMacAddr with
      | .error fault => .error fault
      | .ok (rc, _, s) => .ok (rc, s)
  | .deleteL3Host up aux isIpv6Addr ipAddr => deleteL3HostEntry env s up aux isIpv6Addr ipAddr
  | .routeAction action route => .ok (l3RouteAction env s action route)
  | .portConstruct up ofpPort ref netdev mtu =>
      .ok (.ok, opsFpaOfprotoPortConstruct s up ofpPort ref netdev mtu)
  | .portDestruct up ofpPort => .ok (.ok, opsFpaOfprotoPortDestruct s up ofpPort)
  | .addressMsg msg =>
      match macLearningAsicEvent env (portNameByPid s) s.ml msg with
      | .error fault => .error fault
      | .ok ml => .ok (.ok, { s with ml })
  | .fdbFlush =>
      match opsFpaMacLearningFlush env (portNameByPid s) s.ml with
      | .error fault => .error fault
      | .ok ml => .ok (.ok, { s with ml })

abbrev Event := Runs.Event Sys Call Rc

abbrev Trace := List Event

abbrev Run (env : Env) (start : Sys) : Trace → Sys → Prop := Runs.Run (step env) start

/-- The plugin once it is initialised and its ofprotos are constructed: no port, bundle
or host is known, and nothing has been installed in the switch. -/
structure Initial (s : Sys) : Prop where
  asic : s.hw.fpa.asic = ⟨fun _ => [], []⟩
  internalVlans : s.hw.internalVlans = Bitmap.zero
  members : s.hw.members = fun _ => Bitmap.zero
  arpIndices : s.arpIndices = FreeList.full arpIndicesSize
  hostTable : s.hostTable = Hmap.empty 0
  portsByPid : ∃ next hash, s.portsByPid = ⟨0, 0, fun _ => none, next, hash⟩
  ofports : s.ofports = fun _ => none
  ports : ∀ up, (s.ofprotos up).ports = fun _ => none
  bundles : ∀ up, (s.ofprotos up).bundles = Hmap.empty 0
  vlans : ∀ up, (s.ofprotos up).vlans = Bitmap.zero

theorem run_of_check (env : Env) (start : Sys) (calls : List Call) (check : Trace → Sys → Prop)
    [∀ trace state, Decidable (check trace state)]
    (passed : (Runs.replay (step env) [] start calls).any
      (fun result => check result.1 result.2) = true) :
    ∃ trace state, Run env start trace state ∧ check trace state :=
  Runs.Run.of_check calls check passed

section Ideal

def macOctets : Nat → Nat → CString → Option Nat
  | 0, value, [] => some value
  | octets + 1, value, high :: low :: rest =>
      match digitValue high, digitValue low, rest with
      | some high, some low, ':' :: rest => macOctets octets (value * 256 + high * 16 + low) rest
      | some high, some low, rest => macOctets octets (value * 256 + high * 16 + low) rest
      | _, _, _ => none
  | _, _, _ => none

/-- A switch that accepts every call and reads back what was written. -/
def idealEnv : Env where
  verdict := fun _ _ _ => .ok
  readback := fun _ asic => asic
  groupIdent := fullGroupIdents
  popOfL3Unicast := fun _ => false
  undefinedShift := fun value _ => value
  growth := ovsGrowth
  hashPointer := id
  hashString := fun text => text.length
  hashIpv4 := fun address => address.toNat
  hashFdb := fun vid mac => vid + mac.toNat
  ethAddrFromString := fun text => (macOctets 6 0 text).map (BitVec.ofNat 48)
  bufferSize := 2

def bareSys : Sys where
  hw := ⟨⟨⟨fun _ => [], []⟩, []⟩, Bitmap.zero, fun _ => Bitmap.zero⟩
  arpIndices := fun _ => 0
  hostTable := Hmap.empty 0
  portsByPid := ⟨0, 0, fun _ => none, fun _ => none, fun _ => 0⟩
  ofports := fun _ => none
  ofprotos := fun up =>
    { type := if up = 0 then .system else .vrf
      name := if up = 0 then "br0".toList else "vrf".toList
      ports := fun _ => none
      bundles := Hmap.empty 0
      vlans := Bitmap.zero }
  ml := opsFpaMacLearningCreate idealEnv 16384 true

def idealSys : Sys := opsFpaOfprotoInit bareSys

theorem idealSys_initial : Initial idealSys where
  asic := rfl
  internalVlans := rfl
  members := rfl
  arpIndices := rfl
  hostTable := rfl
  portsByPid := ⟨_, _, rfl⟩
  ofports := rfl
  ports := fun _ => rfl
  bundles := fun _ => rfl
  vlans := fun _ => rfl

def idleSettings : BundleSettings where
  name := "1".toList
  slaves := [1]
  vlanMode := .access
  vlan := 1
  trunks := none
  enable := false
  internalVlanId := none
  primaryIpv4Changed := false
  secondaryIpv4Changed := false
  ip4Address := none
  ip4AddressSecondary := []

def routedSettings (vlan : Int) : BundleSettings :=
  { idleSettings with enable := true, internalVlanId := some vlan }

def systemNetdev (pid : Int) : Netdev := ⟨"1".toList, .system, pid, 1#48⟩

theorem idealEnv_allSucceed : idealEnv.AllSucceed where
  calls := fun _ _ _ => rfl
  builds := fun _ fits => if_pos fits

theorem idealEnv_readsBack : idealEnv.ReadsBack := fun _ _ => rfl

end Ideal

end FpaPlugin
