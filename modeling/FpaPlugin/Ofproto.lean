import FpaPlugin.Lib.LinkedHmap
import FpaPlugin.Lib.FreeList
import FpaPlugin.MacLearning
import FpaPlugin.Routing
import FpaPlugin.Str

/-! `ops-fpa-ofproto.c`: ports and bundles, the VLAN configuration of bundles, routed
interfaces, the host table with its ARP indices, and routes. The state gathers the
file's globals with the objects they point to; objects are named by references. -/

namespace FpaPlugin

abbrev OfprotoRef := Nat
abbrev OfportRef := Nat
abbrev Aux := Nat

inductive Rc
  | ok
  | einval
  | efault
  | enosys
  deriving DecidableEq, Repr

inductive OfprotoType
  | system
  | vrf
  deriving DecidableEq, Repr

inductive NetdevType
  | system
  | internal
  | vlansubint
  | loopback
  deriving DecidableEq, Repr

inductive VlanMode
  | access
  | trunk
  | nativeTagged
  | nativeUntagged
  deriving DecidableEq, Repr

structure Netdev where
  name : CString
  type : NetdevType
  pid : Int
  mac : EthAddr

structure Ofport where
  ofpPort : Nat
  netdev : Netdev
  mtu : Nat
  vmap : Bitmap

structure Bundle where
  aux : Aux
  name : Option CString
  intfId : Int
  l3Intf : Option L3Intf
  ip4addr : Option CString
  secondaryIp4addr : List CString
  deriving DecidableEq

structure Ofproto where
  type : OfprotoType
  name : CString
  ports : Nat → Option OfportRef
  bundles : Hmap Bundle
  vlans : Bitmap

structure HostTableEntry where
  ipv4Addr : InAddr
  arpIndex : Nat
  l3Group : Nat
  l2Group : Nat
  deriving DecidableEq, Repr

structure Sys where
  hw : Hw
  arpIndices : Nat → Nat
  hostTable : Hmap HostTableEntry
  portsByPid : LinkedHmap OfportRef
  ofports : OfportRef → Option Ofport
  ofprotos : OfprotoRef → Ofproto
  ml : MacLearning

/-- `struct ofproto_bundle_settings`, as far as the plugin reads it. The VLAN ids are `int`s;
`internalVlanId` is the `internal_vlan_id` key of the port's hardware configuration. -/
structure BundleSettings where
  name : CString
  slaves : List Nat
  vlanMode : VlanMode
  vlan : Int
  trunks : Option Bitmap
  enable : Bool
  internalVlanId : Option Int
  primaryIpv4Changed : Bool
  secondaryIpv4Changed : Bool
  ip4Address : Option CString
  ip4AddressSecondary : List CString

def fpaInvalidIntfId : Int := 0xffff

def arpIndicesSize : Nat := 1024

/-- The classes without a `get_ifindex` answer `-EOPNOTSUPP`. -/
def netdevGetIfindex (netdev : Netdev) : Int :=
  match netdev.type with
  | .system => netdev.pid
  | .internal => netdev.pid
  | .vlansubint => -95
  | .loopback => -95

def hashOfPid (pid : Int) : Nat := (pid % 2 ^ 64).toNat

/-- An `int` that is passed as a `uint16_t`. -/
def uint16 (value : Int) : Nat := (value % 2 ^ 16).toNat

def ulongSucc (value : Nat) : Nat := (value + 1) % 2 ^ 64

def ulongPred (value : Nat) : Nat := if value = 0 then 2 ^ 64 - 1 else value - 1

def opsFpaOfprotoInit (s : Sys) : Sys :=
  { s with
    arpIndices := FreeList.full arpIndicesSize
    hostTable := Hmap.empty 0 }

def opsFpaGetOfportByPid (s : Sys) (pid : Int) : Option OfportRef :=
  s.portsByPid.firstInBucket (hashOfPid pid)

def derefOfport (s : Sys) : Option OfportRef → Except Fault Ofport
  | none => .error .nullPointer
  | some ref =>
      match s.ofports ref with
      | none => .error .freedMemory
      | some port => .ok port

def ofprotoGetPort (s : Sys) (up : OfprotoRef) (ofpPort : Nat) : Option OfportRef :=
  (s.ofprotos up).ports ofpPort

section Bundles

variable (env : Env)

def opsFpaFindBundle (s : Sys) (up : OfprotoRef) (aux : Aux) : Option Bundle :=
  (s.ofprotos up).bundles.lookup env.hashPointer Bundle.aux aux

def modifyBundle (s : Sys) (up : OfprotoRef) (aux : Aux) (update : Bundle → Bundle) : Sys :=
  { s with
    ofprotos := Function.update s.ofprotos up
      { s.ofprotos up with
        bundles := (s.ofprotos up).bundles.modify fun bundle =>
          if bundle.aux = aux then update bundle else bundle } }

def setL3Intf (s : Sys) (up : OfprotoRef) (aux : Aux) (l3Intf : Option L3Intf) : Sys :=
  modifyBundle s up aux fun bundle => { bundle with l3Intf }

def opsFpaRmBundle (s : Sys) (up : OfprotoRef) (aux : Aux) : Rc × Sys :=
  match opsFpaFindBundle env s up aux with
  | none => (.efault, s)
  | some bundle =>
      let hw := match bundle.l3Intf with
        | some l3Intf => opsFpaDisableRouting env s.hw l3Intf
        | none => s.hw
      (.ok,
        { s with
          hw
          ofprotos := Function.update s.ofprotos up
            { s.ofprotos up with
              bundles := (s.ofprotos up).bundles.remove (env.hashPointer aux) bundle } })

/-- The record that a new bundle starts from. The port of the first slave, when it
has a hardware id, is linked into `ports_by_pid`. -/
def createBundle (s : Sys) (up : OfprotoRef) (aux : Aux) (slave : Nat) : Except Fault Sys :=
  let port := (ofprotoGetPort s up slave).bind fun ref => (s.ofports ref).map fun port => (ref, port)
  let intfId := match port with
    | some (_, port) => netdevGetIfindex port.netdev
    | none => fpaInvalidIntfId
  let bundle : Bundle :=
    { aux, name := none, intfId, l3Intf := none, ip4addr := none, secondaryIp4addr := [] }
  let s := { s with
    ofprotos := Function.update s.ofprotos up
      { s.ofprotos up with
        bundles := (s.ofprotos up).bundles.insert env.growth (env.hashPointer aux) bundle } }
  match port with
  | none => .ok s
  | some (ref, _) =>
      if intfId = fpaInvalidIntfId then .ok s
      else
        match s.portsByPid.insert env.growth ref (hashOfPid intfId) with
        | none => .error .endlessLoop
        | some portsByPid => .ok { s with portsByPid }

end Bundles

section Hosts

variable (env : Env)

def hostTableAdd (hosts : Hmap HostTableEntry) (entry : HostTableEntry) : Hmap HostTableEntry :=
  hosts.insert env.growth (env.hashIpv4 entry.ipv4Addr) entry

def hostTableDelete (hosts : Hmap HostTableEntry) (entry : HostTableEntry) :
    Hmap HostTableEntry :=
  hosts.remove (env.hashIpv4 entry.ipv4Addr) entry

def hostTableFind (hosts : Hmap HostTableEntry) (ipv4Addr : InAddr) : Option HostTableEntry :=
  (hosts.withHash (env.hashIpv4 ipv4Addr)).find? fun entry => entry.ipv4Addr = ipv4Addr

/-- A host's IPv4 address: one without a prefix length other than 32. -/
def hostAddress (ipAddr : CString) : Option InAddr :=
  match opsFpaStr2ip ipAddr with
  | some (ipv4Addr, maskLen) => if maskLen = 32 then some ipv4Addr else none
  | none => none

def l3EgressId (s : Sys) (l3Intf : L3Intf) (dstMac : EthAddr) : Except Fault Int :=
  if opsFpaVlanInternal s.hw l3Intf.vlanId then .ok l3Intf.intfId
  else
    match opsFpaMacLearningLookupByVlanAndMac s.ml l3Intf.vlanId dstMac with
    | none => .error .nullPointer
    | some entry => .ok entry.portNum

def installHost (s : Sys) (up : OfprotoRef) (aux : Aux) (vlanId mtu : Nat) (egress : Int)
    (srcMac dstMac : EthAddr) (ipv4Addr : InAddr) : Rc × Sys :=
  match opsFpaRouteAddL2Group env s.hw.fpa egress vlanId false with
  | (none, fpa) => (.einval, { s with hw := { s.hw with fpa } })
  | (some l2Group, fpa) =>
      if s.arpIndices 0 = 0 then
        (.einval, { s with hw := { s.hw with fpa := (opsFpaRouteDelGroup env fpa l2Group).2 } })
      else
        let arpIndex := s.arpIndices 0
        let s := { s with arpIndices := FreeList.pop s.arpIndices }
        match opsFpaRouteAddL3Group env fpa l2Group arpIndex vlanId mtu srcMac dstMac with
        | (none, fpa) =>
            (.einval, { s with hw := { s.hw with fpa := (opsFpaRouteDelGroup env fpa l2Group).2 } })
        | (some l3Group, fpa) =>
            match opsFpaRouteAddRoute env fpa l3Group ipv4Addr 32 with
            | (.fail, fpa) =>
                let fpa := (opsFpaRouteDelGroup env fpa l2Group).2
                let fpa := (opsFpaRouteDelGroup env fpa l3Group).2
                (.einval, { s with hw := { s.hw with fpa } })
            | (.ok, fpa) =>
                let s := { s with
                  hw := { s.hw with fpa }
                  hostTable := hostTableAdd env s.hostTable ⟨ipv4Addr, arpIndex, l3Group, l2Group⟩ }
                (.ok, modifyBundle s up aux fun bundle =>
                  { bundle with
                    l3Intf := bundle.l3Intf.map fun l3Intf =>
                      { l3Intf with routesCount := ulongSucc l3Intf.routesCount } })

/-- The second component is `*l3_egress_id`, once it has been written. -/
def addL3HostEntry (s : Sys) (up : OfprotoRef) (aux : Aux) (isIpv6Addr : Bool) (ipAddr : CString)
    (nextHopMacAddr : Option CString) : Except Fault (Rc × Option Int × Sys) :=
  if isIpv6Addr then .ok (.einval, none, s)
  else
    match nextHopMacAddr with
    | none => .ok (.einval, none, s)
    | some nextHop =>
        match opsFpaFindBundle env s up aux with
        | none => .error .nullPointer
        | some bundle =>
            match bundle.l3Intf with
            | none => .ok (.einval, none, s)
            | some l3Intf =>
                match derefOfport s (opsFpaGetOfportByPid s bundle.intfId) with
                | .error fault => .error fault
                | .ok port =>
                    match env.ethAddrFromString nextHop with
                    | none => .ok (.einval, none, s)
                    | some dstMac =>
                        match l3EgressId s l3Intf dstMac with
                        | .error fault => .error fault
                        | .ok egress =>
                            match hostAddress ipAddr with
                            | none => .ok (.einval, some egress, s)
                            | some ipv4Addr =>
                                let (rc, s) := installHost env s up aux l3Intf.vlanId port.mtu
                                  egress port.netdev.mac dstMac ipv4Addr
                                .ok (rc, some egress, s)

def releaseRoute (s : Sys) (up : OfprotoRef) (aux : Aux) (l3Intf : L3Intf) : Sys :=
  let routesCount := ulongPred l3Intf.routesCount
  if routesCount = 0 then
    setL3Intf { s with hw := opsFpaDisableRouting env s.hw l3Intf } up aux none
  else setL3Intf s up aux (some { l3Intf with routesCount })

def deleteHost (s : Sys) (up : OfprotoRef) (aux : Aux) (l3Intf : L3Intf)
    (entry : HostTableEntry) : Sys :=
  let fpa := (opsFpaRouteDelRoute env s.hw.fpa entry.ipv4Addr 32).2
  let fpa := (opsFpaRouteDelGroup env fpa entry.l3Group).2
  let fpa := (opsFpaRouteDelGroup env fpa entry.l2Group).2
  releaseRoute env
    { s with
      hw := { s.hw with fpa }
      arpIndices := FreeList.push s.arpIndices entry.arpIndex
      hostTable := hostTableDelete env s.hostTable entry } up aux l3Intf

def deleteL3HostEntry (s : Sys) (up : OfprotoRef) (aux : Aux) (isIpv6Addr : Bool)
    (ipAddr : CString) : Except Fault (Rc × Sys) :=
  if isIpv6Addr then .ok (.einval, s)
  else
    match opsFpaFindBundle env s up aux with
    | none => .error .nullPointer
    | some bundle =>
        match bundle.l3Intf with
        | none => .ok (.einval, s)
        | some l3Intf =>
            match hostAddress ipAddr with
            | none => .ok (.einval, s)
            | some ipv4Addr =>
                match hostTableFind env s.hostTable ipv4Addr with
                | none => .ok (.einval, s)
                | some entry => .ok (.ok, deleteHost env s up aux l3Intf entry)

end Hosts

end FpaPlugin
