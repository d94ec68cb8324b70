import FpaPlugin.Vlan

/-! `ops-fpa-routing.c`: the flows that make a VLAN a routed interface, and the
unwinding when one of them cannot be installed. -/

namespace FpaPlugin

/-- `struct fpa_l3_intf`. `routesCount` is an `unsigned long`. -/
structure L3Intf where
  intfId : Int
  vlanId : Nat
  mac : EthAddr
  vlanIntf : Bool
  routesCount : Nat
  deriving DecidableEq, Repr

def ethertypeIp : Nat := 0x0800

def ethertypeArp : Nat := 0x0806

def opsFpaControlPktCookie (etherType vlanId : Nat) : Nat := etherType <<< 16 ||| vlanId

def opsFpaTerminationCookie (vlanId : Nat) : Nat := vlanId

def opsFpaL2BridgingCookie (vlanId : Nat) : Nat := vlanId

def broadcastMac : EthAddr := 0xffffffffffff#48

def opsFpaVlanSetArpBcast (env : Env) (fpa : Fpa) (vlanId : Nat) : Status × Fpa :=
  fpa.issue env (.flowEntryAdd .controlPkt
    { cookie := opsFpaControlPktCookie ethertypeArp vlanId
      data := ⟨.arpRequestMessages, broadcastMac, vlanId, ethertypeArp, none, none, .controller⟩ })

def opsFpaVlanUnsetArpBcast (env : Env) (fpa : Fpa) (vlanId : Nat) : Status × Fpa :=
  fpa.issue env (.flowTableCookieDelete .controlPkt (opsFpaControlPktCookie ethertypeArp vlanId))

def opsFpaSetArpFwd (env : Env) (fpa : Fpa) (vlanId : Nat) (mac : EthAddr) : Status × Fpa :=
  fpa.issue env (.flowEntryAdd .l2Bridging
    { cookie := opsFpaL2BridgingCookie vlanId
      data := ⟨vlanId, mac, 0xFFFFFFFF, .controller⟩ })

def opsFpaUnsetArpFwd (env : Env) (fpa : Fpa) (vlanId : Nat) : Status × Fpa :=
  fpa.issue env (.flowTableCookieDelete .l2Bridging (opsFpaL2BridgingCookie vlanId))

def opsFpaVlanEnableUnicastRouting (env : Env) (fpa : Fpa) (vlanId : Nat) (mac : EthAddr) :
    Status × Fpa :=
  fpa.issue env (.flowEntryAdd .termination
    { cookie := opsFpaTerminationCookie vlanId
      data := ⟨ethertypeIp, vlanId, mac, true⟩ })

def opsFpaVlanDisableUnicastRouting (env : Env) (fpa : Fpa) (vlanId : Nat) : Status × Fpa :=
  fpa.issue env (.flowTableCookieDelete .termination (opsFpaTerminationCookie vlanId))

def opsFpaVlanSetUdpDhcp (env : Env) (fpa : Fpa) (vlanId : Nat) : Status × Fpa :=
  fpa.issue env (.flowEntryAdd .controlPkt
    { cookie := opsFpaControlPktCookie ethertypeIp vlanId
      data := ⟨.udpBroadcastCtrl, broadcastMac, vlanId, ethertypeIp, some 17, some 67,
        .controller⟩ })

def opsFpaVlanUnsetUdpDhcp (env : Env) (fpa : Fpa) (vlanId : Nat) : Status × Fpa :=
  fpa.issue env (.flowTableCookieDelete .controlPkt (opsFpaControlPktCookie ethertypeIp vlanId))

/-- The three cleanup labels, each falling through to the next. -/
def failSetArpFwd (env : Env) (fpa : Fpa) (vlanId : Nat) : Fpa :=
  (opsFpaVlanUnsetArpBcast env fpa vlanId).2

def failSetDhcp (env : Env) (fpa : Fpa) (vlanId : Nat) : Fpa :=
  failSetArpFwd env (opsFpaUnsetArpFwd env fpa vlanId).2 vlanId

def failVlanEnableUnicastRouting (env : Env) (fpa : Fpa) (vlanId : Nat) : Fpa :=
  failSetDhcp env (opsFpaVlanUnsetUdpDhcp env fpa vlanId).2 vlanId

def opsFpaEnableRoutingVlan (env : Env) (fpa : Fpa) (vlanId : Nat) (mac : EthAddr) :
    Option L3Intf × Fpa :=
  match opsFpaVlanSetArpBcast env fpa vlanId with
  | (.fail, fpa) => (none, fpa)
  | (.ok, fpa) =>
      match opsFpaSetArpFwd env fpa vlanId mac with
      | (.fail, fpa) => (none, failSetArpFwd env fpa vlanId)
      | (.ok, fpa) =>
          match opsFpaVlanSetUdpDhcp env fpa vlanId with
          | (.fail, fpa) => (none, failSetDhcp env fpa vlanId)
          | (.ok, fpa) =>
              match opsFpaVlanEnableUnicastRouting env fpa vlanId mac with
              | (.fail, fpa) => (none, failVlanEnableUnicastRouting env fpa vlanId)
              | (.ok, fpa) =>
                  (some { intfId := 0, vlanId, mac, vlanIntf := false, routesCount := 0 }, fpa)

def opsFpaEnableRoutingInterface (env : Env) (hw : Hw) (portNum : Int) (vlanId : Nat)
    (mac : EthAddr) : Option L3Intf × Hw :=
  match opsFpaVlanAddInternal env hw portNum vlanId with
  | (.fail, hw) => (none, hw)
  | (.ok, hw) =>
      match opsFpaEnableRoutingVlan env hw.fpa vlanId mac with
      | (none, fpa) =>
          (none, (opsFpaVlanDelInternal env { hw with fpa := fpa } portNum vlanId).2)
      | (some l3Intf, fpa) =>
          (some { l3Intf with intfId := portNum, vlanIntf := true }, { hw with fpa := fpa })

def opsFpaDisableRouting (env : Env) (hw : Hw) (l3Intf : L3Intf) : Hw :=
  let hw := if l3Intf.vlanIntf
    then (opsFpaVlanDelInternal env hw l3Intf.intfId l3Intf.vlanId).2 else hw
  match opsFpaVlanUnsetArpBcast env hw.fpa l3Intf.vlanId with
  | (.fail, fpa) => { hw with fpa := fpa }
  | (.ok, fpa) =>
      match opsFpaUnsetArpFwd env fpa l3Intf.vlanId with
      | (.fail, fpa) => { hw with fpa := fpa }
      | (.ok, fpa) =>
          match opsFpaVlanUnsetUdpDhcp env fpa l3Intf.vlanId with
          | (.fail, fpa) => { hw with fpa := fpa }
          | (.ok, fpa) => { hw with fpa := (opsFpaVlanDisableUnicastRouting env fpa l3Intf.vlanId).2 }

end FpaPlugin
