import FpaPlugin.System
import FpaPlugin.HwSpec
import FpaPlugin.HostUnwind

/-! The flows that routing keeps for a VLAN in the control-packet, L2-bridging and
termination tables: which cookies they carry, and what a call that is refused half way
leaves of them. -/

namespace FpaPlugin

variable {env : Env}

def Asic.Carries (asic : Asic) (table : FlowTableType) (cookie : Nat) : Prop :=
  ∃ flow ∈ asic.flows table, flow.cookie = cookie

def Asic.without (asic : Asic) (cookies : FlowTableType → List Nat) : Asic :=
  { asic with
    flows := fun table => (asic.flows table).filter fun flow => flow.cookie ∉ cookies table }

/-- The flows of `ops_fpa_enable_routing_vlan` in the order it adds them. -/
inductive RoutingFlow
  | arpBcast
  | arpFwd
  | udpDhcp
  | unicastRouting
  deriving DecidableEq, Repr

def refusedFlow (env : Env) (fpa : Fpa) (vlanId : Nat) (mac : EthAddr) : Option RoutingFlow :=
  match opsFpaVlanSetArpBcast env fpa vlanId with
  | (.fail, _) => some .arpBcast
  | (.ok, fpa) =>
      match opsFpaSetArpFwd env fpa vlanId mac with
      | (.fail, _) => some .arpFwd
      | (.ok, fpa) =>
          match opsFpaVlanSetUdpDhcp env fpa vlanId with
          | (.fail, _) => some .udpDhcp
          | (.ok, fpa) =>
              match opsFpaVlanEnableUnicastRouting env fpa vlanId mac with
              | (.fail, _) => some .unicastRouting
              | (.ok, _) => none

/-- The cookies that the cleanup labels delete when that flow is refused. -/
def RoutingFlow.unwound (vlanId : Nat) : RoutingFlow → FlowTableType → List Nat
  | .arpBcast, _ => []
  | .arpFwd, .controlPkt => [arpCookie vlanId]
  | .arpFwd, _ => []
  | .udpDhcp, .controlPkt => [arpCookie vlanId]
  | .udpDhcp, .l2Bridging => [opsFpaL2BridgingCookie vlanId]
  | .udpDhcp, _ => []
  | .unicastRouting, .controlPkt => [arpCookie vlanId, dhcpCookie vlanId]
  | .unicastRouting, .l2Bridging => [opsFpaL2BridgingCookie vlanId]
  | .unicastRouting, _ => []

def Env.CookieDeletesSucceed (env : Env) : Prop :=
  ∀ calls table cookie asic, env.verdict calls (.flowTableCookieDelete table cookie) asic = .ok

/-- The call was made and refused since `before`. -/
def Fpa.Refused (before after : Fpa) (call : FpaCall) : Prop :=
  ∃ log, after.calls = log ++ before.calls ∧ (call, Status.fail) ∈ log

section Calls

theorem Fpa.refused_iff {before after : Fpa} {log : List (FpaCall × Status)}
    (isLog : after.calls = log ++ before.calls) (call : FpaCall) :
    before.Refused after call ↔ (call, Status.fail) ∈ log := by
  constructor
  · rintro ⟨other, isOther, made⟩
    rw [isLog] at isOther
    rwa [List.append_cancel_right isOther]
  · intro made
    exact ⟨log, isLog, made⟩

theorem calls_of_issue {fpa after : Fpa} {call : FpaCall} {status : Status}
    (issued : fpa.issue env call = (status, after)) :
    after.calls = (call, status) :: fpa.calls := by
  cases issued
  rfl

end Calls

section Cookies

theorem controlPktCookie_eq (etherType : Nat) {vlanId : Nat} (bound : vlanId < 65536) :
    opsFpaControlPktCookie etherType vlanId = etherType * 65536 + vlanId := by
  rw [opsFpaControlPktCookie, ← Nat.shiftLeft_add_eq_or_of_lt (by omega : vlanId < 2 ^ 16),
    Nat.shiftLeft_eq]

theorem arpCookie_eq {vlanId : Nat} (bound : vlanId < 65536) :
    arpCookie vlanId = 134610944 + vlanId := controlPktCookie_eq _ bound

theorem dhcpCookie_eq {vlanId : Nat} (bound : vlanId < 65536) :
    dhcpCookie vlanId = 134217728 + vlanId := controlPktCookie_eq _ bound

theorem arpCookie_ne_dhcpCookie {vlanId : Nat} (bound : vlanId < 65536) :
    arpCookie vlanId ≠ dhcpCookie vlanId := by
  rw [arpCookie_eq bound, dhcpCookie_eq bound]
  omega

theorem routingCookies_disjoint {vlanId other : Nat} (bound : vlanId < 65536)
    (otherBound : other < 65536) (different : other ≠ vlanId) {table : FlowTableType}
    {cookie : Nat} (carried : cookie ∈ routingCookies vlanId table) :
    cookie ∉ routingCookies other table := by
  cases table with
  | controlPkt =>
      simp only [routingCookies, List.mem_cons, List.not_mem_nil, or_false, arpCookie_eq bound,
        dhcpCookie_eq bound, arpCookie_eq otherBound, dhcpCookie_eq otherBound] at carried ⊢
      omega
  | l2Bridging =>
      simp only [routingCookies, List.mem_singleton, opsFpaL2BridgingCookie] at carried ⊢
      omega
  | termination =>
      simp only [routingCookies, List.mem_singleton, opsFpaTerminationCookie] at carried ⊢
      omega
  | vlan => cases carried
  | l3Unicast => cases carried

end Cookies

section Without

theorem Asic.ext_flows {asic other : Asic} (flows : ∀ table, other.flows table = asic.flows table)
    (groups : other.groups = asic.groups) : other = asic := by
  obtain ⟨otherFlows, otherGroups⟩ := other
  obtain ⟨itsFlows, itsGroups⟩ := asic
  have sameFlows : otherFlows = itsFlows := funext flows
  cases groups
  rw [sameFlows]

theorem filter_cookie_iff (asic : Asic) (table : FlowTableType) (cookie : Nat) :
    (asic.flows table).filter (fun flow => flow.cookie ≠ cookie) = asic.flows table ↔
      ¬ asic.Carries table cookie := by
  rw [List.filter_eq_self, Asic.Carries]
  simp

theorem flows_without_iff (asic : Asic) (cookies : FlowTableType → List Nat)
    (table : FlowTableType) :
    (asic.without cookies).flows table = asic.flows table ↔
      ∀ cookie ∈ cookies table, ¬ asic.Carries table cookie := by
  simp only [Asic.without, List.filter_eq_self, decide_eq_true_eq, Asic.Carries]
  constructor
  · rintro kept cookie listed ⟨flow, member, rfl⟩
    exact kept flow member listed
  · intro absent flow member listed
    exact absent flow.cookie listed ⟨flow, member, rfl⟩

theorem without_nothing (asic : Asic) : asic.without (fun _ => []) = asic := by
  refine Asic.ext_flows (fun table => ?_) rfl
  rw [flows_without_iff]
  intro cookie listed
  cases listed

theorem asic_of_delete (deletes : env.CookieDeletesSucceed) (fpa : Fpa) (table : FlowTableType)
    (cookie : Nat) : (fpa.issue env (.flowTableCookieDelete table cookie)).2.asic =
      fpa.asic.apply (.flowTableCookieDelete table cookie) := by
  simp only [Fpa.issue, deletes fpa.calls table cookie fpa.asic, if_true]

end Without

section Enable

variable {fpa : Fpa} {vlanId : Nat} {mac : EthAddr}

def arpFlow (vlanId : Nat) : FlowEntry .controlPkt where
  cookie := arpCookie vlanId
  data := ⟨.arpRequestMessages, broadcastMac, vlanId, ethertypeArp, none, none, .controller⟩

def fwdFlow (vlanId : Nat) (mac : EthAddr) : FlowEntry .l2Bridging where
  cookie := opsFpaL2BridgingCookie vlanId
  data := ⟨vlanId, mac, 0xFFFFFFFF, .controller⟩

def dhcpFlow (vlanId : Nat) : FlowEntry .controlPkt where
  cookie := dhcpCookie vlanId
  data := ⟨.udpBroadcastCtrl, broadcastMac, vlanId, ethertypeIp, some 17, some 67, .controller⟩

def unicastFlow (vlanId : Nat) (mac : EthAddr) : FlowEntry .termination where
  cookie := opsFpaTerminationCookie vlanId
  data := ⟨ethertypeIp, vlanId, mac, true⟩

def Asic.routed (asic : Asic) (vlanId : Nat) (mac : EthAddr) : Asic :=
  (((asic.apply (.flowEntryAdd .controlPkt (arpFlow vlanId))).apply
    (.flowEntryAdd .l2Bridging (fwdFlow vlanId mac))).apply
    (.flowEntryAdd .controlPkt (dhcpFlow vlanId))).apply
    (.flowEntryAdd .termination (unicastFlow vlanId mac))

theorem setArpBcast_asic {status : Status} {after : Fpa}
    (issued : opsFpaVlanSetArpBcast env fpa vlanId = (status, after)) :
    after.asic = if status = .ok
      then fpa.asic.apply (.flowEntryAdd .controlPkt (arpFlow vlanId)) else fpa.asic :=
  asic_of_issue issued

theorem setArpFwd_asic {status : Status} {after : Fpa}
    (issued : opsFpaSetArpFwd env fpa vlanId mac = (status, after)) :
    after.asic = if status = .ok
      then fpa.asic.apply (.flowEntryAdd .l2Bridging (fwdFlow vlanId mac)) else fpa.asic :=
  asic_of_issue issued

theorem setUdpDhcp_asic {status : Status} {after : Fpa}
    (issued : opsFpaVlanSetUdpDhcp env fpa vlanId = (status, after)) :
    after.asic = if status = .ok
      then fpa.asic.apply (.flowEntryAdd .controlPkt (dhcpFlow vlanId)) else fpa.asic :=
  asic_of_issue issued

theorem enableUnicastRouting_asic {status : Status} {after : Fpa}
    (issued : opsFpaVlanEnableUnicastRouting env fpa vlanId mac = (status, after)) :
    after.asic = if status = .ok
      then fpa.asic.apply (.flowEntryAdd .termination (unicastFlow vlanId mac)) else fpa.asic :=
  asic_of_issue issued

theorem failSetArpFwd_asic (deletes : env.CookieDeletesSucceed) (fpa : Fpa) :
    (failSetArpFwd env fpa vlanId).asic =
      fpa.asic.apply (.flowTableCookieDelete .controlPkt (arpCookie vlanId)) :=
  asic_of_delete deletes _ _ _

theorem failSetDhcp_asic (deletes : env.CookieDeletesSucceed) (fpa : Fpa) :
    (failSetDhcp env fpa vlanId).asic =
      (fpa.asic.apply (.flowTableCookieDelete .l2Bridging (opsFpaL2BridgingCookie vlanId))).apply
        (.flowTableCookieDelete .controlPkt (arpCookie vlanId)) := by
  rw [failSetDhcp, failSetArpFwd_asic deletes, opsFpaUnsetArpFwd, asic_of_delete deletes]

theorem failVlanEnableUnicastRouting_asic (deletes : env.CookieDeletesSucceed) (fpa : Fpa) :
    (failVlanEnableUnicastRouting env fpa vlanId).asic =
      ((fpa.asic.apply (.flowTableCookieDelete .controlPkt (dhcpCookie vlanId))).apply
        (.flowTableCookieDelete .l2Bridging (opsFpaL2BridgingCookie vlanId))).apply
        (.flowTableCookieDelete .controlPkt (arpCookie vlanId)) := by
  rw [failVlanEnableUnicastRouting, failSetDhcp_asic deletes, opsFpaVlanUnsetUdpDhcp,
    asic_of_delete deletes]
  rfl

theorem unwound_arpFwd (asic : Asic) :
    (asic.apply (.flowEntryAdd .controlPkt (arpFlow vlanId))).apply
      (.flowTableCookieDelete .controlPkt (arpCookie vlanId)) =
    asic.without (RoutingFlow.arpFwd.unwound vlanId) := by
  refine Asic.ext_flows (fun table => ?_) rfl
  cases table <;> simp [Asic.apply, Asic.without, RoutingFlow.unwound, arpFlow]

theorem unwound_udpDhcp (asic : Asic) :
    (((asic.apply (.flowEntryAdd .controlPkt (arpFlow vlanId))).apply
      (.flowEntryAdd .l2Bridging (fwdFlow vlanId mac))).apply
      (.flowTableCookieDelete .l2Bridging (opsFpaL2BridgingCookie vlanId))).apply
      (.flowTableCookieDelete .controlPkt (arpCookie vlanId)) =
    asic.without (RoutingFlow.udpDhcp.unwound vlanId) := by
  refine Asic.ext_flows (fun table => ?_) rfl
  cases table <;> simp [Asic.apply, Asic.without, RoutingFlow.unwound, arpFlow, fwdFlow]

theorem unwound_unicastRouting (asic : Asic) :
    (((((asic.apply (.flowEntryAdd .controlPkt (arpFlow vlanId))).apply
      (.flowEntryAdd .l2Bridging (fwdFlow vlanId mac))).apply
      (.flowEntryAdd .controlPkt (dhcpFlow vlanId))).apply
      (.flowTableCookieDelete .controlPkt (dhcpCookie vlanId))).apply
      (.flowTableCookieDelete .l2Bridging (opsFpaL2BridgingCookie vlanId))).apply
      (.flowTableCookieDelete .controlPkt (arpCookie vlanId)) =
    asic.without (RoutingFlow.unicastRouting.unwound vlanId) := by
  refine Asic.ext_flows (fun table => ?_) rfl
  cases table <;> simp [Asic.apply, Asic.without, RoutingFlow.unwound, arpFlow, fwdFlow, dhcpFlow]

theorem enableRoutingVlan_outcome {result : Option L3Intf} {after : Fpa}
    (enabled : opsFpaEnableRoutingVlan env fpa vlanId mac = (result, after)) :
    refusedFlow env fpa vlanId mac = none ∧ result = some ⟨0, vlanId, mac, false, 0⟩ ∧
      after.asic = fpa.asic.routed vlanId mac ∧ (∀ call, ¬ fpa.Refused after call) ∨
    ∃ flow, refusedFlow env fpa vlanId mac = some flow ∧ result = none ∧
      (env.CookieDeletesSucceed → after.asic = fpa.asic.without (flow.unwound vlanId)) := by
  simp only [opsFpaEnableRoutingVlan] at enabled
  simp only [refusedFlow]
  cases arp : opsFpaVlanSetArpBcast env fpa vlanId with
  | mk status fpaArp =>
  have afterArp := setArpBcast_asic arp
  simp only [arp] at enabled
  cases status with
  | fail =>
      cases enabled
      refine .inr ⟨.arpBcast, rfl, rfl, fun _ => ?_⟩
      rw [afterArp, if_neg (by decide)]
      exact (without_nothing _).symm
  | ok =>
      rw [if_pos rfl] at afterArp
      cases fwd : opsFpaSetArpFwd env fpaArp vlanId mac with
      | mk status fpaFwd =>
      have afterFwd := setArpFwd_asic fwd
      simp only [fwd] at enabled ⊢
      cases status with
      | fail =>
          cases enabled
          refine .inr ⟨.arpFwd, rfl, rfl, fun deletes => ?_⟩
          rw [failSetArpFwd_asic deletes, afterFwd, if_neg (by decide), afterArp, unwound_arpFwd]
      | ok =>
          rw [if_pos rfl, afterArp] at afterFwd
          cases dhcp : opsFpaVlanSetUdpDhcp env fpaFwd vlanId with
          | mk status fpaDhcp =>
          have afterDhcp := setUdpDhcp_asic dhcp
          simp only [dhcp] at enabled ⊢
          cases status with
          | fail =>
              cases enabled
              refine .inr ⟨.udpDhcp, rfl, rfl, fun deletes => ?_⟩
              rw [failSetDhcp_asic deletes, afterDhcp, if_neg (by decide), afterFwd,
                unwound_udpDhcp]
          | ok =>
              rw [if_pos rfl, afterFwd] at afterDhcp
              cases unicast : opsFpaVlanEnableUnicastRouting env fpaDhcp vlanId mac with
              | mk status fpaUnicast =>
              have afterUnicast := enableUnicastRouting_asic unicast
              simp only [unicast] at enabled ⊢
              cases status with
              | fail =>
                  cases enabled
                  refine .inr ⟨.unicastRouting, rfl, rfl, fun deletes => ?_⟩
                  rw [failVlanEnableUnicastRouting_asic deletes, afterUnicast,
                    if_neg (by decide), afterDhcp, unwound_unicastRouting]
              | ok =>
                  cases enabled
                  refine .inl ⟨rfl, rfl, ?_, fun call => ?_⟩
                  · rw [afterUnicast, if_pos rfl, afterDhcp, Asic.routed]
                  · have isLog : after.calls =
                        [(.flowEntryAdd .termination (unicastFlow vlanId mac), .ok),
                          (.flowEntryAdd .controlPkt (dhcpFlow vlanId), .ok),
                          (.flowEntryAdd .l2Bridging (fwdFlow vlanId mac), .ok),
                          (.flowEntryAdd .controlPkt (arpFlow vlanId), .ok)] ++ fpa.calls := by
                      rw [calls_of_issue unicast, calls_of_issue dhcp, calls_of_issue fwd,
                        calls_of_issue arp]
                      rfl
                    rw [Fpa.refused_iff isLog]
                    simp

end Enable

section OtherVlans

def FlowEntry.belongsTo {table : FlowTableType} (flow : FlowEntry table) (vlanId : Nat) : Bool :=
  flow.vlanId = some vlanId ∨ flow.cookie ∈ routingCookies vlanId table

structure SameFlowsOf (vlanId : Nat) (asic other : Asic) : Prop where
  flows : ∀ table, (other.flows table).filter (fun flow => flow.belongsTo vlanId) =
    (asic.flows table).filter fun flow => flow.belongsTo vlanId
  groups : other.groups = asic.groups

/-- The flows that came since are all of the VLAN, and no earlier one is gone. -/
structure GrownOn (vlanId : Nat) (asic other : Asic) : Prop where
  flows : ∀ table, ∃ own, other.flows table = asic.flows table ++ own ∧
    ∀ flow ∈ own, flow.vlanId = some vlanId ∧ flow.cookie ∈ routingCookies vlanId table
  groups : other.groups = asic.groups

variable {vlanId other : Nat} {asic after : Asic}

theorem GrownOn.apply
    (unused : ∀ table, ∀ cookie ∈ routingCookies vlanId table, ¬ asic.Carries table cookie)
    (grown : GrownOn vlanId asic after) {call : FpaCall} (routes : RoutesOn vlanId call) :
    GrownOn vlanId asic (after.apply call) := by
  cases call with
  | flowEntryAdd table flow =>
      refine ⟨fun changed => ?_, grown.groups⟩
      obtain ⟨own, isOwn, ofVlan⟩ := grown.flows changed
      by_cases here : changed = table
      · subst here
        refine ⟨own ++ [flow], ?_, ?_⟩
        · rw [Asic.flows_flowEntryAdd, isOwn, List.append_assoc]
        · intro added member
          rcases List.mem_append.mp member with old | new
          · exact ofVlan added old
          · rw [List.mem_singleton.mp new]
            exact routes
      · rw [Asic.flows_flowEntryAdd_ne _ _ here]
        exact ⟨own, isOwn, ofVlan⟩
  | flowTableCookieDelete table cookie =>
      refine ⟨fun changed => ?_, grown.groups⟩
      obtain ⟨own, isOwn, ofVlan⟩ := grown.flows changed
      by_cases here : changed = table
      · subst here
        refine ⟨own.filter fun flow => flow.cookie ≠ cookie, ?_, ?_⟩
        · rw [Asic.flows_cookieDelete, isOwn, List.filter_append,
            (filter_cookie_iff asic changed cookie).mpr (unused changed cookie routes)]
        · intro flow member
          exact ofVlan flow (List.mem_of_mem_filter member)
      · rw [Asic.flows_cookieDelete_ne _ _ here]
        exact ⟨own, isOwn, ofVlan⟩
  | flowEntryInit => exact grown
  | groupTableEntryAdd => exact routes.elim
  | groupTableEntryDelete => exact routes.elim
  | groupEntryBucketAdd => exact routes.elim

theorem GrownOn.sameFlowsOf (grown : GrownOn vlanId asic after) (bound : vlanId < 65536)
    (otherBound : other < 65536) (different : other ≠ vlanId) : SameFlowsOf other asic after where
  flows := by
    intro table
    obtain ⟨own, isOwn, ofVlan⟩ := grown.flows table
    have foreign : own.filter (fun flow => flow.belongsTo other) = [] := by
      rw [List.filter_eq_nil_iff]
      intro flow member
      obtain ⟨itsVlan, itsCookie⟩ := ofVlan flow member
      have noCookie := routingCookies_disjoint bound otherBound different itsCookie
      simp [FlowEntry.belongsTo, itsVlan, noCookie, Ne.symm different]
    rw [isOwn, List.filter_append, foreign, List.append_nil]
  groups := grown.groups

theorem GrownOn.of_issues {fpa routed : Fpa} (issued : Issues env (RoutesOn vlanId) fpa routed)
    (unused : ∀ table, ∀ cookie ∈ routingCookies vlanId table, ¬ fpa.asic.Carries table cookie) :
    GrownOn vlanId fpa.asic routed.asic := by
  refine issued.invariant (GrownOn vlanId fpa.asic) ?_ ⟨fun table => ⟨[], ?_, ?_⟩, rfl⟩
  · intro asic call routes grown
    exact grown.apply unused routes
  · exact (List.append_nil _).symm
  · intro flow member
    cases member

end OtherVlans

section Disable

variable {vlanId : Nat} {mac : EthAddr}

theorem cookieDelete_all (asic : Asic) :
    (((asic.apply (.flowTableCookieDelete .controlPkt (arpCookie vlanId))).apply
      (.flowTableCookieDelete .l2Bridging (opsFpaL2BridgingCookie vlanId))).apply
      (.flowTableCookieDelete .controlPkt (dhcpCookie vlanId))).apply
      (.flowTableCookieDelete .termination (opsFpaTerminationCookie vlanId)) =
    asic.without (routingCookies vlanId) := by
  refine Asic.ext_flows (fun table => ?_) rfl
  cases table <;> simp [Asic.apply, Asic.without, routingCookies, Bool.and_comm]

theorem routed_without (asic : Asic) :
    (asic.routed vlanId mac).without (routingCookies vlanId) =
      asic.without (routingCookies vlanId) := by
  refine Asic.ext_flows (fun table => ?_) rfl
  cases table <;> simp [Asic.routed, Asic.apply, Asic.without, routingCookies, arpFlow, fwdFlow,
    dhcpFlow, unicastFlow]

theorem disableRouting_asic (deletes : env.CookieDeletesSucceed) (hw : Hw) (l3Intf : L3Intf) :
    (opsFpaDisableRouting env hw l3Intf).fpa.asic =
      (internalVlanReleased env hw l3Intf).fpa.asic.without (routingCookies l3Intf.vlanId) := by
  simp only [opsFpaDisableRouting]
  rw [← internalVlanReleased]
  generalize internalVlanReleased env hw l3Intf = released
  simp only [opsFpaVlanUnsetArpBcast, opsFpaUnsetArpFwd, opsFpaVlanUnsetUdpDhcp,
    opsFpaVlanDisableUnicastRouting, Fpa.issue, deletes _ _ _ _, if_true]
  exact cookieDelete_all _

theorem without_unused {asic : Asic} {cookies : FlowTableType → List Nat}
    (unused : ∀ table, ∀ cookie ∈ cookies table, ¬ asic.Carries table cookie) :
    asic.without cookies = asic :=
  Asic.ext_flows (fun table => (flows_without_iff asic cookies table).mpr (unused table)) rfl

theorem RoutingFlow.unwound_subset (flow : RoutingFlow) (table : FlowTableType) {cookie : Nat}
    (deleted : cookie ∈ flow.unwound vlanId table) : cookie ∈ routingCookies vlanId table := by
  cases flow <;> cases table <;> simp_all [RoutingFlow.unwound, routingCookies]

end Disable

/-- Where no flow carries a cookie of the VLAN, disabling routing undoes enabling it, a refused
flow leaves the tables as they were, and whatever FPA answers no other VLAN is touched. -/
theorem routing_on_vlan_is_undone (env : Env) (hw : Hw) (vlanId : Fin 65536) (mac : EthAddr)
    (unused : ∀ table, ∀ cookie ∈ routingCookies vlanId table,
      ¬ hw.fpa.asic.Carries table cookie)
    {result : Option L3Intf} {after : Fpa}
    (enabled : opsFpaEnableRoutingVlan env hw.fpa vlanId mac = (result, after)) :
    (env.AllSucceed → ∃ l3Intf, result = some l3Intf ∧
      (opsFpaDisableRouting env { hw with fpa := after } l3Intf).fpa.asic = hw.fpa.asic) ∧
    (env.CookieDeletesSucceed →
      (∃ table flow, hw.fpa.Refused after (.flowEntryAdd table flow)) →
        result = none ∧ after.asic = hw.fpa.asic) ∧
    ∀ other : Fin 65536, other ≠ vlanId →
      SameFlowsOf other hw.fpa.asic after.asic ∧
      ∀ l3Intf, result = some l3Intf → SameFlowsOf other hw.fpa.asic
        (opsFpaDisableRouting env { hw with fpa := after } l3Intf).fpa.asic := by
  refine ⟨fun succeeds => ?_, fun deletes refused => ?_, fun other different => ?_⟩
  · rcases enableRoutingVlan_outcome enabled with ⟨_, isSome, routed, _⟩ | ⟨_, _, isNone, _⟩
    · refine ⟨_, isSome, ?_⟩
      have deletes : env.CookieDeletesSucceed := fun calls _ _ asic => succeeds.calls calls _ asic
      rw [disableRouting_asic deletes]
      simp only [internalVlanReleased, Bool.false_eq_true, if_false]
      rw [routed, routed_without, without_unused unused]
    · obtain ⟨l3Intf, fpa, isSome⟩ := enableRoutingVlan_ok succeeds hw.fpa vlanId mac
      rw [enabled, isNone] at isSome
      cases isSome
  · rcases enableRoutingVlan_outcome enabled with ⟨_, _, _, accepted⟩ | ⟨flow, _, isNone, unwound⟩
    · obtain ⟨table, flow, isRefused⟩ := refused
      exact (accepted _ isRefused).elim
    · refine ⟨isNone, ?_⟩
      rw [unwound deletes]
      exact without_unused fun table cookie deleted =>
        unused table cookie (flow.unwound_subset table deleted)
  · have routes : Issues env (RoutesOn vlanId) hw.fpa after := by
      have issued := @enableRoutingVlan_routes env hw.fpa vlanId mac
      rwa [enabled] at issued
    have apart : other.val ≠ vlanId.val := fun same => different (Fin.ext same)
    refine ⟨(GrownOn.of_issues routes unused).sameFlowsOf vlanId.isLt other.isLt apart, ?_⟩
    rintro l3Intf rfl
    obtain ⟨isVlan, onVlan⟩ : l3Intf.vlanIntf = false ∧ l3Intf.vlanId = vlanId := by
      rcases enableRoutingVlan_outcome enabled with ⟨_, isSome, _⟩ | ⟨_, _, isNone, _⟩
      · cases isSome
        exact ⟨rfl, rfl⟩
      · cases isNone
    have unroutes := @disableRouting_routes env { hw with fpa := after } l3Intf
    rw [internalVlanReleased, isVlan, onVlan] at unroutes
    exact (GrownOn.of_issues (routes.trans unroutes) unused).sameFlowsOf vlanId.isLt other.isLt apart

theorem routing_on_vlan_is_undone_idle : ∃ l3Intf after,
    opsFpaEnableRoutingVlan idealEnv bareSys.hw.fpa 10 1#48 = (some l3Intf, after) ∧
    after.asic ≠ bareSys.hw.fpa.asic ∧
    (opsFpaDisableRouting idealEnv { bareSys.hw with fpa := after } l3Intf).fpa.asic =
      bareSys.hw.fpa.asic := by
  obtain ⟨restores, _⟩ := routing_on_vlan_is_undone idealEnv bareSys.hw ⟨10, by decide⟩ 1#48
    (by rintro table cookie _ ⟨flow, member, _⟩; cases member) rfl
  obtain ⟨l3Intf, isSome, restored⟩ := restores idealEnv_allSucceed
  refine ⟨l3Intf, _, Prod.ext isSome rfl, ?_, restored⟩
  intro same
  have grown := congrArg (fun asic => (asic.flows .termination).length) same
  exact absurd grown (by decide)

end FpaPlugin
