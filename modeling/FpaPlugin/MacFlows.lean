import FpaPlugin.HwSpec
import FpaPlugin.RouteReplace

/-! The destination MACs that the termination and the L2-bridging table hold for a VLAN: what
routing on that VLAN makes of them, and that nothing else touches them. -/

namespace FpaPlugin

def FlowEntry.destMac : {table : FlowTableType} → FlowEntry table → Option EthAddr
  | .termination, flow => some (TerminationFlow.destMac flow.data)
  | .l2Bridging, flow => some (L2BridgingFlow.destMac flow.data)
  | .controlPkt, _ => none
  | .vlan, _ => none
  | .l3Unicast, _ => none

def macTables : List FlowTableType := [.termination, .l2Bridging]

namespace Asic

def macsOn (asic : Asic) (vlanId : Nat) (table : FlowTableType) : List EthAddr :=
  ((asic.flows table).filter fun flow => flow.vlanId = some vlanId).filterMap FlowEntry.destMac

/-- The VLAN has a termination and an ARP flow, and none that carries another MAC. -/
def FlowsCarry (asic : Asic) (vlanId : Nat) (mac : EthAddr) : Prop :=
  ∀ table ∈ macTables, asic.macsOn vlanId table ≠ [] ∧
    ∀ found ∈ asic.macsOn vlanId table, found = mac

theorem flowsCarry_iff {asic : Asic} {vlanId : Nat} {mac : EthAddr} :
    (macTables.all fun table => !(asic.macsOn vlanId table).isEmpty &&
      (asic.macsOn vlanId table).all fun found => found = mac) = true ↔
    asic.FlowsCarry vlanId mac := by
  simp [FlowsCarry, List.all_eq_true]

instance FlowsCarry.decidable (asic : Asic) (vlanId : Nat) (mac : EthAddr) :
    Decidable (asic.FlowsCarry vlanId mac) :=
  decidable_of_iff _ flowsCarry_iff

/-- No termination or ARP flow of the VLAN is left under another MAC. -/
def clearFor (asic : Asic) (vlanId : Nat) (mac : EthAddr) : Bool :=
  macTables.all fun table => (asic.macsOn vlanId table).all fun found => found = mac

def Cookied (asic : Asic) : Prop :=
  ∀ table ∈ macTables, ∀ flow ∈ asic.flows table, flow.vlanId = some flow.cookie

end Asic

/-- Of the termination and ARP flows, the call touches only those of `vlans`. -/
def MacCall (vlans : Nat → Prop) : FpaCall → Prop
  | .flowEntryAdd table flow =>
      table ∈ macTables → flow.vlanId = some flow.cookie ∧ vlans flow.cookie
  | .flowTableCookieDelete table cookie => table ∈ macTables → vlans cookie
  | _ => True

def noVlan (_ : Nat) : Prop := False

section Tables

variable {asic : Asic} {vlans : Nat → Prop} {call : FpaCall}

theorem Asic.macsOn_congr {other : Asic} {table : FlowTableType}
    (same : other.flows table = asic.flows table) (vlanId : Nat) :
    other.macsOn vlanId table = asic.macsOn vlanId table := by
  rw [macsOn, macsOn, same]

theorem Asic.Cookied.apply (cookied : asic.Cookied) (isMac : MacCall vlans call) :
    (asic.apply call).Cookied := by
  intro table ofMac flow member
  cases call with
  | flowEntryAdd added entry =>
      by_cases here : table = added
      · subst here
        rw [flows_flowEntryAdd, List.mem_append, List.mem_singleton] at member
        rcases member with old | rfl
        · exact cookied table ofMac flow old
        · exact (isMac ofMac).1
      · rw [flows_flowEntryAdd_ne _ _ here] at member
        exact cookied table ofMac flow member
  | flowTableCookieDelete deleted cookie =>
      by_cases here : table = deleted
      · subst here
        rw [flows_cookieDelete] at member
        exact cookied table ofMac flow (List.mem_of_mem_filter member)
      · rw [flows_cookieDelete_ne _ _ here] at member
        exact cookied table ofMac flow member
  | flowEntryInit => exact cookied table ofMac flow member
  | groupTableEntryAdd =>
      rw [flows_groupTableEntryAdd] at member
      exact cookied table ofMac flow member
  | groupTableEntryDelete => exact cookied table ofMac flow member
  | groupEntryBucketAdd => exact cookied table ofMac flow member

theorem Asic.macsOn_apply (cookied : asic.Cookied) (isMac : MacCall vlans call) {vlanId : Nat}
    (spared : ¬ vlans vlanId) {table : FlowTableType} (ofMac : table ∈ macTables) :
    (asic.apply call).macsOn vlanId table = asic.macsOn vlanId table := by
  cases call with
  | flowEntryAdd added entry =>
      by_cases here : table = added
      · subst here
        obtain ⟨isVlan, touched⟩ := isMac ofMac
        have foreign : entry.vlanId ≠ some vlanId := by
          rintro same
          exact spared (Option.some.inj (isVlan.symm.trans same) ▸ touched)
        simp [macsOn, flows_flowEntryAdd, foreign]
      · exact macsOn_congr (flows_flowEntryAdd_ne _ _ here) vlanId
  | flowTableCookieDelete deleted cookie =>
      by_cases here : table = deleted
      · subst here
        have touched : cookie ≠ vlanId := fun same => spared (same ▸ isMac ofMac)
        rw [macsOn, macsOn, flows_cookieDelete, List.filter_filter]
        congr 1
        refine List.filter_congr fun flow member => ?_
        rw [cookied table ofMac flow member]
        by_cases same : flow.cookie = vlanId
        · simp [same, Ne.symm touched]
        · simp [same]
      · exact macsOn_congr (flows_cookieDelete_ne _ _ here) vlanId
  | flowEntryInit => rfl
  | groupTableEntryAdd => exact macsOn_congr (by rw [flows_groupTableEntryAdd]) vlanId
  | groupTableEntryDelete => rfl
  | groupEntryBucketAdd => rfl

theorem VlanCall.sparesMacs {released : Nat → Prop} :
    ∀ call, VlanCall released call → MacCall noVlan call := by
  intro call isVlan
  cases call with
  | flowEntryAdd table flow =>
      intro ofMac
      rw [show table = _ from isVlan] at ofMac
      exact absurd ofMac (by decide)
  | flowTableCookieDelete table cookie =>
      intro ofMac
      rw [show table = _ from isVlan] at ofMac
      exact absurd ofMac (by decide)
  | flowEntryInit | groupTableEntryAdd | groupTableEntryDelete | groupEntryBucketAdd => trivial

theorem MacCall.of_noVlan : ∀ call, MacCall noVlan call → MacCall vlans call := by
  intro call spares
  cases call with
  | flowEntryAdd table flow => exact fun ofMac => (spares ofMac).2.elim
  | flowTableCookieDelete table cookie => exact fun ofMac => (spares ofMac).elim
  | flowEntryInit | groupTableEntryAdd | groupTableEntryDelete | groupEntryBucketAdd => trivial

theorem routingCookies_macTables {vlanId cookie : Nat} {table : FlowTableType}
    (ofMac : table ∈ macTables) (carried : cookie ∈ routingCookies vlanId table) :
    cookie = vlanId := by
  simp only [macTables, List.mem_cons, List.not_mem_nil, or_false] at ofMac
  rcases ofMac with rfl | rfl
  · exact List.mem_singleton.mp carried
  · exact List.mem_singleton.mp carried

theorem RoutedVlanCall.onVlan {vlanId : Nat} :
    ∀ call, RoutedVlanCall vlanId call → MacCall (fun other => other = vlanId) call := by
  rintro call (isVlan | routes)
  · exact MacCall.of_noVlan call (isVlan.sparesMacs)
  · cases call with
    | flowEntryAdd table flow =>
        intro ofMac
        have isCookie := routingCookies_macTables ofMac routes.2
        exact ⟨isCookie.symm ▸ routes.1, isCookie⟩
    | flowTableCookieDelete table cookie =>
        exact fun ofMac => routingCookies_macTables ofMac routes
    | flowEntryInit | groupTableEntryAdd | groupTableEntryDelete | groupEntryBucketAdd =>
        exact routes.elim

end Tables

section Operations

variable {env : Env} {vlans : Nat → Prop} {start fpa : Fpa}

theorem Issues.cookied (issued : Issues env (MacCall vlans) start fpa)
    (cookied : start.asic.Cookied) : fpa.asic.Cookied :=
  issued.invariant Asic.Cookied (fun _ _ isMac holds => holds.apply isMac) cookied

theorem Issues.macsOn (issued : Issues env (MacCall vlans) start fpa)
    (cookied : start.asic.Cookied) {vlanId : Nat} (spared : ¬ vlans vlanId)
    {table : FlowTableType} (ofMac : table ∈ macTables) :
    fpa.asic.macsOn vlanId table = start.asic.macsOn vlanId table := by
  refine (issued.invariant (fun asic => asic.Cookied ∧
    asic.macsOn vlanId table = start.asic.macsOn vlanId table) ?_ ⟨cookied, rfl⟩).2
  rintro asic call isMac ⟨holds, same⟩
  exact ⟨holds.apply isMac, (Asic.macsOn_apply holds isMac spared ofMac).trans same⟩

theorem Issues.flowsCarry (issued : Issues env (MacCall vlans) start fpa)
    (cookied : start.asic.Cookied) {vlanId : Nat} {mac : EthAddr} (spared : ¬ vlans vlanId)
    (carries : start.asic.FlowsCarry vlanId mac) : fpa.asic.FlowsCarry vlanId mac := by
  intro table ofMac
  rw [issued.macsOn cookied spared ofMac]
  exact carries table ofMac

theorem addL3Group_spares (fpa : Fpa) (l2Group arpIndex vid mtu : Nat) (srcMac dstMac : EthAddr) :
    Issues env (MacCall noVlan) fpa
      (opsFpaRouteAddL3Group env fpa l2Group arpIndex vid mtu srcMac dstMac).2 := by
  simp only [opsFpaRouteAddL3Group]
  split
  · exact .none
  · rename_i l3Group built
    have added : Issues env (MacCall noVlan) fpa
        (fpa.issue env (.groupTableEntryAdd l3Group)).2 := .one trivial
    split
    · exact .none
    · split
      · rename_i failed
        rwa [failed] at added
      · rename_i between ok
        rw [ok] at added
        have filled : Issues env (MacCall noVlan) fpa (between.issue env
            (.groupEntryBucketAdd l3Group (.l3Unicast ⟨dstMac, srcMac, vid, mtu, l2Group⟩))).2 :=
          added.call trivial
        split
        · rename_i done
          rwa [done] at filled
        · rename_i refused failed
          rw [failed] at filled
          exact filled.call trivial

theorem addRouteFlow_spares (fpa : Fpa) (flow : FlowEntry .l3Unicast) :
    Issues env (MacCall noVlan) fpa (addRouteFlow env fpa flow).2 := by
  have unicast : MacCall noVlan (.flowEntryAdd .l3Unicast flow) :=
    fun ofMac => absurd ofMac (by decide)
  have ready : Issues env (MacCall noVlan) fpa (fpa.issue env (.flowEntryInit .l3Unicast)).2 :=
    .one trivial
  simp only [addRouteFlow]
  split
  · rename_i failed
    rwa [failed] at ready
  · rename_i between ok
    rw [ok] at ready
    exact ready.call unicast

theorem delRoute_spares (fpa : Fpa) (ipv4 : InAddr) (maskLen : Int) :
    Issues env (MacCall noVlan) fpa (opsFpaRouteDelRoute env fpa ipv4 maskLen).2 :=
  .one fun ofMac => absurd ofMac (by decide)

theorem delGroup_spares (fpa : Fpa) (group : Nat) :
    Issues env (MacCall noVlan) fpa (opsFpaRouteDelGroup env fpa group).2 :=
  .one trivial

variable {s next : Sys} {up : OfprotoRef} {aux : Aux} {rc : Rc}

theorem installHost_spares {vlanId mtu : Nat} {egress : Int} {srcMac dstMac : EthAddr}
    {ipv4Addr : InAddr}
    (taken : installHost env s up aux vlanId mtu egress srcMac dstMac ipv4Addr = (rc, next)) :
    Issues env (MacCall noVlan) s.hw.fpa next.hw.fpa := by
  have l2 := (@addL2Group_issues env s.hw.fpa egress vlanId false).mono VlanCall.sparesMacs
  simp only [installHost] at taken
  split at taken
  · rename_i failed
    cases taken
    rwa [failed] at l2
  · rename_i l2Group fpaL2 added
    rw [added] at l2
    split at taken
    · cases taken
      exact l2.trans (delGroup_spares _ _)
    · have l3 := l2.trans
        (addL3Group_spares fpaL2 l2Group (s.arpIndices 0) vlanId mtu srcMac dstMac)
      split at taken
      · rename_i failed
        cases taken
        rw [failed] at l3
        exact l3.trans (delGroup_spares _ _)
      · rename_i l3Group fpaL3 addedL3
        rw [addedL3] at l3
        have routed := l3.trans
          (addRouteFlow_spares fpaL3 (routeFlow env l3Group .none ipv4Addr 32))
        rw [← opsFpaRouteAddRoute] at routed
        split at taken
        · rename_i failed
          cases taken
          rw [failed] at routed
          exact (routed.trans (delGroup_spares _ _)).trans (delGroup_spares _ _)
        · rename_i ok
          cases taken
          rwa [ok] at routed

theorem addL3HostEntry_spares {isIpv6Addr : Bool} {ipAddr : CString}
    {nextHopMacAddr : Option CString} {reply : Option Int}
    (taken : addL3HostEntry env s up aux isIpv6Addr ipAddr nextHopMacAddr = .ok (rc, reply, next)) :
    Issues env (MacCall noVlan) s.hw.fpa next.hw.fpa := by
  rcases addL3HostEntry_cases taken with ⟨_, rfl⟩ | ⟨_, _, _, _, _, _, _, installed⟩
  · exact .none
  · exact installHost_spares installed

theorem hostDeletedHw_onVlan (hw : Hw) (l3Intf : L3Intf) (entry : HostTableEntry) :
    Issues env (MacCall fun vlanId => vlanId = l3Intf.vlanId ∧ releasedIntf l3Intf = none) hw.fpa
      (hostDeletedHw env hw l3Intf entry).fpa := by
  have deleted : Issues env (MacCall noVlan) hw.fpa
      (opsFpaRouteDelGroup env (opsFpaRouteDelGroup env
        (opsFpaRouteDelRoute env hw.fpa entry.ipv4Addr 32).2 entry.l3Group).2 entry.l2Group).2 :=
    ((delRoute_spares _ _ _).trans (delGroup_spares _ _)).trans (delGroup_spares _ _)
  simp only [hostDeletedHw]
  split
  · rename_i released
    have disabled : ∀ fpa, Issues env (RoutedVlanCall l3Intf.vlanId) fpa
        (opsFpaDisableRouting env { hw with fpa } l3Intf).fpa :=
      fun fpa => disableRouting_issues { hw with fpa } l3Intf
    simp only [released, and_true]
    exact (deleted.mono MacCall.of_noVlan).trans ((disabled _).mono RoutedVlanCall.onVlan)
  · exact deleted.mono MacCall.of_noVlan

theorem l3RouteAction_spares {action : RouteAction} {route : OfprotoRoute}
    (taken : l3RouteAction env s action route = (rc, next)) :
    Issues env (MacCall noVlan) s.hw.fpa next.hw.fpa := by
  rcases l3RouteAction_cases taken with ⟨_, _, rfl⟩ |
    ⟨ipv4, maskLen, _, ⟨_, _, _, isDeleted⟩ | ⟨flow, _, _, replaced⟩⟩
  · exact .none
  · rw [isDeleted]
    exact delRoute_spares _ _ _
  · have routed := (delRoute_spares s.hw.fpa ipv4 maskLen).trans
      (addRouteFlow_spares (opsFpaRouteDelRoute env s.hw.fpa ipv4 maskLen).2 flow)
    simp only [replaceRoute] at replaced
    split at replaced
    · rename_i added
      cases replaced
      rwa [added] at routed
    · rename_i failed
      cases replaced
      rwa [failed] at routed

end Operations

end FpaPlugin
