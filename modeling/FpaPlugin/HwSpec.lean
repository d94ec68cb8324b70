import FpaPlugin.VlanSpec
import FpaPlugin.BundleSpec

/-! Which FPA calls the operations below the ofproto layer make. VLAN membership and
routed interfaces live in L2-interface groups and in the tables other than the unicast
routing table; hosts and routes are all that reaches beyond. -/

namespace FpaPlugin

variable {env : Env}

/-- `fpa` is reached from `start` by calls that all meet `allowed`, whatever became of them. -/
inductive Issues (env : Env) (allowed : FpaCall → Prop) (start : Fpa) : Fpa → Prop
  | none : Issues env allowed start start
  | call {fpa : Fpa} {call : FpaCall} : Issues env allowed start fpa → allowed call →
      Issues env allowed start (fpa.issue env call).2

namespace Issues

variable {allowed : FpaCall → Prop} {start between fpa : Fpa}

theorem one {call : FpaCall} (isAllowed : allowed call) :
    Issues env allowed start (start.issue env call).2 :=
  Issues.none.call isAllowed

theorem trans (first : Issues env allowed start between) (second : Issues env allowed between fpa) :
    Issues env allowed start fpa := by
  induction second with
  | none => exact first
  | call _ isAllowed ih => exact ih.call isAllowed

theorem mono {wider : FpaCall → Prop} (issued : Issues env allowed start fpa)
    (widens : ∀ call, allowed call → wider call) : Issues env wider start fpa := by
  induction issued with
  | none => exact .none
  | call _ isAllowed ih => exact ih.call (widens _ isAllowed)

theorem invariant (issued : Issues env allowed start fpa) (holds : Asic → Prop)
    (kept : ∀ asic call, allowed call → holds asic → holds (asic.apply call))
    (initial : holds start.asic) : holds fpa.asic := by
  induction issued with
  | none => exact initial
  | call _ isAllowed ih =>
      simp only [Fpa.issue]
      split
      · exact kept _ _ isAllowed ih
      · exact ih

end Issues

def l3GroupBase : Nat := 2 ^ 28

/-- A call that stays below the routing layer, and deletes only `released` groups. -/
def L2Call (released : Nat → Prop) : FpaCall → Prop
  | .flowEntryInit _ => True
  | .flowEntryAdd table _ => table ≠ .l3Unicast
  | .flowTableCookieDelete table _ => table ≠ .l3Unicast
  | .groupTableEntryAdd group => group < l3GroupBase
  | .groupTableEntryDelete group => group < l3GroupBase ∧ released group
  | .groupEntryBucketAdd group _ => group < l3GroupBase

/-- A call that VLAN membership makes: its flows are all in the VLAN table. -/
def VlanCall (released : Nat → Prop) : FpaCall → Prop
  | .flowEntryInit _ => True
  | .flowEntryAdd table _ => table = .vlan
  | .flowTableCookieDelete table _ => table = .vlan
  | .groupTableEntryAdd group => group < l3GroupBase
  | .groupTableEntryDelete group => group < l3GroupBase ∧ released group
  | .groupEntryBucketAdd group _ => group < l3GroupBase

theorem VlanCall.any {released : Nat → Prop} :
    ∀ call, VlanCall released call → VlanCall (fun _ => True) call := by
  intro call isVlan
  cases call with
  | groupTableEntryDelete => exact ⟨isVlan.1, trivial⟩
  | _ => exact isVlan

theorem VlanCall.isL2 {released : Nat → Prop} :
    ∀ call, VlanCall released call → L2Call released call := by
  intro call isVlan
  cases call with
  | flowEntryAdd table flow => exact fun absurdity => by cases isVlan.symm.trans absurdity
  | flowTableCookieDelete table cookie =>
      exact fun absurdity => by cases isVlan.symm.trans absurdity
  | _ => exact isVlan

theorem l2Group_lt {port vid group : Nat}
    (built : fpaLibGroupIdentifierBuild env (.l2Interface port vid) = some group) :
    group < l3GroupBase := by
  obtain ⟨portBound, vidBound, rfl⟩ := l2Group_eq built
  have base : l3GroupBase = 268435456 := rfl
  omega

theorem l3Group_eq {index group : Nat}
    (built : fpaLibGroupIdentifierBuild env (.l3Unicast index) = some group) :
    group = 2 * l3GroupBase + index := by
  have bound : index < 2 ^ 28 := groupIdent_fits built
  rw [groupIdent_eq built, GroupIdent.identifier, ← Nat.shiftLeft_add_eq_or_of_lt bound,
    Nat.shiftLeft_eq]
  rfl

namespace Asic

variable {asic : Asic}

theorem bucketOf_groupTableEntryAdd {added group : Nat} (different : group ≠ added) :
    (asic.apply (.groupTableEntryAdd added)).bucketOf group = asic.bucketOf group := by
  simp only [apply]
  split
  · rfl
  · simp [bucketOf, List.find?_append, Ne.symm different]

theorem bucketOf_groupTableEntryDelete {deleted group : Nat} (different : group ≠ deleted) :
    (asic.apply (.groupTableEntryDelete deleted)).bucketOf group = asic.bucketOf group := by
  simp only [apply, bucketOf, List.find?_filter]
  congr 2
  funext entry
  by_cases here : entry.groupIdentifier = group
  · simp [here, different]
  · simp [here]

theorem bucketOf_groupEntryBucketAdd_ne {changed group : Nat} {bucket : Bucket}
    (different : group ≠ changed) :
    (asic.apply (.groupEntryBucketAdd changed bucket)).bucketOf group = asic.bucketOf group := by
  simp only [apply, bucketOf]
  induction asic.groups with
  | nil => rfl
  | cons entry rest ih =>
      by_cases changes : entry.groupIdentifier = changed
      · have other : changed ≠ group := Ne.symm different
        simpa [changes, other] using ih
      · by_cases here : entry.groupIdentifier = group
        · simp [here, different]
        · simpa [changes, here] using ih

theorem bucketOf_groupEntryBucketAdd {group : Nat} {bucket : Bucket}
    (present : asic.hasGroup group = true) :
    (asic.apply (.groupEntryBucketAdd group bucket)).bucketOf group = some bucket := by
  obtain ⟨entry, member, isGroup⟩ := hasGroup_iff.mp present
  simp only [apply, bucketOf]
  generalize asic.groups = groups at member
  induction groups with
  | nil => cases member
  | cons first rest ih =>
      by_cases here : first.groupIdentifier = group
      · simp [here]
      · rcases List.mem_cons.mp member with same | later
        · exact (here (same ▸ isGroup)).elim
        · simpa [here] using ih later

end Asic

structure SameL3 (asic other : Asic) : Prop where
  flows : other.flows .l3Unicast = asic.flows .l3Unicast
  buckets : ∀ group, l3GroupBase ≤ group → other.bucketOf group = asic.bucketOf group
  groups : ∀ group, l3GroupBase ≤ group → other.hasGroup group = asic.hasGroup group

theorem SameL3.refl (asic : Asic) : SameL3 asic asic := ⟨rfl, fun _ _ => rfl, fun _ _ => rfl⟩

theorem SameL3.trans {asic between other : Asic} (first : SameL3 asic between)
    (second : SameL3 between other) : SameL3 asic other where
  flows := second.flows.trans first.flows
  buckets := fun group bound => (second.buckets group bound).trans (first.buckets group bound)
  groups := fun group bound => (second.groups group bound).trans (first.groups group bound)

theorem SameL3.apply (asic : Asic) {released : Nat → Prop} {call : FpaCall}
    (isL2 : L2Call released call) : SameL3 asic (asic.apply call) := by
  have ne_of_base : ∀ {low high : Nat}, low < l3GroupBase → l3GroupBase ≤ high → high ≠ low := by
    omega
  cases call with
  | flowEntryInit table => exact SameL3.refl asic
  | flowEntryAdd table entry =>
      exact ⟨Asic.flows_flowEntryAdd_ne asic entry (Ne.symm isL2), fun _ _ => rfl, fun _ _ => rfl⟩
  | flowTableCookieDelete table cookie =>
      exact ⟨Asic.flows_cookieDelete_ne asic cookie (Ne.symm isL2), fun _ _ => rfl, fun _ _ => rfl⟩
  | groupTableEntryAdd added =>
      refine ⟨by rw [Asic.flows_groupTableEntryAdd], fun group bound => ?_, fun group bound => ?_⟩
      · exact Asic.bucketOf_groupTableEntryAdd (ne_of_base isL2 bound)
      · simp [ne_of_base isL2 bound]
  | groupTableEntryDelete deleted =>
      refine ⟨rfl, fun group bound => ?_, fun group bound => ?_⟩
      · exact Asic.bucketOf_groupTableEntryDelete (ne_of_base isL2.1 bound)
      · simp [ne_of_base isL2.1 bound]
  | groupEntryBucketAdd changed bucket =>
      refine ⟨rfl, fun group bound => ?_, fun group bound => ?_⟩
      · exact Asic.bucketOf_groupEntryBucketAdd_ne (ne_of_base isL2 bound)
      · exact Asic.hasGroup_groupEntryBucketAdd asic changed group bucket

theorem Issues.sameL3 {released : Nat → Prop} {start fpa : Fpa}
    (issued : Issues env (L2Call released) start fpa) : SameL3 start.asic fpa.asic :=
  issued.invariant (SameL3 start.asic) (fun _ _ isL2 same => same.trans (SameL3.apply _ isL2))
    (SameL3.refl _)

section Operations

def isL2Group (env : Env) (pid : Int) (vid group : Nat) : Prop :=
  fpaLibGroupIdentifierBuild env (.l2Interface (portNum pid) vid) = some group

theorem addL2Group_issues (fpa : Fpa) (pid : Int) (vid : Nat) (popTag : Bool) :
    Issues env (VlanCall (isL2Group env pid vid)) fpa
      (opsFpaRouteAddL2Group env fpa pid vid popTag).2 := by
  simp only [opsFpaRouteAddL2Group]
  split
  · exact .none
  · rename_i group built
    have bound := l2Group_lt built
    have added : Issues env (VlanCall (isL2Group env pid vid)) fpa
        (fpa.issue env (.groupTableEntryAdd group)).2 := .one bound
    split
    · rename_i failed
      rwa [failed] at added
    · rename_i between ok
      rw [ok] at added
      have filled : Issues env (VlanCall (isL2Group env pid vid)) fpa (between.issue env
          (.groupEntryBucketAdd group (.l2Interface (portNum pid) popTag))).2 :=
        added.call bound
      split
      · rename_i done
        rwa [done] at filled
      · rename_i refused failed
        rw [failed] at filled
        exact filled.call ⟨bound, built⟩

theorem vlanAdd_issues (hw : Hw) (pid : Int) (vidx : Nat) :
    Issues env (VlanCall (isL2Group env pid (vidxVid vidx))) hw.fpa
      (opsFpaVlanAdd env hw pid vidx).2.fpa := by
  simp only [opsFpaVlanAdd]
  split
  · have issued := @addL2Group_issues env hw.fpa pid (vidxVid vidx) (vidxArg vidx)
    split
    · rename_i failed
      rwa [failed] at issued
    · rename_i added
      rw [added] at issued
      simpa using issued
  · simp only [fpa_observe]
    exact .one (by simp [VlanCall])

theorem vlanDel_issues (hw : Hw) (pid : Int) (vidx : Nat) :
    Issues env (VlanCall (isL2Group env pid (vidxVid vidx))) hw.fpa
      (opsFpaVlanDel env hw pid vidx).2.fpa := by
  simp only [opsFpaVlanDel]
  split
  · split
    · exact .none
    · rename_i group built
      simp only [fpa_observe]
      exact .one ⟨l2Group_lt built, built⟩
  · simp only [fpa_observe]
    exact .one (by simp [VlanCall])

theorem vlanAdd_any (hw : Hw) (pid : Int) (vidx : Nat) :
    Issues env (VlanCall fun _ => True) hw.fpa (opsFpaVlanAdd env hw pid vidx).2.fpa :=
  (vlanAdd_issues hw pid vidx).mono VlanCall.any

theorem vlanDel_any (hw : Hw) (pid : Int) (vidx : Nat) :
    Issues env (VlanCall fun _ => True) hw.fpa (opsFpaVlanDel env hw pid vidx).2.fpa :=
  (vlanDel_issues hw pid vidx).mono VlanCall.any

theorem vlanAddInternal_issues (hw : Hw) (pid : Int) (vid : Nat) :
    Issues env (VlanCall fun _ => True) hw.fpa (opsFpaVlanAddInternal env hw pid vid).2.fpa := by
  have ingress := @vlanAdd_any env hw pid (vidxIngress vid false)
  simp only [opsFpaVlanAddInternal]
  split
  · rename_i failed
    rwa [failed] at ingress
  · rename_i between added
    rw [added] at ingress
    have both := ingress.trans (vlanAdd_any between pid (vidxEgress vid false))
    split
    · rename_i failed
      rw [failed] at both
      exact both.trans (vlanDel_any _ pid (vidxIngress vid false))
    · rename_i after addedBoth
      rw [addedBoth] at both
      split
      · exact both
      · exact both

theorem vlanDelInternal_issues (hw : Hw) (pid : Int) (vid : Nat) :
    Issues env (VlanCall fun _ => True) hw.fpa (opsFpaVlanDelInternal env hw pid vid).2.fpa :=
  (vlanDel_any hw pid (vidxIngress vid false)).trans (vlanDel_any _ pid (vidxEgress vid false))

def FlowEntry.vlanId : {table : FlowTableType} → FlowEntry table → Option Nat
  | .controlPkt, flow => some (ControlPktFlow.vlanId flow.data)
  | .vlan, flow => some (VlanFlow.vlanId flow.data)
  | .termination, flow => some (TerminationFlow.vlanId flow.data)
  | .l2Bridging, flow => some (L2BridgingFlow.vlanId flow.data)
  | .l3Unicast, _ => none

def arpCookie (vlanId : Nat) : Nat := opsFpaControlPktCookie ethertypeArp vlanId

def dhcpCookie (vlanId : Nat) : Nat := opsFpaControlPktCookie ethertypeIp vlanId

def routingCookies (vlanId : Nat) : FlowTableType → List Nat
  | .controlPkt => [arpCookie vlanId, dhcpCookie vlanId]
  | .l2Bridging => [opsFpaL2BridgingCookie vlanId]
  | .termination => [opsFpaTerminationCookie vlanId]
  | .vlan => []
  | .l3Unicast => []

/-- A call that adds a flow of the VLAN, or deletes under one of its cookies. -/
def RoutesOn (vlanId : Nat) : FpaCall → Prop
  | .flowEntryAdd table flow => flow.vlanId = some vlanId ∧ flow.cookie ∈ routingCookies vlanId table
  | .flowTableCookieDelete table cookie => cookie ∈ routingCookies vlanId table
  | _ => False

def FlowCall : FpaCall → Prop
  | .flowEntryInit _ => True
  | .flowEntryAdd table _ => table ≠ .l3Unicast
  | .flowTableCookieDelete table _ => table ≠ .l3Unicast
  | _ => False

theorem FlowCall.isL2 {released : Nat → Prop} : ∀ call, FlowCall call → L2Call released call := by
  intro call isFlow
  cases call with
  | flowEntryInit | flowEntryAdd | flowTableCookieDelete => exact isFlow
  | groupTableEntryAdd | groupTableEntryDelete | groupEntryBucketAdd => exact isFlow.elim

theorem RoutesOn.isFlow {vlanId : Nat} : ∀ call, RoutesOn vlanId call → FlowCall call := by
  intro call routes
  cases call with
  | flowEntryAdd table flow =>
      rintro rfl
      cases routes.2
  | flowTableCookieDelete table cookie =>
      rintro rfl
      cases routes
  | flowEntryInit | groupTableEntryAdd | groupTableEntryDelete | groupEntryBucketAdd =>
      exact routes.elim

theorem arpCookie_mem (vlanId : Nat) : arpCookie vlanId ∈ routingCookies vlanId .controlPkt :=
  List.mem_cons_self

theorem dhcpCookie_mem (vlanId : Nat) : dhcpCookie vlanId ∈ routingCookies vlanId .controlPkt :=
  List.mem_cons_of_mem _ (List.mem_singleton_self _)

theorem l2BridgingCookie_mem (vlanId : Nat) :
    opsFpaL2BridgingCookie vlanId ∈ routingCookies vlanId .l2Bridging :=
  List.mem_singleton_self _

theorem terminationCookie_mem (vlanId : Nat) :
    opsFpaTerminationCookie vlanId ∈ routingCookies vlanId .termination :=
  List.mem_singleton_self _

theorem RoutesOn.delete {vlanId cookie : Nat} {table : FlowTableType}
    (carried : cookie ∈ routingCookies vlanId table) :
    RoutesOn vlanId (.flowTableCookieDelete table cookie) := carried

theorem enableRoutingVlan_routes (fpa : Fpa) (vlanId : Nat) (mac : EthAddr) :
    Issues env (RoutesOn vlanId) fpa (opsFpaEnableRoutingVlan env fpa vlanId mac).2 := by
  have arp : Issues env (RoutesOn vlanId) fpa (opsFpaVlanSetArpBcast env fpa vlanId).2 :=
    .one ⟨rfl, arpCookie_mem vlanId⟩
  simp only [opsFpaEnableRoutingVlan]
  split
  · rename_i failed
    rwa [failed] at arp
  · rename_i between ok
    rw [ok] at arp
    have forward : Issues env (RoutesOn vlanId) fpa (opsFpaSetArpFwd env between vlanId mac).2 :=
      arp.call ⟨rfl, l2BridgingCookie_mem vlanId⟩
    split
    · rename_i failed
      rw [failed] at forward
      exact forward.call (arpCookie_mem vlanId)
    · rename_i forwarded okForward
      rw [okForward] at forward
      have dhcp : Issues env (RoutesOn vlanId) fpa (opsFpaVlanSetUdpDhcp env forwarded vlanId).2 :=
        forward.call ⟨rfl, dhcpCookie_mem vlanId⟩
      split
      · rename_i failed
        rw [failed] at dhcp
        exact (dhcp.call (.delete (l2BridgingCookie_mem vlanId))).call (arpCookie_mem vlanId)
      · rename_i answered okDhcp
        rw [okDhcp] at dhcp
        have routed : Issues env (RoutesOn vlanId) fpa
            (opsFpaVlanEnableUnicastRouting env answered vlanId mac).2 :=
          dhcp.call ⟨rfl, terminationCookie_mem vlanId⟩
        split
        · rename_i failed
          rw [failed] at routed
          exact ((routed.call (.delete (dhcpCookie_mem vlanId))).call
            (.delete (l2BridgingCookie_mem vlanId))).call (arpCookie_mem vlanId)
        · rename_i okRouted
          rwa [okRouted] at routed

theorem enableRoutingVlan_issues (fpa : Fpa) (vlanId : Nat) (mac : EthAddr) :
    Issues env FlowCall fpa (opsFpaEnableRoutingVlan env fpa vlanId mac).2 :=
  (enableRoutingVlan_routes fpa vlanId mac).mono RoutesOn.isFlow

/-- A call of routing on the VLAN: of a system interface it makes the port a member too. -/
def RoutedVlanCall (vlanId : Nat) (call : FpaCall) : Prop :=
  VlanCall (fun _ => True) call ∨ RoutesOn vlanId call

theorem RoutedVlanCall.isL2 {vlanId : Nat} :
    ∀ call, RoutedVlanCall vlanId call → L2Call (fun _ => True) call := by
  rintro call (isVlan | routes)
  · exact isVlan.isL2
  · exact FlowCall.isL2 call (routes.isFlow)

theorem enableRouting_issues (hw : Hw) (type : NetdevType) (intfId : Int) (vlanId : Nat)
    (mac : EthAddr) : Issues env (RoutedVlanCall vlanId) hw.fpa
      (enableRouting env hw type intfId vlanId mac).2.fpa := by
  have onVlan : ∀ fpa, Issues env (RoutedVlanCall vlanId) fpa
      (opsFpaEnableRoutingVlan env fpa vlanId mac).2 :=
    fun fpa => (enableRoutingVlan_routes fpa vlanId mac).mono fun _ => .inr
  cases type with
  | system =>
      have added := (@vlanAddInternal_issues env hw intfId vlanId).mono fun _ =>
        (.inl : _ → RoutedVlanCall vlanId _)
      simp only [enableRouting, opsFpaEnableRoutingInterface]
      split
      · rename_i failed
        rwa [failed] at added
      · rename_i between ok
        rw [ok] at added
        have routed := added.trans (onVlan between.fpa)
        split
        · rename_i fpa failed
          rw [failed] at routed
          exact routed.trans
            ((vlanDelInternal_issues { between with fpa } intfId vlanId).mono fun _ => .inl)
        · rename_i enabled
          rwa [enabled] at routed
  | internal | vlansubint | loopback => exact onVlan hw.fpa

def internalVlanReleased (env : Env) (hw : Hw) (l3Intf : L3Intf) : Hw :=
  if l3Intf.vlanIntf then (opsFpaVlanDelInternal env hw l3Intf.intfId l3Intf.vlanId).2 else hw

theorem disableRouting_routes (hw : Hw) (l3Intf : L3Intf) :
    Issues env (RoutesOn l3Intf.vlanId) (internalVlanReleased env hw l3Intf).fpa
      (opsFpaDisableRouting env hw l3Intf).fpa := by
  simp only [opsFpaDisableRouting]
  rw [← internalVlanReleased]
  generalize internalVlanReleased env hw l3Intf = released
  have arp : Issues env (RoutesOn l3Intf.vlanId) released.fpa
      (opsFpaVlanUnsetArpBcast env released.fpa l3Intf.vlanId).2 := .one (arpCookie_mem _)
  split
  · rename_i failed
    rwa [failed] at arp
  · rename_i between ok
    rw [ok] at arp
    have forward : Issues env (RoutesOn l3Intf.vlanId) released.fpa
        (opsFpaUnsetArpFwd env between l3Intf.vlanId).2 := arp.call (l2BridgingCookie_mem _)
    split
    · rename_i failed
      rwa [failed] at forward
    · rename_i unforwarded okForward
      rw [okForward] at forward
      have dhcp : Issues env (RoutesOn l3Intf.vlanId) released.fpa
          (opsFpaVlanUnsetUdpDhcp env unforwarded l3Intf.vlanId).2 :=
        forward.call (dhcpCookie_mem _)
      split
      · rename_i failed
        rwa [failed] at dhcp
      · rename_i okDhcp
        rw [okDhcp] at dhcp
        exact dhcp.call (terminationCookie_mem _)

theorem disableRouting_flows (hw : Hw) (l3Intf : L3Intf) :
    Issues env FlowCall (internalVlanReleased env hw l3Intf).fpa
      (opsFpaDisableRouting env hw l3Intf).fpa :=
  (disableRouting_routes hw l3Intf).mono RoutesOn.isFlow

theorem disableRouting_issues (hw : Hw) (l3Intf : L3Intf) :
    Issues env (RoutedVlanCall l3Intf.vlanId) hw.fpa (opsFpaDisableRouting env hw l3Intf).fpa := by
  have released : Issues env (VlanCall fun _ => True) hw.fpa
      (internalVlanReleased env hw l3Intf).fpa := by
    rw [internalVlanReleased]
    split
    · exact vlanDelInternal_issues hw _ _
    · exact .none
  exact (released.mono fun _ => .inl).trans ((disableRouting_routes hw l3Intf).mono fun _ => .inr)

theorem disableRouting_l2 (hw : Hw) (l3Intf : L3Intf) :
    Issues env (L2Call fun _ => True) hw.fpa (opsFpaDisableRouting env hw l3Intf).fpa :=
  (disableRouting_issues hw l3Intf).mono RoutedVlanCall.isL2

theorem applyDiff_issues (hw : Hw) (vlans desired : Bitmap) (pid : Int) :
    Issues env (VlanCall fun _ => True) hw.fpa (applyDiff env hw vlans desired pid).1.fpa := by
  simp only [applyDiff]
  refine @Bitmap.forEach1_invariant (Hw × Bitmap) _ _ (fun _ state =>
    Issues env (VlanCall fun _ => True) hw.fpa state.1.fpa) _ .none _ ?_ ?_
  · intro vidx state _ issued _
    simp only [applyDiffBit]
    split
    · split
      · exact issued.trans (vlanAdd_any state.1 pid vidx)
      · exact issued.trans (vlanDel_any state.1 pid vidx)
    · split
      · exact issued
      · exact issued
  · exact fun _ _ _ issued _ => issued

theorem enableVlanOnPort_issues (hw : Hw) (vmap : Bitmap) (pid : Int) (vid : Nat) :
    Issues env (VlanCall fun _ => True) hw.fpa (enableVlanOnPort env hw vmap pid vid).1.fpa := by
  simp only [enableVlanOnPort]
  refine @Bitmap.forEach1_invariant (Hw × Bitmap) _ _ (fun _ state =>
    Issues env (VlanCall fun _ => True) hw.fpa state.1.fpa) _ .none _ ?_ ?_
  · intro vidx state _ issued _
    split
    · exact issued.trans (vlanAdd_any state.1 pid vidx)
    · exact issued
  · exact fun _ _ _ issued _ => issued

theorem disableVlanOnPort_issues (hw : Hw) (vmap : Bitmap) (ofpPort : Nat) (pid : Int)
    (vid : Nat) :
    Issues env (VlanCall fun _ => True) hw.fpa
      (disableVlanOnPort env hw vmap ofpPort pid vid).1.fpa := by
  simp only [disableVlanOnPort]
  refine @Bitmap.forEach1_invariant (Hw × Bitmap) _ _ (fun _ state =>
    Issues env (VlanCall fun _ => True) hw.fpa state.1.fpa) _ .none _ ?_ ?_
  · intro vidx state _ issued _
    split
    · exact issued.trans (vlanDel_any state.1 pid vidx)
    · exact issued
  · exact fun _ _ _ issued _ => issued

end Operations

section Hosts

variable {s next : Sys} {up : OfprotoRef} {aux : Aux} {rc : Rc}

structure SameHosts (s next : Sys) : Prop where
  l3 : SameL3 s.hw.fpa.asic next.hw.fpa.asic
  arpIndices : next.arpIndices = s.arpIndices
  hostTable : next.hostTable = s.hostTable

theorem SameHosts.of_l2 (issued : Issues env (L2Call fun _ => True) s.hw.fpa next.hw.fpa)
    (arpIndices : next.arpIndices = s.arpIndices) (hostTable : next.hostTable = s.hostTable) :
    SameHosts s next :=
  ⟨issued.sameL3, arpIndices, hostTable⟩

theorem SameHosts.trans {between : Sys} (first : SameHosts s between)
    (second : SameHosts between next) : SameHosts s next where
  l3 := first.l3.trans second.l3
  arpIndices := second.arpIndices.trans first.arpIndices
  hostTable := second.hostTable.trans first.hostTable

theorem SameHosts.modifyBundle (update : Bundle → Bundle) :
    SameHosts s (modifyBundle s up aux update) :=
  ⟨SameL3.refl _, rfl, rfl⟩

theorem hw_setVmap (s : Sys) (ref : OfportRef) (port : Ofport) (result : Hw × Bitmap) :
    (setVmap s ref port result).hw = result.1 := rfl

theorem setVmap_sameHosts {ref : OfportRef} {port : Ofport} {result : Hw × Bitmap}
    (issued : Issues env (VlanCall fun _ => True) s.hw.fpa result.1.fpa) :
    SameHosts s (setVmap s ref port result) :=
  ⟨(issued.mono VlanCall.isL2).sameL3, rfl, rfl⟩

theorem ensureBundle_sameHosts {slave : Nat} {name : CString}
    (ensured : ensureBundle env s up aux slave name = .ok next) : SameHosts s next := by
  obtain ⟨sameHw, sameCells, sameTable, _, _⟩ := ensureBundle_frame ensured
  exact ⟨by rw [sameHw]; exact SameL3.refl _, sameCells, sameTable⟩

theorem rmBundle_sameHosts (removed : opsFpaRmBundle env s up aux = (rc, next)) :
    SameHosts s next := by
  rw [opsFpaRmBundle] at removed
  split at removed
  · cases removed
    exact ⟨SameL3.refl _, rfl, rfl⟩
  · cases removed
    refine @SameHosts.of_l2 env _ _ ?_ rfl rfl
    simp only
    split
    · exact disableRouting_l2 s.hw _
    · exact .none

theorem configureRouting_sameHosts {bundle : Bundle} {port : Ofport} {vlanId : Int}
    {set : BundleSettings} (found : opsFpaFindBundle env s up bundle.aux = some bundle)
    (configured : configureRouting env s up bundle port vlanId set = (rc, next)) :
    SameHosts s next := by
  rcases configureRouting_cases found configured with
    ⟨l3Intf, _, _, _, _, rfl⟩ | ⟨_, _, _, l3Intf, hw, enabled, _, rfl⟩ | ⟨_, _, _, rfl⟩
  · exact SameHosts.of_l2 (disableRouting_l2 s.hw l3Intf) rfl rfl
  · have issued := @enableRouting_issues env s.hw port.netdev.type bundle.intfId (uint16 vlanId)
      port.netdev.mac
    rw [enabled] at issued
    exact SameHosts.of_l2 (issued.mono RoutedVlanCall.isL2) rfl rfl
  · exact ⟨SameL3.refl _, rfl, rfl⟩

theorem bundleSet_hosts_rule (keyed : BundlesKeyed env s) {set : Option BundleSettings}
    (holds : Sys → Prop)
    (framed : ∀ state after, SameHosts state after → holds state → holds after)
    (deleted : ∀ settings address, set = some settings →
      givenUpAddress env s up aux settings = some address → ∀ state rc after, holds state →
        deleteL3HostEntry env state up aux false address = .ok (rc, after) → holds after)
    (initial : holds s)
    (taken : opsFpaOfprotoBundleSet env s up aux set = .ok (rc, next)) : holds next := by
  rcases bundleSet_cases taken with ⟨_, removed⟩ | ⟨_, _, _, _, rfl⟩ |
    ⟨settings, slave, ensured, bundle, isSome, single, created, found, configured⟩
  · exact framed _ _ (rmBundle_sameHosts removed) initial
  · exact initial
  · have ensuredHolds := framed _ _ (ensureBundle_sameHosts created) initial
    refine configured_invariant holds found
      (fun _ _ _ _ _ found routing =>
        framed _ _ (configureRouting_sameHosts found routing) ensuredHolds)
      (fun _ _ _ kept => framed _ _ (SameHosts.modifyBundle _) kept) ?_
      (fun _ _ _ => framed _ _ (setVmap_sameHosts (applyDiff_issues _ _ _ _)) ensuredHolds)
      ensuredHolds configured
    intro state rc after address isLost kept gone
    have isGivenUp := lostAddress_ensured keyed single created found isLost
    exact deleted settings address isSome isGivenUp state rc after kept gone

theorem setVlanOnPorts_issues {vid : Nat} {add : Bool} : ∀ (bundles : List Bundle) (state : Sys),
    setVlanOnPorts env vid add bundles state = .ok next →
    Issues env (VlanCall fun _ => True) state.hw.fpa next.hw.fpa := by
  intro bundles
  induction bundles with
  | nil =>
      intro state done
      cases done
      exact .none
  | cons bundle rest ih =>
      intro state done
      rcases setVlanOnPorts_cons done with ⟨_, later⟩ | ⟨ref, port, _, _, later⟩
      · exact ih state later
      · refine Issues.trans ?_ (ih _ later)
        rw [hw_setVmap, setVlanOnPort]
        split
        · exact enableVlanOnPort_issues _ _ _ _
        · exact disableVlanOnPort_issues _ _ _ _ _

theorem peripheral_sameHosts {call : Call} (peripheral : call.IsPeripheral)
    (taken : step env s call = .ok (rc, next)) :
    (∃ action route, call = .routeAction action route) ∨ SameHosts s next := by
  cases call with
  | bundleSet | addL3Host | deleteL3Host => exact peripheral.elim
  | routeAction action route => exact .inl ⟨action, route, rfl⟩
  | setVlan up vid add =>
      obtain ⟨_, done, _, rfl⟩ := setVlan_cases taken
      obtain ⟨sameCells, sameTable, _⟩ := setVlanOnPorts_frame _ _ done
      have issued := setVlanOnPorts_issues _ _ done
      exact .inr (SameHosts.of_l2 (issued.mono VlanCall.isL2) sameCells sameTable)
  | portConstruct =>
      cases taken
      exact .inr ⟨SameL3.refl _, rfl, rfl⟩
  | portDestruct =>
      cases taken
      simp only [opsFpaOfprotoPortDestruct]
      split
      · exact .inr ⟨SameL3.refl _, rfl, rfl⟩
      · exact .inr ⟨SameL3.refl _, rfl, rfl⟩
  | addressMsg =>
      obtain ⟨_, _, rfl, rfl⟩ := step_addressMsg taken
      exact .inr ⟨SameL3.refl _, rfl, rfl⟩
  | fdbFlush =>
      obtain ⟨_, _, rfl, rfl⟩ := step_fdbFlush taken
      exact .inr ⟨SameL3.refl _, rfl, rfl⟩

end Hosts

end FpaPlugin
