import FpaPlugin.RoutingFlows

/-! What `ops_fpa_disable_routing` leaves in the tables when FPA refuses some of its deletes:
the two of the internal VLAN are made whatever happens, the four of the routing flows only
until one is refused. -/

namespace FpaPlugin

variable {env : Env}

/-- The entries of the tables that a routed interface stands for. -/
def L3Intf.owns (l3Intf : L3Intf) : {table : FlowTableType} → FlowEntry table → Prop
  | .controlPkt, flow => flow.vlanId = some l3Intf.vlanId
  | .l2Bridging, flow => flow.vlanId = some l3Intf.vlanId
  | .termination, flow => flow.vlanId = some l3Intf.vlanId
  | .vlan, flow => l3Intf.vlanIntf = true ∧ VlanFlow.inPort flow.data = portNum l3Intf.intfId ∧
      flow.vlanId = some l3Intf.vlanId
  | .l3Unicast, _ => False

def L3Intf.ownsGroup (env : Env) (l3Intf : L3Intf) (group : Group) : Prop :=
  l3Intf.vlanIntf = true ∧
    fpaLibGroupIdentifierBuild env (.l2Interface (portNum l3Intf.intfId) l3Intf.vlanId) =
      some group.groupIdentifier

def L3Intf.cookies (l3Intf : L3Intf) : FlowTableType → List Nat
  | .vlan => if l3Intf.vlanIntf then [opsFpaVlanCookie l3Intf.intfId l3Intf.vlanId false] else []
  | table => routingCookies l3Intf.vlanId table

/-- Whatever of the interface is still there has been deleted in vain. -/
structure LeftOnlyByRefusal (env : Env) (l3Intf : L3Intf) (before after : Fpa) : Prop where
  flows : ∀ table, ∀ flow ∈ after.asic.flows table, l3Intf.owns flow →
    before.Refused after (.flowTableCookieDelete table flow.cookie)
  groups : ∀ group ∈ after.asic.groups, l3Intf.ownsGroup env group →
    before.Refused after (.groupTableEntryDelete group.groupIdentifier)

def RoutingFlow.delete (vlanId : Nat) : RoutingFlow → FpaCall
  | .arpBcast => .flowTableCookieDelete .controlPkt (arpCookie vlanId)
  | .arpFwd => .flowTableCookieDelete .l2Bridging (opsFpaL2BridgingCookie vlanId)
  | .udpDhcp => .flowTableCookieDelete .controlPkt (dhcpCookie vlanId)
  | .unicastRouting => .flowTableCookieDelete .termination (opsFpaTerminationCookie vlanId)

def refusedDelete (env : Env) (fpa : Fpa) (vlanId : Nat) : Option RoutingFlow :=
  match opsFpaVlanUnsetArpBcast env fpa vlanId with
  | (.fail, _) => some .arpBcast
  | (.ok, fpa) =>
      match opsFpaUnsetArpFwd env fpa vlanId with
      | (.fail, _) => some .arpFwd
      | (.ok, fpa) =>
          match opsFpaVlanUnsetUdpDhcp env fpa vlanId with
          | (.fail, _) => some .udpDhcp
          | (.ok, fpa) =>
              match opsFpaVlanDisableUnicastRouting env fpa vlanId with
              | (.fail, _) => some .unicastRouting
              | (.ok, _) => none

/-- The cookies whose delete is not made any more once that flow's delete is refused. -/
def RoutingFlow.skipped (vlanId : Nat) : RoutingFlow → FlowTableType → List Nat
  | .arpBcast, .controlPkt => [dhcpCookie vlanId]
  | .arpBcast, .l2Bridging => [opsFpaL2BridgingCookie vlanId]
  | .arpBcast, .termination => [opsFpaTerminationCookie vlanId]
  | .arpFwd, .controlPkt => [dhcpCookie vlanId]
  | .arpFwd, .termination => [opsFpaTerminationCookie vlanId]
  | .udpDhcp, .termination => [opsFpaTerminationCookie vlanId]
  | _, _ => []

/-- The flows of the interface carry the cookies it deletes by, and no delete is refused that
comes before the delete of a flow which is there. -/
structure DeletesReach (env : Env) (hw : Hw) (l3Intf : L3Intf) : Prop where
  labelled : ∀ table, ∀ flow ∈ hw.fpa.asic.flows table, l3Intf.owns flow →
    flow.cookie ∈ l3Intf.cookies table
  reached : ∀ refused, refusedDelete env (internalVlanReleased env hw l3Intf).fpa l3Intf.vlanId =
      some refused →
    ∀ table, ∀ flow ∈ hw.fpa.asic.flows table, l3Intf.owns flow →
      flow.cookie ∉ refused.skipped l3Intf.vlanId table

section Disable

variable {hw : Hw} {l3Intf : L3Intf} {vlanId : Nat}

theorem delete_arpBcast (asic : Asic) :
    asic.apply (.flowTableCookieDelete .controlPkt (arpCookie vlanId)) =
      asic.without (RoutingFlow.arpFwd.unwound vlanId) := by
  refine Asic.ext_flows (fun table => ?_) rfl
  cases table <;> simp [Asic.apply, Asic.without, RoutingFlow.unwound]

theorem delete_arpFwd (asic : Asic) :
    (asic.without (RoutingFlow.arpFwd.unwound vlanId)).apply
      (.flowTableCookieDelete .l2Bridging (opsFpaL2BridgingCookie vlanId)) =
    asic.without (RoutingFlow.udpDhcp.unwound vlanId) := by
  refine Asic.ext_flows (fun table => ?_) rfl
  cases table <;> simp [Asic.apply, Asic.without, RoutingFlow.unwound]

theorem delete_udpDhcp (asic : Asic) :
    (asic.without (RoutingFlow.udpDhcp.unwound vlanId)).apply
      (.flowTableCookieDelete .controlPkt (dhcpCookie vlanId)) =
    asic.without (RoutingFlow.unicastRouting.unwound vlanId) := by
  refine Asic.ext_flows (fun table => ?_) rfl
  cases table <;> simp [Asic.apply, Asic.without, RoutingFlow.unwound, Bool.and_comm]

theorem delete_unicastRouting (asic : Asic) :
    (asic.without (RoutingFlow.unicastRouting.unwound vlanId)).apply
      (.flowTableCookieDelete .termination (opsFpaTerminationCookie vlanId)) =
    asic.without (routingCookies vlanId) := by
  refine Asic.ext_flows (fun table => ?_) rfl
  cases table <;> simp [Asic.apply, Asic.without, RoutingFlow.unwound, routingCookies]

theorem disableRouting_outcome (hw : Hw) (l3Intf : L3Intf) :
    ∃ log, (opsFpaDisableRouting env hw l3Intf).fpa.calls =
        log ++ (internalVlanReleased env hw l3Intf).fpa.calls ∧
      (refusedDelete env (internalVlanReleased env hw l3Intf).fpa l3Intf.vlanId = none ∧
        (opsFpaDisableRouting env hw l3Intf).fpa.asic =
          (internalVlanReleased env hw l3Intf).fpa.asic.without (routingCookies l3Intf.vlanId) ∧
        (∀ call, (call, Status.fail) ∉ log) ∨
      ∃ refused,
        refusedDelete env (internalVlanReleased env hw l3Intf).fpa l3Intf.vlanId = some refused ∧
        (opsFpaDisableRouting env hw l3Intf).fpa.asic =
          (internalVlanReleased env hw l3Intf).fpa.asic.without (refused.unwound l3Intf.vlanId) ∧
        ∀ call, (call, Status.fail) ∈ log ↔ call = refused.delete l3Intf.vlanId) := by
  simp only [opsFpaDisableRouting, refusedDelete]
  rw [← internalVlanReleased]
  generalize internalVlanReleased env hw l3Intf = released
  cases arp : opsFpaVlanUnsetArpBcast env released.fpa l3Intf.vlanId with
  | mk status fpaArp =>
  have afterArp := asic_of_issue arp
  have callsArp := calls_of_issue arp
  cases status with
  | fail =>
      refine ⟨[(_, .fail)], callsArp, .inr ⟨.arpBcast, rfl, ?_, fun call => ?_⟩⟩
      · exact (afterArp.trans (if_neg (by decide))).trans (without_nothing _).symm
      · simp [RoutingFlow.delete, arpCookie]
  | ok =>
      have arpGone := (afterArp.trans (if_pos rfl)).trans (delete_arpBcast _)
      cases fwd : opsFpaUnsetArpFwd env fpaArp l3Intf.vlanId with
      | mk status fpaFwd =>
      have afterFwd := asic_of_issue fwd
      have callsFwd := (calls_of_issue fwd).trans (congrArg _ callsArp)
      rw [arpGone] at afterFwd
      simp only [fwd]
      cases status with
      | fail =>
          refine ⟨[(_, .fail), (_, .ok)], callsFwd, .inr ⟨.arpFwd, rfl, ?_, fun call => ?_⟩⟩
          · exact afterFwd.trans (if_neg (by decide))
          · simp [RoutingFlow.delete]
      | ok =>
          have fwdGone := (afterFwd.trans (if_pos rfl)).trans (delete_arpFwd _)
          cases dhcp : opsFpaVlanUnsetUdpDhcp env fpaFwd l3Intf.vlanId with
          | mk status fpaDhcp =>
          have afterDhcp := asic_of_issue dhcp
          have callsDhcp := (calls_of_issue dhcp).trans (congrArg _ callsFwd)
          rw [fwdGone] at afterDhcp
          simp only [dhcp]
          cases status with
          | fail =>
              refine ⟨[(_, .fail), (_, .ok), (_, .ok)], callsDhcp,
                .inr ⟨.udpDhcp, rfl, ?_, fun call => ?_⟩⟩
              · exact afterDhcp.trans (if_neg (by decide))
              · simp [RoutingFlow.delete, dhcpCookie]
          | ok =>
              have dhcpGone := (afterDhcp.trans (if_pos rfl)).trans (delete_udpDhcp _)
              cases unicast : opsFpaVlanDisableUnicastRouting env fpaDhcp l3Intf.vlanId with
              | mk status fpaUnicast =>
              have afterUnicast := asic_of_issue unicast
              have callsUnicast := (calls_of_issue unicast).trans (congrArg _ callsDhcp)
              rw [dhcpGone] at afterUnicast
              simp only [unicast]
              cases status with
              | fail =>
                  refine ⟨[(_, .fail), (_, .ok), (_, .ok), (_, .ok)], callsUnicast,
                    .inr ⟨.unicastRouting, rfl, ?_, fun call => ?_⟩⟩
                  · exact afterUnicast.trans (if_neg (by decide))
                  · simp [RoutingFlow.delete]
              | ok =>
                  refine ⟨[(_, .ok), (_, .ok), (_, .ok), (_, .ok)], callsUnicast,
                    .inl ⟨rfl, ?_, fun call => ?_⟩⟩
                  · exact (afterUnicast.trans (if_pos rfl)).trans (delete_unicastRouting _)
                  · simp

theorem mem_flows_delete {fpa after : Fpa} {table : FlowTableType} {cookie : Nat} {status : Status}
    (issued : fpa.issue env (.flowTableCookieDelete table cookie) = (status, after))
    (flow : FlowEntry table) : flow ∈ after.asic.flows table ↔
      flow ∈ fpa.asic.flows table ∧ (flow.cookie = cookie → status = .fail) := by
  rw [asic_of_issue issued]
  cases status with
  | ok => simp [Asic.flows_cookieDelete]
  | fail => simp

theorem mem_flows_logged {fpa after : Fpa} {table : FlowTableType} {cookie : Nat} {status : Status}
    {log : List (FpaCall × Status)}
    (issued : fpa.issue env (.flowTableCookieDelete table cookie) = (status, after))
    (logged : ∀ other its, (FpaCall.flowTableCookieDelete other its, Status.fail) ∈ log ↔
      (other = table ∧ its = cookie) ∧ status = .fail)
    (flow : FlowEntry table) : flow ∈ after.asic.flows table ↔ flow ∈ fpa.asic.flows table ∧
      (flow.cookie = cookie →
        (FpaCall.flowTableCookieDelete table flow.cookie, Status.fail) ∈ log) := by
  rw [mem_flows_delete issued, logged]
  refine and_congr_right fun _ => forall_congr' fun isCookie => ?_
  exact ⟨fun refused => ⟨⟨rfl, isCookie⟩, refused⟩, fun refused => refused.2⟩

theorem mem_groups_delete {fpa after : Fpa} {group : Nat} {status : Status}
    (issued : fpa.issue env (.groupTableEntryDelete group) = (status, after)) (entry : Group) :
    entry ∈ after.asic.groups ↔
      entry ∈ fpa.asic.groups ∧ (entry.groupIdentifier = group → status = .fail) := by
  rw [asic_of_issue issued]
  cases status with
  | ok => simp [Asic.apply]
  | fail => simp

theorem flows_delete_ne {fpa after : Fpa} {table other : FlowTableType} {cookie : Nat}
    {status : Status} (issued : fpa.issue env (.flowTableCookieDelete table cookie) = (status, after))
    (different : other ≠ table) : after.asic.flows other = fpa.asic.flows other := by
  rw [asic_of_issue issued]
  split
  · exact Asic.flows_cookieDelete_ne _ _ different
  · rfl

theorem flows_groupDelete {fpa after : Fpa} {group : Nat} {status : Status}
    (issued : fpa.issue env (.groupTableEntryDelete group) = (status, after)) :
    after.asic.flows = fpa.asic.flows := by
  rw [asic_of_issue issued]
  split
  · exact Asic.flows_groupTableEntryDelete _ _
  · rfl

theorem internalVlanReleased_fpa {fpa : Fpa} {status : Status} (bound : l3Intf.vlanId < 4096)
    (isVlanIntf : l3Intf.vlanIntf = true)
    (issued : hw.fpa.issue env (.flowTableCookieDelete .vlan
      (opsFpaVlanCookie l3Intf.intfId l3Intf.vlanId false)) = (status, fpa)) :
    (fpaLibGroupIdentifierBuild env (.l2Interface (portNum l3Intf.intfId) l3Intf.vlanId) = none ∧
      (internalVlanReleased env hw l3Intf).fpa = fpa) ∨
    ∃ group,
      fpaLibGroupIdentifierBuild env (.l2Interface (portNum l3Intf.intfId) l3Intf.vlanId) =
        some group ∧
      (internalVlanReleased env hw l3Intf).fpa = (fpa.issue env (.groupTableEntryDelete group)).2 := by
  simp only [internalVlanReleased, isVlanIntf, if_true, opsFpaVlanDelInternal]
  have ingress : (opsFpaVlanDel env hw l3Intf.intfId (vidxIngress l3Intf.vlanId false)).2.fpa = fpa := by
    simp only [opsFpaVlanDel, vidxIsEgress_ingress bound, vidxVid_ingress bound,
      vidxArg_ingress bound, Bool.false_eq_true, if_false, fpa_observe, issued]
  generalize (opsFpaVlanDel env hw l3Intf.intfId (vidxIngress l3Intf.vlanId false)).2 = between
    at ingress
  subst ingress
  simp only [opsFpaVlanDel, vidxIsEgress_egress bound, vidxVid_egress bound, if_true]
  cases built : fpaLibGroupIdentifierBuild env
    (.l2Interface (portNum l3Intf.intfId) l3Intf.vlanId) with
  | none => exact .inl ⟨rfl, rfl⟩
  | some group =>
      refine .inr ⟨group, rfl, ?_⟩
      dsimp only
      rw [fpa_observe]

/-- The two deletes of an internal VLAN are both made, whatever the first returns. -/
structure InternalVlanReleased (env : Env) (l3Intf : L3Intf) (before after : Fpa)
    (log : List (FpaCall × Status)) : Prop where
  calls : after.calls = log ++ before.calls
  elsewhere : ∀ table, table ≠ .vlan → after.asic.flows table = before.asic.flows table
  flows : ∀ flow, flow ∈ after.asic.flows .vlan ↔ flow ∈ before.asic.flows .vlan ∧
    (flow.cookie ∈ l3Intf.cookies .vlan →
      (FpaCall.flowTableCookieDelete .vlan flow.cookie, Status.fail) ∈ log)
  groups : ∀ group ∈ after.asic.groups, l3Intf.ownsGroup env group →
    (FpaCall.groupTableEntryDelete group.groupIdentifier, Status.fail) ∈ log
  deletes : ∀ table cookie, (FpaCall.flowTableCookieDelete table cookie, Status.fail) ∈ log →
    table = .vlan ∧ cookie ∈ l3Intf.cookies .vlan

theorem internalVlanReleased_outcome (hw : Hw) {l3Intf : L3Intf} (bound : l3Intf.vlanId < 4096) :
    ∃ log, InternalVlanReleased env l3Intf hw.fpa (internalVlanReleased env hw l3Intf).fpa log := by
  cases isVlanIntf : l3Intf.vlanIntf with
  | false =>
      refine ⟨[], ?_, ?_, ?_, ?_, ?_⟩
      all_goals simp [internalVlanReleased, isVlanIntf, L3Intf.cookies, L3Intf.ownsGroup]
  | true =>
      have cookies : l3Intf.cookies .vlan =
          [opsFpaVlanCookie l3Intf.intfId l3Intf.vlanId false] := by
        simp [L3Intf.cookies, isVlanIntf]
      cases ingress : hw.fpa.issue env (.flowTableCookieDelete .vlan
        (opsFpaVlanCookie l3Intf.intfId l3Intf.vlanId false)) with
      | mk status between =>
      have released := internalVlanReleased_fpa bound isVlanIntf ingress
      generalize opsFpaVlanCookie l3Intf.intfId l3Intf.vlanId false = vlanCookie
        at cookies ingress
      rcases released with ⟨built, isFpa⟩ | ⟨group, built, isFpa⟩
      · have logged : ∀ other its, (FpaCall.flowTableCookieDelete other its, Status.fail) ∈
            [(FpaCall.flowTableCookieDelete .vlan vlanCookie, status)] ↔
            (other = .vlan ∧ its = vlanCookie) ∧ status = .fail := by
          simp [eq_comm]
        refine ⟨[(.flowTableCookieDelete .vlan vlanCookie, status)], ?_, ?_, ?_, ?_,
          fun table cookie refused => ?_⟩
        · rw [isFpa, calls_of_issue ingress]
          rfl
        · intro table elsewhere
          rw [isFpa, flows_delete_ne ingress elsewhere]
        · intro flow
          rw [isFpa, mem_flows_logged ingress logged, cookies]
          simp only [List.mem_singleton]
        · rintro group _ ⟨_, absurdity⟩
          rw [built] at absurdity
          cases absurdity
        · rw [cookies, List.mem_singleton]
          exact ((logged table cookie).mp refused).1
      · cases egress : between.issue env (.groupTableEntryDelete group) with
        | mk second after =>
        rw [egress] at isFpa
        have logged : ∀ other its, (FpaCall.flowTableCookieDelete other its, Status.fail) ∈
            [(FpaCall.groupTableEntryDelete group, second),
              (FpaCall.flowTableCookieDelete .vlan vlanCookie, status)] ↔
            (other = .vlan ∧ its = vlanCookie) ∧ status = .fail := by
          simp [eq_comm]
        refine ⟨[(.groupTableEntryDelete group, second),
          (.flowTableCookieDelete .vlan vlanCookie, status)], ?_, ?_, ?_, ?_,
          fun table cookie refused => ?_⟩
        · rw [isFpa, calls_of_issue egress, calls_of_issue ingress]
          rfl
        · intro table elsewhere
          rw [isFpa, flows_groupDelete egress, flows_delete_ne ingress elsewhere]
        · intro flow
          rw [isFpa, flows_groupDelete egress, mem_flows_logged ingress logged, cookies]
          simp only [List.mem_singleton]
        · rintro entry member ⟨_, isBuilt⟩
          rw [built] at isBuilt
          cases isBuilt
          rw [isFpa, mem_groups_delete egress] at member
          simp [member.2 rfl]
        · rw [cookies, List.mem_singleton]
          exact ((logged table cookie).mp refused).1

end Disable

section Left

variable {l3Intf : L3Intf} {vlanId : Nat} {before between after : Fpa}
  {log rest : List (FpaCall × Status)} {gone skipped : FlowTableType → List Nat}

/-- The routing cookies sorted by what became of them: deleted, deleted in vain, or not tried. -/
structure Sorted (vlanId : Nat) (gone skipped : FlowTableType → List Nat)
    (log : List (FpaCall × Status)) : Prop where
  covered : ∀ table, ∀ cookie ∈ routingCookies vlanId table, cookie ∈ gone table ∨
    (FpaCall.flowTableCookieDelete table cookie, Status.fail) ∈ log ∨ cookie ∈ skipped table
  gone : ∀ table, ∀ cookie ∈ gone table,
    cookie ∈ routingCookies vlanId table ∧ cookie ∉ skipped table
  refused : ∀ table cookie, (FpaCall.flowTableCookieDelete table cookie, Status.fail) ∈ log →
    cookie ∈ routingCookies vlanId table ∧ cookie ∉ skipped table
  skipped : skipped .vlan = []

theorem sorted_all (noneRefused : ∀ call, (call, Status.fail) ∉ rest) :
    Sorted vlanId (routingCookies vlanId) (fun _ => []) rest where
  covered := fun _ _ listed => .inl listed
  gone := fun _ _ listed => ⟨listed, List.not_mem_nil⟩
  refused := fun _ _ made => (noneRefused _ made).elim
  skipped := rfl

theorem sorted_refused (bound : vlanId < 4096) {refused : RoutingFlow}
    (one : ∀ call, (call, Status.fail) ∈ rest ↔ call = refused.delete vlanId) :
    Sorted vlanId (refused.unwound vlanId) (refused.skipped vlanId) rest := by
  have apart := arpCookie_ne_dhcpCookie (Nat.lt_trans bound (by decide : 4096 < 65536))
  have alsoApart := Ne.symm apart
  refine ⟨fun table cookie listed => ?_, fun table cookie listed => ?_,
    fun table cookie made => ?_, ?_⟩
  · rw [one]
    cases refused <;> cases table <;>
      simp_all [routingCookies, RoutingFlow.unwound, RoutingFlow.skipped, RoutingFlow.delete]
  · cases refused <;> cases table <;>
      simp_all [routingCookies, RoutingFlow.unwound, RoutingFlow.skipped]
  · rw [one] at made
    cases refused <;> cases made <;>
      simp_all [routingCookies, RoutingFlow.skipped]
  · cases refused <;> rfl

theorem cookies_of_ne {table : FlowTableType} (elsewhere : table ≠ .vlan) :
    l3Intf.cookies table = routingCookies l3Intf.vlanId table := by
  cases table with
  | vlan => exact (elsewhere rfl).elim
  | controlPkt | l2Bridging | termination | l3Unicast => rfl

theorem routingCookies_subset {table : FlowTableType} {cookie : Nat}
    (listed : cookie ∈ routingCookies l3Intf.vlanId table) : cookie ∈ l3Intf.cookies table := by
  by_cases here : table = .vlan
  · subst here
    cases listed
  · rwa [cookies_of_ne here]

theorem mem_flows_without {asic : Asic} {table : FlowTableType} {flow : FlowEntry table} :
    flow ∈ (asic.without gone).flows table ↔
      flow ∈ asic.flows table ∧ flow.cookie ∉ gone table := by
  simp [Asic.without]

theorem InternalVlanReleased.leftOnlyByRefusal_iff
    (released : InternalVlanReleased env l3Intf before between log)
    (calls : after.calls = rest ++ between.calls)
    (asic : after.asic = between.asic.without gone)
    (sorted : Sorted l3Intf.vlanId gone skipped rest) :
    LeftOnlyByRefusal env l3Intf before after ↔
      ∀ table, ∀ flow ∈ before.asic.flows table, l3Intf.owns flow →
        flow.cookie ∈ l3Intf.cookies table ∧ flow.cookie ∉ skipped table := by
  have isLog : after.calls = (rest ++ log) ++ before.calls := by
    rw [calls, released.calls, List.append_assoc]
  have made : ∀ table cookie,
      before.Refused after (.flowTableCookieDelete table cookie) →
        cookie ∈ l3Intf.cookies table ∧ cookie ∉ skipped table := by
    intro table cookie isRefused
    rw [Fpa.refused_iff isLog, List.mem_append] at isRefused
    rcases isRefused with late | early
    · obtain ⟨listed, tried⟩ := sorted.refused table cookie late
      exact ⟨routingCookies_subset listed, tried⟩
    · obtain ⟨rfl, listed⟩ := released.deletes table cookie early
      exact ⟨listed, by rw [sorted.skipped]; exact List.not_mem_nil⟩
  constructor
  · intro left table flow member owned
    -- a flow that no delete reaches is still there, and its delete was not refused
    by_contra unreached
    have survives : flow ∈ after.asic.flows table := by
      rw [asic, mem_flows_without]
      refine ⟨?_, fun isGone => ?_⟩
      · by_cases here : table = .vlan
        · subst here
          refine (released.flows flow).mpr ⟨member, fun listed => (unreached ⟨listed, ?_⟩).elim⟩
          rw [sorted.skipped]
          exact List.not_mem_nil
        · rwa [released.elsewhere table here]
      · obtain ⟨listed, tried⟩ := sorted.gone table _ isGone
        exact unreached ⟨routingCookies_subset listed, tried⟩
    exact unreached (made table _ (left.flows table flow survives owned))
  · intro reached
    refine ⟨fun table flow member owned => ?_, fun group member owned => ?_⟩
    · rw [asic, mem_flows_without] at member
      rw [Fpa.refused_iff isLog, List.mem_append]
      by_cases here : table = .vlan
      · subst here
        obtain ⟨wasThere, refused⟩ := (released.flows flow).mp member.1
        exact .inr (refused (reached .vlan flow wasThere owned).1)
      · rw [released.elsewhere table here] at member
        obtain ⟨listed, tried⟩ := reached table flow member.1 owned
        rw [cookies_of_ne here] at listed
        rcases sorted.covered table _ listed with isGone | inVain | isSkipped
        · exact (member.2 isGone).elim
        · exact .inl inVain
        · exact (tried isSkipped).elim
    · have groups : after.asic.groups = between.asic.groups := by
        rw [asic]
        rfl
      rw [groups] at member
      rw [Fpa.refused_iff isLog, List.mem_append]
      exact .inr (released.groups group member owned)

end Left

/-- After routing is disabled an entry of the interface is left only where its own delete was
refused, exactly when the deletes reach every flow as `DeletesReach` says. -/
theorem disabled_leaves_refused_iff (env : Env) (hw : Hw) (l3Intf : L3Intf)
    (bound : l3Intf.vlanId < 4096) :
    LeftOnlyByRefusal env l3Intf hw.fpa (opsFpaDisableRouting env hw l3Intf).fpa ↔
      DeletesReach env hw l3Intf := by
  obtain ⟨log, released⟩ := internalVlanReleased_outcome hw bound
  obtain ⟨rest, calls, ⟨noneRefused, asic, accepted⟩ | ⟨refused, isRefused, asic, one⟩⟩ :=
    disableRouting_outcome hw l3Intf
  · rw [released.leftOnlyByRefusal_iff calls asic (sorted_all accepted)]
    constructor
    · intro reached
      refine ⟨fun table flow member owned => (reached table flow member owned).1, ?_⟩
      intro refused absurdity
      rw [noneRefused] at absurdity
      cases absurdity
    · intro reach table flow member owned
      exact ⟨reach.labelled table flow member owned, List.not_mem_nil⟩
  · rw [released.leftOnlyByRefusal_iff calls asic (sorted_refused bound one)]
    constructor
    · intro reached
      refine ⟨fun table flow member owned => (reached table flow member owned).1, ?_⟩
      intro other isOther table flow member owned
      rw [isRefused] at isOther
      cases isOther
      exact (reached table flow member owned).2
    · intro reach table flow member owned
      exact ⟨reach.labelled table flow member owned,
        reach.reached refused isRefused table flow member owned⟩

def routedIntf : L3Intf := ⟨1, 1024, 1#48, true, 0⟩

/-- FPA accepts every add, and refuses to delete in one table. -/
def stuckEnv (stuck : FlowTableType) : Env :=
  { idealEnv with
    verdict := fun _ call _ =>
      match call with
      | .flowTableCookieDelete table _ => if table = stuck then .fail else .ok
      | _ => .ok }

def routedHw (stuck : FlowTableType) : Hw :=
  (opsFpaEnableRoutingInterface (stuckEnv stuck) bareSys.hw 1 1024 1#48).2

theorem disabled_leaves_refused_termination : ∃ flow,
    flow ∈ (opsFpaDisableRouting (stuckEnv .termination) (routedHw .termination)
      routedIntf).fpa.asic.flows .termination ∧
    (routedHw .termination).fpa.Refused
      (opsFpaDisableRouting (stuckEnv .termination) (routedHw .termination) routedIntf).fpa
      (.flowTableCookieDelete .termination flow.cookie) := by
  have left : LeftOnlyByRefusal (stuckEnv .termination) routedIntf (routedHw .termination).fpa
      (opsFpaDisableRouting (stuckEnv .termination) (routedHw .termination) routedIntf).fpa := by
    refine (disabled_leaves_refused_iff (stuckEnv .termination) (routedHw .termination) routedIntf
      (by decide)).mpr ⟨?_, ?_⟩
    · intro table flow member _
      cases table with
      | controlPkt =>
          change flow ∈ [arpFlow 1024, dhcpFlow 1024] at member
          rw [List.mem_pair] at member
          rcases member with rfl | rfl
          · exact arpCookie_mem 1024
          · exact dhcpCookie_mem 1024
      | l2Bridging =>
          rw [List.mem_singleton.mp member]
          exact l2BridgingCookie_mem 1024
      | termination =>
          rw [List.mem_singleton.mp member]
          exact terminationCookie_mem 1024
      | vlan =>
          rw [List.mem_singleton.mp member]
          exact List.mem_singleton_self _
      | l3Unicast => cases member
    · intro refused isRefused table flow member _
      have last : refused = .unicastRouting := by
        cases isRefused
        rfl
      subst last
      cases table <;> exact List.not_mem_nil
  refine ⟨unicastFlow 1024 1#48, List.mem_singleton_self _, ?_⟩
  exact left.flows .termination _ (List.mem_singleton_self _) rfl

/-- Once the delete of the ARP flow is refused the termination flow stays, and nobody has tried
to delete it. -/
theorem refused_arp_delete_leaves_termination :
    (opsFpaEnableRoutingInterface (stuckEnv .controlPkt) bareSys.hw 1 1024 1#48).1 =
      some routedIntf ∧
    (∃ flow ∈ (opsFpaDisableRouting (stuckEnv .controlPkt) (routedHw .controlPkt)
        routedIntf).fpa.asic.flows .termination,
      routedIntf.owns flow ∧ ¬ (routedHw .controlPkt).fpa.Refused
        (opsFpaDisableRouting (stuckEnv .controlPkt) (routedHw .controlPkt) routedIntf).fpa
        (.flowTableCookieDelete .termination flow.cookie)) ∧
    ¬ LeftOnlyByRefusal (stuckEnv .controlPkt) routedIntf (routedHw .controlPkt).fpa
      (opsFpaDisableRouting (stuckEnv .controlPkt) (routedHw .controlPkt) routedIntf).fpa := by
  have notTried : ¬ (routedHw .controlPkt).fpa.Refused
      (opsFpaDisableRouting (stuckEnv .controlPkt) (routedHw .controlPkt) routedIntf).fpa
      (.flowTableCookieDelete .termination (unicastFlow 1024 1#48).cookie) := by
    have isLog : (opsFpaDisableRouting (stuckEnv .controlPkt) (routedHw .controlPkt)
        routedIntf).fpa.calls = [(.flowTableCookieDelete .controlPkt (arpCookie 1024), .fail),
          (.groupTableEntryDelete (1024 <<< 16 ||| 1), .ok),
          (.flowTableCookieDelete .vlan (opsFpaVlanCookie 1 1024 false), .ok)] ++
        (routedHw .controlPkt).fpa.calls := rfl
    rw [Fpa.refused_iff isLog]
    simp
  refine ⟨rfl, ⟨unicastFlow 1024 1#48, List.mem_singleton_self _, rfl, notTried⟩, fun left => ?_⟩
  exact notTried (left.flows .termination _ (List.mem_singleton_self _) rfl)

end FpaPlugin
