import FpaPlugin.HostGroups
import FpaPlugin.RouteMap

/-! What each call does to the host table and to the unicast routing table at once: hosts leave
with all that is under their cookies, a host comes with a flow of its own, or a route action
changes what is under the cookie of its prefix. -/

namespace FpaPlugin

def HostTableEntry.routePrefix (host : HostTableEntry) : RoutePrefix := (host.ipv4Addr, 32)

theorem HostTableEntry.routePrefix_inRange (host : HostTableEntry) : host.routePrefix.InRange := by
  simp [HostTableEntry.routePrefix, RoutePrefix.InRange]

def HostTableEntry.flow (env : Env) (host : HostTableEntry) : FlowEntry .l3Unicast :=
  routeFlow env host.l3Group .none host.ipv4Addr 32

def routingFlows (s : Sys) : List (FlowEntry .l3Unicast) := s.hw.fpa.asic.flows .l3Unicast

structure HostsLeave (s next : Sys) (gone : List HostTableEntry) : Prop where
  hosts : (gone ++ next.hostTable.values).Perm s.hostTable.values
  flows : routingFlows next = (routingFlows s).filter fun flow =>
    gone.all fun host => flow.cookie ≠ host.routePrefix.cookie

structure HostComes (env : Env) (s next : Sys) (entry : HostTableEntry) : Prop where
  hosts : next.hostTable.values.Perm (entry :: s.hostTable.values)
  flows : routingFlows next = routingFlows s ++ [entry.flow env]

structure PrefixChanges (s next : Sys) (key : RoutePrefix) (added : List (FlowEntry .l3Unicast)) :
    Prop where
  hosts : next.hostTable = s.hostTable
  flows : routingFlows next =
    ((routingFlows s).filter fun flow => flow.cookie ≠ key.cookie) ++ added

variable {env : Env} {s between next : Sys} {up : OfprotoRef} {aux : Aux} {rc : Rc}
  {origin : HostTableEntry → Option NextHop}

theorem HostsLeave.of_same (hosts : next.hostTable = s.hostTable)
    (flows : routingFlows next = routingFlows s) : HostsLeave s next [] := by
  refine ⟨?_, ?_⟩
  · rw [List.nil_append, hosts]
  · rw [flows, eq_comm, List.filter_eq_self]
    intro flow _
    rfl

theorem HostsLeave.of_sameHosts (same : SameHosts s next) : HostsLeave s next [] :=
  .of_same same.hostTable same.l3.flows

theorem HostsLeave.trans {gone later : List HostTableEntry} (first : HostsLeave s between gone)
    (second : HostsLeave between next later) : HostsLeave s next (gone ++ later) := by
  refine ⟨?_, ?_⟩
  · rw [List.append_assoc]
    exact (second.hosts.append_left gone).trans first.hosts
  · rw [second.flows, first.flows, List.filter_filter]
    refine List.filter_congr fun flow _ => ?_
    rw [List.all_append, Bool.and_comm]

theorem HostsLeave.subset {gone : List HostTableEntry} (left : HostsLeave s next gone) :
    ∀ host ∈ next.hostTable.values, host ∈ s.hostTable.values :=
  fun _ member => left.hosts.mem_iff.mp (List.mem_append_right _ member)

theorem HostsLeave.gone_mem {gone : List HostTableEntry} (left : HostsLeave s next gone) :
    ∀ host ∈ gone, host ∈ s.hostTable.values :=
  fun _ member => left.hosts.mem_iff.mp (List.mem_append_left _ member)

theorem HostsLeave.not_gone {gone : List HostTableEntry} (left : HostsLeave s next gone)
    (sound : HostsSound env origin s) {host : HostTableEntry}
    (member : host ∈ next.hostTable.values) : host ∉ gone := by
  intro isGone
  obtain ⟨_, _, unique, _⟩ := sound.indices
  have apart := (left.hosts.map HostTableEntry.arpIndex).nodup_iff.mpr unique
  rw [List.map_append, List.nodup_append] at apart
  exact apart.2.2 _ (List.mem_map_of_mem isGone) _ (List.mem_map_of_mem member) rfl

section Calls

theorem deleteL3Host_leaves (succeeds : env.AllSucceed) (sound : HostsSound env origin s)
    {isIpv6Addr : Bool} {ipAddr : CString}
    (taken : deleteL3HostEntry env s up aux isIpv6Addr ipAddr = .ok (rc, next)) :
    ∃ gone, HostsLeave s next gone := by
  rcases deleteL3HostEntry_cases taken with ⟨_, rfl⟩ |
    ⟨_, _, bundle, l3Intf, ipv4Addr, entry, _, _, address, found, rfl⟩
  · exact ⟨[], .of_same rfl rfl⟩
  · have perm := Hmap.values_remove_perm (hostTableFind_some found).1
    have member : entry ∈ s.hostTable.values := perm.mem_iff.mp List.mem_cons_self
    have flows := (deleteHost_l3 succeeds s up aux l3Intf (sound.each entry member).l2Group).flows
    rw [Asic.flows_groupTableEntryDelete, Asic.flows_cookieDelete] at flows
    refine ⟨[entry], ?_, ?_⟩
    · rw [deleteHost_eq]
      exact perm
    · simp only [List.all_cons, List.all_nil, Bool.and_true]
      exact flows

theorem bundleSet_leaves {set : Option BundleSettings} (succeeds : env.AllSucceed)
    (keyed : BundlesKeyed env s) (sound : HostsSound env origin s)
    (taken : opsFpaOfprotoBundleSet env s up aux set = .ok (rc, next)) :
    ∃ gone, HostsLeave s next gone := by
  have outcome : HostsSound env origin next ∧ ∃ gone, HostsLeave s next gone := by
    refine bundleSet_hosts_rule keyed
      (fun state => HostsSound env origin state ∧ ∃ gone, HostsLeave s state gone) ?_ ?_
      ⟨sound, [], .of_same rfl rfl⟩ taken
    · rintro state after same ⟨kept, gone, left⟩
      exact ⟨kept.framed same, _, left.trans (.of_sameHosts same)⟩
    · rintro settings address _ _ state rc after ⟨kept, gone, left⟩ deleted
      obtain ⟨later, leaves⟩ := deleteL3Host_leaves succeeds kept deleted
      exact ⟨(kept.delete succeeds deleted).1, _, left.trans leaves⟩
  exact outcome.2

theorem addL3Host_comes {isIpv6Addr : Bool} {ipAddr : CString} {nextHopMacAddr : Option CString}
    {reply : Option Int} (succeeds : env.AllSucceed)
    (taken : addL3HostEntry env s up aux isIpv6Addr ipAddr nextHopMacAddr = .ok (rc, reply, next)) :
    HostsLeave s next [] ∨
      rc = .ok ∧ ∃ entry, hostAddress ipAddr = some entry.ipv4Addr ∧
        HostComes env s next entry := by
  rcases addL3HostEntry_cases taken with ⟨_, rfl⟩ |
    ⟨bundle, l3Intf, port, dstMac, egress, ipv4Addr, request, install⟩
  · exact .inl (.of_same rfl rfl)
  · rcases installHost_cases install with ⟨isRefused, _⟩ |
      ⟨isOk, fpa, l2Group, l3Group, acquired, rfl⟩
    · subst isRefused
      obtain ⟨same, sameTable⟩ := installHost_refused succeeds install
      exact .inl (.of_same sameTable same.flows)
    · obtain ⟨_, fpaL2, fpaL3, addedL2, addedL3, addedRoute⟩ := acquired
      have issuedL2 :=
        (@addL2Group_issues env s.hw.fpa egress l3Intf.vlanId false).mono VlanCall.isL2
      rw [addedL2] at issuedL2
      have flowsL3 : fpaL3.asic.flows .l3Unicast = routingFlows s := by
        rw [(addL3Group_some addedL3).2, Asic.flows_groupEntryBucketAdd,
          Asic.flows_groupTableEntryAdd]
        exact issuedL2.sameL3.flows
      refine .inr ⟨isOk, ⟨ipv4Addr, s.arpIndices 0, l3Group, l2Group⟩, request.address,
        Hmap.values_insert_perm env.growth s.hostTable _ _, ?_⟩
      rw [← flowsL3]
      exact addRouteFlow_flows addedRoute

theorem Env.AllSucceed.routeDeletesRemove (succeeds : env.AllSucceed) : env.RouteDeletesRemove := by
  intro calls cookie asic failed
  rw [succeeds.calls] at failed
  cases failed

theorem routeAction_refused (succeeds : env.AllSucceed) {action : RouteAction}
    {route : OfprotoRoute}
    (taken : l3RouteAction env s action route = (rc, next)) (refused : rc ≠ .ok) : next = s := by
  rcases l3RouteAction_cases taken with ⟨_, _, same⟩ |
    ⟨ipv4, maskLen, _, ⟨_, _, isOk, _⟩ | ⟨flow, _, _, replaced⟩⟩
  · exact same
  · exact (refused isOk).elim
  · simp only [replaceRoute, addRouteFlow, Fpa.issue_ok succeeds] at replaced
    cases replaced
    exact (refused rfl).elim

theorem routeAction_changes (succeeds : env.AllSucceed) {action : RouteAction}
    {route : OfprotoRoute}
    (taken : l3RouteAction env s action route = (.ok, next)) :
    ∃ key : RoutePrefix, opsFpaStr2ip route.ipPrefix = some key ∧
      (action = .delete ∧ PrefixChanges s next key [] ∨
        action = .add ∧ ∃ nexthop target, route.nexthops = [nexthop] ∧
          nexthopTarget env s.hostTable nexthop = some target ∧
          PrefixChanges s next key [target.flow env key]) := by
  have deletes := succeeds.routeDeletesRemove
  have sameTable : next.hostTable = s.hostTable := by
    obtain ⟨fpa, rfl⟩ := l3RouteAction_frame taken
    rfl
  obtain ⟨key, parsed, done⟩ := routeAction_ok taken
  refine ⟨key, parsed, ?_⟩
  rcases done with ⟨isDelete, isNext⟩ | ⟨isAdd, nexthop, target, nexthops, isTarget, added⟩
  · have flows := delRoute_flows deletes s.hw.fpa key
    rw [← isNext, ← List.append_nil (List.filter _ _)] at flows
    exact .inl ⟨isDelete, sameTable, flows⟩
  · have flows := addRouteFlow_flows added
    rw [delRoute_flows deletes] at flows
    exact .inr ⟨isAdd, nexthop, target, nexthops, isTarget, sameTable, flows⟩

end Calls

/-- The calls by what they do to hosts and routes. -/
inductive RoutingMove (env : Env) (s next : Sys) : Call → Rc → Prop
  | leaves {call : Call} {rc : Rc} {gone : List HostTableEntry}
      (notRoute : ∀ action route, call ≠ .routeAction action route) :
      HostsLeave s next gone → RoutingMove env s next call rc
  | comes {up : OfprotoRef} {aux : Aux} {isIpv6Addr : Bool} {ipAddr : CString}
      {nextHopMacAddr : Option CString} {entry : HostTableEntry} :
      hostAddress ipAddr = some entry.ipv4Addr → HostComes env s next entry →
      RoutingMove env s next (.addL3Host up aux isIpv6Addr ipAddr nextHopMacAddr) .ok
  | refused {action : RouteAction} {route : OfprotoRoute} {rc : Rc} (notOk : rc ≠ .ok) :
      next = s → RoutingMove env s next (.routeAction action route) rc
  | deleted {route : OfprotoRoute} {key : RoutePrefix} :
      opsFpaStr2ip route.ipPrefix = some key → PrefixChanges s next key [] →
      RoutingMove env s next (.routeAction .delete route) .ok
  | added {route : OfprotoRoute} {key : RoutePrefix} {nexthop : RouteNexthop}
      {target : RouteTarget} :
      opsFpaStr2ip route.ipPrefix = some key → route.nexthops = [nexthop] →
      nexthopTarget env s.hostTable nexthop = some target →
      PrefixChanges s next key [target.flow env key] →
      RoutingMove env s next (.routeAction .add route) .ok

theorem routeAction_moves (succeeds : env.AllSucceed) {action : RouteAction} {route : OfprotoRoute}
    (taken : l3RouteAction env s action route = (rc, next)) :
    RoutingMove env s next (.routeAction action route) rc := by
  by_cases isOk : rc = .ok
  · subst isOk
    obtain ⟨key, parsed, ⟨rfl, changes⟩ | ⟨rfl, nexthop, target, nexthops, isTarget, changes⟩⟩ :=
      routeAction_changes succeeds taken
    · exact .deleted parsed changes
    · exact .added parsed nexthops isTarget changes
  · exact .refused isOk (routeAction_refused succeeds taken isOk)

theorem step_moves {call : Call} (succeeds : env.AllSucceed) (keyed : BundlesKeyed env s)
    (sound : HostsSound env origin s) (taken : step env s call = .ok (rc, next)) :
    RoutingMove env s next call rc := by
  rcases step_cases taken with ⟨up, aux, set, rfl, changed⟩ |
    ⟨up, aux, isIpv6Addr, ipAddr, nextHopMacAddr, reply, rfl, added⟩ |
    ⟨up, aux, isIpv6Addr, ipAddr, rfl, deleted⟩ | ⟨peripheral, _⟩
  · obtain ⟨gone, left⟩ := bundleSet_leaves succeeds keyed sound changed
    exact .leaves (by simp) left
  · rcases addL3Host_comes succeeds added with same | ⟨rfl, entry, address, comes⟩
    · exact .leaves (by simp) same
    · exact .comes address comes
  · obtain ⟨gone, left⟩ := deleteL3Host_leaves succeeds sound deleted
    exact .leaves (by simp) left
  · by_cases isRoute : ∃ action route, call = .routeAction action route
    · obtain ⟨action, route, rfl⟩ := isRoute
      simp only [step, Except.ok.injEq] at taken
      exact routeAction_moves succeeds taken
    · rcases peripheral_sameHosts peripheral taken with ⟨action, route, isCall⟩ | same
      · exact (isRoute ⟨action, route, isCall⟩).elim
      · exact .leaves (fun action route isCall => isRoute ⟨action, route, isCall⟩)
          (.of_sameHosts same)

end FpaPlugin
