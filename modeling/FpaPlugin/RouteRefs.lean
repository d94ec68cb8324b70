import FpaPlugin.HostFlows

/-! Routes through a resolved next hop keep only the number of its L3 group. What the
number stands for is settled by the host table and the free list of ARP indices. -/

namespace FpaPlugin

variable {env : Env}

instance FlowEntry.decidableEqL3Unicast : DecidableEq (FlowEntry .l3Unicast) := fun first second =>
  decidable_of_iff (first.cookie = second.cookie ∧ first.data = second.data) <| by
    cases first
    cases second
    simp

/-- A flow of the routing table that a route action has added, the host that it was to lead to,
and the neighbour behind that host. -/
structure ViaRoute where
  flow : FlowEntry .l3Unicast
  host : HostTableEntry
  nextHop : Option NextHop
  deriving DecidableEq

/-- The host of the resolved next hop of a route that was added, with the prefix of the route. -/
def resolvedHost (env : Env) (event : Event) : Option (RoutePrefix × HostTableEntry) :=
  match event.input, event.reply with
  | .routeAction .add route, .ok =>
      match opsFpaStr2ip route.ipPrefix, route.nexthops with
      | some key, [nexthop] =>
          if nexthop.resolved then
            ((opsFpaStr2ip nexthop.id).bind fun address =>
              hostTableFind env event.before.hostTable address.1).map fun host => (key, host)
          else none
      | _, _ => none
  | _, _ => none

/-- The flow that the event has added through a resolved next hop, as it stands in the table. -/
def routedVia (env : Env) (earlier : Trace) (event : Event) : List ViaRoute :=
  match resolvedHost env event with
  | none => []
  | some (key, host) =>
      (flowsOf event.after key).map fun flow => ⟨flow, host, hostNextHop env earlier host⟩

def stillInstalled (s : Sys) (route : ViaRoute) : Bool :=
  (routingFlows s).any fun flow => flow = route.flow

/-- The flows added through resolved next hops that have stayed in the table since. -/
def routesVia (env : Env) : Trace → List ViaRoute
  | [] => []
  | event :: earlier =>
      routedVia env earlier event ++ (routesVia env earlier).filter (stillInstalled event.after)

/-- The group of the flow is there with the neighbour of the host in its bucket, and no other
host has it. -/
structure RefersToHost (env : Env) (s : Sys) (route : ViaRoute) : Prop where
  installed : route.flow ∈ routingFlows s
  bucket : ∃ nextHop data, route.nextHop = some nextHop ∧
    s.hw.fpa.asic.bucketOf route.flow.data.groupId = some (.l3Unicast data) ∧
    data.dstMac = nextHop.mac ∧ isL2Group env nextHop.egress nextHop.vlanId data.refGroupId
  own : ∀ host ∈ s.hostTable.values, host.l3Group = route.flow.data.groupId → host = route.host

def unreferenced (env : Env) (earlier : Trace) (host : HostTableEntry) : Bool :=
  (routesVia env earlier).all fun route =>
    route.flow.data.groupId ≠ host.l3Group || route.flow.cookie = host.routePrefix.cookie

def deletesUnreferencedHosts (env : Env) (earlier : Trace) (event : Event) : Bool :=
  (deletedHosts env event.before event.input).all (unreferenced env earlier)

section Step

variable {s next : Sys} {up : OfprotoRef} {aux : Aux} {rc : Rc} {trace : Trace}

structure LeadsToHost (env : Env) (trace : Trace) (s : Sys) (route : ViaRoute) : Prop where
  installed : route.flow ∈ routingFlows s
  live : route.host ∈ s.hostTable.values
  leads : route.flow.data.groupId = route.host.l3Group
  nextHop : route.nextHop = hostNextHop env trace route.host

structure RouteRefs (env : Env) (trace : Trace) (s : Sys) : Prop where
  keyed : BundlesKeyed env s
  hosts : HostsSound env (hostNextHop env trace) s
  routes : ∀ route ∈ routesVia env trace, LeadsToHost env trace s route

theorem RouteRefs.refers (refs : RouteRefs env trace s) {route : ViaRoute}
    (member : route ∈ routesVia env trace) : RefersToHost env s route := by
  obtain ⟨installed, live, leads, nextHop⟩ := refs.routes route member
  obtain ⟨_, _, bucket⟩ := refs.hosts.each route.host live
  rw [← nextHop, ← leads] at bucket
  refine ⟨installed, bucket, fun host isHost same => ?_⟩
  exact refs.hosts.eq_of_l3Group isHost live (same.trans leads)

def StaysOrGoes (env : Env) (trace : Trace) (s : Sys) (host : HostTableEntry) : Prop :=
  host ∈ s.hostTable.values ∨ unreferenced env trace host = true ∧
    ∀ flow ∈ routingFlows s, flow.cookie ≠ host.routePrefix.cookie

theorem stillInstalled_iff {route : ViaRoute} :
    stillInstalled s route = true ↔ route.flow ∈ routingFlows s := by
  simp [stillInstalled]

theorem RouteRefs.later {event : Event} (refs : RouteRefs env trace event.before)
    (keyed : BundlesKeyed env event.after)
    (hosts : HostsSound env (hostNextHop env (event :: trace)) event.after)
    (accounted : ∀ host ∈ event.before.hostTable.values, StaysOrGoes env trace event.after host)
    (added : ∀ route ∈ routedVia env trace event, route.host ∈ event.before.hostTable.values ∧
      LeadsToHost env trace event.after route) :
    RouteRefs env (event :: trace) event.after := by
  refine ⟨keyed, hosts, ?_⟩
  intro route member
  have traced : route.host ∈ event.before.hostTable.values ∧
      LeadsToHost env trace event.after route := by
    rw [routesVia, List.mem_append, List.mem_filter, stillInstalled_iff] at member
    rcases member with new | ⟨old, still⟩
    · exact added route new
    · obtain ⟨_, live, leads, nextHop⟩ := refs.routes route old
      refine ⟨live, still, ?_, leads, nextHop⟩
      rcases accounted route.host live with stays | ⟨unused, noFlow⟩
      · exact stays
      · -- a route through a host that went was to the host's own address, and went too
        have byCookie := List.all_eq_true.mp unused route old
        simp only [leads, ne_eq, not_true_eq_false, decide_false, Bool.false_or,
          decide_eq_true_eq] at byCookie
        exact (noFlow route.flow still byCookie).elim
  obtain ⟨was, installed, live, leads, nextHop⟩ := traced
  exact ⟨installed, live, leads, nextHop.trans (hostNextHop_kept was).symm⟩

theorem delete_staysOrGoes {isIpv6Addr : Bool} {ipAddr : CString} (succeeds : env.AllSucceed)
    (sound : HostsSound env (hostNextHop env trace) s)
    (unused : ∀ l3Intf host, deletedHost env s up aux isIpv6Addr ipAddr = some (l3Intf, host) →
      unreferenced env trace host = true)
    (taken : deleteL3HostEntry env s up aux isIpv6Addr ipAddr = .ok (rc, next))
    {host : HostTableEntry} (was : StaysOrGoes env trace s host) :
    StaysOrGoes env trace next host := by
  obtain ⟨_, _, fewerFlows, each⟩ := sound.delete succeeds taken
  rcases was with member | ⟨gone, noFlow⟩
  · rcases each host member with stays | ⟨found, noFlow⟩
    · exact .inl stays
    · rcases deleteL3HostEntry_cases taken with ⟨_, rfl⟩ |
        ⟨_, notIpv6, bundle, l3Intf, ipv4Addr, entry, isBundle, routed, address, hostFound, _⟩
      · exact .inl member
      · rw [address, Option.bind_some, hostFound, Option.some.injEq] at found
        have isIntf : l3IntfOf env s up aux = some l3Intf := by
          rw [l3IntfOf, isBundle]
          exact routed
        have isDeleted := deletedHost_some notIpv6 isIntf address hostFound
        exact .inr ⟨unused l3Intf host (found ▸ isDeleted), noFlow⟩
  · exact .inr ⟨gone, fun flow inTable => noFlow flow (fewerFlows flow inTable)⟩

theorem bundleSet_staysOrGoes {set : Option BundleSettings} (succeeds : env.AllSucceed)
    (refs : RouteRefs env trace s)
    (allowed : deletesUnreferencedHosts env trace ⟨s, .bundleSet up aux set, rc, next⟩)
    (taken : opsFpaOfprotoBundleSet env s up aux set = .ok (rc, next)) :
    ∀ host ∈ s.hostTable.values, StaysOrGoes env trace next host := by
  have outcome : HostsSound env (hostNextHop env trace) next ∧
      (∀ host ∈ next.hostTable.values, host ∈ s.hostTable.values) ∧
      ∀ host ∈ s.hostTable.values, StaysOrGoes env trace next host := by
    refine bundleSet_hosts_rule refs.keyed
      (fun state => HostsSound env (hostNextHop env trace) state ∧
        (∀ host ∈ state.hostTable.values, host ∈ s.hostTable.values) ∧
        ∀ host ∈ s.hostTable.values, StaysOrGoes env trace state host) ?_ ?_ ?_ taken
    · intro state after same kept
      refine ⟨kept.1.framed same, same.hostTable ▸ kept.2.1, ?_⟩
      intro host member
      rw [StaysOrGoes, same.hostTable, routingFlows, same.l3.flows]
      exact kept.2.2 host member
    · intro settings address isSome isGivenUp state rc after kept deleted
      obtain ⟨still, subset, _, _⟩ := kept.1.delete succeeds deleted
      refine ⟨still, fun host member => kept.2.1 host (subset host member), ?_⟩
      intro host member
      refine delete_staysOrGoes succeeds kept.1 ?_ deleted (kept.2.2 host member)
      intro l3Intf gone isGone
      obtain ⟨ipv4Addr, parsed, hostFound⟩ := deletedHost_found isGone
      obtain ⟨inNodes, isAddress⟩ := hostTableFind_some hostFound
      have inTable := kept.2.1 gone (Hmap.mem_values.mpr ⟨_, inNodes⟩)
      subst isSome
      exact List.all_eq_true.mp allowed gone
        (mem_deletedHosts_bundleSet isGivenUp parsed inTable isAddress)
    · exact ⟨refs.hosts, fun _ member => member, fun _ member => .inl member⟩
  exact outcome.2.2

theorem step_staysOrGoes {call : Call} (succeeds : env.AllSucceed) (refs : RouteRefs env trace s)
    (allowed : deletesUnreferencedHosts env trace ⟨s, call, rc, next⟩)
    (taken : step env s call = .ok (rc, next)) :
    ∀ host ∈ s.hostTable.values, StaysOrGoes env trace next host := by
  rcases step_cases taken with ⟨up, aux, set, rfl, changed⟩ |
    ⟨up, aux, isIpv6Addr, ipAddr, nextHopMacAddr, reply, rfl, added⟩ |
    ⟨up, aux, isIpv6Addr, ipAddr, rfl, deleted⟩ | ⟨_, _, sameTable, _⟩
  · exact bundleSet_staysOrGoes succeeds refs allowed changed
  · exact fun host member => .inl ((addL3Host_hostsSound succeeds refs.hosts added).2 host member)
  · intro host member
    refine delete_staysOrGoes succeeds refs.hosts ?_ deleted (.inl member)
    intro l3Intf gone isGone
    exact List.all_eq_true.mp allowed gone (mem_deletedHosts_deleteL3Host isGone)
  · exact fun host member => .inl (sameTable ▸ member)

theorem resolvedHost_some {event : Event} {key : RoutePrefix} {host : HostTableEntry}
    (isResolved : resolvedHost env event = some (key, host)) :
    ∃ route nexthop, event.input = .routeAction .add route ∧ event.reply = .ok ∧
      opsFpaStr2ip route.ipPrefix = some key ∧ route.nexthops = [nexthop] ∧
      host ∈ event.before.hostTable.values ∧
      nexthopTarget env event.before.hostTable nexthop = some (.l3Group host.l3Group) := by
  simp only [resolvedHost] at isResolved
  split at isResolved
  · rename_i route isAdd isOk
    split at isResolved
    · rename_i parsedKey nexthop parsed nexthops
      split at isResolved
      · rename_i resolved
        obtain ⟨found, isFound, same⟩ := Option.map_eq_some_iff.mp isResolved
        cases same
        obtain ⟨address, isAddress, hostFound⟩ := Option.bind_eq_some_iff.mp isFound
        have inNodes := (hostTableFind_some hostFound).1
        refine ⟨route, nexthop, isAdd, isOk, parsed, nexthops, Hmap.mem_values.mpr ⟨_, inNodes⟩, ?_⟩
        rw [nexthopTarget, if_pos resolved, isAddress, Option.bind_some, hostFound, Option.map_some]
      · cases isResolved
    · cases isResolved
  · cases isResolved

theorem routedVia_leads {call : Call} (succeeds : env.AllSucceed)
    (taken : step env s call = .ok (rc, next)) :
    ∀ route ∈ routedVia env trace ⟨s, call, rc, next⟩,
      route.host ∈ s.hostTable.values ∧ LeadsToHost env trace next route := by
  intro route member
  rw [routedVia] at member
  split at member
  · cases member
  · rename_i key host isResolved
    obtain ⟨flow, inTable, rfl⟩ := List.mem_map.mp member
    obtain ⟨added, nexthop, rfl, rfl, parsed, nexthops, isHost, isTarget⟩ :=
      resolvedHost_some isResolved
    simp only [step, Except.ok.injEq] at taken
    obtain ⟨written, isWritten, ⟨absurdity, _⟩ | ⟨_, hop, target, isHop, asked, changes⟩⟩ :=
      routeAction_changes succeeds taken
    · cases absurdity
    · cases parsed.symm.trans isWritten
      cases nexthops.symm.trans isHop
      cases isTarget.symm.trans asked
      have inRouting : flow ∈ routingFlows next := List.mem_of_mem_filter inTable
      have isCookie : flow.cookie = key.cookie := of_decide_eq_true (List.mem_filter.mp inTable).2
      have isFlow : flow = (RouteTarget.l3Group host.l3Group).flow env key := by
        rw [changes.flows, List.mem_append, List.mem_filter, List.mem_singleton] at inRouting
        rcases inRouting with ⟨_, other⟩ | isAdded
        · exact (of_decide_eq_true other isCookie).elim
        · exact isAdded
      refine ⟨isHost, inRouting, ?_, ?_, rfl⟩
      · rw [changes.hosts]
        exact isHost
      · rw [isFlow]
        rfl

theorem step_refs {call : Call} (succeeds : env.AllSucceed) (refs : RouteRefs env trace s)
    (allowed : deletesUnreferencedHosts env trace ⟨s, call, rc, next⟩)
    (taken : step env s call = .ok (rc, next)) :
    RouteRefs env (⟨s, call, rc, next⟩ :: trace) next :=
  @RouteRefs.later env trace ⟨s, call, rc, next⟩ refs (step_keyed refs.keyed taken)
    (step_hostsSound succeeds refs.keyed refs.hosts taken)
    (step_staysOrGoes succeeds refs allowed taken) (routedVia_leads succeeds taken)

theorem Initial.routeRefs (initial : Initial s) : RouteRefs env [] s where
  keyed := initial.bundlesKeyed
  hosts := initial.hostsSound _
  routes := by
    intro route member
    cases member

end Step

/-- As long as no host is deleted while a route needs it, every route through a resolved
next hop leads to that next hop. -/
theorem routes_refer_to_their_next_hop (env : Env) (succeeds : env.AllSucceed) (start : Sys)
    (initial : Initial start) (trace : Trace) (state : Sys) (run : Run env start trace state)
    (allowed : Runs.Along (fun earlier event => deletesUnreferencedHosts env earlier event) trace) :
    ∀ route ∈ routesVia env trace, RefersToHost env state route := by
  intro route member
  have refs : RouteRefs env trace state := by
    refine Runs.Run.invariant initial.routeRefs ?_ run allowed
    intro earlier before call rc after refs taken isAllowed
    exact step_refs succeeds refs isAllowed taken
  exact refs.refers member

section TwoNeighbours

def routeThrough (ipPrefix nextHop : String) : OfprotoRoute :=
  ⟨.ipv4, ipPrefix.toList, [⟨true, nextHop.toList⟩]⟩

def routedNeighbour : List Call :=
  [.portConstruct 1 1 10 (systemNetdev 1) 1500,
    .bundleSet 1 100 (some (routedSettings 1024)),
    .addL3Host 1 100 false "10.0.0.2".toList (some "00:00:00:00:00:02".toList),
    .routeAction .add (routeThrough "20.0.0.0/24" "10.0.0.2")]

theorem routes_refer_after_route_deleted :
    ∃ trace state, Run idealEnv idealSys trace state ∧ (routesVia idealEnv trace).length = 1 ∧
      ∀ route ∈ routesVia idealEnv trace, RefersToHost idealEnv state route := by
  obtain ⟨trace, state, run, one, allowed⟩ := run_of_check idealEnv idealSys
    (routedNeighbour ++
      [.addL3Host 1 100 false "10.0.0.3".toList (some "00:00:00:00:00:03".toList),
        .routeAction .add (routeThrough "30.0.0.0/24" "10.0.0.3"),
        .routeAction .delete (routeThrough "20.0.0.0/24" "10.0.0.2"),
        .deleteL3Host 1 100 false "10.0.0.2".toList])
    (fun trace _ => (routesVia idealEnv trace).length = 1 ∧
      Runs.Along (fun earlier event => deletesUnreferencedHosts idealEnv earlier event) trace)
    (by decide +kernel)
  exact ⟨trace, state, run, one, routes_refer_to_their_next_hop idealEnv idealEnv_allSucceed
    idealSys idealSys_initial trace state run allowed⟩

/-- The neighbour goes, another takes its index, and the old route leads there. -/
theorem route_refers_to_another_host :
    ∃ trace state, Run idealEnv idealSys trace state ∧
      ∃ route ∈ routesVia idealEnv trace, ¬ RefersToHost idealEnv state route := by
  obtain ⟨trace, state, run, found⟩ := run_of_check idealEnv idealSys
    (routedNeighbour ++
      [.addL3Host 1 100 false "10.0.0.4".toList (some "00:00:00:00:00:04".toList),
        .deleteL3Host 1 100 false "10.0.0.2".toList,
        .addL3Host 1 100 false "10.0.0.3".toList (some "00:00:00:00:00:03".toList)])
    (fun trace state => (routesVia idealEnv trace).any (fun route =>
      state.hostTable.values.any fun host =>
        decide (host.l3Group = route.flow.data.groupId ∧ host ≠ route.host)) = true)
    (by decide +kernel)
  obtain ⟨route, member, others⟩ := List.any_eq_true.mp found
  obtain ⟨host, live, other⟩ := List.any_eq_true.mp others
  obtain ⟨same, different⟩ := of_decide_eq_true other
  exact ⟨trace, state, run, route, member, fun refers => different (refers.own host live same)⟩

end TwoNeighbours

end FpaPlugin
