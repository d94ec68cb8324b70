import FpaPlugin.HostFlows
import FpaPlugin.RouteRefs

/-! `get_l3_host_hit`. A host is taken to be in use when its L3 group is referred to more than
once: its own flow is one reference, and what else refers to the group is a route. -/

namespace FpaPlugin

/-- `referenceCount` is that of `fpaLibGroupEntryStatisticsGet`, or `none` for an error. The reply
is `none` for EINVAL. -/
def getL3HostHit (env : Env) (referenceCount : Asic → Nat → Option Nat) (s : Sys)
    (isIpv6Addr : Bool) (ipAddr : CString) : Option Bool :=
  if isIpv6Addr then none
  else
    ((hostAddress ipAddr).bind (hostTableFind env s.hostTable)).bind fun host =>
      (referenceCount s.hw.fpa.asic host.l3Group).map fun count => decide (1 < count)

/-- Assumed of FPA: it counts the entries that lead to a group, and to an L3-unicast group only
those of the unicast routing table can. -/
def CountsRoutes (referenceCount : Asic → Nat → Option Nat) : Prop :=
  ∀ asic group bucket, l3GroupBase ≤ group → asic.bucketOf group = some bucket →
    referenceCount asic group =
      some ((asic.flows .l3Unicast).countP fun flow => flow.data.groupId = group)

/-- An address becomes a host only while nothing is filed under its cookie, and no route action
is for the address of a host or for a prefix of other than 0 to 32 bits, as far as calls are
accepted. -/
def keepsHostFlows (event : Event) : Bool :=
  match event.input, event.reply with
  | .addL3Host _ _ _ ipAddr _, .ok =>
      (hostAddress ipAddr).all fun address => (flowsOf event.before (address, 32)).isEmpty
  | .routeAction _ route, .ok =>
      (opsFpaStr2ip route.ipPrefix).all fun key => RoutePrefix.InRange key &&
        event.before.hostTable.values.all fun host => key ≠ host.routePrefix
  | _, _ => true

/-- Every flow of the routing table is the own flow of a host, a trap, or that of a route of the
list, which leads to the host of the route. -/
structure FlowsAccounted (env : Env) (routes : List ViaRoute) (s : Sys) : Prop where
  own : ∀ host ∈ s.hostTable.values, flowsOf s host.routePrefix = [host.flow env]
  apart : ∀ route ∈ routes, ∀ host ∈ s.hostTable.values,
    route.flow.cookie ≠ host.routePrefix.cookie
  leads : ∀ route ∈ routes, route.flow.data.groupId = route.host.l3Group
  routed : ∀ flow ∈ routingFlows s,
    (∃ host ∈ s.hostTable.values, flow.cookie = host.routePrefix.cookie) ∨
      flow.data.groupId = 0xffffffff ∨ ∃ route ∈ routes, route.flow = flow

/-- An element that is counted is not the only one if one of another kind is counted too. -/
theorem one_lt_countP_iff {α : Type} {l : List α} {counted own : α → Bool} {first : α}
    (once : l.filter own = [first]) (isCounted : counted first = true) :
    1 < l.countP counted ↔ ∃ other ∈ l, counted other = true ∧ own other = false := by
  have split := (List.filter_append_perm own l).countP_eq counted
  rw [List.countP_append, once, List.countP_singleton, if_pos isCounted] at split
  have others : 0 < (l.filter fun a => !own a).countP counted ↔
      ∃ other ∈ l, counted other = true ∧ own other = false := by
    rw [List.countP_pos_iff]
    constructor
    · rintro ⟨other, member, isOther⟩
      obtain ⟨inList, notOwn⟩ := List.mem_filter.mp member
      exact ⟨other, inList, isOther, by simpa using notOwn⟩
    · rintro ⟨other, inList, isOther, notOwn⟩
      exact ⟨other, List.mem_filter.mpr ⟨inList, by simpa using notOwn⟩, isOther⟩
  rw [← others]
  omega

theorem l3Group_ne_trap {index group : Nat}
    (built : fpaLibGroupIdentifierBuild env (.l3Unicast index) = some group) :
    group ≠ 0xffffffff := by
  have isGroup := l3Group_eq built
  have small : index < 2 ^ 28 := groupIdent_fits built
  rw [isGroup, l3GroupBase]
  omega

section Accounted

variable {env : Env} {s next : Sys} {routes : List ViaRoute}
  {origin : HostTableEntry → Option NextHop}

theorem FlowsAccounted.eq_of_cookie (accounted : FlowsAccounted env routes s)
    (sound : HostsSound env origin s) {host other : HostTableEntry}
    (member : host ∈ s.hostTable.values) (otherMember : other ∈ s.hostTable.values)
    (same : host.routePrefix.cookie = other.routePrefix.cookie) : host = other := by
  have flow := accounted.own host member
  have otherFlow := accounted.own other otherMember
  rw [flowsOf, same, ← flowsOf, otherFlow, List.cons.injEq] at flow
  have sameGroup := congrArg (fun entry : FlowEntry .l3Unicast => entry.data.groupId) flow.1
  exact sound.eq_of_l3Group member otherMember sameGroup.symm

theorem FlowsAccounted.hit_iff (accounted : FlowsAccounted env routes s)
    (sound : HostsSound env origin s) (installed : ∀ route ∈ routes, stillInstalled s route = true)
    {host : HostTableEntry} (member : host ∈ s.hostTable.values) :
    1 < (routingFlows s).countP (fun flow => flow.data.groupId = host.l3Group) ↔
      ∃ route ∈ routes, route.host.l3Group = host.l3Group := by
  have own : (routingFlows s).filter (fun flow => flow.cookie = host.routePrefix.cookie) =
      [host.flow env] := accounted.own host member
  rw [one_lt_countP_iff own (decide_eq_true rfl)]
  constructor
  · rintro ⟨flow, inTable, leads, notOwn⟩
    have isGroup := of_decide_eq_true leads
    rcases accounted.routed flow inTable with ⟨other, otherMember, isCookie⟩ | isTrap |
      ⟨route, inRoutes, rfl⟩
    · -- a flow under the cookie of another host leads to the group of that host
      have inOwn : flow ∈ flowsOf s other.routePrefix :=
        List.mem_filter.mpr ⟨inTable, decide_eq_true isCookie⟩
      rw [accounted.own other otherMember, List.mem_singleton] at inOwn
      rw [inOwn] at isGroup
      have sameHost := sound.eq_of_l3Group otherMember member isGroup
      rw [← sameHost] at notOwn
      exact (of_decide_eq_false notOwn isCookie).elim
    · exact (l3Group_ne_trap (sound.each host member).l3Group (isGroup.symm.trans isTrap)).elim
    · exact ⟨route, inRoutes, (accounted.leads route inRoutes).symm.trans isGroup⟩
  · rintro ⟨route, inRoutes, sameGroup⟩
    refine ⟨route.flow, stillInstalled_iff.mp (installed route inRoutes),
      decide_eq_true ((accounted.leads route inRoutes).trans sameGroup), decide_eq_false ?_⟩
    exact accounted.apart route inRoutes host member

theorem FlowsAccounted.leave {gone : List HostTableEntry} (accounted : FlowsAccounted env routes s)
    (sound : HostsSound env origin s) (left : HostsLeave s next gone) :
    FlowsAccounted env routes next := by
  refine ⟨fun host member => ?_, fun route inRoutes host member =>
    accounted.apart route inRoutes host (left.subset host member), accounted.leads,
    fun flow inTable => ?_⟩
  · rw [← accounted.own host (left.subset host member), flowsOf, flowsOf, ← routingFlows,
      ← routingFlows, left.flows, List.filter_filter]
    refine List.filter_congr fun flow _ => ?_
    by_cases same : flow.cookie = host.routePrefix.cookie
    · have kept : (gone.all fun other => flow.cookie ≠ other.routePrefix.cookie) = true := by
        rw [List.all_eq_true]
        intro other isGone
        refine decide_eq_true fun isOther => left.not_gone sound member ?_
        rw [accounted.eq_of_cookie sound (left.subset host member) (left.gone_mem other isGone)
          (same.symm.trans isOther)]
        exact isGone
      rw [kept, Bool.and_true]
    · rw [decide_eq_false same, Bool.false_and]
  · rw [left.flows, List.mem_filter, List.all_eq_true] at inTable
    rcases accounted.routed flow inTable.1 with ⟨host, member, isCookie⟩ | others
    · rcases List.mem_append.mp (left.hosts.mem_iff.mpr member) with isGone | stays
      · exact (of_decide_eq_true (inTable.2 host isGone) isCookie).elim
      · exact .inl ⟨host, stays, isCookie⟩
    · exact .inr others

theorem FlowsAccounted.come {entry : HostTableEntry} (accounted : FlowsAccounted env routes s)
    (installed : ∀ route ∈ routes, stillInstalled s route = true)
    (unused : flowsOf s entry.routePrefix = []) (comes : HostComes env s next entry) :
    FlowsAccounted env routes next := by
  have noFlow : ∀ flow ∈ routingFlows s, flow.cookie ≠ entry.routePrefix.cookie := by
    intro flow inTable isCookie
    have none := List.filter_eq_nil_iff.mp unused flow inTable
    exact none (decide_eq_true isCookie)
  have cookie : (entry.flow env).cookie = entry.routePrefix.cookie := rfl
  refine ⟨fun host member => ?_, fun route inRoutes host member => ?_, accounted.leads,
    fun flow inTable => ?_⟩
  · rw [flowsOf, ← routingFlows, comes.flows, List.filter_append, routingFlows, ← flowsOf]
    rcases List.mem_cons.mp (comes.hosts.mem_iff.mp member) with rfl | old
    · rw [unused, List.nil_append, List.filter_singleton, cookie, decide_eq_true rfl]
      rfl
    · have own := accounted.own host old
      have inTable : host.flow env ∈ flowsOf s host.routePrefix := own ▸ List.mem_singleton_self _
      have different := noFlow _ (List.mem_of_mem_filter inTable)
      rw [own, List.filter_singleton, decide_eq_false fun same => different same.symm]
      rfl
  · rcases List.mem_cons.mp (comes.hosts.mem_iff.mp member) with rfl | old
    · exact noFlow route.flow (stillInstalled_iff.mp (installed route inRoutes))
    · exact accounted.apart route inRoutes host old
  · rw [comes.flows, List.mem_append, List.mem_singleton] at inTable
    rcases inTable with old | rfl
    · rcases accounted.routed flow old with ⟨host, member, isCookie⟩ | others
      · exact .inl ⟨host, comes.hosts.mem_iff.mpr (List.mem_cons_of_mem _ member), isCookie⟩
      · exact .inr others
    · exact .inl ⟨entry, comes.hosts.mem_iff.mpr List.mem_cons_self, rfl⟩

theorem FlowsAccounted.change {key : RoutePrefix} {added : List (FlowEntry .l3Unicast)}
    (accounted : FlowsAccounted env routes s) (routed : List ViaRoute)
    (apart : ∀ host ∈ s.hostTable.values, key.cookie ≠ host.routePrefix.cookie)
    (changes : PrefixChanges s next key added)
    (cookies : ∀ flow ∈ added, flow.cookie = key.cookie)
    (ours : ∀ route ∈ routed, route.flow ∈ added ∧ route.flow.data.groupId = route.host.l3Group)
    (leads : ∀ flow ∈ added, flow.data.groupId = 0xffffffff ∨ ∃ route ∈ routed, route.flow = flow) :
    FlowsAccounted env (routed ++ routes) next := by
  have sameTable := changes.hosts
  rw [← sameTable] at apart
  refine ⟨fun host member => ?_, fun route inRoutes host member => ?_, fun route inRoutes => ?_,
    fun flow inTable => ?_⟩
  · have different := apart host member
    have none : added.filter (fun flow => flow.cookie = host.routePrefix.cookie) = [] := by
      rw [List.filter_eq_nil_iff]
      intro flow isAdded
      simp [cookies flow isAdded, different]
    rw [flowsOf, ← routingFlows, changes.flows, List.filter_append, filter_others _ different.symm,
      none, List.append_nil, routingFlows, ← flowsOf]
    exact accounted.own host (sameTable ▸ member)
  · rcases List.mem_append.mp inRoutes with new | old
    · rw [cookies _ (ours route new).1]
      exact apart host member
    · exact accounted.apart route old host (sameTable ▸ member)
  · rcases List.mem_append.mp inRoutes with new | old
    · exact (ours route new).2
    · exact accounted.leads route old
  · rw [changes.flows, List.mem_append] at inTable
    rcases inTable with old | new
    · rcases accounted.routed flow (List.mem_of_mem_filter old) with ⟨host, member, isCookie⟩ |
        isTrap | ⟨route, inRoutes, leadsTo⟩
      · exact .inl ⟨host, sameTable ▸ member, isCookie⟩
      · exact .inr (.inl isTrap)
      · exact .inr (.inr ⟨route, List.mem_append_right _ inRoutes, leadsTo⟩)
    · rcases leads flow new with isTrap | ⟨route, isRouted, leadsTo⟩
      · exact .inr (.inl isTrap)
      · exact .inr (.inr ⟨route, List.mem_append_left _ isRouted, leadsTo⟩)

end Accounted

section Step

variable {env : Env} {s next : Sys} {rc : Rc} {trace : Trace}

theorem routedVia_none {call : Call} (notRoute : ∀ action route, call ≠ .routeAction action route) :
    routedVia env trace ⟨s, call, rc, next⟩ = [] := by
  have unresolved : resolvedHost env ⟨s, call, rc, next⟩ = none := by
    simp only [resolvedHost]
    split
    · exact (notRoute _ _ rfl).elim
    · rfl
  rw [routedVia, unresolved]

theorem routedVia_refused {action : RouteAction} {route : OfprotoRoute} (notOk : rc ≠ .ok) :
    routedVia env trace ⟨s, .routeAction action route, rc, next⟩ = [] := by
  have unresolved : resolvedHost env ⟨s, .routeAction action route, rc, next⟩ = none := by
    simp only [resolvedHost]
    split
    · exact (notOk rfl).elim
    · rfl
  rw [routedVia, unresolved]

theorem routedVia_installed {event : Event} :
    ∀ route ∈ routedVia env trace event, stillInstalled event.after route = true := by
  intro route member
  rw [routedVia] at member
  split at member
  · cases member
  · obtain ⟨flow, inTable, rfl⟩ := List.mem_map.mp member
    exact stillInstalled_iff.mpr (List.mem_of_mem_filter inTable)

theorem resolvedHost_target {route : OfprotoRoute} {key : RoutePrefix} {nexthop : RouteNexthop}
    {target : RouteTarget} (parsed : opsFpaStr2ip route.ipPrefix = some key)
    (nexthops : route.nexthops = [nexthop])
    (isTarget : nexthopTarget env s.hostTable nexthop = some target) :
    (target = .cpu ∧ resolvedHost env ⟨s, .routeAction .add route, .ok, next⟩ = none) ∨
      ∃ host, resolvedHost env ⟨s, .routeAction .add route, .ok, next⟩ = some (key, host) ∧
        target = .l3Group host.l3Group := by
  simp only [resolvedHost, parsed, nexthops]
  rw [nexthopTarget] at isTarget
  split at isTarget
  · rename_i resolved
    obtain ⟨address, isAddress, found⟩ := Option.bind_eq_some_iff.mp isTarget
    obtain ⟨host, isHost, rfl⟩ := Option.map_eq_some_iff.mp found
    right
    refine ⟨host, ?_, rfl⟩
    rw [if_pos resolved, isAddress, Option.bind_some, isHost, Option.map_some]
  · rename_i unresolved
    cases isTarget
    exact .inl ⟨rfl, if_neg unresolved⟩

theorem PrefixChanges.flowsOf_own {key : RoutePrefix} {target : RouteTarget}
    (changes : PrefixChanges s next key [target.flow env key]) :
    flowsOf next key = [target.flow env key] := by
  rw [flowsOf, ← routingFlows, changes.flows, List.filter_append, filter_own, List.nil_append,
    List.filter_singleton, decide_eq_true target.flow_cookie]
  rfl

theorem FlowsAccounted.later {event : Event}
    (accounted : FlowsAccounted env (routedVia env trace event ++ routesVia env trace)
      event.after) : FlowsAccounted env (routesVia env (event :: trace)) event.after := by
  have known : ∀ route ∈ routesVia env (event :: trace),
      route ∈ routedVia env trace event ++ routesVia env trace := by
    intro route inRoutes
    rw [routesVia, List.mem_append] at inRoutes
    exact List.mem_append.mpr (inRoutes.imp_right List.mem_of_mem_filter)
  refine ⟨accounted.own, fun route inRoutes => accounted.apart route (known route inRoutes),
    fun route inRoutes => accounted.leads route (known route inRoutes), fun flow inTable => ?_⟩
  rcases accounted.routed flow inTable with isOwn | isTrap | ⟨route, inRoutes, rfl⟩
  · exact .inl isOwn
  · exact .inr (.inl isTrap)
  · refine .inr (.inr ⟨route, ?_, rfl⟩)
    rw [routesVia, List.mem_append]
    exact (List.mem_append.mp inRoutes).imp_right fun old =>
      List.mem_filter.mpr ⟨old, stillInstalled_iff.mpr inTable⟩

structure HitInvariant (env : Env) (trace : Trace) (s : Sys) : Prop where
  keyed : BundlesKeyed env s
  hosts : HostsSound env (hostNextHop env trace) s
  accounted : FlowsAccounted env (routesVia env trace) s
  installed : ∀ route ∈ routesVia env trace, stillInstalled s route = true

theorem routeAction_apart {action : RouteAction} {route : OfprotoRoute} {key : RoutePrefix}
    (parsed : opsFpaStr2ip route.ipPrefix = some key)
    (allowed : keepsHostFlows ⟨s, .routeAction action route, .ok, next⟩) :
    ∀ host ∈ s.hostTable.values, key.cookie ≠ host.routePrefix.cookie := by
  intro host member
  simp only [keepsHostFlows, parsed, Option.all_some, Bool.and_eq_true, List.all_eq_true] at allowed
  obtain ⟨inRange, notHosts⟩ := allowed
  intro same
  exact of_decide_eq_true (notHosts host member)
    (RoutePrefix.eq_of_cookie (of_decide_eq_true inRange) host.routePrefix_inRange same)

theorem HitInvariant.accounts {call : Call} (invariant : HitInvariant env trace s)
    (allowed : keepsHostFlows ⟨s, call, rc, next⟩) (moved : RoutingMove env s next call rc) :
    FlowsAccounted env (routedVia env trace ⟨s, call, rc, next⟩ ++ routesVia env trace) next := by
  cases moved with
  | leaves notRoute left =>
      rw [routedVia_none notRoute]
      exact invariant.accounted.leave invariant.hosts left
  | comes address comes =>
      rw [routedVia_none (by simp)]
      refine invariant.accounted.come invariant.installed ?_ comes
      simp only [keepsHostFlows, address, Option.all_some, List.isEmpty_iff] at allowed
      exact allowed
  | refused notOk same =>
      rw [routedVia_refused notOk]
      exact same ▸ invariant.accounted
  | deleted parsed changes =>
      exact invariant.accounted.change [] (routeAction_apart parsed allowed) changes (by simp)
        (by simp) (by simp)
  | @added route key nexthop target parsed nexthops isTarget changes =>
      have apart := routeAction_apart parsed allowed
      have cookies : ∀ flow ∈ [target.flow env key], flow.cookie = key.cookie := by
        intro flow isAdded
        rw [List.mem_singleton.mp isAdded, target.flow_cookie]
      rcases @resolvedHost_target env s next route key nexthop target parsed nexthops isTarget with
        ⟨rfl, unresolved⟩ | ⟨host, resolved, rfl⟩
      · rw [routedVia, unresolved]
        refine invariant.accounted.change [] apart changes cookies (by simp) ?_
        intro flow isAdded
        rw [List.mem_singleton.mp isAdded]
        exact .inl rfl
      · simp only [routedVia, resolved, changes.flowsOf_own, List.map_cons, List.map_nil]
        refine invariant.accounted.change _ apart changes cookies ?_ ?_
        · intro via isVia
          rw [List.mem_singleton.mp isVia]
          exact ⟨List.mem_singleton_self _, rfl⟩
        · intro flow isAdded
          exact .inr ⟨_, List.mem_singleton_self _, (List.mem_singleton.mp isAdded).symm⟩

theorem HitInvariant.step {call : Call} (succeeds : env.AllSucceed)
    (invariant : HitInvariant env trace s) (allowed : keepsHostFlows ⟨s, call, rc, next⟩)
    (taken : step env s call = .ok (rc, next)) :
    HitInvariant env (⟨s, call, rc, next⟩ :: trace) next := by
  have moved := step_moves succeeds invariant.keyed invariant.hosts taken
  have accounted := invariant.accounts allowed moved
  refine ⟨step_keyed invariant.keyed taken,
    step_hostsSound succeeds invariant.keyed invariant.hosts taken,
    FlowsAccounted.later accounted, fun route inRoutes => ?_⟩
  rw [routesVia, List.mem_append, List.mem_filter] at inRoutes
  rcases inRoutes with isNew | ⟨_, still⟩
  · exact routedVia_installed route isNew
  · exact still

theorem Initial.hitInvariant (initial : Initial s) : HitInvariant env [] s where
  keyed := initial.bundlesKeyed
  hosts := initial.hostsSound _
  accounted := by
    refine ⟨?_, ?_, ?_, ?_⟩
    · rw [initial.hostTable]
      intro host member
      cases member
    · intro route inRoutes
      cases inRoutes
    · intro route inRoutes
      cases inRoutes
    · rw [routingFlows, initial.asic]
      intro flow inTable
      cases inTable
  installed := by
    intro route inRoutes
    cases inRoutes

end Step

/-- As long as no route is for the address of a host, `get_l3_host_hit` tells of every host whether
a route that was added through its group is still in the routing table. -/
theorem host_hit_shows_routes (env : Env) (succeeds : env.AllSucceed)
    (referenceCount : Asic → Nat → Option Nat) (counts : CountsRoutes referenceCount)
    (start : Sys) (initial : Initial start) (trace : Trace) (state : Sys)
    (run : Run env start trace state)
    (allowed : Runs.Along (fun _ event => keepsHostFlows event) trace) (ipAddr : CString) :
    getL3HostHit env referenceCount state false ipAddr =
      ((hostAddress ipAddr).bind (hostTableFind env state.hostTable)).map fun host =>
        (routesVia env trace).any fun route => route.host.l3Group = host.l3Group := by
  have invariant : HitInvariant env trace state := by
    refine Runs.Run.invariant initial.hitInvariant ?_ run allowed
    intro earlier before call rc after invariant taken isAllowed
    exact invariant.step succeeds isAllowed taken
  simp only [getL3HostHit, Bool.false_eq_true, if_false]
  cases found : (hostAddress ipAddr).bind (hostTableFind env state.hostTable) with
  | none => rfl
  | some host =>
      have member : host ∈ state.hostTable.values := by
        obtain ⟨address, _, isHost⟩ := Option.bind_eq_some_iff.mp found
        exact Hmap.mem_values.mpr ⟨_, (hostTableFind_some isHost).1⟩
      have sound := invariant.hosts.each host member
      obtain ⟨_, _, _, bucket, _⟩ := sound.bucket
      rw [Option.bind_some, Option.map_some, counts _ _ _ sound.base_le bucket, Option.map_some]
      congr 1
      rw [Bool.eq_iff_iff, decide_eq_true_eq, List.any_eq_true, ← routingFlows,
        invariant.accounted.hit_iff invariant.hosts invariant.installed member]
      simp only [decide_eq_true_eq]

section TwoNeighbours

def countReferences (asic : Asic) (group : Nat) : Option Nat :=
  (asic.bucketOf group).map fun _ =>
    (asic.flows .l3Unicast).countP fun flow => flow.data.groupId = group

theorem countReferences_countsRoutes : CountsRoutes countReferences := by
  intro asic group bucket _ present
  rw [countReferences, present, Option.map_some]

theorem host_hit_of_first_neighbour :
    ∃ trace state, Run idealEnv idealSys trace state ∧
      getL3HostHit idealEnv countReferences state false "10.0.0.2".toList = some true ∧
      getL3HostHit idealEnv countReferences state false "10.0.0.3".toList = some false := by
  obtain ⟨trace, state, run, allowed, first, second⟩ := run_of_check idealEnv idealSys
    (routedNeighbour ++
      [.addL3Host 1 100 false "10.0.0.3".toList (some "00:00:00:00:00:03".toList),
        .routeAction .add (routeThrough "30.0.0.0/24" "10.0.0.3"),
        .routeAction .delete (routeThrough "30.0.0.0/24" "10.0.0.3")])
    (fun trace state => Runs.Along (fun _ event => keepsHostFlows event) trace ∧
      ((hostAddress "10.0.0.2".toList).bind (hostTableFind idealEnv state.hostTable)).map (fun host =>
        (routesVia idealEnv trace).any fun route => route.host.l3Group = host.l3Group) = some true ∧
      ((hostAddress "10.0.0.3".toList).bind (hostTableFind idealEnv state.hostTable)).map (fun host =>
        (routesVia idealEnv trace).any fun route => route.host.l3Group = host.l3Group) = some false)
    (by decide +kernel)
  have shown := host_hit_shows_routes idealEnv idealEnv_allSucceed countReferences
    countReferences_countsRoutes idealSys idealSys_initial trace state run allowed
  exact ⟨trace, state, run, (shown _).trans first, (shown _).trans second⟩

end TwoNeighbours

end FpaPlugin
