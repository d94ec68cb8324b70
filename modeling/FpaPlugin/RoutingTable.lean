import FpaPlugin.HostFlows
import FpaPlugin.RouteRefs
import FpaPlugin.Lib.LastWrite

/-! The unicast routing table over runs of all the calls. Each prefix is a register: route actions
write it, a host writes the prefix of its address when it comes and clears it when it leaves, and
no other call touches it. -/

namespace FpaPlugin

/-- What hosts that came or left have done to a prefix. -/
def hostWrite (key : RoutePrefix) (before after : List HostTableEntry) :
    Option (Option RouteTarget) :=
  ((after.find? fun host => host.routePrefix = key && !before.contains host).map fun host =>
    some (.l3Group host.l3Group)).or
    (if before.any fun host => host.routePrefix = key && !after.contains host then some none
      else none)

/-- What a call writes to a prefix: a target, or that there is none. -/
def routeWrite (env : Env) (key : RoutePrefix) (event : Event) : Option (Option RouteTarget) :=
  match event.input, event.reply with
  | .routeAction .add route, .ok =>
      if opsFpaStr2ip route.ipPrefix = some key then
        some (route.nexthops.head?.bind (nexthopTarget env event.before.hostTable))
      else none
  | .routeAction .delete route, .ok =>
      if opsFpaStr2ip route.ipPrefix = some key then some none else none
  | _, _ => hostWrite key event.before.hostTable.values event.after.hostTable.values

/-- An address becomes a host only while nothing is filed under its cookie, and prefixes have 0
to 32 bits, as far as calls are accepted. -/
def filesApart (event : Event) : Bool :=
  match event.input, event.reply with
  | .addL3Host _ _ _ ipAddr _, .ok =>
      (hostAddress ipAddr).all fun address => (flowsOf event.before (address, 32)).isEmpty
  | .routeAction _ route, .ok =>
      (opsFpaStr2ip route.ipPrefix).all fun key => RoutePrefix.InRange key
  | _, _ => true

/-- The table holds the last target of every prefix, once, and nothing else. -/
structure TableFollows (env : Env) (trace : Trace) (s : Sys) : Prop where
  each : ∀ key : RoutePrefix, key.InRange → flowsOf s key =
    ((Runs.lastWrite (routeWrite env key) none trace).map fun target => target.flow env key).toList
  others : ∀ flow ∈ routingFlows s, ∃ key : RoutePrefix, key.InRange ∧ flow.cookie = key.cookie

variable {env : Env} {s next : Sys} {rc : Rc} {trace : Trace} {key : RoutePrefix}
  {origin : HostTableEntry → Option NextHop}

section HostWrites

theorem hostWrite_same (key : RoutePrefix) (hosts : List HostTableEntry) :
    hostWrite key hosts hosts = none := by
  have came : hosts.find? (fun host => host.routePrefix = key && !hosts.contains host) = none := by
    rw [List.find?_eq_none]
    intro host member
    simp [member]
  have went : hosts.any (fun host => host.routePrefix = key && !hosts.contains host) = false := by
    rw [List.any_eq_false]
    intro host member
    simp [member]
  rw [hostWrite, came, went]
  rfl

theorem hostWrite_leaves {gone : List HostTableEntry} (sound : HostsSound env origin s)
    (left : HostsLeave s next gone) (key : RoutePrefix) :
    hostWrite key s.hostTable.values next.hostTable.values =
      if ∃ host ∈ gone, host.routePrefix = key then some none else none := by
  have came : next.hostTable.values.find?
      (fun host => host.routePrefix = key && !s.hostTable.values.contains host) = none := by
    rw [List.find?_eq_none]
    intro host member
    simp [left.subset host member]
  have went : s.hostTable.values.any
      (fun host => host.routePrefix = key && !next.hostTable.values.contains host) = true ↔
        ∃ host ∈ gone, host.routePrefix = key := by
    rw [List.any_eq_true]
    constructor
    · rintro ⟨host, member, isGone⟩
      simp only [Bool.and_eq_true, decide_eq_true_eq, Bool.not_eq_true',
        List.contains_eq_mem, decide_eq_false_iff_not] at isGone
      rcases List.mem_append.mp (left.hosts.mem_iff.mpr member) with inGone | stays
      · exact ⟨host, inGone, isGone.1⟩
      · exact (isGone.2 stays).elim
    · rintro ⟨host, inGone, isKey⟩
      refine ⟨host, left.gone_mem host inGone, ?_⟩
      simp only [Bool.and_eq_true, decide_eq_true_eq, Bool.not_eq_true',
        List.contains_eq_mem, decide_eq_false_iff_not]
      exact ⟨isKey, fun stays => left.not_gone sound stays inGone⟩
  rw [hostWrite, came, Option.map_none, Option.none_or]
  simp only [went]

theorem HostComes.absent {entry : HostTableEntry} (comes : HostComes env s next entry)
    (later : HostsSound env origin next) : entry ∉ s.hostTable.values := by
  intro member
  obtain ⟨_, _, unique, _⟩ := later.indices
  have apart := (comes.hosts.map HostTableEntry.arpIndex).nodup_iff.mp unique
  exact (List.nodup_cons.mp apart).1 (List.mem_map_of_mem member)

theorem hostWrite_comes {entry : HostTableEntry} (comes : HostComes env s next entry)
    (later : HostsSound env origin next) (key : RoutePrefix) :
    hostWrite key s.hostTable.values next.hostTable.values =
      if entry.routePrefix = key then some (some (.l3Group entry.l3Group)) else none := by
  have absent := comes.absent later
  have member : entry ∈ next.hostTable.values := comes.hosts.mem_iff.mpr List.mem_cons_self
  have went : s.hostTable.values.any
      (fun host => host.routePrefix = key && !next.hostTable.values.contains host) = false := by
    rw [List.any_eq_false]
    intro host old
    simp [comes.hosts.mem_iff.mpr (List.mem_cons_of_mem _ old)]
  have isEntry : ∀ host ∈ next.hostTable.values,
      (host.routePrefix = key && !s.hostTable.values.contains host) = true → host = entry := by
    intro host inTable isNew
    simp only [Bool.and_eq_true, decide_eq_true_eq, Bool.not_eq_true',
      List.contains_eq_mem, decide_eq_false_iff_not] at isNew
    rcases List.mem_cons.mp (comes.hosts.mem_iff.mp inTable) with same | old
    · exact same
    · exact (isNew.2 old).elim
  rw [hostWrite, went]
  by_cases isKey : entry.routePrefix = key
  · rw [if_pos isKey]
    cases found : next.hostTable.values.find?
        (fun host => host.routePrefix = key && !s.hostTable.values.contains host) with
    | none =>
        have notFound := List.find?_eq_none.mp found entry member
        simp [isKey, absent] at notFound
    | some host =>
        have isNew : (host.routePrefix = key && !s.hostTable.values.contains host) = true := by
          simpa using List.find?_some found
        rw [isEntry host (List.mem_of_find?_eq_some found) isNew]
        rfl
  · rw [if_neg isKey]
    have came : next.hostTable.values.find?
        (fun host => host.routePrefix = key && !s.hostTable.values.contains host) = none := by
      rw [List.find?_eq_none]
      intro host inTable isNew
      rw [isEntry host inTable isNew, decide_eq_false isKey] at isNew
      cases isNew
    rw [came]
    rfl

end HostWrites

section Step

theorem routeWrite_host {call : Call}
    (notRoute : ∀ action route, call ≠ .routeAction action route) :
    routeWrite env key ⟨s, call, rc, next⟩ =
      hostWrite key s.hostTable.values next.hostTable.values := by
  simp only [routeWrite]
  split
  · exact (notRoute _ _ rfl).elim
  · exact (notRoute _ _ rfl).elim
  · rfl

theorem routeWrite_refused {action : RouteAction} {route : OfprotoRoute} (notOk : rc ≠ .ok) :
    routeWrite env key ⟨s, .routeAction action route, rc, s⟩ = none := by
  simp only [routeWrite]
  split
  · exact (notOk rfl).elim
  · exact (notOk rfl).elim
  · exact hostWrite_same key _

theorem TableFollows.write {event : Event} (follows : TableFollows env trace event.before)
    (each : ∀ key : RoutePrefix, key.InRange → flowsOf event.after key =
      ((routeWrite env key event).map fun target =>
        (target.map fun target => target.flow env key).toList).getD (flowsOf event.before key))
    (others : ∀ flow ∈ routingFlows event.after,
      flow ∈ routingFlows event.before ∨
        ∃ key : RoutePrefix, key.InRange ∧ flow.cookie = key.cookie) :
    TableFollows env (event :: trace) event.after := by
  refine ⟨fun key inRange => ?_, fun flow inTable => ?_⟩
  · rw [each key inRange, Runs.lastWrite_cons]
    cases routeWrite env key event with
    | none => exact follows.each key inRange
    | some target => rfl
  · rcases others flow inTable with old | new
    · exact follows.others flow old
    · exact new

theorem flowsOf_leaves {gone : List HostTableEntry} (left : HostsLeave s next gone)
    (inRange : key.InRange) :
    flowsOf next key = if ∃ host ∈ gone, host.routePrefix = key then [] else flowsOf s key := by
  rw [flowsOf, ← routingFlows, left.flows, List.filter_filter]
  split
  · rename_i isGone
    obtain ⟨host, inGone, rfl⟩ := isGone
    rw [List.filter_eq_nil_iff]
    intro flow _ kept
    rw [Bool.and_eq_true, decide_eq_true_eq, List.all_eq_true] at kept
    exact of_decide_eq_true (kept.2 host inGone) kept.1
  · rename_i stays
    refine List.filter_congr fun flow _ => ?_
    by_cases isKey : flow.cookie = key.cookie
    · have kept : (gone.all fun host => flow.cookie ≠ host.routePrefix.cookie) = true := by
        rw [List.all_eq_true]
        intro host inGone
        refine decide_eq_true fun isHost => stays ⟨host, inGone, ?_⟩
        exact RoutePrefix.eq_of_cookie host.routePrefix_inRange inRange (isHost.symm.trans isKey)
      rw [kept, Bool.and_true]
    · rw [decide_eq_false isKey, Bool.false_and]

theorem flowsOf_comes {entry : HostTableEntry} (comes : HostComes env s next entry)
    (unused : flowsOf s entry.routePrefix = []) (inRange : key.InRange) :
    flowsOf next key = if entry.routePrefix = key then [entry.flow env] else flowsOf s key := by
  have cookie : (entry.flow env).cookie = entry.routePrefix.cookie := rfl
  rw [flowsOf, ← routingFlows, comes.flows, List.filter_append, List.filter_singleton, cookie,
    routingFlows, ← flowsOf]
  split
  · rename_i isKey
    subst isKey
    rw [unused, decide_eq_true rfl]
    rfl
  · rename_i isOther
    have different : entry.routePrefix.cookie ≠ key.cookie := fun same =>
      isOther (RoutePrefix.eq_of_cookie entry.routePrefix_inRange inRange same)
    rw [decide_eq_false different]
    exact List.append_nil _

theorem flowsOf_changes {written : RoutePrefix} {target : Option RouteTarget}
    (changes : PrefixChanges s next written
      (target.map fun target => target.flow env written).toList)
    (writtenInRange : written.InRange) (inRange : key.InRange) :
    flowsOf next key =
      if written = key then (target.map fun target => target.flow env key).toList
      else flowsOf s key := by
  rw [flowsOf, ← routingFlows, changes.flows, List.filter_append]
  by_cases isKey : written = key
  · subst isKey
    rw [if_pos rfl, filter_own, List.nil_append, List.filter_eq_self]
    intro flow isAdded
    obtain ⟨target, _, rfl⟩ := Option.map_eq_some_iff.mp (Option.mem_toList.mp isAdded)
    exact decide_eq_true target.flow_cookie
  · have different : key.cookie ≠ written.cookie := fun same =>
      isKey (RoutePrefix.eq_of_cookie inRange writtenInRange same).symm
    rw [if_neg isKey, filter_others _ different, routingFlows, ← flowsOf]
    have none : ((target.map fun target => target.flow env written).toList.filter
        fun flow => flow.cookie = key.cookie) = [] := by
      rw [List.filter_eq_nil_iff]
      intro flow isAdded
      obtain ⟨target, _, rfl⟩ := Option.map_eq_some_iff.mp (Option.mem_toList.mp isAdded)
      simp [different.symm, RouteTarget.flow_cookie]
    rw [none, List.append_nil]

theorem TableFollows.change {event : Event} {written : RoutePrefix}
    (follows : TableFollows env trace event.before) (target : Option RouteTarget)
    (writtenInRange : written.InRange)
    (changes : PrefixChanges event.before event.after written
      (target.map fun target => target.flow env written).toList)
    (writes : ∀ key, routeWrite env key event = if written = key then some target else none) :
    TableFollows env (event :: trace) event.after := by
  refine follows.write (fun key inRange => ?_) (fun flow inTable => ?_)
  · rw [flowsOf_changes changes writtenInRange inRange, writes key]
    split <;> rfl
  · rw [changes.flows, List.mem_append] at inTable
    rcases inTable with old | isAdded
    · exact .inl (List.mem_of_mem_filter old)
    · obtain ⟨target, _, rfl⟩ := Option.map_eq_some_iff.mp (Option.mem_toList.mp isAdded)
      exact .inr ⟨written, writtenInRange, target.flow_cookie⟩

theorem TableFollows.step {call : Call} {laterOrigin : HostTableEntry → Option NextHop}
    (follows : TableFollows env trace s) (sound : HostsSound env origin s)
    (later : HostsSound env laterOrigin next)
    (allowed : filesApart ⟨s, call, rc, next⟩) (moved : RoutingMove env s next call rc) :
    TableFollows env (⟨s, call, rc, next⟩ :: trace) next := by
  cases moved with
  | leaves notRoute left =>
      refine follows.write (fun key inRange => ?_) (fun flow inTable => ?_)
      · rw [routeWrite_host notRoute, hostWrite_leaves sound left, flowsOf_leaves left inRange]
        split <;> rfl
      · rw [left.flows] at inTable
        exact .inl (List.mem_of_mem_filter inTable)
  | @comes _ _ _ ipAddr _ entry address comes =>
      simp only [filesApart, address, Option.all_some, List.isEmpty_iff] at allowed
      refine follows.write (fun key inRange => ?_) (fun flow inTable => ?_)
      · rw [routeWrite_host (by simp), hostWrite_comes comes later,
          flowsOf_comes comes allowed inRange]
        split
        · rename_i isKey
          subst isKey
          rfl
        · rfl
      · rw [comes.flows, List.mem_append, List.mem_singleton] at inTable
        rcases inTable with old | rfl
        · exact .inl old
        · exact .inr ⟨entry.routePrefix, entry.routePrefix_inRange, rfl⟩
  | refused notOk same =>
      subst same
      refine follows.write (fun key _ => ?_) (fun _ old => .inl old)
      rw [routeWrite_refused notOk]
      rfl
  | @deleted route written parsed changes =>
      simp only [filesApart, parsed, Option.all_some, decide_eq_true_eq] at allowed
      refine follows.change none allowed changes fun key => ?_
      simp only [routeWrite, parsed, Option.some.injEq]
  | @added route written nexthop target parsed nexthops isTarget changes =>
      simp only [filesApart, parsed, Option.all_some, decide_eq_true_eq] at allowed
      refine follows.change (some target) allowed changes fun key => ?_
      simp only [routeWrite, parsed, nexthops, List.head?_cons, Option.bind_some, isTarget,
        Option.some.injEq]

end Step

structure TableInvariant (env : Env) (trace : Trace) (s : Sys) : Prop where
  keyed : BundlesKeyed env s
  hosts : HostsSound env (hostNextHop env trace) s
  follows : TableFollows env trace s

theorem Initial.tableInvariant (initial : Initial s) : TableInvariant env [] s where
  keyed := initial.bundlesKeyed
  hosts := initial.hostsSound _
  follows := by
    refine ⟨fun key _ => ?_, fun flow inTable => ?_⟩
    · rw [flowsOf, initial.asic]
      rfl
    · rw [routingFlows, initial.asic] at inTable
      cases inTable

/-- Every prefix of the routing table has the flow of what was written to it last: by a route
action, by a host that has come to its address, or none since a host has left it. -/
theorem routing_table_follows_calls (env : Env) (succeeds : env.AllSucceed) (start : Sys)
    (initial : Initial start) (trace : Trace) (state : Sys) (run : Run env start trace state)
    (allowed : Runs.Along (fun _ event => filesApart event) trace) :
    TableFollows env trace state := by
  have invariant : TableInvariant env trace state := by
    refine Runs.Run.invariant initial.tableInvariant ?_ run allowed
    intro earlier before call rc after invariant taken isAllowed
    have later := step_hostsSound succeeds invariant.keyed invariant.hosts taken
    have moved := step_moves succeeds invariant.keyed invariant.hosts taken
    exact ⟨step_keyed invariant.keyed taken, later,
      invariant.follows.step invariant.hosts later isAllowed moved⟩
  exact invariant.follows

section Neighbours

theorem routing_table_of_neighbours :
    ∃ trace state, Run idealEnv idealSys trace state ∧ TableFollows idealEnv trace state ∧
      (routingFlows state).map (fun flow => some flow.cookie) =
        [(opsFpaStr2ip "20.0.0.0/24".toList).map RoutePrefix.cookie] := by
  obtain ⟨trace, state, run, allowed, flows⟩ := run_of_check idealEnv idealSys
    (routedNeighbour ++
      [.addL3Host 1 100 false "10.0.0.3".toList (some "00:00:00:00:00:03".toList),
        .deleteL3Host 1 100 false "10.0.0.3".toList,
        .deleteL3Host 1 100 false "10.0.0.2".toList])
    (fun trace state => Runs.Along (fun _ event => filesApart event) trace ∧
      (routingFlows state).map (fun flow => some flow.cookie) =
        [(opsFpaStr2ip "20.0.0.0/24".toList).map RoutePrefix.cookie])
    (by decide +kernel)
  exact ⟨trace, state, run, routing_table_follows_calls idealEnv idealEnv_allSucceed idealSys
    idealSys_initial trace state run allowed, flows⟩

end Neighbours

end FpaPlugin
