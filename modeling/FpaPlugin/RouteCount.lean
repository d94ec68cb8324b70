import FpaPlugin.ArpIndices

/-! `routes_count` against the hosts that are live. The counter belongs to a bundle and
the host table is global, so the two agree exactly as long as every host is deleted
through the bundle that added it and no bundle is removed from under its hosts. -/

namespace FpaPlugin

variable {env : Env}

/-- The bundle a live host was added through: that of the latest call which put it
into the host table. -/
def hostOwner : Trace → HostTableEntry → Option (OfprotoRef × Aux)
  | [], _ => none
  | event :: earlier, entry =>
      if entry ∈ event.after.hostTable.values ∧ entry ∉ event.before.hostTable.values then
        match event.input with
        | .addL3Host up aux _ _ _ => some (up, aux)
        | _ => none
      else hostOwner earlier entry

def hostsOf (owner : HostTableEntry → Option (OfprotoRef × Aux)) (s : Sys) (up : OfprotoRef)
    (aux : Aux) : List HostTableEntry :=
  s.hostTable.values.filter fun entry => owner entry = some (up, aux)

/-- The counter of every routed bundle is the number of its live hosts, a bundle with
live hosts is routed, and no host was deleted through a counter at 0. -/
structure RoutesCounted (env : Env) (trace : Trace) (s : Sys) : Prop where
  counted : ∀ up aux l3Intf, l3IntfOf env s up aux = some l3Intf →
    l3Intf.routesCount = (hostsOf (hostOwner trace) s up aux).length
  routed : ∀ up aux, l3IntfOf env s up aux = none → hostsOf (hostOwner trace) s up aux = []
  noWrap : ∀ event ∈ trace, ∀ up aux isIpv6Addr ipAddr,
    event.input = .deleteL3Host up aux isIpv6Addr ipAddr → event.reply = .ok →
    ∃ l3Intf, l3IntfOf env event.before up aux = some l3Intf ∧ l3Intf.routesCount ≠ 0

/-- A host is deleted through the bundle that added it, and a bundle goes only when
none of its hosts is live. -/
def deletesOwnHosts (env : Env) (earlier : Trace) (event : Event) : Bool :=
  match event.input with
  | .bundleSet up aux none => hostsOf (hostOwner earlier) event.before up aux = []
  | .bundleSet up aux _ | .deleteL3Host up aux _ _ =>
      (deletedHosts env event.before event.input).all fun entry =>
        hostOwner earlier entry = some (up, aux)
  | _ => true

section Owners

variable {owner : HostTableEntry → Option (OfprotoRef × Aux)} {s next : Sys}
  {up : OfprotoRef} {aux : Aux} {rc : Rc}

def routesOf (env : Env) (s : Sys) (up : OfprotoRef) (aux : Aux) : Nat :=
  ((l3IntfOf env s up aux).map L3Intf.routesCount).getD 0

def Counted (env : Env) (owner : HostTableEntry → Option (OfprotoRef × Aux)) (s : Sys) : Prop :=
  ∀ up aux, routesOf env s up aux = (hostsOf owner s up aux).length

theorem Counted.congr (counted : Counted env owner s)
    (sameIntf : ∀ up aux, l3IntfOf env next up aux = l3IntfOf env s up aux)
    (sameHosts : next.hostTable = s.hostTable) : Counted env owner next := by
  intro up aux
  rw [routesOf, sameIntf, hostsOf, sameHosts]
  exact counted up aux

theorem Counted.reroute (counted : Counted env owner s) {bundle : Bundle} (hw : Hw)
    (found : opsFpaFindBundle env s up aux = some bundle) (idle : routesOf env s up aux = 0)
    {l3Intf : Option L3Intf} (fresh : ∀ intf, l3Intf = some intf → intf.routesCount = 0) :
    Counted env owner (setL3Intf { s with hw } up aux l3Intf) := by
  intro other wanted
  have unrouted : hostsOf owner (setL3Intf { s with hw } up aux l3Intf) other wanted =
      hostsOf owner s other wanted := rfl
  have foundHw : opsFpaFindBundle env { s with hw } up aux = some bundle := found
  rw [routesOf, l3IntfOf_setL3Intf foundHw, unrouted, ← counted other wanted]
  split
  · rename_i same
    obtain ⟨rfl, rfl⟩ := same
    rw [idle]
    cases l3Intf with
    | none => rfl
    | some intf => exact fresh intf rfl
  · rfl

theorem hostsOf_delete {ipv4Addr : InAddr} {entry : HostTableEntry}
    (found : hostTableFind env s.hostTable ipv4Addr = some entry)
    (sameHosts : next.hostTable = hostTableDelete env s.hostTable entry) (other : OfprotoRef)
    (wanted : Aux) :
    (hostsOf owner s other wanted).length =
      (hostsOf owner next other wanted).length +
        if owner entry = some (other, wanted) then 1 else 0 := by
  have perm := Hmap.values_remove_perm (hostTableFind_some found).1
  rw [hostsOf, hostsOf, sameHosts, hostTableDelete, ← (perm.filter _).length_eq,
    List.filter_cons]
  by_cases owned : owner entry = some (other, wanted)
  · simp [owned]
  · simp [owned]

theorem deleteHost_counted (counted : Counted env owner s) {bundle : Bundle} {l3Intf : L3Intf}
    {ipv4Addr : InAddr} {entry : HostTableEntry}
    (found : opsFpaFindBundle env s up aux = some bundle) (routed : bundle.l3Intf = some l3Intf)
    (hostFound : hostTableFind env s.hostTable ipv4Addr = some entry)
    (owned : owner entry = some (up, aux)) :
    l3Intf.routesCount ≠ 0 ∧ Counted env owner (deleteHost env s up aux l3Intf entry) := by
  have intfHere : l3IntfOf env s up aux = some l3Intf := by
    rw [l3IntfOf, found]
    exact routed
  have countHere : l3Intf.routesCount = (hostsOf owner s up aux).length := by
    rw [← counted up aux, routesOf, intfHere]
    rfl
  have sameHosts : (deleteHost env s up aux l3Intf entry).hostTable =
      hostTableDelete env s.hostTable entry := by
    rw [deleteHost_eq]
    rfl
  have fewer := fun other wanted =>
    @hostsOf_delete env owner s _ ipv4Addr entry hostFound sameHosts other wanted
  have here := fewer up aux
  rw [if_pos owned] at here
  refine ⟨by omega, ?_⟩
  intro other wanted
  rw [routesOf, l3IntfOf_deleteHost found]
  split
  · rename_i same
    obtain ⟨rfl, rfl⟩ := same
    have pred : ulongPred l3Intf.routesCount = l3Intf.routesCount - 1 := by
      rw [ulongPred, if_neg (by omega)]
    rw [releasedIntf, pred]
    split
    · simp only [Option.map_none, Option.getD_none]
      omega
    · simp only [Option.map_some, Option.getD_some]
      omega
  · rename_i different
    have elsewhere := fewer other wanted
    rw [if_neg] at elsewhere
    · have before := counted other wanted
      rw [routesOf] at before
      omega
    · rw [owned]
      intro same
      cases same
      exact different ⟨rfl, rfl⟩

theorem deleteL3HostEntry_counted {isIpv6Addr : Bool} {ipAddr : CString}
    (counted : Counted env owner s)
    (owned : ∀ l3Intf entry, deletedHost env s up aux isIpv6Addr ipAddr = some (l3Intf, entry) →
      owner entry = some (up, aux))
    (taken : deleteL3HostEntry env s up aux isIpv6Addr ipAddr = .ok (rc, next)) :
    Counted env owner next ∧ (∀ entry ∈ next.hostTable.values, entry ∈ s.hostTable.values) ∧
      (rc = .ok → ∃ l3Intf, l3IntfOf env s up aux = some l3Intf ∧ l3Intf.routesCount ≠ 0) := by
  rcases deleteL3HostEntry_cases taken with ⟨refused, rfl⟩ |
    ⟨_, notIpv6, bundle, l3Intf, ipv4Addr, entry, found, routed, address, hostFound, rfl⟩
  · refine ⟨counted, fun _ member => member, ?_⟩
    rw [refused]
    intro accepted
    cases accepted
  · have isIntf : l3IntfOf env s up aux = some l3Intf := by
      rw [l3IntfOf, found]
      exact routed
    have mine := owned l3Intf entry (deletedHost_some notIpv6 isIntf address hostFound)
    obtain ⟨positive, still⟩ := deleteHost_counted counted found routed hostFound mine
    refine ⟨still, ?_, fun _ => ⟨l3Intf, isIntf, positive⟩⟩
    rw [deleteHost_eq]
    intro other member
    have perm := Hmap.values_remove_perm (hostTableFind_some hostFound).1
    exact perm.mem_iff.mp (List.mem_cons_of_mem _ member)

theorem configureRouting_counted (counted : Counted env owner s) {bundle : Bundle} {port : Ofport}
    {vlanId : Int} {set : BundleSettings}
    (found : opsFpaFindBundle env s up bundle.aux = some bundle)
    (configured : configureRouting env s up bundle port vlanId set = (rc, next)) :
    Counted env owner next := by
  have intfHere : l3IntfOf env s up bundle.aux = bundle.l3Intf := by
    rw [l3IntfOf, found]
    rfl
  rcases configureRouting_cases found configured with
    ⟨l3Intf, _, routed, idle, _, rfl⟩ | ⟨_, unrouted, _, l3Intf, _, enabled, _, rfl⟩ |
    ⟨_, _, _, rfl⟩
  · refine counted.reroute _ found ?_ ?_
    · rw [routesOf, intfHere, routed]
      exact idle
    · intro intf absurdity
      cases absurdity
  · refine counted.reroute _ found ?_ ?_
    · rw [routesOf, intfHere, unrouted]
      rfl
    · intro intf isSome
      rw [isSome] at enabled
      exact enableRouting_routesCount enabled
  · exact counted

theorem rmBundle_counted (keyed : BundlesKeyed env s) (counted : Counted env owner s)
    (removable : hostsOf owner s up aux = [])
    (removed : opsFpaRmBundle env s up aux = (rc, next)) : Counted env owner next := by
  have sameHosts := (rmBundle_frame removed).2.1
  intro other wanted
  rw [routesOf, l3IntfOf, findBundle_rmBundle keyed removed, hostsOf, sameHosts]
  split
  · rename_i same
    obtain ⟨rfl, rfl⟩ := same
    rw [hostsOf] at removable
    rw [removable]
    rfl
  · exact counted other wanted

theorem bundleSet_counted (keyed : BundlesKeyed env s) (counted : Counted env owner s)
    {set : Option BundleSettings}
    (removable : set = none → hostsOf owner s up aux = [])
    (owned : ∀ settings, set = some settings →
      ∀ entry ∈ deletedHosts env s (.bundleSet up aux (some settings)),
        owner entry = some (up, aux))
    (taken : opsFpaOfprotoBundleSet env s up aux set = .ok (rc, next)) :
    Counted env owner next ∧ ∀ entry ∈ next.hostTable.values, entry ∈ s.hostTable.values := by
  rcases bundleSet_cases taken with ⟨isNone, removed⟩ | ⟨_, _, _, _, rfl⟩ |
    ⟨settings, slave, ensured, bundle, isSome, single, created, found, configured⟩
  · exact ⟨rmBundle_counted keyed counted (removable isNone) removed,
      fun _ member => (rmBundle_frame removed).2.1 ▸ member⟩
  · exact ⟨counted, fun _ member => member⟩
  · obtain ⟨_, _, sameHosts, _, _⟩ := ensureBundle_frame created
    have ensuredCounted : Counted env owner ensured :=
      counted.congr (fun other wanted => l3IntfOf_ensureBundle keyed created other wanted) sameHosts
    refine configured_invariant (fun state => Counted env owner state ∧
      ∀ entry ∈ state.hostTable.values, entry ∈ s.hostTable.values) found ?_ ?_ ?_ ?_
      ⟨ensuredCounted, fun _ member => sameHosts ▸ member⟩ configured
    · intro port vlanId outcome between _ found routing
      have routedHosts := (configureRouting_frame found routing).2.1.trans sameHosts
      exact ⟨configureRouting_counted ensuredCounted found routing,
        fun _ member => routedHosts ▸ member⟩
    · intro state update keeps kept
      exact ⟨kept.1.congr (l3IntfOf_modifyBundle keeps) rfl, kept.2⟩
    · intro state rc after address isLost kept deleted
      have isGivenUp := lostAddress_ensured keyed single created found isLost
      have mine : ∀ l3Intf entry,
          deletedHost env state up aux false address = some (l3Intf, entry) →
          owner entry = some (up, aux) := by
        intro l3Intf entry isDeleted
        obtain ⟨ipv4Addr, parsed, hostFound⟩ := deletedHost_found isDeleted
        obtain ⟨isNode, isAddress⟩ := hostTableFind_some hostFound
        have member := kept.2 entry (Hmap.mem_values.mpr ⟨_, isNode⟩)
        exact owned settings isSome entry
          (mem_deletedHosts_bundleSet isGivenUp parsed member isAddress)
      obtain ⟨still, subset, _⟩ := deleteL3HostEntry_counted kept.1 mine deleted
      exact ⟨still, fun entry member => kept.2 entry (subset entry member)⟩
    · intro ref port _
      obtain ⟨_, vmapHosts, _, vmapOfprotos, _⟩ := setVmap_frame ensured ref port
        (applyDiff env ensured.hw (ensured.ofprotos up).vlans (vnew settings)
          (netdevGetIfindex port.netdev))
      refine ⟨ensuredCounted.congr ?_ vmapHosts, ?_⟩
      · intro other wanted
        rw [l3IntfOf, findBundle_congr vmapOfprotos, l3IntfOf]
      · intro entry member
        rwa [vmapHosts, sameHosts] at member

end Owners

section Step

variable {s next : Sys} {rc : Rc} {trace : Trace}

theorem hostOwner_kept {event : Event} {entry : HostTableEntry}
    (old : entry ∈ event.before.hostTable.values) :
    hostOwner (event :: trace) entry = hostOwner trace entry := by
  rw [hostOwner, if_neg]
  exact fun fresh => fresh.2 old

theorem Counted.same_owners {event : Event} (counted : Counted env (hostOwner trace) event.after)
    (subset : ∀ entry ∈ event.after.hostTable.values, entry ∈ event.before.hostTable.values) :
    Counted env (hostOwner (event :: trace)) event.after := by
  intro up aux
  rw [counted up aux, hostsOf, hostsOf]
  congr 1
  apply List.filter_congr
  intro entry member
  rw [hostOwner_kept (subset entry member)]

theorem hostAdded_counted {up : OfprotoRef} {aux : Aux} {isIpv6Addr : Bool} {ipAddr : CString}
    {nextHopMacAddr : Option CString} {fpa : Fpa} {entry : HostTableEntry} {l3Intf : L3Intf}
    (sound : IndicesSound s.arpIndices s.hostTable) (counted : Counted env (hostOwner trace) s)
    (available : s.arpIndices 0 ≠ 0) (taken : entry.arpIndex = s.arpIndices 0)
    (routed : l3IntfOf env s up aux = some l3Intf) :
    Counted env (hostOwner (⟨s, .addL3Host up aux isIpv6Addr ipAddr nextHopMacAddr, rc,
      hostAdded env s up aux fpa entry⟩ :: trace)) (hostAdded env s up aux fpa entry) := by
  have perm : (hostAdded env s up aux fpa entry).hostTable.values.Perm
      (entry :: s.hostTable.values) := Hmap.values_insert_perm env.growth s.hostTable _ entry
  have absent : entry ∉ s.hostTable.values := sound.fresh available taken
  have bound := sound.length_le
  intro other wanted
  rw [routesOf, l3IntfOf_hostAdded, hostsOf, (perm.filter _).length_eq, List.filter_cons]
  -- the new entry belongs to this bundle, the old ones to whom they belonged
  have mine : hostOwner (⟨s, .addL3Host up aux isIpv6Addr ipAddr nextHopMacAddr, rc,
      hostAdded env s up aux fpa entry⟩ :: trace) entry = some (up, aux) := by
    rw [hostOwner, if_pos ⟨perm.mem_iff.mpr List.mem_cons_self, absent⟩]
  have others : (s.hostTable.values.filter fun entry' =>
      hostOwner (⟨s, .addL3Host up aux isIpv6Addr ipAddr nextHopMacAddr, rc,
        hostAdded env s up aux fpa entry⟩ :: trace) entry' = some (other, wanted)) =
      hostsOf (hostOwner trace) s other wanted := by
    apply List.filter_congr
    intro old member
    rw [hostOwner_kept member]
  rw [mine, others]
  have before := counted other wanted
  have few : (hostsOf (hostOwner trace) s other wanted).length ≤ s.hostTable.values.length :=
    List.length_filter_le _ _
  rw [routesOf] at before
  by_cases here : other = up ∧ wanted = aux
  · obtain ⟨rfl, rfl⟩ := here
    rw [routed] at before
    simp only [Option.map_some, Option.getD_some] at before
    simp only [and_self, if_true, routed, Option.map_some, Option.getD_some, decide_true,
      List.length_cons]
    have small : l3Intf.routesCount + 1 < 2 ^ 64 := by
      simp only [arpIndicesSize] at bound
      omega
    rw [ulongSucc, Nat.mod_eq_of_lt small, before]
  · rw [if_neg here, before, if_neg]
    simp only [Option.some.injEq, Prod.mk.injEq, decide_eq_true_eq]
    exact fun same => here ⟨same.1.symm, same.2.symm⟩

theorem addL3HostEntry_counted {up : OfprotoRef} {aux : Aux} {isIpv6Addr : Bool}
    {ipAddr : CString} {nextHopMacAddr : Option CString} {reply : Option Int}
    (sound : IndicesSound s.arpIndices s.hostTable) (counted : Counted env (hostOwner trace) s)
    (taken : addL3HostEntry env s up aux isIpv6Addr ipAddr nextHopMacAddr = .ok (rc, reply, next)) :
    Counted env (hostOwner
      (⟨s, .addL3Host up aux isIpv6Addr ipAddr nextHopMacAddr, rc, next⟩ :: trace)) next := by
  rcases addL3HostEntry_cases taken with ⟨_, rfl⟩ | ⟨_, l3Intf, _, _, _, _, request, installed⟩
  · exact counted.same_owners fun _ member => member
  · rcases installHost_cases installed with ⟨_, fpa, rfl | ⟨_, rfl⟩⟩ |
      ⟨_, fpa, l2Group, l3Group, acquired, rfl⟩
    · exact Counted.same_owners (counted.congr (fun _ _ => rfl) rfl) fun _ member => member
    · exact Counted.same_owners (counted.congr (fun _ _ => rfl) rfl) fun _ member => member
    · have routed : l3IntfOf env s up aux = some l3Intf := by
        rw [l3IntfOf, request.found]
        exact request.routed
      exact hostAdded_counted sound counted acquired.available rfl routed

structure RouteCountInvariant (env : Env) (trace : Trace) (s : Sys) : Prop where
  keyed : BundlesKeyed env s
  sound : IndicesSound s.arpIndices s.hostTable
  counted : Counted env (hostOwner trace) s
  noWrap : ∀ event ∈ trace, ∀ up aux isIpv6Addr ipAddr,
    event.input = .deleteL3Host up aux isIpv6Addr ipAddr → event.reply = .ok →
    ∃ l3Intf, l3IntfOf env event.before up aux = some l3Intf ∧ l3Intf.routesCount ≠ 0

theorem Initial.routeCountInvariant (initial : Initial s) : RouteCountInvariant env [] s where
  keyed := initial.bundlesKeyed
  sound := initial.indicesSound
  counted := by
    intro up aux
    rw [routesOf, initial.l3IntfOf_none, hostsOf, initial.hostTable]
    simp [Hmap.values, Hmap.nodes_empty]
  noWrap := by
    intro event member
    cases member

theorem step_routeCount {call : Call} (invariant : RouteCountInvariant env trace s)
    (taken : step env s call = .ok (rc, next))
    (own : deletesOwnHosts env trace ⟨s, call, rc, next⟩ = true) :
    RouteCountInvariant env (⟨s, call, rc, next⟩ :: trace) next := by
  refine ⟨step_keyed invariant.keyed taken, step_indicesSound invariant.sound taken, ?_, ?_⟩
  · rcases step_cases taken with ⟨up, aux, set, rfl, changed⟩ | ⟨_, _, _, _, _, _, rfl, added⟩ |
      ⟨_, _, _, _, rfl, deleted⟩ | ⟨_, _, sameHosts, sameBundles⟩
    · obtain ⟨counted, subset⟩ := bundleSet_counted invariant.keyed invariant.counted
        (by
          rintro rfl
          simpa [deletesOwnHosts] using own)
        (by
          rintro settings rfl entry member
          exact of_decide_eq_true (List.all_eq_true.mp own entry member)) changed
      exact counted.same_owners subset
    · exact addL3HostEntry_counted invariant.sound invariant.counted added
    · obtain ⟨counted, subset, _⟩ := deleteL3HostEntry_counted invariant.counted
        (fun _ entry isDeleted => of_decide_eq_true
          (List.all_eq_true.mp own entry (mem_deletedHosts_deleteL3Host isDeleted))) deleted
      exact counted.same_owners subset
    · have still : Counted env (hostOwner trace) next := by
        refine invariant.counted.congr ?_ sameHosts
        intro up aux
        rw [l3IntfOf, opsFpaFindBundle, (sameBundles up).1, l3IntfOf, opsFpaFindBundle]
      exact still.same_owners fun _ member => sameHosts ▸ member
  · intro event member up aux isIpv6Addr ipAddr isDelete accepted
    rcases List.mem_cons.mp member with rfl | earlier
    · cases isDelete
      refine (deleteL3HostEntry_counted invariant.counted ?_ taken).2.2 accepted
      intro _ entry isDeleted
      exact of_decide_eq_true
        (List.all_eq_true.mp own entry (mem_deletedHosts_deleteL3Host isDeleted))
    · exact invariant.noWrap event earlier up aux isIpv6Addr ipAddr isDelete accepted

end Step

/-- In every run that deletes hosts through their own bundles only, each counter is the
number of live hosts of its bundle. -/
theorem routes_counted_of_own_deletes (env : Env) {s : Sys} (initial : Initial s) {trace : Trace}
    {state : Sys} (run : Run env s trace state)
    (own : Runs.Along (fun earlier event => deletesOwnHosts env earlier event) trace) :
    RoutesCounted env trace state := by
  have invariant : RouteCountInvariant env trace state := by
    refine Runs.Run.invariant initial.routeCountInvariant ?_ run own
    intro trace state call rc next invariant taken allowed
    exact step_routeCount invariant taken allowed
  refine ⟨?_, ?_, invariant.noWrap⟩
  · intro up aux l3Intf routed
    rw [← invariant.counted up aux, routesOf, routed]
    rfl
  · intro up aux unrouted
    have count := invariant.counted up aux
    rw [routesOf, unrouted] at count
    exact List.eq_nil_of_length_eq_zero count.symm

def twoRoutedPorts : List Call :=
  [.portConstruct 1 1 10 (systemNetdev 1) 1500, .portConstruct 1 2 20 (systemNetdev 2) 1500,
    .bundleSet 1 100 (some (routedSettings 1024)),
    .bundleSet 1 101 (some { routedSettings 1025 with slaves := [2] }),
    .addL3Host 1 100 false "10.0.0.2".toList (some "00:00:00:00:00:02".toList),
    .addL3Host 1 101 false "10.0.1.2".toList (some "00:00:00:00:00:03".toList)]

theorem routes_counted_own_delete : ∃ trace state, Run idealEnv idealSys trace state ∧
    Runs.Along (fun earlier event => deletesOwnHosts idealEnv earlier event) trace ∧
    (l3IntfOf idealEnv state 1 101).map L3Intf.routesCount = some 1 ∧
    RoutesCounted idealEnv trace state := by
  obtain ⟨trace, state, run, own, counter⟩ := run_of_check idealEnv idealSys
    (twoRoutedPorts ++ [.deleteL3Host 1 100 false "10.0.0.2".toList])
    (fun trace state => Runs.Along (fun earlier event => deletesOwnHosts idealEnv earlier event) trace ∧
      (l3IntfOf idealEnv state 1 101).map L3Intf.routesCount = some 1) (by decide +kernel)
  exact ⟨trace, state, run, own, counter,
    routes_counted_of_own_deletes idealEnv idealSys_initial run own⟩

/-- The first port's host is deleted through the second port, whose routing goes down
although its own host is live. -/
theorem routes_miscounted_foreign_delete : ∃ trace state, Run idealEnv idealSys trace state ∧
    ¬RoutesCounted idealEnv trace state := by
  obtain ⟨trace, state, run, down, live⟩ := run_of_check idealEnv idealSys
    (twoRoutedPorts ++ [.deleteL3Host 1 101 false "10.0.0.2".toList])
    (fun trace state => l3IntfOf idealEnv state 1 101 = none ∧
      hostsOf (hostOwner trace) state 1 101 ≠ []) (by decide +kernel)
  refine ⟨trace, state, run, ?_⟩
  intro counted
  exact live (counted.routed 1 101 down)

end FpaPlugin
