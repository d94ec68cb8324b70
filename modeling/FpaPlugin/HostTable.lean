import FpaPlugin.HwSpec

/-! `host_table` as a map from addresses: insertion never looks an address up, so that the
table stays a map exactly as long as its callers never add an address twice. -/

namespace FpaPlugin

variable {env : Env} {s next : Sys} {up : OfprotoRef} {aux : Aux} {rc : Rc}

def HostsUnique (s : Sys) : Prop := (s.hostTable.values.map HostTableEntry.ipv4Addr).Nodup

instance (s : Sys) : Decidable (HostsUnique s) := inferInstanceAs (Decidable (List.Nodup _))

def deletedIsGone (env : Env) (event : Event) : Bool :=
  match event.input with
  | .deleteL3Host _ _ _ ipAddr =>
      event.reply ≠ .ok || (hostAddress ipAddr).all fun address =>
        (hostTableFind env event.after.hostTable address).isNone
  | _ => true

/-- An `add_l3_host_entry` that gets as far as `host_table_add` is for a new address. -/
def AddsNewAddress (env : Env) (s : Sys) : Call → Prop
  | .addL3Host up aux isIpv6Addr ipAddr nextHopMacAddr =>
      ∀ bundle l3Intf port dstMac egress address fpa l2Group l3Group, isIpv6Addr = false →
        HostRequest env s up aux ipAddr nextHopMacAddr bundle l3Intf port dstMac egress address →
        HostInstalled env s l3Intf.vlanId port.mtu egress port.netdev.mac dstMac address fpa
          l2Group l3Group →
        hostTableFind env s.hostTable address = none
  | _ => True

def HostsKeyed (env : Env) (s : Sys) : Prop :=
  s.hostTable.Keyed env.hashIpv4 HostTableEntry.ipv4Addr

theorem HostsKeyed.find_eq (keyed : HostsKeyed env s) (address : InAddr) :
    hostTableFind env s.hostTable address =
      s.hostTable.lookup env.hashIpv4 HostTableEntry.ipv4Addr address :=
  keyed.hashed.find_withHash address

section Delete

theorem HostsKeyed.find_deleted (keyed : HostsKeyed env s) {address : InAddr}
    {entry : HostTableEntry} (found : hostTableFind env s.hostTable address = some entry)
    (same : next.hostTable = hostTableDelete env s.hostTable entry) :
    HostsKeyed env next ∧ hostTableFind env next.hostTable address = none := by
  obtain ⟨inNodes, isAddress⟩ := hostTableFind_some found
  have member := Hmap.mem_values.mpr ⟨_, inNodes⟩
  have left : HostsKeyed env next := by
    rw [HostsKeyed, same]
    exact Hmap.Keyed.remove keyed member
  refine ⟨left, ?_⟩
  rw [left.find_eq, same]
  exact (Hmap.Keyed.lookup_remove keyed member address).trans (if_pos isAddress)

theorem deleteL3HostEntry_hosts (keyed : HostsKeyed env s) {isIpv6Addr : Bool} {ipAddr : CString}
    (taken : deleteL3HostEntry env s up aux isIpv6Addr ipAddr = .ok (rc, next)) :
    HostsKeyed env next ∧ (rc = .ok → ∀ address, hostAddress ipAddr = some address →
      hostTableFind env next.hostTable address = none) := by
  rcases deleteL3HostEntry_cases taken with ⟨refused, rfl⟩ |
    ⟨_, _, _, l3Intf, found, entry, _, _, parsed, isEntry, rfl⟩
  · refine ⟨keyed, fun accepted => ?_⟩
    rw [refused] at accepted
    cases accepted
  · have same : (deleteHost env s up aux l3Intf entry).hostTable =
        hostTableDelete env s.hostTable entry := by
      rw [deleteHost_eq]
      rfl
    obtain ⟨left, gone⟩ := keyed.find_deleted isEntry same
    refine ⟨left, fun _ address isAddress => ?_⟩
    rw [parsed, Option.some.injEq] at isAddress
    rw [← isAddress]
    exact gone

theorem bundleSet_hostsKeyed (bundles : BundlesKeyed env s) (keyed : HostsKeyed env s)
    {set : Option BundleSettings}
    (taken : opsFpaOfprotoBundleSet env s up aux set = .ok (rc, next)) : HostsKeyed env next := by
  refine bundleSet_hosts_rule bundles (HostsKeyed env) ?_ ?_ keyed taken
  · intro state after same kept
    rw [HostsKeyed, same.hostTable]
    exact kept
  · intro _ _ _ _ state rc after kept deleted
    exact (deleteL3HostEntry_hosts kept deleted).1

end Delete

section Add

theorem HostsKeyed.added_iff (keyed : HostsKeyed env s) {entry : HostTableEntry}
    (same : next.hostTable = hostTableAdd env s.hostTable entry) :
    next.hostTable.Hashed env.hashIpv4 HostTableEntry.ipv4Addr ∧
      (HostsUnique next ↔ hostTableFind env s.hostTable entry.ipv4Addr = none) := by
  have hashed : next.hostTable.Hashed env.hashIpv4 HostTableEntry.ipv4Addr := by
    rw [same]
    exact Hmap.Hashed.insert keyed.hashed env.growth entry
  refine ⟨hashed, ?_⟩
  have perm := (Hmap.values_insert_perm env.growth s.hostTable (env.hashIpv4 entry.ipv4Addr)
    entry).map HostTableEntry.ipv4Addr
  rw [HostsUnique, same, hostTableAdd, perm.nodup_iff, List.map_cons, List.nodup_cons,
    keyed.find_eq]
  constructor
  · rintro ⟨isNew, _⟩
    cases found : s.hostTable.lookup env.hashIpv4 HostTableEntry.ipv4Addr entry.ipv4Addr with
    | none => rfl
    | some other =>
        obtain ⟨member, isAddress⟩ := Hmap.lookup_some found
        exact (isNew (List.mem_map.mpr ⟨other, member, isAddress⟩)).elim
  · intro absent
    refine ⟨fun present => ?_, keyed.unique⟩
    obtain ⟨other, member, isAddress⟩ := List.mem_map.mp present
    exact keyed.hashed.lookup_none absent other member isAddress

theorem addL3HostEntry_hosts (keyed : HostsKeyed env s) {isIpv6Addr : Bool} {ipAddr : CString}
    {nextHopMacAddr : Option CString} {reply : Option Int}
    (taken : addL3HostEntry env s up aux isIpv6Addr ipAddr nextHopMacAddr = .ok (rc, reply, next)) :
    next.hostTable.Hashed env.hashIpv4 HostTableEntry.ipv4Addr ∧
      (HostsUnique next ↔
        AddsNewAddress env s (.addL3Host up aux isIpv6Addr ipAddr nextHopMacAddr)) := by
  by_cases accepted : isIpv6Addr = false ∧ ∃ bundle l3Intf port dstMac egress address fpa l2Group
      l3Group, HostRequest env s up aux ipAddr nextHopMacAddr bundle l3Intf port dstMac egress
        address ∧ HostInstalled env s l3Intf.vlanId port.mtu egress port.netdev.mac dstMac address
        fpa l2Group l3Group
  · obtain ⟨rfl, bundle, l3Intf, port, dstMac, egress, address, fpa, l2Group, l3Group, request,
      acquired⟩ := accepted
    rw [request.added acquired] at taken
    cases taken
    obtain ⟨hashed, unique⟩ := keyed.added_iff
      (rfl : (hostAdded env s up aux fpa ⟨address, s.arpIndices 0, l3Group, l2Group⟩).hostTable = _)
    refine ⟨hashed, unique.trans ⟨fun absent => ?_, fun adds => ?_⟩⟩
    · intro _ _ _ _ _ other _ _ _ _ otherRequest _
      have sameAddress := otherRequest.address
      rw [request.address, Option.some.injEq] at sameAddress
      rw [← sameAddress]
      exact absent
    · exact adds bundle l3Intf port dstMac egress address fpa l2Group l3Group rfl request acquired
  · have sameHosts : next.hostTable = s.hostTable := by
      cases isIpv6Addr with
      | true =>
          cases taken
          rfl
      | false =>
          rcases addL3HostEntry_cases taken with ⟨_, rfl⟩ |
            ⟨bundle, l3Intf, port, dstMac, egress, address, request, installed⟩
          · rfl
          · rcases installHost_cases installed with ⟨_, fpa, rfl | ⟨_, rfl⟩⟩ |
              ⟨_, fpa, l2Group, l3Group, acquired, _⟩
            · rfl
            · rfl
            · exact (accepted ⟨rfl, bundle, l3Intf, port, dstMac, egress, address, fpa, l2Group,
                l3Group, request, acquired⟩).elim
    rw [HostsUnique, sameHosts]
    refine ⟨keyed.hashed, iff_of_true keyed.unique ?_⟩
    intro bundle l3Intf port dstMac egress address fpa l2Group l3Group isIpv4 request acquired
    exact (accepted ⟨isIpv4, bundle, l3Intf, port, dstMac, egress, address, fpa, l2Group, l3Group,
      request, acquired⟩).elim

end Add

theorem deletedIsGone_iff {event : Event} : deletedIsGone env event = true ↔
    ∀ up aux isIpv6Addr ipAddr, event.input = .deleteL3Host up aux isIpv6Addr ipAddr →
      event.reply = .ok → ∀ address, hostAddress ipAddr = some address →
        hostTableFind env event.after.hostTable address = none := by
  rw [deletedIsGone]
  split
  · rename_i up aux isIpv6Addr ipAddr isDelete
    simp only [isDelete, Call.deleteL3Host.injEq, Bool.or_eq_true, decide_eq_true_eq,
      Option.all_eq_true, Option.isNone_iff_eq_none]
    constructor
    · rintro (refused | gone) _ _ _ _ ⟨rfl, rfl, rfl, rfl⟩ accepted
      · exact (refused accepted).elim
      · exact gone
    · intro gone
      by_cases accepted : event.reply = .ok
      · exact .inr (gone _ _ _ _ ⟨rfl, rfl, rfl, rfl⟩ accepted)
      · exact .inl accepted
  · rename_i notDelete
    refine iff_of_true rfl ?_
    intro up aux isIpv6Addr ipAddr isDelete
    exact (notDelete up aux isIpv6Addr ipAddr isDelete).elim

theorem step_hosts {call : Call} (bundles : BundlesKeyed env s) (keyed : HostsKeyed env s)
    (taken : step env s call = .ok (rc, next)) :
    next.hostTable.Hashed env.hashIpv4 HostTableEntry.ipv4Addr ∧
      (HostsUnique next ∧ deletedIsGone env ⟨s, call, rc, next⟩ = true ↔
        AddsNewAddress env s call) := by
  rw [deletedIsGone_iff]
  rcases step_cases taken with ⟨up, aux, set, rfl, changed⟩ |
    ⟨up, aux, isIpv6Addr, ipAddr, nextHopMacAddr, reply, rfl, added⟩ |
    ⟨up, aux, isIpv6Addr, ipAddr, rfl, deleted⟩ | ⟨peripheral, _, sameHosts, _⟩
  · have kept := bundleSet_hostsKeyed bundles keyed changed
    exact ⟨kept.hashed, iff_of_true ⟨kept.unique, fun _ _ _ _ absurdity => by cases absurdity⟩ trivial⟩
  · obtain ⟨hashed, unique⟩ := addL3HostEntry_hosts keyed added
    refine ⟨hashed, Iff.trans ?_ unique⟩
    exact and_iff_left fun _ _ _ _ absurdity => by cases absurdity
  · obtain ⟨left, gone⟩ := deleteL3HostEntry_hosts keyed deleted
    refine ⟨left.hashed, iff_of_true ⟨left.unique, ?_⟩ trivial⟩
    intro _ _ _ _ isDelete
    cases isDelete
    exact gone
  · rw [HostsUnique, sameHosts]
    refine ⟨keyed.hashed, ?_⟩
    cases call with
    | bundleSet | addL3Host | deleteL3Host => exact peripheral.elim
    | setVlan | routeAction | portConstruct | portDestruct | addressMsg | fdbFlush =>
        exact iff_of_true ⟨keyed.unique, fun _ _ _ _ absurdity => by cases absurdity⟩ trivial

/-- In every run, the host table is a map after each step and what was deleted is not found,
exactly when no call adds an address that is in the table. -/
theorem host_table_map_iff_addresses_new (env : Env) {start : Sys} (initial : Initial start)
    {trace : Trace} {state : Sys} (run : Run env start trace state) :
    Runs.Along (fun _ event => HostsUnique event.after ∧ deletedIsGone env event = true) trace ↔
      Runs.Along (fun _ event => AddsNewAddress env event.before event.input) trace := by
  have strengthened : BundlesKeyed env state ∧
      (Runs.Along (fun _ event => HostsUnique event.after ∧ deletedIsGone env event = true) trace →
        HostsKeyed env state) ∧
      (Runs.Along (fun _ event => HostsUnique event.after ∧ deletedIsGone env event = true) trace ↔
        Runs.Along (fun _ event => AddsNewAddress env event.before event.input) trace) := by
    induction run with
    | nil =>
        refine ⟨initial.bundlesKeyed, fun _ => ?_, Iff.rfl⟩
        rw [HostsKeyed, initial.hostTable]
        exact Hmap.Keyed.empty 0
    | cons _ taken ih =>
        obtain ⟨bundles, keyed, same⟩ := ih
        refine ⟨step_keyed bundles taken, fun kept => ?_, fun kept => ?_, fun added => ?_⟩
        · exact ⟨(step_hosts bundles (keyed kept.2) taken).1, kept.1.1⟩
        · exact ⟨(step_hosts bundles (keyed kept.2) taken).2.mp kept.1, same.mp kept.2⟩
        · have earlier := same.mpr added.2
          exact ⟨(step_hosts bundles (keyed earlier) taken).2.mpr added.1, earlier⟩
  exact strengthened.2.2

def hostCalls : List Call :=
  [.portConstruct 1 1 10 (systemNetdev 1) 1500,
    .bundleSet 1 100 (some (routedSettings 1024)),
    .addL3Host 1 100 false "10.0.0.2".toList (some "00:00:00:00:00:02".toList)]

theorem host_table_map_after_delete : ∃ trace state, Run idealEnv idealSys trace state ∧
    state.hostTable.values = [] ∧
      Runs.Along (fun _ event => AddsNewAddress idealEnv event.before event.input) trace := by
  obtain ⟨trace, state, run, checked⟩ := run_of_check idealEnv idealSys
    (hostCalls ++ [.deleteL3Host 1 100 false "10.0.0.2".toList])
    (fun trace state => state.hostTable.values = [] ∧ Runs.Along (fun _ event =>
      HostsUnique event.after ∧ deletedIsGone idealEnv event = true) trace) (by decide +kernel)
  exact ⟨trace, state, run, checked.1,
    (host_table_map_iff_addresses_new idealEnv idealSys_initial run).mp checked.2⟩

/-- A neighbour whose MAC address changed is added again, and still found after its deletion. -/
theorem host_added_twice : ∃ trace state, Run idealEnv idealSys trace state ∧
    trace.head?.any (fun event =>
      !decide (HostsUnique event.before) && !deletedIsGone idealEnv event) = true :=
  run_of_check idealEnv idealSys
    (hostCalls ++
      [.addL3Host 1 100 false "10.0.0.2".toList (some "00:00:00:00:00:03".toList),
        .deleteL3Host 1 100 false "10.0.0.2".toList])
    (fun trace _ => trace.head?.any (fun event =>
      !decide (HostsUnique event.before) && !deletedIsGone idealEnv event) = true)
    (by decide +kernel)

end FpaPlugin
