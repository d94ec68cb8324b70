import FpaPlugin.RoutingAdmin
import FpaPlugin.RoutingUnwind
import FpaPlugin.InternalVlans

/-! The VLAN a vrf bundle routes on against the one its settings ask for. Enabled settings
create routing where there is none, but an interface that is there is neither moved to
another VLAN nor taken down. -/

namespace FpaPlugin

variable {env : Env}

def hostsAt (env : Env) (hosts : Hmap HostTableEntry) (address : Option CString) : Nat :=
  match address.bind hostAddress with
  | none => 0
  | some ipv4Addr => hosts.nodes.countP fun node =>
      node.1 = env.hashIpv4 ipv4Addr ∧ node.2.ipv4Addr = ipv4Addr

/-- How often `bundle_ip_reconfigure` asks for the host at the primary address to be deleted. -/
def hostDeletes (bundle : Bundle) (set : BundleSettings) : Nat :=
  if set.primaryIpv4Changed then
    if bundle.ip4addr = set.ip4Address then 0 else 1
  else if set.secondaryIpv4Changed then
    (bundle.secondaryIp4addr.filter (· ∉ set.ip4AddressSecondary)).length
  else 0

def hostsReleased (env : Env) (s : Sys) (up : OfprotoRef) (aux : Aux) (set : BundleSettings) : Nat :=
  match opsFpaFindBundle env s up aux with
  | none => 0
  | some bundle => min (hostDeletes bundle set) (hostsAt env s.hostTable bundle.ip4addr)

/-- The deletions that bring the counter to zero, which it passes under when it starts there. -/
def releasesLeft (routesCount : Nat) : Nat := if routesCount = 0 then 2 ^ 64 else routesCount

section Hosts

variable {hosts : Hmap HostTableEntry} {ipv4Addr : InAddr} {address : CString}

theorem hostsAt_absent (parsed : hostAddress address = some ipv4Addr)
    (absent : hostTableFind env hosts ipv4Addr = none) : hostsAt env hosts (some address) = 0 := by
  simp only [hostsAt, Option.bind_some, parsed]
  rw [List.countP_eq_zero]
  rintro ⟨hash, entry⟩ member matched
  obtain ⟨isHash, isAddress⟩ := of_decide_eq_true matched
  have inChain : entry ∈ hosts.withHash (env.hashIpv4 ipv4Addr) := by
    rw [Hmap.mem_withHash, ← isHash]
    exact member
  have different := List.find?_eq_none.mp absent entry inChain
  exact different (decide_eq_true isAddress)

theorem hostsAt_delete {entry : HostTableEntry} (parsed : hostAddress address = some ipv4Addr)
    (found : hostTableFind env hosts ipv4Addr = some entry) :
    hostsAt env hosts (some address) =
      hostsAt env (hostTableDelete env hosts entry) (some address) + 1 := by
  obtain ⟨member, rfl⟩ := hostTableFind_some found
  have removed := Hmap.nodes_remove_perm hosts (env.hashIpv4 entry.ipv4Addr) entry
  have restored := (removed.cons (env.hashIpv4 entry.ipv4Addr, entry)).trans
    (List.perm_cons_erase member).symm
  simp only [hostsAt, Option.bind_some, parsed, hostTableDelete]
  rw [← restored.countP_eq, List.countP_cons_of_pos]
  simp

end Hosts

section Release

variable {s next : Sys} {up : OfprotoRef} {aux : Aux} {rc : Rc} {l3Intf : L3Intf}

theorem releasesLeft_pos (routesCount : Nat) : 0 < releasesLeft routesCount := by
  rw [releasesLeft]
  split <;> omega

theorem releasedIntf_cases (l3Intf : L3Intf) :
    releasedIntf l3Intf = none ∧ releasesLeft l3Intf.routesCount = 1 ∨
    ∃ released, releasedIntf l3Intf = some released ∧
      releasesLeft l3Intf.routesCount = releasesLeft released.routesCount + 1 := by
  simp only [releasedIntf, releasesLeft, ulongPred]
  by_cases zero : l3Intf.routesCount = 0
  · refine Or.inr ⟨_, if_neg (by simp [zero]), ?_⟩
    simp [zero]
  · by_cases last : l3Intf.routesCount = 1
    · exact Or.inl ⟨by simp [last], by simp [last]⟩
    · refine Or.inr ⟨_, if_neg (by simp only [zero, if_false]; omega), ?_⟩
      simp only [zero, if_false]
      rw [if_neg (by omega)]
      omega

theorem deleteL3HostEntry_releases {address : CString}
    (routed : l3IntfOf env s up aux = some l3Intf)
    (taken : deleteL3HostEntry env s up aux false address = .ok (rc, next)) :
    next = s ∧ hostsAt env s.hostTable (some address) = 0 ∨
    l3IntfOf env next up aux = releasedIntf l3Intf ∧
      hostsAt env s.hostTable (some address) = hostsAt env next.hostTable (some address) + 1 := by
  obtain ⟨bundle, found, isIntf⟩ := Option.bind_eq_some_iff.mp routed
  simp only [deleteL3HostEntry, found, isIntf, Bool.false_eq_true, if_false] at taken
  cases parsed : hostAddress address with
  | none =>
      simp only [parsed] at taken
      cases taken
      exact Or.inl ⟨rfl, by simp only [hostsAt, Option.bind_some, parsed]⟩
  | some ipv4Addr =>
      simp only [parsed] at taken
      cases hostFound : hostTableFind env s.hostTable ipv4Addr with
      | none =>
          simp only [hostFound] at taken
          cases taken
          exact Or.inl ⟨rfl, hostsAt_absent parsed hostFound⟩
      | some entry =>
          simp only [hostFound] at taken
          cases taken
          refine Or.inr ⟨?_, ?_⟩
          · rw [l3IntfOf_deleteHost found, if_pos ⟨rfl, rfl⟩]
          · rw [hostsAt_delete parsed hostFound, deleteHost_eq]
            rfl

theorem deleteL3HostEntry_unrouted {address : CString} (unrouted : l3IntfOf env s up aux = none)
    (taken : deleteL3HostEntry env s up aux false address = .ok (rc, next)) :
    l3IntfOf env next up aux = none := by
  rcases deleteL3HostEntry_cases taken with ⟨_, rfl⟩ | ⟨_, _, _, _, _, _, found, isIntf, _⟩
  · exact unrouted
  · rw [l3IntfOf, found, Option.bind_some, isIntf] at unrouted
    cases unrouted

end Release

section Readdress

variable {s next : Sys} {up : OfprotoRef} {aux : Aux} {l3Intf : L3Intf} {set : BundleSettings}

theorem removeSecondary_removed {kept rest : List CString} {address primary : CString}
    (isPrimary : (opsFpaFindBundle env s up aux).bind Bundle.ip4addr = some primary)
    (removed : address ∉ kept)
    (done : removeSecondary env up aux kept (address :: rest) s = .ok next) :
    ∃ erased rc after, erased.hostTable = s.hostTable ∧
      l3IntfOf env erased up aux = l3IntfOf env s up aux ∧
      deleteL3HostEntry env erased up aux false primary = .ok (rc, after) ∧
      (opsFpaFindBundle env after up aux).bind Bundle.ip4addr = some primary ∧
      removeSecondary env up aux kept rest after = .ok next := by
  simp only [removeSecondary] at done
  rw [if_neg removed] at done
  have keeps : KeepsRouting fun bundle : Bundle =>
      { bundle with secondaryIp4addr := bundle.secondaryIp4addr.erase address } :=
    ⟨fun _ => rfl, fun _ => rfl, fun _ => rfl⟩
  have sameIntf := @l3IntfOf_modifyBundle env s up aux _ keeps up aux
  have samePrimary : (opsFpaFindBundle env (modifyBundle s up aux fun bundle =>
      { bundle with secondaryIp4addr := bundle.secondaryIp4addr.erase address }) up aux).bind
        Bundle.ip4addr = some primary := by
    rw [findBundle_modifyBundle s up aux keeps.aux, if_pos ⟨rfl, rfl⟩, Option.bind_map]
    exact isPrimary
  have sameHosts : (modifyBundle s up aux fun bundle =>
      { bundle with secondaryIp4addr := bundle.secondaryIp4addr.erase address }).hostTable =
        s.hostTable := rfl
  generalize modifyBundle s up aux _ = erased at done sameIntf samePrimary sameHosts
  simp only [samePrimary] at done
  cases taken : deleteL3HostEntry env erased up aux false primary with
  | error fault =>
      simp only [taken] at done
      cases done
  | ok result =>
      obtain ⟨rc, after⟩ := result
      simp only [taken] at done
      refine ⟨erased, rc, after, sameHosts, sameIntf, taken, ?_, done⟩
      rw [findBundle_deleteL3HostEntry taken, samePrimary]

theorem removeSecondary_unrouted {kept : List CString} {primary : CString}
    (addresses : List CString)
    (isPrimary : (opsFpaFindBundle env s up aux).bind Bundle.ip4addr = some primary)
    (unrouted : l3IntfOf env s up aux = none)
    (done : removeSecondary env up aux kept addresses s = .ok next) :
    l3IntfOf env next up aux = none := by
  refine removeSecondary_invariant (fun state => l3IntfOf env state up aux = none) ?_ addresses s
    ?_ isPrimary unrouted done
  · intro state update keeps none
    rwa [l3IntfOf_modifyBundle keeps]
  · intro state rc after address _ _ none taken
    exact deleteL3HostEntry_unrouted none taken

theorem removeSecondary_unroutes {kept : List CString} {primary : CString}
    (addresses : List CString)
    (isPrimary : (opsFpaFindBundle env s up aux).bind Bundle.ip4addr = some primary)
    (routed : l3IntfOf env s up aux = some l3Intf)
    (done : removeSecondary env up aux kept addresses s = .ok next) :
    l3IntfOf env next up aux = none ↔ releasesLeft l3Intf.routesCount ≤
      min (addresses.filter (· ∉ kept)).length (hostsAt env s.hostTable (some primary)) := by
  induction addresses generalizing s l3Intf with
  | nil =>
      cases done
      have left := releasesLeft_pos l3Intf.routesCount
      rw [routed, List.filter_nil, List.length_nil]
      exact iff_of_false (Option.some_ne_none _) (by omega)
  | cons address rest ih =>
      by_cases wanted : address ∈ kept
      · simp only [removeSecondary, if_pos wanted] at done
        rw [ih isPrimary routed done, List.filter_cons_of_neg (by simpa using wanted)]
      · obtain ⟨erased, rc, after, sameHosts, sameIntf, taken, stillPrimary, later⟩ :=
          removeSecondary_removed isPrimary wanted done
        rw [List.filter_cons_of_pos (by simpa using wanted), List.length_cons]
        rw [← sameIntf] at routed
        rw [← sameHosts]
        have left := releasesLeft_pos l3Intf.routesCount
        rcases deleteL3HostEntry_releases routed taken with ⟨rfl, noHost⟩ | ⟨isReleased, oneHost⟩
        · rw [ih stillPrimary routed later, noHost]
          omega
        · rw [oneHost]
          rcases releasedIntf_cases l3Intf with ⟨gone, last⟩ | ⟨released, kept, more⟩
          · refine iff_of_true ?_ (by omega)
            exact removeSecondary_unrouted rest stillPrimary (isReleased.trans gone) later
          · rw [ih stillPrimary (isReleased.trans kept) later]
            omega

theorem removePrimary_unroutes {primary : Option CString}
    (routed : l3IntfOf env s up aux = some l3Intf)
    (done : removePrimary env s up aux primary = .ok next) :
    l3IntfOf env next up aux = none ↔
      releasesLeft l3Intf.routesCount ≤ min 1 (hostsAt env s.hostTable primary) := by
  have left := releasesLeft_pos l3Intf.routesCount
  cases primary with
  | none =>
      cases done
      have noHost : hostsAt env s.hostTable none = 0 := rfl
      rw [routed, noHost]
      exact iff_of_false (Option.some_ne_none _) (by omega)
  | some address =>
      simp only [removePrimary] at done
      cases taken : deleteL3HostEntry env s up aux false address with
      | error fault =>
          simp only [taken] at done
          cases done
      | ok result =>
          obtain ⟨rc, after⟩ := result
          simp only [taken] at done
          cases done
          rcases deleteL3HostEntry_releases routed taken with ⟨rfl, noHost⟩ | ⟨isReleased, oneHost⟩
          · rw [routed, noHost]
            exact iff_of_false (Option.some_ne_none _) (by omega)
          · rw [isReleased, oneHost]
            rcases releasedIntf_cases l3Intf with ⟨gone, last⟩ | ⟨released, kept, more⟩
            · exact iff_of_true gone (by omega)
            · have stays := releasesLeft_pos released.routesCount
              rw [kept]
              exact iff_of_false (Option.some_ne_none _) (by omega)

theorem l3IntfOf_setPrimary {address : CString}
    (done : setPrimary env s up aux address = .ok next) :
    l3IntfOf env next up aux = l3IntfOf env s up aux := by
  refine setPrimary_invariant (fun state => l3IntfOf env state up aux = l3IntfOf env s up aux)
    ?_ rfl done
  intro state update keeps same
  rw [l3IntfOf_modifyBundle keeps, same]

theorem l3IntfOf_addSecondary {addresses : List CString}
    (done : addSecondary env up aux addresses s = .ok next) :
    l3IntfOf env next up aux = l3IntfOf env s up aux := by
  refine addSecondary_invariant (fun state => l3IntfOf env state up aux = l3IntfOf env s up aux)
    ?_ addresses s rfl done
  intro state update keeps same
  rw [l3IntfOf_modifyBundle keeps, same]

theorem secondaryReconfigure_unroutes {bundle : Bundle}
    (found : opsFpaFindBundle env s up aux = some bundle)
    (routed : l3IntfOf env s up aux = some l3Intf)
    (done : bundleIpv4SecondaryReconfigure env s up aux set = .ok next) :
    l3IntfOf env next up aux = none ↔ releasesLeft l3Intf.routesCount ≤
      min (bundle.secondaryIp4addr.filter (· ∉ set.ip4AddressSecondary)).length
        (hostsAt env s.hostTable bundle.ip4addr) := by
  simp only [bundleIpv4SecondaryReconfigure, found] at done
  cases removed : removeSecondary env up aux set.ip4AddressSecondary bundle.secondaryIp4addr s with
  | error fault =>
      simp only [removed] at done
      cases done
  | ok between =>
      simp only [removed] at done
      rw [l3IntfOf_addSecondary done]
      have isPrimary : (opsFpaFindBundle env s up aux).bind Bundle.ip4addr = bundle.ip4addr := by
        rw [found, Option.bind_some]
      cases primary : bundle.ip4addr with
      | some address => exact removeSecondary_unroutes _ (isPrimary.trans primary) routed removed
      | none =>
          -- without a primary address only the empty removal completes
          have noHost : hostsAt env s.hostTable none = 0 := rfl
          have left := releasesLeft_pos l3Intf.routesCount
          have kept := removeSecondary_invariant
            (fun state => l3IntfOf env state up aux = some l3Intf)
            (fun state update keeps same => by rwa [l3IntfOf_modifyBundle keeps])
            bundle.secondaryIp4addr s (fun _ _ _ _ isSome => by cases isSome)
            (isPrimary.trans primary) routed removed
          rw [kept, noHost]
          exact iff_of_false (Option.some_ne_none _) (by omega)

theorem primaryReconfigure_unroutes {bundle : Bundle}
    (found : opsFpaFindBundle env s up aux = some bundle)
    (routed : l3IntfOf env s up aux = some l3Intf) (changed : set.primaryIpv4Changed = true)
    (done : bundleIpReconfigure env s up aux set = .ok next) :
    l3IntfOf env next up aux = none ↔ releasesLeft l3Intf.routesCount ≤
      min (if bundle.ip4addr = set.ip4Address then 0 else 1)
        (hostsAt env s.hostTable bundle.ip4addr) := by
  have left := releasesLeft_pos l3Intf.routesCount
  simp only [bundleIpReconfigure, found, changed, if_true] at done
  cases wanted : set.ip4Address with
  | none =>
      simp only [wanted] at done
      cases removed : removePrimary env s up aux bundle.ip4addr with
      | error fault =>
          simp only [removed] at done
          cases done
      | ok between =>
          simp only [removed] at done
          cases done
          have keeps : KeepsRouting fun bundle : Bundle => { bundle with ip4addr := none } :=
            ⟨fun _ => rfl, fun _ => rfl, fun _ => rfl⟩
          rw [l3IntfOf_modifyBundle keeps, removePrimary_unroutes routed removed]
          by_cases unset : bundle.ip4addr = none
          · have noHost : hostsAt env s.hostTable none = 0 := rfl
            rw [unset, noHost]
            omega
          · rw [if_neg unset]
  | some address =>
      simp only [wanted] at done
      by_cases same : bundle.ip4addr = some address
      · rw [if_pos same] at done ⊢
        cases done
        rw [routed]
        exact iff_of_false (Option.some_ne_none _) (by omega)
      · rw [if_neg same] at done ⊢
        cases removed : removePrimary env s up aux bundle.ip4addr with
        | error fault =>
            simp only [removed] at done
            cases done
        | ok between =>
            simp only [removed] at done
            rw [l3IntfOf_setPrimary done, removePrimary_unroutes routed removed]

/-- A change of addresses takes the interface with it exactly when it deletes as many hosts as
are left. -/
theorem bundleIpReconfigure_unroutes {bundle : Bundle}
    (found : opsFpaFindBundle env s up aux = some bundle)
    (routed : l3IntfOf env s up aux = some l3Intf)
    (done : bundleIpReconfigure env s up aux set = .ok next) :
    l3IntfOf env next up aux = none ↔
      releasesLeft l3Intf.routesCount ≤ hostsReleased env s up aux set := by
  simp only [hostsReleased, found, hostDeletes]
  by_cases primaryChanged : set.primaryIpv4Changed = true
  · rw [if_pos primaryChanged]
    exact primaryReconfigure_unroutes found routed primaryChanged done
  · simp only [bundleIpReconfigure, found] at done
    rw [if_neg primaryChanged] at done ⊢
    by_cases secondaryChanged : set.secondaryIpv4Changed = true
    · rw [if_pos secondaryChanged] at done ⊢
      exact secondaryReconfigure_unroutes found routed done
    · rw [if_neg secondaryChanged] at done ⊢
      cases done
      have left := releasesLeft_pos l3Intf.routesCount
      rw [routed]
      exact iff_of_false (Option.some_ne_none _) (by omega)

theorem bundleIpReconfigure_vlan {bundle : Bundle} {after : L3Intf}
    (found : opsFpaFindBundle env s up aux = some bundle)
    (done : bundleIpReconfigure env s up aux set = .ok next)
    (isAfter : l3IntfOf env next up aux = some after) :
    ∃ before, l3IntfOf env s up aux = some before ∧ after.vlanId = before.vlanId := by
  refine bundleIpReconfigure_invariant (fun state => ∀ after, l3IntfOf env state up aux =
    some after → ∃ before, l3IntfOf env s up aux = some before ∧ after.vlanId = before.vlanId)
    ?_ found ?_ (fun after isAfter => ⟨after, isAfter, rfl⟩) done after isAfter
  · intro state update keeps onVlan after isAfter
    rw [l3IntfOf_modifyBundle keeps] at isAfter
    exact onVlan after isAfter
  · intro state rc deleted address _ onVlan taken after isAfter
    cases routed : l3IntfOf env state up aux with
    | none =>
        rw [deleteL3HostEntry_unrouted routed taken] at isAfter
        cases isAfter
    | some l3Intf =>
        obtain ⟨before, isBefore, same⟩ := onVlan l3Intf routed
        refine ⟨before, isBefore, ?_⟩
        rcases deleteL3HostEntry_releases routed taken with ⟨rfl, _⟩ | ⟨isReleased, _⟩
        · cases routed.symm.trans isAfter
          exact same
        · rw [isReleased, releasedIntf] at isAfter
          split at isAfter
          · cases isAfter
          · cases isAfter
            exact same

end Readdress

section Settings

variable {s next : Sys} {up : OfprotoRef} {aux : Aux} {set : BundleSettings}

theorem enableRouting_vlan {hw after : Hw} {type : NetdevType} {intfId : Int} {vlanId : Nat}
    {mac : EthAddr} {l3Intf : L3Intf}
    (enabled : enableRouting env hw type intfId vlanId mac = (some l3Intf, after)) :
    l3Intf.vlanId = vlanId := by
  cases type with
  | system =>
      rcases enableRoutingInterface_cases enabled with ⟨absurdity, _⟩ | ⟨_, isIntf, _, onVlan, _⟩
      · cases absurdity
      · cases isIntf
        exact onVlan
  | internal | vlansubint | loopback =>
      simp only [enableRouting] at enabled
      obtain ⟨isIntf, _⟩ := Prod.mk.inj enabled
      rcases enableRoutingVlan_outcome (Prod.ext isIntf rfl) with ⟨_, isSome, _⟩ | ⟨_, _, absurdity, _⟩
      · cases isSome
        rfl
      · cases absurdity

theorem enableRouting_refused (hw : Hw) (intfId : Int) (vlanId : Nat) (mac : EthAddr) :
    (enableRouting env hw .internal intfId vlanId mac).1 = none ↔
      refusedFlow env hw.fpa vlanId mac ≠ none := by
  simp only [enableRouting]
  cases result : opsFpaEnableRoutingVlan env hw.fpa vlanId mac with
  | mk l3Intf fpa =>
      rcases enableRoutingVlan_outcome result with ⟨accepted, rfl, _⟩ | ⟨flow, refused, rfl, _⟩
      · rw [accepted]
        simp
      · rw [refused]
        simp

def routedOn (env : Env) (s : Sys) (up : OfprotoRef) (aux : Aux) : Option Int :=
  (l3IntfOf env s up aux).map fun l3Intf => l3Intf.vlanId

/-- The settings are in force: routing is on their VLAN, or off when they have none and no host
is left. -/
def RoutesAsSet (env : Env) (s next : Sys) (up : OfprotoRef) (aux : Aux) (vlanId : Int) : Prop :=
  (vlanId ≠ 0 → routedOn env next up aux = some vlanId) ∧
  (vlanId = 0 → (∀ l3Intf ∈ l3IntfOf env s up aux, l3Intf.routesCount = 0) →
    l3IntfOf env next up aux = none)

instance {vlanId : Int} : Decidable (RoutesAsSet env s next up aux vlanId) :=
  inferInstanceAs (Decidable (_ ∧ _))

/-- What `ops_fpa_ofproto_bundle_set` must find: no interface, an id that a `uint16_t` holds and
flows that FPA accepts, or an interface on the wanted VLAN, and hosts enough to outlast the change
of addresses. -/
def RoutesWhenSet (env : Env) (s : Sys) (up : OfprotoRef) (aux : Aux) (set : BundleSettings)
    (port : Ofport) (vlanId : Int) : Prop :=
  match l3IntfOf env s up aux with
  | none => vlanId ≠ 0 →
      uint16 vlanId = vlanId ∧
      (port.netdev.type = .internal →
        refusedFlow env s.hw.fpa (uint16 vlanId) port.netdev.mac = none) ∧
      hostsReleased env s up aux set < releasesLeft 0
  | some l3Intf =>
      (vlanId ≠ 0 → l3Intf.vlanId = vlanId ∧
        hostsReleased env s up aux set < releasesLeft l3Intf.routesCount) ∧
      (vlanId = 0 → l3Intf.routesCount = 0 → releasesLeft 0 ≤ hostsReleased env s up aux set)

theorem hostsReleased_ensured (keyed : BundlesKeyed env s) {slave : Nat}
    (created : ensureBundle env s up aux slave set.name = .ok next) :
    hostsReleased env next up aux set = hostsReleased env s up aux set := by
  obtain ⟨bundle, origin, nowFound⟩ := findBundle_ensureBundle keyed created
  obtain ⟨_, _, sameHosts, _⟩ := ensureBundle_frame created
  have found := nowFound up aux
  rw [if_pos ⟨rfl, rfl⟩] at found
  rcases origin with wasFound | ⟨absent, rfl⟩
  · simp only [hostsReleased, found, wasFound, sameHosts, hostDeletes]
  · simp only [hostsReleased, found, absent]
    exact Nat.min_zero _

theorem hostsReleased_routed {bundle : Bundle} {port : Ofport} {vlanId : Int} {rc : Rc}
    (found : opsFpaFindBundle env s up bundle.aux = some bundle)
    (routing : configureRouting env s up bundle port vlanId set = (rc, next)) :
    hostsReleased env next up bundle.aux set = hostsReleased env s up bundle.aux set := by
  obtain ⟨l3Intf, stillFound⟩ := findBundle_configureRouting found routing
  obtain ⟨_, sameHosts, _⟩ := configureRouting_frame found routing
  simp only [hostsReleased, stillFound, found, sameHosts, hostDeletes]

theorem readdressed_unrouted {bundle : Bundle} (found : opsFpaFindBundle env s up aux = some bundle)
    (unrouted : l3IntfOf env s up aux = none)
    (done : bundleIpReconfigure env s up aux set = .ok next) : l3IntfOf env next up aux = none := by
  cases isAfter : l3IntfOf env next up aux with
  | none => rfl
  | some after =>
      obtain ⟨before, isBefore, _⟩ := bundleIpReconfigure_vlan found done isAfter
      cases unrouted.symm.trans isBefore

theorem readdressed_onVlan_iff {bundle : Bundle} {l3Intf : L3Intf} {vlanId : Int}
    (found : opsFpaFindBundle env s up aux = some bundle)
    (routed : l3IntfOf env s up aux = some l3Intf)
    (done : bundleIpReconfigure env s up aux set = .ok next) :
    routedOn env next up aux = some vlanId ↔
      l3Intf.vlanId = vlanId ∧
        hostsReleased env s up aux set < releasesLeft l3Intf.routesCount := by
  have unroutes := bundleIpReconfigure_unroutes found routed done
  rw [routedOn, Option.map_eq_some_iff]
  constructor
  · rintro ⟨after, isAfter, onVlan⟩
    obtain ⟨before, isBefore, same⟩ := bundleIpReconfigure_vlan found done isAfter
    cases routed.symm.trans isBefore
    refine ⟨same ▸ onVlan, ?_⟩
    by_contra many
    rw [unroutes.mpr (by omega)] at isAfter
    cases isAfter
  · rintro ⟨onVlan, few⟩
    cases isAfter : l3IntfOf env next up aux with
    | none => exact absurd (unroutes.mp isAfter) (by omega)
    | some after =>
        obtain ⟨before, isBefore, same⟩ := bundleIpReconfigure_vlan found done isAfter
        cases routed.symm.trans isBefore
        exact ⟨after, rfl, same ▸ onVlan⟩

theorem routesAsSet_routed {before : Sys} {bundle : Bundle} {l3Intf : L3Intf} {vlanId : Int}
    (found : opsFpaFindBundle env s up aux = some bundle)
    (routed : l3IntfOf env s up aux = some l3Intf)
    (wasRouted : vlanId = 0 → l3IntfOf env before up aux = some l3Intf)
    (done : bundleIpReconfigure env s up aux set = .ok next) :
    RoutesAsSet env before next up aux vlanId ↔
      (vlanId ≠ 0 → l3Intf.vlanId = vlanId ∧
        hostsReleased env s up aux set < releasesLeft l3Intf.routesCount) ∧
      (vlanId = 0 → l3Intf.routesCount = 0 →
        releasesLeft 0 ≤ hostsReleased env s up aux set) := by
  rw [RoutesAsSet, readdressed_onVlan_iff found routed done,
    bundleIpReconfigure_unroutes found routed done]
  refine and_congr_right fun _ => ?_
  constructor
  · intro takenDown zero idle
    have many := takenDown zero (by
      intro other isOther
      cases (wasRouted zero).symm.trans isOther
      exact idle)
    rwa [idle] at many
  · intro takenDown zero idle
    have isIdle := idle l3Intf (wasRouted zero)
    rw [isIdle]
    exact takenDown zero isIdle

theorem configureRouting_enabled {bundle : Bundle} {port : Ofport} {vlanId : Int}
    (found : opsFpaFindBundle env s up bundle.aux = some bundle) (enabled : set.enable = true)
    (supported : routedVlanId port.netdev.type set = some vlanId)
    (routing : configureRouting env s up bundle port vlanId set = (.ok, next)) :
    l3IntfOf env next up bundle.aux = bundle.l3Intf ∧ (bundle.l3Intf = none → vlanId = 0) ∨
    bundle.l3Intf = none ∧ vlanId ≠ 0 ∧
      (port.netdev.type = .internal ∧
        refusedFlow env s.hw.fpa (uint16 vlanId) port.netdev.mac ≠ none ∧
        l3IntfOf env next up bundle.aux = none ∨
      (port.netdev.type = .internal →
        refusedFlow env s.hw.fpa (uint16 vlanId) port.netdev.mac = none) ∧
        ∃ l3Intf, l3IntfOf env next up bundle.aux = some l3Intf ∧ l3Intf.vlanId = uint16 vlanId ∧
          l3Intf.routesCount = 0) := by
  rcases configureRouting_cases found routing with
    ⟨_, disabled, _⟩ | ⟨_, unrouted, nonzero, result, hw, isEnabled, outcome, rfl⟩ |
    ⟨_, kept, _, rfl⟩
  · cases enabled.symm.trans disabled
  · refine Or.inr ⟨unrouted, nonzero, ?_⟩
    have stillFound : opsFpaFindBundle env { s with hw } up bundle.aux = some bundle := found
    rw [l3IntfOf_setL3Intf stillFound, if_pos ⟨rfl, rfl⟩]
    cases result with
    | some l3Intf =>
        refine Or.inr ⟨?_, l3Intf, rfl, enableRouting_vlan isEnabled,
          enableRouting_routesCount isEnabled⟩
        intro isInternal
        rw [isInternal] at isEnabled
        by_contra refused
        have isNone := (enableRouting_refused _ bundle.intfId _ _).mpr refused
        rw [isEnabled] at isNone
        cases isNone
    | none =>
        cases isType : port.netdev.type with
        | internal =>
            rw [isType] at isEnabled
            refine Or.inl ⟨rfl, ?_, rfl⟩
            rw [← enableRouting_refused, isEnabled]
        | system =>
            rw [isType] at outcome
            cases outcome
        | vlansubint | loopback =>
            rw [isType] at supported
            cases supported
  · refine Or.inl ⟨?_, kept enabled⟩
    rw [l3IntfOf, found]
    rfl

/-- With enabled settings and a return of 0, routing is as the settings ask exactly when the
interface found there was already right, or there was none and FPA accepted a new one. -/
theorem routes_as_set_iff (env : Env) (s next : Sys) (keyed : BundlesKeyed env s)
    (up : OfprotoRef) (aux : Aux) (set : BundleSettings) (port : Ofport) (vlanId : Int)
    (isVrf : (s.ofprotos up).type = .vrf) (asked : routedPort s up set = some (port, vlanId))
    (enabled : set.enable = true)
    (taken : opsFpaOfprotoBundleSet env s up aux (some set) = .ok (.ok, next)) :
    RoutesAsSet env s next up aux vlanId ↔ RoutesWhenSet env s up aux set port vlanId := by
  obtain ⟨slave, ensured, bundle, between, outcome, _, created, rfl, found, wasIntf, supported,
    routing, after⟩ := bundleSet_routed keyed isVrf asked taken
  rcases after with ⟨rfl, _, readdressed⟩ | ⟨failed, isRc, _⟩
  · obtain ⟨_, stillFound⟩ := findBundle_configureRouting found routing
    have released : hostsReleased env between up bundle.aux set =
        hostsReleased env s up bundle.aux set := by
      rw [hostsReleased_routed found routing, hostsReleased_ensured keyed created]
    rw [RoutesWhenSet, wasIntf, ← released, ← (ensureBundle_frame created).1]
    rcases configureRouting_enabled found enabled supported routing with
      ⟨same, kept⟩ | ⟨unrouted, nonzero, ⟨isInternal, refused, isNone⟩ |
        ⟨accepted, l3Intf, isUp, onVlan, fresh⟩⟩
    · cases routed : bundle.l3Intf with
      | none =>
          have zero := kept routed
          have stays := readdressed_unrouted stillFound (same.trans routed) readdressed
          refine iff_of_true ⟨fun nonzero => absurd zero nonzero, fun _ _ => stays⟩ ?_
          exact fun nonzero => absurd zero nonzero
      | some l3Intf =>
          exact routesAsSet_routed stillFound (same.trans routed)
            (fun _ => wasIntf.trans routed) readdressed
    · have stays := readdressed_unrouted stillFound isNone readdressed
      rw [unrouted]
      refine iff_of_false ?_ (fun works => refused ((works nonzero).2.1 isInternal))
      rintro ⟨routes, _⟩
      have isUp := routes nonzero
      rw [routedOn, stays] at isUp
      cases isUp
    · rw [unrouted, routesAsSet_routed stillFound isUp (fun zero => absurd zero nonzero)
        readdressed, fresh]
      rw [onVlan]
      constructor
      · rintro ⟨stays, _⟩ _
        exact ⟨(stays nonzero).1, accepted, (stays nonzero).2⟩
      · intro works
        obtain ⟨holds, _, few⟩ := works nonzero
        exact ⟨fun _ => ⟨holds, few⟩, fun zero => absurd zero nonzero⟩
  · exact absurd isRc.symm failed

end Settings

theorem bundlesKeyed_reached {s state : Sys} (initial : Initial s) {trace : Trace}
    (run : Run env s trace state) : BundlesKeyed env state := by
  induction run with
  | nil => exact initial.bundlesKeyed
  | cons _ taken ih => exact step_keyed ih taken

theorem eq_ok_of_toOption {ε α : Type} {result : Except ε α} {value : α}
    (returned : result.toOption = some value) : result = .ok value := by
  cases result with
  | error fault => cases returned
  | ok other =>
      cases returned
      rfl

theorem routes_as_set_again : ∃ trace state next, Run idealEnv idealSys trace state ∧
    (l3IntfOf idealEnv state 1 100).map L3Intf.vlanId = some 1024 ∧
    opsFpaOfprotoBundleSet idealEnv state 1 100 (some (routedSettings 1024)) = .ok (.ok, next) ∧
    RoutesAsSet idealEnv state next 1 100 1024 := by
  obtain ⟨trace, state, run, isVrf, asked, isIntf, noHosts, returned⟩ :=
    run_of_check idealEnv idealSys
      [.portConstruct 1 1 10 (systemNetdev 1) 1500, .bundleSet 1 100 (some (routedSettings 1024))]
      (fun _ state => (state.ofprotos 1).type = .vrf ∧
        (routedPort state 1 (routedSettings 1024)).map Prod.snd = some 1024 ∧
        l3IntfOf idealEnv state 1 100 = some ⟨1, 1024, 1#48, true, 0⟩ ∧
        hostsReleased idealEnv state 1 100 (routedSettings 1024) = 0 ∧
        (opsFpaOfprotoBundleSet idealEnv state 1 100 (some (routedSettings 1024))).toOption.map
          Prod.fst = some .ok) (by decide +kernel)
  obtain ⟨⟨port, vlanId⟩, isRouted, rfl⟩ := Option.map_eq_some_iff.mp asked
  obtain ⟨⟨rc, next⟩, taken, rfl⟩ := Option.map_eq_some_iff.mp returned
  have isTaken := eq_ok_of_toOption taken
  refine ⟨trace, state, next, run, by rw [isIntf]; rfl, isTaken, ?_⟩
  refine (routes_as_set_iff idealEnv state next (bundlesKeyed_reached idealSys_initial run) 1 100 _
    port _ isVrf isRouted rfl isTaken).mpr ?_
  rw [RoutesWhenSet, isIntf, noHosts]
  exact ⟨fun _ => ⟨rfl, by decide⟩, fun zero => absurd zero (by decide)⟩

/-- In a run the settings ask for routing on `vlanId`, 0 is returned, and routing is not so. -/
def MissesSettings (env : Env) (set : BundleSettings) (vlanId : Int) : Prop :=
  ∃ trace state next, Run env idealSys trace state ∧ (state.ofprotos 1).type = .vrf ∧
    (routedPort state 1 set).map Prod.snd = some vlanId ∧ set.enable = true ∧
    opsFpaOfprotoBundleSet env state 1 100 (some set) = .ok (.ok, next) ∧
    ¬ RoutesAsSet env state next 1 100 vlanId

theorem missesSettings_of_check (env : Env) (calls : List Call) (set : BundleSettings)
    (vlanId : Int) (enabled : set.enable = true)
    (passed : (Runs.replay (step env) [] idealSys calls).any (fun result =>
      (result.2.ofprotos 1).type = .vrf ∧ (routedPort result.2 1 set).map Prod.snd = some vlanId ∧
      (opsFpaOfprotoBundleSet env result.2 1 100 (some set)).toOption.any (fun next =>
        next.1 = .ok ∧ ¬ RoutesAsSet env result.2 next.2 1 100 vlanId) = true) = true) :
    MissesSettings env set vlanId := by
  obtain ⟨trace, state, run, isVrf, asked, returned⟩ := run_of_check env idealSys calls
    (fun _ state => (state.ofprotos 1).type = .vrf ∧
      (routedPort state 1 set).map Prod.snd = some vlanId ∧
      (opsFpaOfprotoBundleSet env state 1 100 (some set)).toOption.any (fun next =>
        next.1 = .ok ∧ ¬ RoutesAsSet env state next.2 1 100 vlanId) = true) passed
  obtain ⟨⟨rc, next⟩, taken, passed⟩ := (Option.any_eq_true _ _).mp returned
  obtain ⟨rfl, missed⟩ := of_decide_eq_true passed
  exact ⟨trace, state, next, run, isVrf, asked, enabled, eq_ok_of_toOption taken, missed⟩

/-- An interface is not moved to the VLAN of new settings, not taken down by settings without
one, missing where FPA refused its flows, and on another VLAN than an id that is cut to 16 bits;
0 is returned each time. -/
theorem settings_are_missed :
    MissesSettings idealEnv (routedSettings 1025) 1025 ∧
    MissesSettings idealEnv { routedSettings 1024 with internalVlanId := none } 0 ∧
    MissesSettings unterminatedEnv (routedSettings 1024) 1 ∧
    MissesSettings idealEnv (routedSettings 65537) 65537 := by
  refine ⟨?_, ?_, ?_, ?_⟩
  · exact missesSettings_of_check idealEnv [.portConstruct 1 1 10 (systemNetdev 1) 1500,
      .bundleSet 1 100 (some (routedSettings 1024))] _ _ rfl (by decide +kernel)
  · exact missesSettings_of_check idealEnv [.portConstruct 1 1 10 (systemNetdev 1) 1500,
      .bundleSet 1 100 (some (routedSettings 1024))] _ _ rfl (by decide +kernel)
  · exact missesSettings_of_check unterminatedEnv
      [.portConstruct 1 1 10 { systemNetdev 1 with type := .internal } 1500] _ _ rfl
      (by decide +kernel)
  · exact missesSettings_of_check idealEnv [.portConstruct 1 1 10 (systemNetdev 1) 1500] _ _ rfl
      (by decide +kernel)

end FpaPlugin
