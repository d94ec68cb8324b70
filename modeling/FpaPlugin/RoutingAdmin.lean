import FpaPlugin.RouteCount
import FpaPlugin.VlanSpec

/-! Routing against the administrative state of a vrf bundle. Routing comes up with the
settings, but it goes down with the last host whatever the settings say, and several
early returns leave it as it was. -/

namespace FpaPlugin

variable {env : Env}

def latestSettings : Trace → OfprotoRef → Aux → Option (Sys × BundleSettings)
  | [], _, _ => none
  | event :: earlier, up, aux =>
      match event.input with
      | .bundleSet setUp setAux set =>
          if setUp = up ∧ setAux = aux then set.map fun settings => (event.before, settings)
          else latestSettings earlier up aux
      | _ => latestSettings earlier up aux

/-- The port and the VLAN that settings ask to route on: `none` when the slave is
unknown or neither a system nor an internal interface. -/
def routedPort (s : Sys) (up : OfprotoRef) (set : BundleSettings) : Option (Ofport × Int) :=
  match set.slaves with
  | [slave] => ((ofprotoGetPort s up slave).bind s.ofports).bind fun port =>
      (routedVlanId port.netdev.type set).map fun vlanId => (port, vlanId)
  | _ => none

def asksForRouting (s : Sys) (up : OfprotoRef) (set : BundleSettings) : Bool :=
  set.enable && (routedPort s up set).any fun routed => routed.2 ≠ 0

def adminUp (trace : Trace) (up : OfprotoRef) (aux : Aux) : Bool :=
  (latestSettings trace up aux).any fun latest => asksForRouting latest.1 up latest.2

def adminEnabled (trace : Trace) (up : OfprotoRef) (aux : Aux) : Bool :=
  (latestSettings trace up aux).any fun latest => latest.2.enable

structure RoutingFollowsAdmin (env : Env) (trace : Trace) (s : Sys) : Prop where
  up : ∀ up aux, (s.ofprotos up).type = .vrf → adminUp trace up aux = true →
    l3IntfOf env s up aux ≠ none
  down : ∀ up aux l3Intf, (s.ofprotos up).type = .vrf → l3IntfOf env s up aux = some l3Intf →
    adminEnabled trace up aux = true ∨ 0 < l3Intf.routesCount

def hostsAtOldAddress (env : Env) (s : Sys) (up : OfprotoRef) (aux : Aux) (set : BundleSettings) :
    Nat :=
  match (opsFpaFindBundle env s up aux).bind fun bundle => deletedAddress bundle set with
  | none => 0
  | some address => s.hostTable.values.countP fun entry => hostAddress address = some entry.ipv4Addr

def bundleIntfId (env : Env) (s : Sys) (up : OfprotoRef) (aux : Aux) (set : BundleSettings) : Int :=
  match opsFpaFindBundle env s up aux, set.slaves with
  | some bundle, _ => bundle.intfId
  | none, slave :: _ => (newBundle s up aux slave).intfId
  | none, [] => fpaInvalidIntfId

def buildsGroups (env : Env) (_ : Trace) (event : Event) : Bool :=
  match event.input with
  | .bundleSet up aux (some set) =>
      (routedPort event.before up set).all fun routed =>
        routed.1.netdev.type ≠ .system ||
          buildsGroup env (bundleIntfId env event.before up aux set) (uint16 routed.2)
  | _ => true

/-- The steps that reach none of the defects: an enabled interface never loses its last
host, and settings are not given up on before routing was looked at. -/
def respectsAdmin (env : Env) (earlier : Trace) (event : Event) : Bool :=
  match event.input with
  | .bundleSet up aux (some set) =>
      match routedPort event.before up set, l3IntfOf env event.before up aux with
      | none, none => true
      | none, some l3Intf => set.enable || l3Intf.routesCount ≠ 0
      -- the last host must not go with the old primary address
      | some (_, vlanId), some l3Intf =>
          !(set.enable && vlanId ≠ 0) || l3Intf.routesCount = 0 ||
            hostsAtOldAddress env event.before up aux set < l3Intf.routesCount
      -- a system interface comes up on a VLAN that is not internal already
      | some (port, vlanId), none =>
          !(set.enable && vlanId ≠ 0) || port.netdev.type ≠ .system ||
            !event.before.hw.internalVlans (uint16 vlanId)
  | .deleteL3Host up aux isIpv6Addr ipAddr =>
      !adminUp earlier up aux || isIpv6Addr ||
        ((hostAddress ipAddr).bind (hostTableFind env event.before.hostTable)).isNone ||
        (l3IntfOf env event.before up aux).all fun l3Intf => l3Intf.routesCount ≠ 1
  | .addL3Host up aux _ _ _ =>
      adminEnabled earlier up aux ||
        (l3IntfOf env event.before up aux).all fun l3Intf => ulongSucc l3Intf.routesCount ≠ 0
  | _ => true

section BundleSet

variable {s next : Sys} {up : OfprotoRef} {aux : Aux} {rc : Rc}

theorem routedPort_ensured {slave : Nat} {settings : BundleSettings} {ensured : Sys}
    (single : settings.slaves = [slave])
    (created : ensureBundle env s up aux slave settings.name = .ok ensured) :
    routedPort s up settings =
      ((ofprotoGetPort ensured up slave).bind ensured.ofports).bind fun port =>
        (routedVlanId port.netdev.type settings).map fun vlanId => (port, vlanId) := by
  obtain ⟨_, _, ports, _⟩ := ensureBundle_ofproto created up
  obtain ⟨_, _, _, ofports, _⟩ := ensureBundle_frame created
  simp only [routedPort, single, ofprotoGetPort, ports, ofports]

theorem bundleSet_routed (keyed : BundlesKeyed env s) {settings : BundleSettings} {port : Ofport}
    {vlanId : Int} (isVrf : (s.ofprotos up).type = .vrf)
    (isRouted : routedPort s up settings = some (port, vlanId))
    (taken : opsFpaOfprotoBundleSet env s up aux (some settings) = .ok (rc, next)) :
    ∃ slave ensured bundle between outcome, settings.slaves = [slave] ∧
      ensureBundle env s up aux slave settings.name = .ok ensured ∧ bundle.aux = aux ∧
      opsFpaFindBundle env ensured up aux = some bundle ∧
      l3IntfOf env s up aux = bundle.l3Intf ∧
      routedVlanId port.netdev.type settings = some vlanId ∧
      configureRouting env ensured up bundle port vlanId settings = (outcome, between) ∧
      (outcome = .ok ∧ rc = .ok ∧ bundleIpReconfigure env between up aux settings = .ok next ∨
        outcome ≠ .ok ∧ rc = outcome ∧ next = between) := by
  rcases bundleSet_cases taken with ⟨absurdity, _⟩ | ⟨_, same, notSingle, _⟩ |
    ⟨_, slave, ensured, bundle, same, single, created, found, configured⟩
  · cases absurdity
  · cases same
    rw [routedPort] at isRouted
    split at isRouted
    · rename_i slave single
      exact absurd single (notSingle slave)
    · cases isRouted
  · cases same
    rcases configured with ⟨_, vrf⟩ | ⟨isSystem, _⟩
    · rw [routedPort_ensured single created] at isRouted
      obtain ⟨itsPort, isPort, routes⟩ := Option.bind_eq_some_iff.mp isRouted
      obtain ⟨itsVlan, supported, samePair⟩ := Option.map_eq_some_iff.mp routes
      cases samePair
      have isAux := findBundle_aux found
      have wasIntf : l3IntfOf env s up aux = bundle.l3Intf := by
        rw [← l3IntfOf_ensureBundle keyed created, l3IntfOf, found]
        rfl
      rcases configureVrf_cases vrf with ⟨_, gaveUp⟩ |
        ⟨other, vlan, between, outcome, isOther, isVlan, _, routing, after⟩
      · rw [isPort, Option.bind_some, supported] at gaveUp
        cases gaveUp
      · cases isPort.symm.trans isOther
        cases supported.symm.trans isVlan
        rw [isAux] at after
        exact ⟨slave, ensured, bundle, between, outcome, single, created, isAux, found, wasIntf,
          supported, routing, after⟩
    · rw [(ensureBundle_ofproto created up).1, isVrf] at isSystem
      cases isSystem

theorem bundleSet_unrouted (keyed : BundlesKeyed env s) {settings : BundleSettings}
    (isVrf : (s.ofprotos up).type = .vrf) (unrouted : routedPort s up settings = none)
    (taken : opsFpaOfprotoBundleSet env s up aux (some settings) = .ok (rc, next)) :
    l3IntfOf env next up aux = l3IntfOf env s up aux := by
  rcases bundleSet_cases taken with ⟨absurdity, _⟩ | ⟨_, _, _, _, rfl⟩ |
    ⟨_, slave, ensured, bundle, same, single, created, found, configured⟩
  · cases absurdity
  · rfl
  · cases same
    rcases configured with ⟨_, vrf⟩ | ⟨isSystem, _⟩
    · rcases configureVrf_cases vrf with ⟨rfl, _⟩ | ⟨port, vlanId, _, _, isPort, supported, _⟩
      · exact l3IntfOf_ensureBundle keyed created up aux
      · rw [routedPort_ensured single created, isPort, Option.bind_some, supported] at unrouted
        cases unrouted
    · rw [(ensureBundle_ofproto created up).1, isVrf] at isSystem
      cases isSystem

theorem bundleIpReconfigure_busy {settings : BundleSettings} {bundle : Bundle}
    (found : opsFpaFindBundle env s up aux = some bundle)
    (busy : ∀ intf, l3IntfOf env s up aux = some intf → intf.routesCount ≠ 0)
    (done : bundleIpReconfigure env s up aux settings = .ok next) {l3Intf : L3Intf}
    (routed : l3IntfOf env next up aux = some l3Intf) : l3Intf.routesCount ≠ 0 := by
  refine bundleIpReconfigure_invariant (fun state => ∀ intf,
    l3IntfOf env state up aux = some intf → intf.routesCount ≠ 0) ?_ found ?_ busy done l3Intf routed
  · intro state update keeps kept intf isIntf
    rw [l3IntfOf_modifyBundle keeps] at isIntf
    exact kept intf isIntf
  · intro state rc after address _ kept deleted intf isIntf
    rcases deleteL3HostEntry_cases deleted with ⟨_, rfl⟩ |
      ⟨_, _, _, old, _, _, nowFound, _, _, _, rfl⟩
    · exact kept intf isIntf
    · rw [l3IntfOf_deleteHost nowFound, if_pos ⟨rfl, rfl⟩, releasedIntf] at isIntf
      split at isIntf
      · cases isIntf
      · rename_i positive
        cases isIntf
        exact positive

theorem bundleSet_down (keyed : BundlesKeyed env s) {settings : BundleSettings}
    (isVrf : (s.ofprotos up).type = .vrf)
    (looked : ∀ l3Intf, routedPort s up settings = none → l3IntfOf env s up aux = some l3Intf →
      settings.enable = false → l3Intf.routesCount ≠ 0)
    (taken : opsFpaOfprotoBundleSet env s up aux (some settings) = .ok (rc, next))
    (disabled : settings.enable = false) {l3Intf : L3Intf}
    (routed : l3IntfOf env next up aux = some l3Intf) : l3Intf.routesCount ≠ 0 := by
  cases isRouted : routedPort s up settings with
  | none =>
      rw [bundleSet_unrouted keyed isVrf isRouted taken] at routed
      exact looked l3Intf isRouted routed disabled
  | some asked =>
      obtain ⟨port, vlanId⟩ := asked
      obtain ⟨slave, ensured, bundle, between, outcome, _, created, rfl, found, _, _, routing,
        after⟩ := bundleSet_routed keyed isVrf isRouted taken
      have busy : ∀ intf, l3IntfOf env between up bundle.aux = some intf →
          intf.routesCount ≠ 0 := by
        intro intf isIntf
        rcases configureRouting_cases found routing with
          ⟨_, _, _, _, _, rfl⟩ | ⟨enabled, _⟩ | ⟨kept, _, _, rfl⟩
        · rw [l3IntfOf, findBundle_setL3Intf, if_pos ⟨rfl, rfl⟩, findBundle_withHw, found] at isIntf
          cases isIntf
        · rw [disabled] at enabled
          cases enabled
        · rw [l3IntfOf, found] at isIntf
          exact kept intf disabled isIntf
      rcases after with ⟨_, _, readdressed⟩ | ⟨_, _, rfl⟩
      · obtain ⟨_, stillFound⟩ := findBundle_configureRouting found routing
        exact bundleIpReconfigure_busy stillFound busy readdressed routed
      · exact busy l3Intf routed

/-- Deletions at one address cannot exhaust a counter that starts above the number of
hosts there, nor one that wraps. -/
theorem deleteL3HostEntry_stays_up {address : CString} {l3Intf : L3Intf}
    (routed : l3IntfOf env s up aux = some l3Intf)
    (above : l3Intf.routesCount = 0 ∨
      s.hostTable.values.countP (fun entry => hostAddress address = some entry.ipv4Addr) <
        l3Intf.routesCount)
    (few : s.hostTable.values.length ≤ arpIndicesSize)
    (taken : deleteL3HostEntry env s up aux false address = .ok (rc, next)) :
    ∃ l3Intf, l3IntfOf env next up aux = some l3Intf ∧ (l3Intf.routesCount = 0 ∨
      next.hostTable.values.countP (fun entry => hostAddress address = some entry.ipv4Addr) <
        l3Intf.routesCount) ∧ next.hostTable.values.length ≤ arpIndicesSize := by
  rcases deleteL3HostEntry_cases taken with ⟨_, rfl⟩ |
    ⟨_, _, bundle, intf, ipv4Addr, entry, found, isIntf, parsed, hostFound, rfl⟩
  · exact ⟨l3Intf, routed, above, few⟩
  · have same : intf = l3Intf := by
      rw [l3IntfOf, found, Option.bind_some, isIntf] at routed
      exact Option.some.inj routed
    subst same
    have perm := Hmap.values_remove_perm (hostTableFind_some hostFound).1
    have sameHosts : (deleteHost env s up aux intf entry).hostTable =
        s.hostTable.remove (env.hashIpv4 entry.ipv4Addr) entry := by
      rw [deleteHost_eq]
      rfl
    have atAddress : hostAddress address = some entry.ipv4Addr := by
      rw [parsed, (hostTableFind_some hostFound).2]
    have counts := perm.countP_eq fun entry => decide (hostAddress address = some entry.ipv4Addr)
    have lengths := perm.length_eq
    rw [List.countP_cons_of_pos (by simpa using atAddress)] at counts
    rw [List.length_cons] at lengths
    have fewer : (s.hostTable.remove (env.hashIpv4 entry.ipv4Addr) entry).values.countP
        (fun entry => hostAddress address = some entry.ipv4Addr) ≤
        (s.hostTable.remove (env.hashIpv4 entry.ipv4Addr) entry).values.length :=
      List.countP_le_length
    simp only [arpIndicesSize] at few
    rw [l3IntfOf_deleteHost found, if_pos ⟨rfl, rfl⟩, sameHosts, releasedIntf]
    have remaining : ulongPred intf.routesCount ≠ 0 ∧
        (s.hostTable.remove (env.hashIpv4 entry.ipv4Addr) entry).values.countP
          (fun entry => hostAddress address = some entry.ipv4Addr) <
          ulongPred intf.routesCount := by
      rw [ulongPred]
      split
      · omega
      · omega
    refine ⟨_, if_neg remaining.1, Or.inr remaining.2, ?_⟩
    simp only [arpIndicesSize]
    omega

theorem bundleIpReconfigure_stays_up {settings : BundleSettings} {bundle : Bundle}
    {l3Intf : L3Intf} (found : opsFpaFindBundle env s up aux = some bundle)
    (routed : l3IntfOf env s up aux = some l3Intf)
    (above : l3Intf.routesCount = 0 ∨
      hostsAtOldAddress env s up aux settings < l3Intf.routesCount)
    (few : s.hostTable.values.length ≤ arpIndicesSize)
    (done : bundleIpReconfigure env s up aux settings = .ok next) :
    l3IntfOf env next up aux ≠ none := by
  rw [hostsAtOldAddress, found, Option.bind_some] at above
  cases isDeleted : deletedAddress bundle settings with
  | none =>
      refine bundleIpReconfigure_invariant (fun state => l3IntfOf env state up aux ≠ none)
        ?_ found ?_ (by rw [routed]; simp) done
      · intro state update keeps kept
        rwa [l3IntfOf_modifyBundle keeps]
      · intro state rc after address isSome
        rw [isDeleted] at isSome
        cases isSome
  | some address =>
      rw [isDeleted] at above
      have kept := bundleIpReconfigure_invariant (fun state => ∃ l3Intf,
        l3IntfOf env state up aux = some l3Intf ∧ (l3Intf.routesCount = 0 ∨
          state.hostTable.values.countP (fun entry => hostAddress address = some entry.ipv4Addr) <
            l3Intf.routesCount) ∧ state.hostTable.values.length ≤ arpIndicesSize)
        (by
          rintro state update keeps ⟨intf, isIntf, still, bound⟩
          exact ⟨intf, by rwa [l3IntfOf_modifyBundle keeps], still, bound⟩)
        found
        (by
          rintro state rc after other isSome ⟨intf, isIntf, still, bound⟩ deleted
          rw [isDeleted] at isSome
          cases isSome
          exact deleteL3HostEntry_stays_up isIntf still bound deleted)
        ⟨l3Intf, routed, above, few⟩ done
      obtain ⟨intf, isIntf, _⟩ := kept
      rw [isIntf]
      simp

theorem enableRouting_ok (succeeds : env.AllSucceed) (hw : Hw) {type : NetdevType} {intfId : Int}
    {vlanId : Nat} (mac : EthAddr) (built : type = .system → buildsGroup env intfId vlanId = true)
    (free : type = .system → hw.internalVlans vlanId = false) :
    ∃ l3Intf after, enableRouting env hw type intfId vlanId mac = (some l3Intf, after) := by
  cases type with
  | system => exact enableRoutingInterface_ok succeeds hw mac (built rfl) (free rfl)
  | internal | vlansubint | loopback =>
      obtain ⟨l3Intf, after, enabled⟩ := enableRoutingVlan_ok succeeds hw.fpa vlanId mac
      simp only [enableRouting, enabled]
      exact ⟨_, _, rfl⟩

theorem configureRouting_up (succeeds : env.AllSucceed) {settings : BundleSettings}
    {bundle : Bundle} {port : Ofport} {vlanId : Int}
    (found : opsFpaFindBundle env s up bundle.aux = some bundle)
    (enabled : settings.enable = true) (nonzero : vlanId ≠ 0)
    (built : port.netdev.type = .system → buildsGroup env bundle.intfId (uint16 vlanId) = true)
    (free : bundle.l3Intf = none → port.netdev.type = .system →
      s.hw.internalVlans (uint16 vlanId) = false)
    (routing : configureRouting env s up bundle port vlanId settings = (rc, next)) :
    rc = .ok ∧ ∃ l3Intf, l3IntfOf env next up bundle.aux = some l3Intf ∧
      (bundle.l3Intf = some l3Intf ∨ l3Intf.routesCount = 0) := by
  rcases configureRouting_cases found routing with
    ⟨_, disabled, _⟩ | ⟨_, unrouted, _, l3Intf, hw, isEnabled, outcome, rfl⟩ |
    ⟨_, kept, outcome, rfl⟩
  · rw [enabled] at disabled
    cases disabled
  · obtain ⟨intf, after, worked⟩ :=
      enableRouting_ok succeeds s.hw port.netdev.mac built (free unrouted)
    rw [isEnabled] at worked
    cases worked
    refine ⟨by simp [outcome], intf, ?_, Or.inr (enableRouting_routesCount isEnabled)⟩
    rw [l3IntfOf, findBundle_setL3Intf, if_pos ⟨rfl, rfl⟩, findBundle_withHw, found]
    rfl
  · refine ⟨outcome, ?_⟩
    cases routed : bundle.l3Intf with
    | none => exact absurd (kept enabled routed) nonzero
    | some l3Intf =>
        refine ⟨l3Intf, ?_, Or.inl rfl⟩
        rw [l3IntfOf, found]
        exact routed

theorem bundleSet_up (succeeds : env.AllSucceed) (keyed : BundlesKeyed env s)
    (few : s.hostTable.values.length ≤ arpIndicesSize) {settings : BundleSettings} {port : Ofport}
    {vlanId : Int} (isVrf : (s.ofprotos up).type = .vrf)
    (isRouted : routedPort s up settings = some (port, vlanId))
    (enabled : settings.enable = true) (nonzero : vlanId ≠ 0)
    (built : port.netdev.type = .system →
      buildsGroup env (bundleIntfId env s up aux settings) (uint16 vlanId) = true)
    (kept : ∀ l3Intf, l3IntfOf env s up aux = some l3Intf → l3Intf.routesCount = 0 ∨
      hostsAtOldAddress env s up aux settings < l3Intf.routesCount)
    (free : l3IntfOf env s up aux = none → port.netdev.type = .system →
      s.hw.internalVlans (uint16 vlanId) = false)
    (taken : opsFpaOfprotoBundleSet env s up aux (some settings) = .ok (rc, next)) :
    l3IntfOf env next up aux ≠ none := by
  obtain ⟨slave, ensured, bundle, between, outcome, single, created, isAux, found, wasIntf, _,
    routing, after⟩ := bundleSet_routed keyed isVrf isRouted taken
  obtain ⟨sameHw, _, sameHosts, _⟩ := ensureBundle_frame created
  obtain ⟨old, origin, nowFound⟩ := findBundle_ensureBundle keyed created
  have isBundle : bundle = { old with name := some settings.name } := by
    have here := nowFound up aux
    rw [if_pos ⟨rfl, rfl⟩, found] at here
    exact Option.some.inj here
  have isIntfId : bundleIntfId env s up aux settings = bundle.intfId := by
    rcases origin with wasFound | ⟨absent, rfl⟩
    · simp only [bundleIntfId, wasFound, isBundle]
    · simp only [bundleIntfId, absent, single, isBundle]
  rw [isIntfId] at built
  rw [← sameHw, wasIntf] at free
  rw [← isAux] at found
  obtain ⟨worked, l3Intf, isUp, upSince⟩ :=
    configureRouting_up succeeds found enabled nonzero built free routing
  obtain ⟨_, routedHosts, _⟩ := configureRouting_frame found routing
  rcases after with ⟨_, _, readdressed⟩ | ⟨failed, _⟩
  · obtain ⟨_, stillFound⟩ := findBundle_configureRouting found routing
    rw [isAux] at isUp stillFound
    refine bundleIpReconfigure_stays_up stillFound isUp ?_ ?_ readdressed
    · rcases upSince with wasUp | fresh
      · rcases origin with wasFound | ⟨_, rfl⟩
        · have same : hostsAtOldAddress env between up aux settings =
              hostsAtOldAddress env s up aux settings := by
            rw [hostsAtOldAddress, stillFound, hostsAtOldAddress, wasFound, routedHosts,
              sameHosts, isBundle]
            rfl
          rw [same]
          exact kept l3Intf (wasIntf.trans wasUp)
        · rw [isBundle] at wasUp
          cases wasUp
      · exact Or.inl fresh
    · rw [routedHosts, sameHosts]
      exact few
  · exact absurd worked failed

end BundleSet

section Step

variable {s next : Sys} {rc : Rc} {trace : Trace}

structure AdminInvariant (env : Env) (trace : Trace) (s : Sys) : Prop where
  keyed : BundlesKeyed env s
  sound : IndicesSound s.arpIndices s.hostTable
  follows : RoutingFollowsAdmin env trace s

theorem Initial.adminInvariant (initial : Initial s) : AdminInvariant env [] s where
  keyed := initial.bundlesKeyed
  sound := initial.indicesSound
  follows :=
    { up := fun _ _ _ isUp => by cases isUp
      down := by
        intro up aux l3Intf _ routed
        rw [initial.l3IntfOf_none] at routed
        cases routed }

theorem RoutingFollowsAdmin.of_latest (follows : RoutingFollowsAdmin env trace s) {event : Event}
    (sameLatest : ∀ up aux, latestSettings (event :: trace) up aux = latestSettings trace up aux)
    (sameType : ∀ up, (next.ofprotos up).type = (s.ofprotos up).type)
    (changed : ∀ up aux, l3IntfOf env next up aux = l3IntfOf env s up aux ∨
      (adminUp trace up aux = true → l3IntfOf env next up aux ≠ none) ∧
        ∀ l3Intf, l3IntfOf env next up aux = some l3Intf →
          adminEnabled trace up aux = true ∨ 0 < l3Intf.routesCount) :
    RoutingFollowsAdmin env (event :: trace) next where
  up := by
    intro up aux isVrf isUp
    rw [sameType] at isVrf
    rw [adminUp, sameLatest] at isUp
    rcases changed up aux with same | ⟨stays, _⟩
    · rw [same]
      exact follows.up up aux isVrf isUp
    · exact stays isUp
  down := by
    intro up aux l3Intf isVrf routed
    rw [sameType] at isVrf
    rw [adminEnabled, sameLatest]
    rcases changed up aux with same | ⟨_, stays⟩
    · exact follows.down up aux l3Intf isVrf (same.symm.trans routed)
    · exact stays l3Intf routed

theorem deleteL3HostEntry_follows {up : OfprotoRef} {aux : Aux} {isIpv6Addr : Bool}
    {ipAddr : CString} (follows : RoutingFollowsAdmin env trace s)
    (taken : deleteL3HostEntry env s up aux isIpv6Addr ipAddr = .ok (rc, next))
    (respects : respectsAdmin env trace ⟨s, .deleteL3Host up aux isIpv6Addr ipAddr, rc, next⟩ = true) :
    RoutingFollowsAdmin env (⟨s, .deleteL3Host up aux isIpv6Addr ipAddr, rc, next⟩ :: trace) next := by
  refine follows.of_latest (fun _ _ => rfl) (fun other => (deleteL3HostEntry_ofproto taken other).1) ?_
  intro other wanted
  rcases deleteL3HostEntry_cases taken with ⟨_, rfl⟩ |
    ⟨_, notIpv6, bundle, l3Intf, ipv4Addr, entry, found, routed, parsed, hostFound, rfl⟩
  · exact Or.inl rfl
  · rw [l3IntfOf_deleteHost found]
    split
    · rename_i same
      obtain ⟨rfl, rfl⟩ := same
      refine Or.inr ⟨?_, ?_⟩
      · intro isUp
        have isIntf : l3IntfOf env s other wanted = some l3Intf := by
          rw [l3IntfOf, found]
          exact routed
        simp only [respectsAdmin, isUp, notIpv6, parsed, hostFound, isIntf, Option.bind_some,
          Option.isNone_some, Option.all_some, Bool.not_true, Bool.or_self, Bool.false_or,
          decide_eq_true_eq] at respects
        have busy : ulongPred l3Intf.routesCount ≠ 0 := by
          rw [ulongPred]
          split
          · omega
          · omega
        rw [releasedIntf]
        simp [busy]
      · intro left isLeft
        rw [releasedIntf] at isLeft
        split at isLeft
        · cases isLeft
        · rename_i positive
          cases isLeft
          exact Or.inr (Nat.pos_of_ne_zero positive)
    · exact Or.inl rfl

theorem addL3HostEntry_follows {up : OfprotoRef} {aux : Aux} {isIpv6Addr : Bool}
    {ipAddr : CString} {nextHopMacAddr : Option CString} {reply : Option Int}
    (follows : RoutingFollowsAdmin env trace s)
    (taken : addL3HostEntry env s up aux isIpv6Addr ipAddr nextHopMacAddr = .ok (rc, reply, next))
    (respects : respectsAdmin env trace
      ⟨s, .addL3Host up aux isIpv6Addr ipAddr nextHopMacAddr, rc, next⟩ = true) :
    RoutingFollowsAdmin env
      (⟨s, .addL3Host up aux isIpv6Addr ipAddr nextHopMacAddr, rc, next⟩ :: trace) next := by
  refine follows.of_latest (fun _ _ => rfl) (fun other => (addL3HostEntry_ofproto taken other).1) ?_
  intro other wanted
  rcases addL3HostEntry_cases taken with ⟨_, rfl⟩ | ⟨_, l3Intf, _, _, _, _, request, installed⟩
  · exact Or.inl rfl
  · rcases installHost_cases installed with ⟨_, fpa, rfl | ⟨_, rfl⟩⟩ | ⟨_, fpa, _, _, _, rfl⟩
    · exact Or.inl rfl
    · exact Or.inl rfl
    · rw [l3IntfOf_hostAdded]
      split
      · rename_i same
        obtain ⟨rfl, rfl⟩ := same
        have isIntf : l3IntfOf env s other wanted = some l3Intf := by
          rw [l3IntfOf, request.found]
          exact request.routed
        rw [isIntf]
        refine Or.inr ⟨by simp, ?_⟩
        intro counted isCounted
        cases isCounted
        simp only [respectsAdmin, isIntf, Option.all_some, Bool.or_eq_true,
          decide_eq_true_eq] at respects
        exact respects.imp id Nat.pos_of_ne_zero
      · exact Or.inl rfl

theorem latestSettings_bundleSet {up : OfprotoRef} {aux : Aux} {set : Option BundleSettings}
    (other : OfprotoRef) (wanted : Aux) :
    latestSettings (⟨s, .bundleSet up aux set, rc, next⟩ :: trace) other wanted =
      if other = up ∧ wanted = aux then set.map fun settings => (s, settings)
      else latestSettings trace other wanted := by
  have turned : (up = other ∧ aux = wanted) ↔ other = up ∧ wanted = aux :=
    and_congr eq_comm eq_comm
  simp only [latestSettings, turned]

theorem bundleSet_raises (succeeds : env.AllSucceed) {up : OfprotoRef} {aux : Aux}
    {settings : BundleSettings} (invariant : AdminInvariant env trace s)
    (isVrf : (s.ofprotos up).type = .vrf) (asked : asksForRouting s up settings = true)
    (taken : opsFpaOfprotoBundleSet env s up aux (some settings) = .ok (rc, next))
    (built : buildsGroups env trace ⟨s, .bundleSet up aux (some settings), rc, next⟩ = true)
    (respects : respectsAdmin env trace ⟨s, .bundleSet up aux (some settings), rc, next⟩ = true) :
    l3IntfOf env next up aux ≠ none := by
  simp only [asksForRouting, Bool.and_eq_true] at asked
  obtain ⟨enabled, nonzero⟩ := asked
  cases isRouted : routedPort s up settings with
  | none =>
      rw [isRouted] at nonzero
      cases nonzero
  | some routed =>
      obtain ⟨port, vlanId⟩ := routed
      rw [isRouted, Option.any_some, decide_eq_true_eq] at nonzero
      simp only [buildsGroups, isRouted, Option.all_some, Bool.or_eq_true,
        decide_eq_true_eq] at built
      refine bundleSet_up succeeds invariant.keyed invariant.sound.length_le isVrf isRouted
        enabled nonzero ?_ ?_ ?_ taken
      · intro isSystem
        exact built.resolve_left (not_not_intro isSystem)
      · intro l3Intf isIntf
        simpa [respectsAdmin, isRouted, isIntf, enabled, nonzero] using respects
      · intro isIntf isSystem
        simpa [respectsAdmin, isRouted, isIntf, enabled, nonzero, isSystem] using respects

theorem bundleSet_follows (succeeds : env.AllSucceed) {up : OfprotoRef} {aux : Aux}
    {set : Option BundleSettings} (invariant : AdminInvariant env trace s)
    (taken : opsFpaOfprotoBundleSet env s up aux set = .ok (rc, next))
    (built : buildsGroups env trace ⟨s, .bundleSet up aux set, rc, next⟩ = true)
    (respects : respectsAdmin env trace ⟨s, .bundleSet up aux set, rc, next⟩ = true) :
    RoutingFollowsAdmin env (⟨s, .bundleSet up aux set, rc, next⟩ :: trace) next := by
  have sameType := fun other => (bundleSet_ofproto taken other).1
  constructor
  · intro other wanted isVrf isUp
    rw [sameType] at isVrf
    rw [adminUp, latestSettings_bundleSet] at isUp
    split at isUp
    · rename_i same
      obtain ⟨rfl, rfl⟩ := same
      cases set with
      | none => cases isUp
      | some settings => exact bundleSet_raises succeeds invariant isVrf isUp taken built respects
    · rename_i different
      rw [bundleSet_l3IntfOf_other invariant.keyed taken different]
      exact invariant.follows.up other wanted isVrf isUp
  · intro other wanted l3Intf isVrf routed
    rw [sameType] at isVrf
    rw [adminEnabled, latestSettings_bundleSet]
    split
    · rename_i same
      obtain ⟨rfl, rfl⟩ := same
      cases set with
      | none =>
          simp only [opsFpaOfprotoBundleSet, Except.ok.injEq] at taken
          rw [l3IntfOf, findBundle_rmBundle invariant.keyed taken, if_pos ⟨rfl, rfl⟩] at routed
          cases routed
      | some settings =>
          cases enabled : settings.enable with
          | true => exact Or.inl enabled
          | false =>
              refine Or.inr (Nat.pos_of_ne_zero ?_)
              refine bundleSet_down invariant.keyed isVrf ?_ taken enabled routed
              intro l3Intf gaveUp isIntf _
              simpa [respectsAdmin, gaveUp, isIntf, enabled] using respects
    · rename_i different
      rw [bundleSet_l3IntfOf_other invariant.keyed taken different] at routed
      exact invariant.follows.down other wanted l3Intf isVrf routed

theorem step_admin (succeeds : env.AllSucceed) {call : Call}
    (invariant : AdminInvariant env trace s) (taken : step env s call = .ok (rc, next))
    (built : buildsGroups env trace ⟨s, call, rc, next⟩ = true)
    (respects : respectsAdmin env trace ⟨s, call, rc, next⟩ = true) :
    AdminInvariant env (⟨s, call, rc, next⟩ :: trace) next := by
  refine ⟨step_keyed invariant.keyed taken, step_indicesSound invariant.sound taken, ?_⟩
  rcases step_cases taken with ⟨_, _, _, rfl, changed⟩ | ⟨_, _, _, _, _, _, rfl, added⟩ |
    ⟨_, _, _, _, rfl, deleted⟩ | ⟨peripheral, _, _, sameBundles⟩
  · exact bundleSet_follows succeeds invariant changed built respects
  · exact addL3HostEntry_follows invariant.follows added respects
  · exact deleteL3HostEntry_follows invariant.follows deleted respects
  · refine invariant.follows.of_latest ?_ (fun up => (sameBundles up).2) ?_
    · intro up aux
      cases call with
      | bundleSet | addL3Host | deleteL3Host => cases peripheral
      | _ => rfl
    · intro up aux
      refine Or.inl ?_
      rw [l3IntfOf, opsFpaFindBundle, (sameBundles up).1, l3IntfOf, opsFpaFindBundle]

end Step

/-- With every FPA call succeeding, routing follows the administrative state in every
run whose steps respect it. -/
theorem routing_follows_admin (env : Env) (succeeds : env.AllSucceed) {s : Sys}
    (initial : Initial s) {trace : Trace} {state : Sys} (run : Run env s trace state)
    (built : Runs.Along (fun earlier event => buildsGroups env earlier event) trace)
    (respects : Runs.Along (fun earlier event => respectsAdmin env earlier event) trace) :
    RoutingFollowsAdmin env trace state := by
  have invariant : AdminInvariant env trace state := by
    refine Runs.Run.invariant initial.adminInvariant ?_ run (built.and respects)
    intro trace state call rc next invariant taken allowed
    exact step_admin succeeds invariant taken allowed.1 allowed.2
  exact invariant.follows

theorem routing_follows_admin_deferred : ∃ trace state, Run idealEnv idealSys trace state ∧
    Runs.Along (fun earlier event => buildsGroups idealEnv earlier event) trace ∧
    Runs.Along (fun earlier event => respectsAdmin idealEnv earlier event) trace ∧
    adminEnabled trace 1 100 = false ∧
    (l3IntfOf idealEnv state 1 100).map L3Intf.routesCount = some 1 ∧
    RoutingFollowsAdmin idealEnv trace state := by
  obtain ⟨trace, state, run, built, respects, disabled, counter⟩ := run_of_check idealEnv idealSys
    [.portConstruct 1 1 10 (systemNetdev 1) 1500,
      .bundleSet 1 100 (some (routedSettings 1024)),
      .addL3Host 1 100 false "10.0.0.2".toList (some "00:00:00:00:00:02".toList),
      .addL3Host 1 100 false "10.0.0.3".toList (some "00:00:00:00:00:03".toList),
      .deleteL3Host 1 100 false "10.0.0.2".toList,
      .bundleSet 1 100 (some { routedSettings 1024 with enable := false })]
    (fun trace state => Runs.Along (fun earlier event => buildsGroups idealEnv earlier event) trace ∧
      Runs.Along (fun earlier event => respectsAdmin idealEnv earlier event) trace ∧
      adminEnabled trace 1 100 = false ∧
      (l3IntfOf idealEnv state 1 100).map L3Intf.routesCount = some 1) (by decide +kernel)
  exact ⟨trace, state, run, built, respects, disabled, counter,
    routing_follows_admin idealEnv idealEnv_allSucceed idealSys_initial run built respects⟩

/-- The last host of an enabled interface is deleted, and routing goes down with it. -/
theorem routing_lost_with_last_host : ∃ trace state, Run idealEnv idealSys trace state ∧
    Runs.Along (fun earlier event => buildsGroups idealEnv earlier event) trace ∧
    ¬RoutingFollowsAdmin idealEnv trace state := by
  obtain ⟨trace, state, run, built, isVrf, isUp, down⟩ := run_of_check idealEnv idealSys
    [.portConstruct 1 1 10 (systemNetdev 1) 1500,
      .bundleSet 1 100 (some (routedSettings 1024)),
      .addL3Host 1 100 false "10.0.0.2".toList (some "00:00:00:00:00:02".toList),
      .deleteL3Host 1 100 false "10.0.0.2".toList]
    (fun trace state => Runs.Along (fun earlier event => buildsGroups idealEnv earlier event) trace ∧
      (state.ofprotos 1).type = .vrf ∧ adminUp trace 1 100 = true ∧
      l3IntfOf idealEnv state 1 100 = none) (by decide +kernel)
  refine ⟨trace, state, run, built, ?_⟩
  intro follows
  exact follows.up 1 100 isVrf isUp down

end FpaPlugin
