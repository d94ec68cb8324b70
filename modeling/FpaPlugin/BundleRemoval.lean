import FpaPlugin.GroupOwners
import FpaPlugin.RoutingAdmin

/-! What is left of a bundle once it is removed. `ops_fpa_rm_bundle` takes routing down and
frees the record; VLAN entries, pending VLANs and hosts stay where they are. -/

namespace FpaPlugin

variable {env : Env}

def asksFor (env : Env) (s : Sys) (up : OfprotoRef) (aux : Aux) (set : BundleSettings)
    (port vidx : Nat) : Bool :=
  match (s.ofprotos up).type with
  | .system =>
      ((configuredRef env s up aux set).bind s.ofports).any fun ofport =>
        portNum (netdevGetIfindex ofport.netdev) = port && vnew set vidx
  | .vrf =>
      set.enable && (routedPort s up set).any fun routed =>
        routed.1.netdev.type = .system && routed.2 ≠ 0 &&
          portNum (bundleIntfId env s up aux set) = port &&
          (vidx = vidxIngress (uint16 routed.2) false ||
            vidx = vidxEgress (uint16 routed.2) false)

/-- Some settings that the bundle was given, since it was last removed, ask for the VIDX. -/
def causedBy (env : Env) : Trace → OfprotoRef → Aux → Nat → Nat → Bool
  | [], _, _, _, _ => false
  | event :: earlier, up, aux, port, vidx =>
      match event.input with
      | .bundleSet setUp setAux set =>
          if setUp = up ∧ setAux = aux then
            match set with
            | none => false
            | some settings => asksFor env event.before up aux settings port vidx ||
                causedBy env earlier up aux port vidx
          else causedBy env earlier up aux port vidx
      | _ => causedBy env earlier up aux port vidx

/-- The latest call that put the host into the table named this bundle, which has not been
removed since. -/
def addedThrough : Trace → OfprotoRef → Aux → HostTableEntry → Bool
  | [], _, _, _ => false
  | event :: earlier, up, aux, entry =>
      match event.input with
      | .addL3Host hostUp hostAux _ _ _ =>
          if entry ∈ event.after.hostTable.values ∧ entry ∉ event.before.hostTable.values then
            hostUp = up ∧ hostAux = aux
          else addedThrough earlier up aux entry
      | .bundleSet setUp setAux none =>
          if setUp = up ∧ setAux = aux then false else addedThrough earlier up aux entry
      | _ => addedThrough earlier up aux entry

structure NothingLeft (env : Env) (trace : Trace) (up : OfprotoRef) (aux : Aux) (pid : Int)
    (s : Sys) : Prop where
  flows : ∀ flow ∈ s.hw.fpa.asic.flows .vlan, flow.data.inPort = portNum pid →
    causedBy env trace up aux (portNum pid)
      (vidxIngress flow.data.vlanId (flow.data.vlanIdMask = .tag)) = false
  groups : ∀ group ∈ s.hw.fpa.asic.groups, ∀ vid, isL2Group env pid vid group.groupIdentifier →
    ∀ popTag, causedBy env trace up aux (portNum pid) (vidxEgress vid popTag) = false
  pending : ∀ ref port, s.ofports ref = some port → netdevGetIfindex port.netdev = pid →
    port.vmap = Bitmap.zero
  hosts : ∀ entry ∈ s.hostTable.values, addedThrough trace up aux entry = false

def internalVlanOf (bundle : Bundle) : Option Nat :=
  bundle.l3Intf.bind fun l3Intf => if l3Intf.vlanIntf then some l3Intf.vlanId else none

/-- The bundle has caused nothing but the two entries of its internal VLAN: flows that go by
the cookie of the untagged one, and the group of that VLAN. -/
structure OnlyRouted (env : Env) (trace : Trace) (up : OfprotoRef) (aux : Aux) (bundle : Bundle)
    (s : Sys) : Prop where
  flows : ∀ flow ∈ s.hw.fpa.asic.flows .vlan, flow.data.inPort = portNum bundle.intfId →
    causedBy env trace up aux (portNum bundle.intfId)
      (vidxIngress flow.data.vlanId (flow.data.vlanIdMask = .tag)) = true →
    ∃ vlanId, internalVlanOf bundle = some vlanId ∧
      flow.cookie = opsFpaVlanCookie bundle.intfId vlanId false
  groups : ∀ group ∈ s.hw.fpa.asic.groups, ∀ vid,
    isL2Group env bundle.intfId vid group.groupIdentifier → ∀ popTag,
    causedBy env trace up aux (portNum bundle.intfId) (vidxEgress vid popTag) = true →
    internalVlanOf bundle = some vid
  pending : ∀ ref port, s.ofports ref = some port →
    netdevGetIfindex port.netdev = bundle.intfId → port.vmap = Bitmap.zero
  hosts : ∀ entry ∈ s.hostTable.values, addedThrough trace up aux entry = false

section OwnPort

variable {s next : Sys} {up : OfprotoRef} {aux : Aux} {rc : Rc}

def OnOwnPort (bundle : Bundle) : Prop :=
  ∀ l3Intf, bundle.l3Intf = some l3Intf → l3Intf.vlanIntf = true →
    l3Intf.vlanId < 4096 ∧ l3Intf.intfId = bundle.intfId

def BundlesOnOwnPort (env : Env) (s : Sys) : Prop :=
  ∀ up aux bundle, opsFpaFindBundle env s up aux = some bundle → OnOwnPort bundle

theorem BundlesOnOwnPort.of_found (own : BundlesOnOwnPort env s) {changed : Option Bundle}
    (found : ∀ other wanted, opsFpaFindBundle env next other wanted =
      if other = up ∧ wanted = aux then changed else opsFpaFindBundle env s other wanted)
    (changedOwn : ∀ bundle, changed = some bundle → OnOwnPort bundle) :
    BundlesOnOwnPort env next := by
  intro other wanted bundle isBundle
  rw [found] at isBundle
  split at isBundle
  · exact changedOwn bundle isBundle
  · exact own other wanted bundle isBundle

theorem OnOwnPort.congr {bundle other : Bundle} (own : OnOwnPort bundle)
    (sameIntf : other.l3Intf = bundle.l3Intf) (samePort : other.intfId = bundle.intfId) :
    OnOwnPort other := by
  rw [OnOwnPort, sameIntf, samePort]
  exact own

theorem onOwnPort_unrouted {bundle : Bundle} (unrouted : bundle.l3Intf = none) :
    OnOwnPort bundle := by
  intro l3Intf routed
  rw [unrouted] at routed
  cases routed

theorem enableRouting_ownPort {hw after : Hw} {type : NetdevType} {intfId : Int} {vlanId : Nat}
    {mac : EthAddr} {l3Intf : L3Intf}
    (fits : type = .system → overrunsInternalVlans env hw intfId vlanId = false)
    (enabled : enableRouting env hw type intfId vlanId mac = (some l3Intf, after))
    (vlanIntf : l3Intf.vlanIntf = true) : l3Intf.vlanId < 4096 ∧ l3Intf.intfId = intfId := by
  cases type with
  | system =>
      simp only [enableRouting, opsFpaEnableRoutingInterface] at enabled
      split at enabled
      · cases enabled
      · rename_i added
        split at enabled
        · cases enabled
        · rename_i worked
          cases enabled
          rw [(enableRoutingVlan_intf worked).1]
          exact ⟨vlanAddInternal_lt (fits rfl) added, rfl⟩
  | internal | vlansubint | loopback =>
      simp only [enableRouting, Prod.mk.injEq] at enabled
      have noVlanIntf := (enableRoutingVlan_intf (Prod.ext enabled.1 rfl :
        opsFpaEnableRoutingVlan env hw.fpa vlanId mac = (some l3Intf, _))).2
      rw [noVlanIntf] at vlanIntf
      cases vlanIntf

theorem deleteL3HostEntry_ownPort {isIpv6Addr : Bool} {ipAddr : CString}
    (own : BundlesOnOwnPort env s)
    (taken : deleteL3HostEntry env s up aux isIpv6Addr ipAddr = .ok (rc, next)) :
    BundlesOnOwnPort env next := by
  rcases deleteL3HostEntry_cases taken with ⟨_, rfl⟩ |
    ⟨_, _, bundle, l3Intf, _, entry, found, routed, _, _, rfl⟩
  · exact own
  · refine own.of_found (findBundle_deleteHost s up aux l3Intf entry) ?_
    intro changed isChanged
    rw [found, Option.map_some] at isChanged
    cases isChanged
    intro live isLive
    have old := own up aux bundle found l3Intf routed
    simp only [releasedIntf] at isLive
    split at isLive
    · cases isLive
    · cases isLive
      exact old

theorem addL3HostEntry_ownPort {isIpv6Addr : Bool} {ipAddr : CString}
    {nextHopMacAddr : Option CString} {reply : Option Int} (own : BundlesOnOwnPort env s)
    (taken : addL3HostEntry env s up aux isIpv6Addr ipAddr nextHopMacAddr = .ok (rc, reply, next)) :
    BundlesOnOwnPort env next := by
  rcases addL3HostEntry_cases taken with ⟨_, rfl⟩ | ⟨_, _, _, _, _, _, _, installed⟩
  · exact own
  · rcases installHost_cases installed with ⟨_, fpa, rfl | ⟨_, rfl⟩⟩ | ⟨_, fpa, _, _, _, rfl⟩
    · exact own
    · exact own
    · refine own.of_found (findBundle_hostAdded s up aux fpa _) ?_
      intro changed isChanged
      obtain ⟨bundle, found, rfl⟩ := Option.map_eq_some_iff.mp isChanged
      intro live isLive
      obtain ⟨l3Intf, routed, rfl⟩ := Option.map_eq_some_iff.mp isLive
      exact own up aux bundle found l3Intf routed

theorem configureRouting_ownPort {bundle : Bundle} {port : Ofport} {vlanId : Int}
    {set : BundleSettings} (own : BundlesOnOwnPort env s)
    (found : opsFpaFindBundle env s up bundle.aux = some bundle)
    (fits : overrunsRouting env s bundle port vlanId set = false)
    (configured : configureRouting env s up bundle port vlanId set = (rc, next)) :
    BundlesOnOwnPort env next := by
  rcases configureRouting_cases found configured with
    ⟨_, _, _, _, _, rfl⟩ | ⟨enable, unrouted, nonzero, l3Intf, hw, enabled, _, rfl⟩ |
    ⟨_, _, _, rfl⟩
  · refine own.of_found (findBundle_setL3Intf _ up bundle.aux none) ?_
    intro changed isChanged
    obtain ⟨old, _, rfl⟩ := Option.map_eq_some_iff.mp isChanged
    exact onOwnPort_unrouted rfl
  · refine own.of_found (findBundle_setL3Intf _ up bundle.aux l3Intf) ?_
    intro changed isChanged
    rw [findBundle_withHw, found, Option.map_some] at isChanged
    cases isChanged
    have fitted := fits_of_enabling fits enable unrouted nonzero
    intro live isLive
    cases isLive
    exact enableRouting_ownPort fitted enabled
  · exact own

theorem bundleSet_ownPort (keyed : BundlesKeyed env s) {set : Option BundleSettings}
    (own : BundlesOnOwnPort env s)
    (taken : opsFpaOfprotoBundleSet env s up aux set = .ok (rc, next)) :
    BundlesOnOwnPort env next := by
  rcases bundleSet_cases taken with ⟨_, removed⟩ | ⟨_, _, _, _, rfl⟩ |
    ⟨settings, slave, ensured, bundle, rfl, _, created, found, configured⟩
  · exact own.of_found (findBundle_rmBundle keyed removed) fun _ absurdity => nomatch absurdity
  · exact own
  · obtain ⟨old, origin, nowFound⟩ := findBundle_ensureBundle keyed created
    have ensuredOwn : BundlesOnOwnPort env ensured := by
      refine own.of_found nowFound ?_
      intro changed isChanged
      cases isChanged
      rcases origin with wasFound | ⟨_, rfl⟩
      · exact (own up aux old wasFound).congr rfl rfl
      · exact onOwnPort_unrouted rfl
    refine configured_invariant (BundlesOnOwnPort env) found ?_ ?_
      (fun _ _ _ _ _ kept gone => deleteL3HostEntry_ownPort kept gone) ?_ ensuredOwn configured
    · intro port vlanId outcome between request found routing
      exact configureRouting_ownPort ensuredOwn found request.fits routing
    · intro state update keeps kept
      refine kept.of_found (findBundle_modifyBundle state up aux keeps.aux) ?_
      intro changed isChanged
      obtain ⟨was, wasFound, rfl⟩ := Option.map_eq_some_iff.mp isChanged
      exact (kept _ _ was wasFound).congr (keeps.l3Intf was) (keeps.intfId was)
    · intro ref port _ other wanted live isLive
      rw [findBundle_congr (setVmap_frame _ _ _ _).2.2.2.1] at isLive
      exact ensuredOwn other wanted live isLive

theorem step_ownPort {call : Call} (keyed : BundlesKeyed env s) (own : BundlesOnOwnPort env s)
    (taken : step env s call = .ok (rc, next)) : BundlesOnOwnPort env next := by
  rcases step_cases taken with ⟨up, aux, set, rfl, configured⟩ |
    ⟨up, aux, _, _, _, _, rfl, added⟩ | ⟨up, aux, _, _, rfl, deleted⟩ | ⟨_, _, _, kept⟩
  · exact bundleSet_ownPort keyed own configured
  · exact addL3HostEntry_ownPort own added
  · exact deleteL3HostEntry_ownPort own deleted
  · intro up aux bundle found
    rw [opsFpaFindBundle, (kept up).1] at found
    exact own up aux bundle found

theorem ownPort_of_run {start : Sys} {trace : Trace} (initial : Initial start)
    (run : Run env start trace s) : BundlesKeyed env s ∧ BundlesOnOwnPort env s := by
  induction run with
  | nil =>
      refine ⟨initial.bundlesKeyed, ?_⟩
      intro up aux bundle found
      refine onOwnPort_unrouted ?_
      have unrouted := @Initial.l3IntfOf_none env start initial up aux
      rw [l3IntfOf, found] at unrouted
      exact unrouted
  | cons _ taken ih => exact ⟨step_keyed ih.1 taken, step_ownPort ih.1 ih.2 taken⟩

end OwnPort

section Removal

variable (succeeds : env.AllSucceed)

include succeeds

theorem vlanDel_vlanTables (hw : Hw) (pid : Int) (vidx : Nat) :
    (∀ flow, flow ∈ (opsFpaVlanDel env hw pid vidx).2.fpa.asic.flows .vlan ↔
      flow ∈ hw.fpa.asic.flows .vlan ∧ ¬ (vidxIsEgress vidx = false ∧
        flow.cookie = opsFpaVlanCookie pid (vidxVid vidx) (vidxArg vidx))) ∧
    ∀ group, group ∈ (opsFpaVlanDel env hw pid vidx).2.fpa.asic.groups ↔
      group ∈ hw.fpa.asic.groups ∧ ¬ (vidxIsEgress vidx = true ∧
        isL2Group env pid (vidxVid vidx) group.groupIdentifier) := by
  simp only [opsFpaVlanDel]
  split
  · rename_i egress
    split
    · rename_i refused
      simp [egress, isL2Group, refused]
    · rename_i deleted built
      simp only [isL2Group_eq_iff built]
      simp [egress, Fpa.issue_ok succeeds, Asic.apply, fpa_observe]
  · rename_i ingress
    simp only [Bool.not_eq_true] at ingress
    simp [ingress, Fpa.issue_ok succeeds, Asic.apply, fpa_observe]

theorem disableRouting_vlanTables (hw : Hw) {l3Intf : L3Intf}
    (bounded : l3Intf.vlanIntf = true → l3Intf.vlanId < 4096) :
    (∀ flow, flow ∈ (opsFpaDisableRouting env hw l3Intf).fpa.asic.flows .vlan ↔
      flow ∈ hw.fpa.asic.flows .vlan ∧ ¬ (l3Intf.vlanIntf = true ∧
        flow.cookie = opsFpaVlanCookie l3Intf.intfId l3Intf.vlanId false)) ∧
    ∀ group, group ∈ (opsFpaDisableRouting env hw l3Intf).fpa.asic.groups ↔
      group ∈ hw.fpa.asic.groups ∧ ¬ (l3Intf.vlanIntf = true ∧
        isL2Group env l3Intf.intfId l3Intf.vlanId group.groupIdentifier) := by
  have tables : (opsFpaDisableRouting env hw l3Intf).fpa.asic.flows .vlan =
      (internalVlanReleased env hw l3Intf).fpa.asic.flows .vlan ∧
      (opsFpaDisableRouting env hw l3Intf).fpa.asic.groups =
        (internalVlanReleased env hw l3Intf).fpa.asic.groups := by
    simp only [opsFpaDisableRouting]
    rw [← internalVlanReleased]
    simp [opsFpaVlanUnsetArpBcast, opsFpaUnsetArpFwd, opsFpaVlanUnsetUdpDhcp,
      opsFpaVlanDisableUnicastRouting, Fpa.issue_ok succeeds, Asic.flows_cookieDelete_ne]
  rw [tables.1, tables.2, internalVlanReleased]
  by_cases vlanIntf : l3Intf.vlanIntf = true
  · have bound := bounded vlanIntf
    simp only [vlanIntf, if_true, opsFpaVlanDelInternal, true_and]
    constructor
    · intro flow
      rw [(vlanDel_vlanTables succeeds _ _ _).1, (vlanDel_vlanTables succeeds _ _ _).1,
        vidxIsEgress_egress bound, vidxIsEgress_ingress bound, vidxVid_ingress bound,
        vidxArg_ingress bound]
      simp
    · intro group
      rw [(vlanDel_vlanTables succeeds _ _ _).2, (vlanDel_vlanTables succeeds _ _ _).2,
        vidxIsEgress_egress bound, vidxIsEgress_ingress bound, vidxVid_egress bound]
      simp
  · simp [vlanIntf]

theorem rmBundle_vlanTables {s next : Sys} {up : OfprotoRef} {aux : Aux} {rc : Rc}
    {bundle : Bundle} (found : opsFpaFindBundle env s up aux = some bundle)
    (own : OnOwnPort bundle) (removed : opsFpaRmBundle env s up aux = (rc, next)) :
    (∀ flow, flow ∈ next.hw.fpa.asic.flows .vlan ↔ flow ∈ s.hw.fpa.asic.flows .vlan ∧
      ¬ ∃ vlanId, internalVlanOf bundle = some vlanId ∧
        flow.cookie = opsFpaVlanCookie bundle.intfId vlanId false) ∧
    ∀ group vid, isL2Group env bundle.intfId vid group.groupIdentifier →
      (group ∈ next.hw.fpa.asic.groups ↔
        group ∈ s.hw.fpa.asic.groups ∧ internalVlanOf bundle ≠ some vid) := by
  simp only [opsFpaRmBundle, found] at removed
  cases removed
  cases routed : bundle.l3Intf with
  | none => simp [internalVlanOf, routed]
  | some l3Intf =>
      have onPort := own l3Intf routed
      obtain ⟨flows, groups⟩ :=
        disableRouting_vlanTables succeeds s.hw fun vlanIntf => (onPort vlanIntf).1
      by_cases vlanIntf : l3Intf.vlanIntf = true
      · rw [(onPort vlanIntf).2] at flows groups
        refine ⟨fun flow => ?_, fun group vid isGroup => ?_⟩
        · rw [flows]
          simp [internalVlanOf, routed, vlanIntf]
        · rw [groups]
          have sameVlan : isL2Group env bundle.intfId l3Intf.vlanId group.groupIdentifier ↔
              l3Intf.vlanId = vid := by
            constructor
            · intro other
              exact (isL2Group_inj isGroup other).2
            · rintro rfl
              exact isGroup
          simp [internalVlanOf, routed, vlanIntf, sameVlan]
      · refine ⟨fun flow => ?_, fun group vid _ => ?_⟩
        · rw [flows]
          simp [internalVlanOf, routed, vlanIntf]
        · rw [groups]
          simp [internalVlanOf, routed, vlanIntf]

end Removal

/-- A removed bundle is gone altogether exactly when it had caused no more than the entries
of its internal VLAN. -/
theorem removal_complete_iff (env : Env) (succeeds : env.AllSucceed) {start s next : Sys}
    {trace : Trace} (initial : Initial start) (run : Run env start trace s) {up : OfprotoRef}
    {aux : Aux} {bundle : Bundle} (found : opsFpaFindBundle env s up aux = some bundle)
    (removed : opsFpaOfprotoBundleSet env s up aux none = .ok (.ok, next)) :
    NothingLeft env trace up aux bundle.intfId next ↔ OnlyRouted env trace up aux bundle s := by
  have own := (ownPort_of_run initial run).2 up aux bundle found
  have removal : opsFpaRmBundle env s up aux = (.ok, next) := by
    simpa only [opsFpaOfprotoBundleSet, Except.ok.injEq] using removed
  obtain ⟨flows, groups⟩ := rmBundle_vlanTables succeeds found own removal
  obtain ⟨_, sameHosts, _, sameOfports, _⟩ := rmBundle_frame removal
  constructor
  · intro left
    refine ⟨fun flow member here caused => ?_, fun group member vid isGroup popTag caused => ?_,
      sameOfports ▸ left.pending, sameHosts ▸ left.hosts⟩
    · by_contra stays
      have remains := left.flows flow ((flows flow).mpr ⟨member, stays⟩) here
      rw [remains] at caused
      cases caused
    · by_contra stays
      have remains := left.groups group ((groups group vid isGroup).mpr ⟨member, stays⟩) vid
        isGroup popTag
      rw [remains] at caused
      cases caused
  · intro only
    refine ⟨fun flow member here => ?_, fun group member vid isGroup popTag => ?_,
      sameOfports.symm ▸ only.pending, sameHosts.symm ▸ only.hosts⟩
    · obtain ⟨was, stays⟩ := (flows flow).mp member
      rw [Bool.eq_false_iff]
      exact fun caused => stays (only.flows flow was here caused)
    · obtain ⟨was, stays⟩ := (groups group vid isGroup).mp member
      rw [Bool.eq_false_iff]
      exact fun caused => stays (only.groups group was vid isGroup popTag caused)

def oneVrfPort : Sys := opsFpaOfprotoPortConstruct idealSys 1 1 10 (systemNetdev 1) 1500

def routedVrf : Sys :=
  match opsFpaOfprotoBundleSet idealEnv oneVrfPort 1 100 (some (routedSettings 1024)) with
  | .ok (_, s) => s
  | .error _ => oneVrfPort

def routedTrace : Trace :=
  [⟨oneVrfPort, .bundleSet 1 100 (some (routedSettings 1024)), .ok, routedVrf⟩,
    ⟨idealSys, .portConstruct 1 1 10 (systemNetdev 1) 1500, .ok, oneVrfPort⟩]

theorem routedVrf_run : Run idealEnv idealSys routedTrace routedVrf := by
  refine Runs.Run.cons ?_ (rfl : step idealEnv oneVrfPort
    (.bundleSet 1 100 (some (routedSettings 1024))) = _)
  exact Runs.Run.nil.cons rfl

def routedBundle : Bundle where
  aux := 100
  name := some "1".toList
  intfId := 1
  l3Intf := some ⟨1, 1024, 1#48, true, 0⟩
  ip4addr := none
  secondaryIp4addr := []

theorem routedVrf_pending : ∀ ref port, routedVrf.ofports ref = some port →
    port.vmap = Bitmap.zero := by
  intro ref port isPort
  have onePort : routedVrf.ofports = Function.update (fun _ => none) 10
    (some ⟨1, systemNetdev 1, 1500, Bitmap.zero⟩) := rfl
  rw [onePort] at isPort
  by_cases here : ref = 10
  · rw [here, Function.update_self] at isPort
    cases isPort
    rfl
  · rw [Function.update_of_ne here] at isPort
    cases isPort

theorem routedVrf_onlyRouted : OnlyRouted idealEnv routedTrace 1 100 routedBundle routedVrf where
  flows := by
    intro flow member _ _
    have cookies : ∀ flow ∈ routedVrf.hw.fpa.asic.flows .vlan,
        flow.cookie = opsFpaVlanCookie 1 1024 false := by decide +kernel
    exact ⟨1024, rfl, cookies flow member⟩
  groups := by
    intro group member vid isGroup _ _
    have identifiers : ∀ group ∈ routedVrf.hw.fpa.asic.groups,
        group.groupIdentifier = 1024 * 65536 + 1 := by decide +kernel
    obtain ⟨_, _, isIdentifier⟩ := l2Group_eq isGroup
    have port : portNum routedBundle.intfId = 1 := by decide
    rw [identifiers group member, port] at isIdentifier
    have isVlan : vid = 1024 := by omega
    rw [isVlan]
    rfl
  pending := fun ref port isPort _ => routedVrf_pending ref port isPort
  hosts := by
    have none : routedVrf.hostTable.values = [] := rfl
    rw [none]
    exact fun _ member => nomatch member

theorem removal_complete_routed : ∃ trace s next bundle, Run idealEnv idealSys trace s ∧
    opsFpaFindBundle idealEnv s 1 100 = some bundle ∧ bundle.intfId ≠ fpaInvalidIntfId ∧
    opsFpaOfprotoBundleSet idealEnv s 1 100 none = .ok (.ok, next) ∧
    NothingLeft idealEnv trace 1 100 bundle.intfId next := by
  have found : opsFpaFindBundle idealEnv routedVrf 1 100 = some routedBundle := by decide +kernel
  have removed : opsFpaOfprotoBundleSet idealEnv routedVrf 1 100 none =
    .ok (.ok, (opsFpaRmBundle idealEnv routedVrf 1 100).2) := rfl
  refine ⟨routedTrace, routedVrf, _, routedBundle, routedVrf_run, found, by decide, removed, ?_⟩
  exact (removal_complete_iff idealEnv idealEnv_allSucceed idealSys_initial routedVrf_run found
    removed).mpr routedVrf_onlyRouted

theorem host_outlives_bundle : idealEnv.AllSucceed ∧ Initial idealSys ∧
    ∃ trace s, Run idealEnv idealSys trace s ∧
      ∃ bundle next, opsFpaFindBundle idealEnv s 1 100 = some bundle ∧
        bundle.intfId ≠ fpaInvalidIntfId ∧
        opsFpaOfprotoBundleSet idealEnv s 1 100 none = .ok (.ok, next) ∧
        ¬ NothingLeft idealEnv trace 1 100 bundle.intfId next := by
  refine ⟨idealEnv_allSucceed, idealSys_initial, ?_⟩
  obtain ⟨trace, s, run, stays⟩ := run_of_check idealEnv idealSys
    [.portConstruct 1 1 10 (systemNetdev 1) 1500, .bundleSet 1 100 (some (routedSettings 1024)),
      .addL3Host 1 100 false "10.0.0.2".toList (some "00:00:00:00:00:02".toList)]
    (fun trace s => (opsFpaFindBundle idealEnv s 1 100).any (fun bundle =>
        bundle.intfId ≠ fpaInvalidIntfId) = true ∧
      (opsFpaRmBundle idealEnv s 1 100).1 = .ok ∧
      ∃ entry ∈ (opsFpaRmBundle idealEnv s 1 100).2.hostTable.values,
        addedThrough trace 1 100 entry = true)
    (by decide +kernel)
  obtain ⟨known, accepted, entry, member, isOwn⟩ := stays
  obtain ⟨bundle, found, valid⟩ := (Option.any_eq_true _ _).mp known
  refine ⟨trace, s, run, bundle, (opsFpaRmBundle idealEnv s 1 100).2, found,
    of_decide_eq_true valid, ?_, ?_⟩
  · rw [opsFpaOfprotoBundleSet, ← accepted]
  · intro left
    rw [left.hosts entry member] at isOwn
    cases isOwn

end FpaPlugin
