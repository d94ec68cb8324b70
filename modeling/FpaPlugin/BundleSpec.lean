import FpaPlugin.HostSpec

/-! What `ops_fpa_ofproto_bundle_set` can do: the cases of each of its parts, and the
rule that carries a property through the reconfiguration of a bundle's addresses. -/

namespace FpaPlugin

variable {env : Env} {s next : Sys} {up : OfprotoRef} {aux : Aux} {rc : Rc}

structure KeepsRouting (update : Bundle → Bundle) : Prop where
  aux : ∀ bundle, (update bundle).aux = bundle.aux
  intfId : ∀ bundle, (update bundle).intfId = bundle.intfId
  l3Intf : ∀ bundle, (update bundle).l3Intf = bundle.l3Intf

/-- The address whose host entry `bundle_ip_reconfigure` deletes, when it deletes one. -/
def deletedAddress (bundle : Bundle) (set : BundleSettings) : Option CString :=
  if set.primaryIpv4Changed then
    if bundle.ip4addr = set.ip4Address then none else bundle.ip4addr
  else if set.secondaryIpv4Changed &&
      bundle.secondaryIp4addr.any fun address => address ∉ set.ip4AddressSecondary then
    bundle.ip4addr
  else none

theorem deletedAddress_unset {bundle : Bundle} {set : BundleSettings}
    (unset : bundle.ip4addr = none) : deletedAddress bundle set = none := by
  simp only [deletedAddress, unset]
  split_ifs <;> rfl

section Addresses

theorem findBundle_deleteL3HostEntry {isIpv6Addr : Bool} {ipAddr : CString}
    (taken : deleteL3HostEntry env s up aux isIpv6Addr ipAddr = .ok (rc, next)) :
    (opsFpaFindBundle env next up aux).bind Bundle.ip4addr =
      (opsFpaFindBundle env s up aux).bind Bundle.ip4addr := by
  rcases deleteL3HostEntry_cases taken with ⟨_, rfl⟩ | ⟨_, _, bundle, l3Intf, _, entry, found, _,
    _, _, rfl⟩
  · rfl
  · simp [findBundle_deleteHost, found]

variable (holds : Sys → Prop)
  (updated : ∀ state update, KeepsRouting update → holds state →
    holds (modifyBundle state up aux update))

include updated

theorem removeSecondary_invariant {kept : List CString} {primary : Option CString} :
    ∀ (addresses : List CString) (state : Sys),
      (∀ state rc after address, primary = some address → addresses.any (· ∉ kept) →
        holds state → deleteL3HostEntry env state up aux false address = .ok (rc, after) →
        holds after) →
      (opsFpaFindBundle env state up aux).bind Bundle.ip4addr = primary → holds state →
      removeSecondary env up aux kept addresses state = .ok next → holds next := by
  intro addresses
  induction addresses with
  | nil =>
      intro state _ _ initial done
      cases done
      exact initial
  | cons address rest ih =>
      intro state deleted primaryEq initial done
      have deletedLater : ∀ state rc after address, primary = some address →
          rest.any (· ∉ kept) → holds state →
          deleteL3HostEntry env state up aux false address = .ok (rc, after) → holds after := by
        intro state rc after address isPrimary removed
        refine deleted state rc after address isPrimary ?_
        rw [List.any_cons, removed, Bool.or_true]
      simp only [removeSecondary] at done
      split at done
      · exact ih state deletedLater primaryEq initial done
      · rename_i removed
        have keeps : KeepsRouting fun bundle : Bundle =>
            { bundle with secondaryIp4addr := bundle.secondaryIp4addr.erase address } :=
          ⟨fun _ => rfl, fun _ => rfl, fun _ => rfl⟩
        have primaryKept := @findBundle_modifyBundle env state up aux _ keeps.aux up aux
        simp only [and_self, if_true] at primaryKept
        split at done
        · cases done
        · rename_i old isPrimary
          have oldPrimary : primary = some old := by
            rw [← primaryEq, ← isPrimary, primaryKept, Option.bind_map]
            rfl
          split at done
          · cases done
          · rename_i taken
            refine ih _ deletedLater ?_ ?_ done
            · rw [findBundle_deleteL3HostEntry taken, isPrimary, oldPrimary]
            · refine deleted _ _ _ old oldPrimary ?_ (updated _ _ keeps initial) taken
              simp [removed]

theorem addSecondary_invariant : ∀ (addresses : List CString) (state : Sys), holds state →
    addSecondary env up aux addresses state = .ok next → holds next := by
  intro addresses
  induction addresses with
  | nil =>
      intro state initial done
      cases done
      exact initial
  | cons address rest ih =>
      intro state initial done
      simp only [addSecondary] at done
      split at done
      · cases done
      · split at done
        · exact ih state initial done
        · split at done
          · cases done
          · -- no next hop, so the host entry is never installed
            simp only [addL3HostEntry_no_nextHop] at done
            refine ih _ (updated _ _ ?_ initial) done
            exact ⟨fun _ => rfl, fun _ => rfl, fun _ => rfl⟩

theorem setPrimary_invariant {address : CString} {state : Sys} (initial : holds state)
    (done : setPrimary env state up aux address = .ok next) : holds next := by
  simp only [setPrimary, addL3HostEntry_no_nextHop] at done
  cases done
  exact updated _ _ ⟨fun _ => rfl, fun _ => rfl, fun _ => rfl⟩ initial

/-- Whatever survives a change of a bundle's addresses and the deletion of the host
entry of its old primary address survives `bundle_ip_reconfigure`. -/
theorem bundleIpReconfigure_invariant {set : BundleSettings} {bundle : Bundle}
    (found : opsFpaFindBundle env s up aux = some bundle)
    (deleted : ∀ state rc after address, deletedAddress bundle set = some address → holds state →
      deleteL3HostEntry env state up aux false address = .ok (rc, after) → holds after)
    (initial : holds s) (done : bundleIpReconfigure env s up aux set = .ok next) : holds next := by
  have primaryRemoved : ∀ after, set.primaryIpv4Changed = true → bundle.ip4addr ≠ set.ip4Address →
      removePrimary env s up aux bundle.ip4addr = .ok after → holds after := by
    intro after changed different removed
    cases primary : bundle.ip4addr with
    | none =>
        rw [primary] at removed
        cases removed
        exact initial
    | some address =>
        rw [primary] at removed
        simp only [removePrimary] at removed
        split at removed
        · cases removed
        · rename_i taken
          cases removed
          refine deleted _ _ _ address ?_ initial taken
          rw [deletedAddress, if_pos changed, if_neg different, primary]
  simp only [bundleIpReconfigure, found] at done
  split at done
  · rename_i changed
    split at done
    · rename_i address isSet
      split at done
      · cases done
        exact initial
      · rename_i different
        split at done
        · cases done
        · rename_i removed
          refine setPrimary_invariant holds updated (primaryRemoved _ changed ?_ removed) done
          rw [isSet]
          exact different
    · rename_i isUnset
      split at done
      · cases done
      · rename_i after removed
        cases done
        refine updated _ _ ⟨fun _ => rfl, fun _ => rfl, fun _ => rfl⟩ ?_
        by_cases unset : bundle.ip4addr = none
        · rw [unset] at removed
          cases removed
          exact initial
        · exact primaryRemoved _ changed (by rwa [isUnset]) removed
  · rename_i unchanged
    split at done
    · rename_i secondary
      simp only [bundleIpv4SecondaryReconfigure, found] at done
      split at done
      · cases done
      · rename_i removed
        refine addSecondary_invariant holds updated _ _ ?_ done
        refine removeSecondary_invariant holds updated _ _ ?_ (by rw [found]) initial removed
        intro state rc after address isPrimary some kept
        refine deleted state rc after address ?_ kept
        rw [deletedAddress, if_neg unchanged, if_pos (by simpa [secondary] using some)]
        exact isPrimary
    · cases done
      exact initial

end Addresses

section Parts

def newBundle (s : Sys) (up : OfprotoRef) (aux : Aux) (slave : Nat) : Bundle where
  aux := aux
  name := none
  intfId := match (ofprotoGetPort s up slave).bind s.ofports with
    | some port => netdevGetIfindex port.netdev
    | none => fpaInvalidIntfId
  l3Intf := none
  ip4addr := none
  secondaryIp4addr := []

def withBundle (env : Env) (s : Sys) (up : OfprotoRef) (bundle : Bundle) : Sys :=
  { s with
    ofprotos := Function.update s.ofprotos up
      { s.ofprotos up with
        bundles := (s.ofprotos up).bundles.insert env.growth (env.hashPointer bundle.aux) bundle } }

theorem createBundle_cases {slave : Nat} (created : createBundle env s up aux slave = .ok next) :
    (newBundle s up aux slave).intfId = fpaInvalidIntfId ∧
      next = withBundle env s up (newBundle s up aux slave) ∨
    ∃ ref port portsByPid, ofprotoGetPort s up slave = some ref ∧ s.ofports ref = some port ∧
      (newBundle s up aux slave).intfId = netdevGetIfindex port.netdev ∧
      netdevGetIfindex port.netdev ≠ fpaInvalidIntfId ∧
      s.portsByPid.insert env.growth ref (hashOfPid (netdevGetIfindex port.netdev)) =
        some portsByPid ∧
      next = { withBundle env s up (newBundle s up aux slave) with portsByPid } := by
  cases slavePort : ofprotoGetPort s up slave with
  | none =>
      simp only [createBundle, slavePort, Option.bind_none] at created
      cases created
      exact Or.inl (by simp [newBundle, withBundle, slavePort])
  | some ref =>
      cases ofport : s.ofports ref with
      | none =>
          simp only [createBundle, slavePort, Option.bind_some, ofport, Option.map_none] at created
          cases created
          exact Or.inl (by simp [newBundle, withBundle, slavePort, ofport])
      | some port =>
          simp only [createBundle, slavePort, Option.bind_some, ofport, Option.map_some] at created
          split at created
          · rename_i invalid
            cases created
            exact Or.inl (by simp [newBundle, withBundle, slavePort, ofport, invalid])
          · rename_i valid
            split at created
            · cases created
            · rename_i portsByPid inserted
              cases created
              exact Or.inr ⟨ref, port, portsByPid, rfl, ofport, by simp [newBundle, slavePort, ofport],
                valid, inserted, by simp [newBundle, withBundle, slavePort, ofport]⟩

theorem findBundle_withBundle (keyed : BundlesKeyed env s) {bundle : Bundle}
    (absent : opsFpaFindBundle env s up bundle.aux = none) (other : OfprotoRef) (wanted : Aux) :
    opsFpaFindBundle env (withBundle env s up bundle) other wanted =
      if other = up ∧ wanted = bundle.aux then some bundle
      else opsFpaFindBundle env s other wanted := by
  by_cases here : other = up
  · subst here
    simp only [opsFpaFindBundle, withBundle, Function.update_self, true_and]
    rw [(keyed other).lookup_insert env.growth absent wanted]
    simp only [eq_comm]
  · simp only [opsFpaFindBundle, withBundle, Function.update_of_ne here, here, false_and, if_false]

theorem BundlesKeyed.withBundle (keyed : BundlesKeyed env s) {bundle : Bundle}
    (absent : opsFpaFindBundle env s up bundle.aux = none) :
    BundlesKeyed env (withBundle env s up bundle) := by
  intro other
  by_cases here : other = up
  · subst here
    simp only [FpaPlugin.withBundle, Function.update_self]
    exact (keyed other).insert env.growth absent
  · simp only [FpaPlugin.withBundle, Function.update_of_ne here]
    exact keyed other

def named (s : Sys) (up : OfprotoRef) (aux : Aux) (name : CString) : Sys :=
  modifyBundle s up aux fun bundle => { bundle with name := some name }

theorem ensureBundle_cases {slave : Nat} {name : CString}
    (ensured : ensureBundle env s up aux slave name = .ok next) :
    (∃ bundle, opsFpaFindBundle env s up aux = some bundle) ∧ next = named s up aux name ∨
    ∃ created, opsFpaFindBundle env s up aux = none ∧
      createBundle env s up aux slave = .ok created ∧ next = named created up aux name := by
  cases found : opsFpaFindBundle env s up aux with
  | some bundle =>
      simp only [ensureBundle, found] at ensured
      cases ensured
      exact Or.inl ⟨⟨bundle, rfl⟩, rfl⟩
  | none =>
      simp only [ensureBundle, found] at ensured
      split at ensured
      · cases ensured
      · rename_i created done
        cases ensured
        exact Or.inr ⟨created, rfl, done, rfl⟩

theorem configureRouting_cases {bundle : Bundle} {port : Ofport} {vlanId : Int}
    {set : BundleSettings} (found : opsFpaFindBundle env s up bundle.aux = some bundle)
    (configured : configureRouting env s up bundle port vlanId set = (rc, next)) :
    (∃ l3Intf, set.enable = false ∧ bundle.l3Intf = some l3Intf ∧ l3Intf.routesCount = 0 ∧
      rc = .ok ∧
      next = setL3Intf { s with hw := opsFpaDisableRouting env s.hw l3Intf } up bundle.aux none) ∨
    (set.enable = true ∧ bundle.l3Intf = none ∧ vlanId ≠ 0 ∧ ∃ l3Intf hw,
      enableRouting env s.hw port.netdev.type bundle.intfId (uint16 vlanId) port.netdev.mac =
        (l3Intf, hw) ∧
      rc = (if port.netdev.type = .system ∧ l3Intf.isNone then .einval else .ok) ∧
      next = setL3Intf { s with hw } up bundle.aux l3Intf) ∨
    ((∀ l3Intf, set.enable = false → bundle.l3Intf = some l3Intf → l3Intf.routesCount ≠ 0) ∧
      (set.enable = true → bundle.l3Intf = none → vlanId = 0) ∧ rc = .ok ∧ next = s) := by
  cases routed : bundle.l3Intf with
  | none =>
      simp only [configureRouting, disableIdleRouting, routed, found, Option.bind_some,
        Option.isNone_none, true_and] at configured
      split at configured
      · rename_i wanted
        rcases enabled : enableRouting env s.hw port.netdev.type bundle.intfId (uint16 vlanId)
          port.netdev.mac with ⟨l3Intf, hw⟩
        simp only [enabled] at configured
        refine Or.inr (Or.inl ⟨wanted.2, rfl, wanted.1, l3Intf, hw, rfl, ?_⟩)
        split at configured
        · rename_i failed
          cases configured
          exact ⟨by rw [if_pos failed], rfl⟩
        · rename_i worked
          cases configured
          exact ⟨by rw [if_neg worked], rfl⟩
      · rename_i unwanted
        cases configured
        refine Or.inr (Or.inr ⟨(fun _ _ routed => nomatch routed), ?_, rfl, rfl⟩)
        intro enable _
        by_contra nonzero
        exact unwanted ⟨nonzero, enable⟩
  | some l3Intf =>
      simp only [configureRouting, disableIdleRouting, routed] at configured
      by_cases idle : set.enable = false ∧ l3Intf.routesCount = 0
      · simp only [idle.1, idle.2, Bool.not_false, decide_true, Bool.and_self, if_true,
          Bool.false_eq_true, and_false, if_false] at configured
        cases configured
        exact Or.inl ⟨l3Intf, idle.1, rfl, idle.2, rfl, rfl⟩
      · have kept : (!set.enable && decide (l3Intf.routesCount = 0)) = false := by
          simpa using idle
        simp only [kept, Bool.false_eq_true, if_false, found, Option.bind_some, routed,
          Option.isNone_some, false_and, and_false] at configured
        cases configured
        refine Or.inr (Or.inr ⟨?_, (fun _ unrouted => nomatch unrouted), rfl, rfl⟩)
        intro other disabled same busy
        cases same
        exact idle ⟨disabled, busy⟩

theorem fits_of_enabling {bundle : Bundle} {port : Ofport} {vlanId : Int} {set : BundleSettings}
    (fits : overrunsRouting env s bundle port vlanId set = false) (enable : set.enable = true)
    (unrouted : bundle.l3Intf = none) (nonzero : vlanId ≠ 0)
    (isSystem : port.netdev.type = .system) :
    overrunsInternalVlans env s.hw bundle.intfId (uint16 vlanId) = false := by
  simpa [overrunsRouting, enable, unrouted, nonzero, isSystem] using fits

theorem configureRouting_result {bundle : Bundle} {port : Ofport} {vlanId : Int}
    {set : BundleSettings} (found : opsFpaFindBundle env s up bundle.aux = some bundle)
    (configured : configureRouting env s up bundle port vlanId set = (rc, next)) :
    next = s ∨ ∃ hw l3Intf, next = setL3Intf { s with hw } up bundle.aux l3Intf := by
  rcases configureRouting_cases found configured with
    ⟨_, _, _, _, _, rfl⟩ | ⟨_, _, _, l3Intf, hw, _, _, rfl⟩ | ⟨_, _, _, rfl⟩
  · exact Or.inr ⟨_, none, rfl⟩
  · exact Or.inr ⟨hw, l3Intf, rfl⟩
  · exact Or.inl rfl

theorem findBundle_configureRouting {bundle : Bundle} {port : Ofport} {vlanId : Int}
    {set : BundleSettings} (found : opsFpaFindBundle env s up bundle.aux = some bundle)
    (configured : configureRouting env s up bundle port vlanId set = (rc, next)) :
    ∃ l3Intf, opsFpaFindBundle env next up bundle.aux = some { bundle with l3Intf } := by
  rcases configureRouting_result found configured with rfl | ⟨hw, l3Intf, rfl⟩
  · exact ⟨bundle.l3Intf, found⟩
  · refine ⟨l3Intf, ?_⟩
    rw [findBundle_setL3Intf, if_pos ⟨rfl, rfl⟩, findBundle_withHw, found]
    rfl

theorem configureVrf_cases {bundle : Bundle} {slave : Nat} {set : BundleSettings}
    (configured : configureVrf env s up bundle slave set = .ok (rc, next)) :
    (next = s ∧ ((ofprotoGetPort s up slave).bind s.ofports).bind
      (fun port => routedVlanId port.netdev.type set) = none) ∨
    ∃ port vlanId between outcome, (ofprotoGetPort s up slave).bind s.ofports = some port ∧
      routedVlanId port.netdev.type set = some vlanId ∧
      overrunsRouting env s bundle port vlanId set = false ∧
      configureRouting env s up bundle port vlanId set = (outcome, between) ∧
      (outcome = .ok ∧ rc = .ok ∧ bundleIpReconfigure env between up bundle.aux set = .ok next ∨
        outcome ≠ .ok ∧ rc = outcome ∧ next = between) := by
  simp only [configureVrf] at configured
  split at configured
  · rename_i noPort
    cases configured
    exact Or.inl ⟨rfl, by rw [noPort]; rfl⟩
  · rename_i port isPort
    split at configured
    · rename_i unsupported
      cases configured
      exact Or.inl ⟨rfl, by rw [isPort]; exact unsupported⟩
    · rename_i vlanId supported
      split at configured
      · cases configured
      · rename_i fits
        rcases routing : configureRouting env s up bundle port vlanId set with ⟨outcome, between⟩
        refine Or.inr ⟨port, vlanId, between, outcome, isPort, supported, by simpa using fits,
          routing, ?_⟩
        simp only [routing] at configured
        cases outcome with
        | ok =>
            cases readdressed : bundleIpReconfigure env between up bundle.aux set with
            | error fault =>
                simp only [readdressed] at configured
                cases configured
            | ok after =>
                simp only [readdressed] at configured
                cases configured
                exact Or.inl ⟨rfl, rfl, rfl⟩
        | einval | efault | enosys =>
            cases configured
            exact Or.inr ⟨by simp, rfl, rfl⟩

theorem configureL2_cases {bundle : Bundle} {set : BundleSettings}
    (configured : configureL2 env s up bundle set = .ok (rc, next)) :
    rc = .ok ∧
    (next = s ∧ (bundle.intfId = fpaInvalidIntfId ∨ bundle.name = some (s.ofprotos up).name) ∨
    ∃ ref port, bundle.intfId ≠ fpaInvalidIntfId ∧ bundle.name ≠ some (s.ofprotos up).name ∧
      opsFpaGetOfportByPid s bundle.intfId = some ref ∧ s.ofports ref = some port ∧
      next = setVmap s ref port
        (applyDiff env s.hw (s.ofprotos up).vlans (vnew set) (netdevGetIfindex port.netdev))) := by
  simp only [configureL2] at configured
  split at configured
  · rename_i invalid
    cases configured
    exact ⟨rfl, Or.inl ⟨rfl, Or.inl invalid⟩⟩
  · rename_i valid
    split at configured
    · rename_i internal
      cases configured
      exact ⟨rfl, Or.inl ⟨rfl, Or.inr internal⟩⟩
    · rename_i external
      split at configured
      · cases configured
      · split at configured
        · rename_i ref port found read
          cases configured
          rw [found, derefOfport] at read
          split at read
          · cases read
          · rename_i ofport
            cases read
            exact ⟨rfl, Or.inr ⟨ref, port, valid, external, found, ofport, rfl⟩⟩
        · cases configured
        · cases configured

def configuredRef (env : Env) (s : Sys) (up : OfprotoRef) (aux : Aux) (set : BundleSettings) :
    Option OfportRef :=
  match set.slaves, (s.ofprotos up).type with
  | [slave], .system =>
      match ensureBundle env s up aux slave set.name with
      | .error _ => none
      | .ok ensured =>
          (opsFpaFindBundle env ensured up aux).bind fun bundle =>
            if bundle.intfId = fpaInvalidIntfId ∨ bundle.name = some (s.ofprotos up).name then none
            else opsFpaGetOfportByPid ensured bundle.intfId
  | _, _ => none

theorem bundleSet_cases {set : Option BundleSettings}
    (taken : opsFpaOfprotoBundleSet env s up aux set = .ok (rc, next)) :
    (set = none ∧ opsFpaRmBundle env s up aux = (rc, next)) ∨
    (∃ settings, set = some settings ∧ (∀ slave, settings.slaves ≠ [slave]) ∧ rc = .einval ∧
      next = s) ∨
    ∃ settings slave ensured bundle, set = some settings ∧ settings.slaves = [slave] ∧
      ensureBundle env s up aux slave settings.name = .ok ensured ∧
      opsFpaFindBundle env ensured up aux = some bundle ∧
      ((ensured.ofprotos up).type = .vrf ∧
          configureVrf env ensured up bundle slave settings = .ok (rc, next) ∨
        (ensured.ofprotos up).type = .system ∧
          configureL2 env ensured up bundle settings = .ok (rc, next)) := by
  cases set with
  | none =>
      simp only [opsFpaOfprotoBundleSet, Except.ok.injEq] at taken
      exact Or.inl ⟨rfl, taken⟩
  | some settings =>
      refine Or.inr ?_
      simp only [opsFpaOfprotoBundleSet] at taken
      split at taken
      · rename_i slave single
        split at taken
        · cases taken
        · rename_i ensured done
          split at taken
          · cases taken
          · rename_i bundle found
            refine Or.inr ⟨settings, slave, ensured, bundle, rfl, single, done, found, ?_⟩
            split at taken
            · rename_i isVrf
              exact Or.inl ⟨isVrf, taken⟩
            · rename_i isSystem
              exact Or.inr ⟨isSystem, taken⟩
      · rename_i notSingle
        cases taken
        exact Or.inl ⟨settings, rfl, notSingle, rfl, rfl⟩

end Parts

section Routing

theorem findBundle_named (name : CString) (other : OfprotoRef) (wanted : Aux) :
    opsFpaFindBundle env (named s up aux name) other wanted =
      if other = up ∧ wanted = aux then
        (opsFpaFindBundle env s up aux).map fun bundle => { bundle with name := some name }
      else opsFpaFindBundle env s other wanted := by
  have kept : ∀ bundle : Bundle, ({ bundle with name := some name } : Bundle).aux = bundle.aux :=
    fun _ => rfl
  exact findBundle_modifyBundle s up aux kept other wanted

theorem findBundle_ensureBundle {slave : Nat} {name : CString} (keyed : BundlesKeyed env s)
    (ensured : ensureBundle env s up aux slave name = .ok next) :
    ∃ bundle, (opsFpaFindBundle env s up aux = some bundle ∨
        opsFpaFindBundle env s up aux = none ∧ bundle = newBundle s up aux slave) ∧
      ∀ other wanted, opsFpaFindBundle env next other wanted =
        if other = up ∧ wanted = aux then some { bundle with name := some name }
        else opsFpaFindBundle env s other wanted := by
  rcases ensureBundle_cases ensured with ⟨⟨bundle, found⟩, rfl⟩ | ⟨created, absent, done, rfl⟩
  · refine ⟨bundle, Or.inl found, ?_⟩
    intro other wanted
    rw [findBundle_named, found]
    rfl
  · refine ⟨newBundle s up aux slave, Or.inr ⟨absent, rfl⟩, ?_⟩
    have grown : ∀ other wanted, opsFpaFindBundle env created other wanted =
        if other = up ∧ wanted = aux then some (newBundle s up aux slave)
        else opsFpaFindBundle env s other wanted := by
      intro other wanted
      rcases createBundle_cases done with ⟨_, rfl⟩ | ⟨_, _, _, _, _, _, _, _, rfl⟩
      · exact findBundle_withBundle keyed absent other wanted
      · exact findBundle_withBundle keyed absent other wanted
    intro other wanted
    rw [findBundle_named, grown up aux, grown other wanted]
    simp only [and_self, if_true, Option.map_some]
    split
    · rfl
    · rfl

def l3IntfOf (env : Env) (s : Sys) (up : OfprotoRef) (aux : Aux) : Option L3Intf :=
  (opsFpaFindBundle env s up aux).bind Bundle.l3Intf

theorem l3IntfOf_ensureBundle {slave : Nat} {name : CString} (keyed : BundlesKeyed env s)
    (ensured : ensureBundle env s up aux slave name = .ok next) (other : OfprotoRef)
    (wanted : Aux) : l3IntfOf env next other wanted = l3IntfOf env s other wanted := by
  obtain ⟨bundle, origin, found⟩ := findBundle_ensureBundle keyed ensured
  rw [l3IntfOf, found, l3IntfOf]
  split
  · rename_i same
    obtain ⟨rfl, rfl⟩ := same
    rcases origin with old | ⟨absent, rfl⟩
    · rw [old]
      rfl
    · rw [absent]
      rfl
  · rfl

theorem l3IntfOf_modifyBundle {update : Bundle → Bundle} (keeps : KeepsRouting update)
    (other : OfprotoRef) (wanted : Aux) :
    l3IntfOf env (modifyBundle s up aux update) other wanted = l3IntfOf env s other wanted := by
  rw [l3IntfOf, findBundle_modifyBundle s up aux keeps.aux]
  split
  · rename_i same
    obtain ⟨rfl, rfl⟩ := same
    rw [Option.bind_map, l3IntfOf]
    congr 1
    funext bundle
    exact keeps.l3Intf bundle
  · rfl

theorem l3IntfOf_setL3Intf {bundle : Bundle} (found : opsFpaFindBundle env s up aux = some bundle)
    (l3Intf : Option L3Intf) (other : OfprotoRef) (wanted : Aux) :
    l3IntfOf env (setL3Intf s up aux l3Intf) other wanted =
      if other = up ∧ wanted = aux then l3Intf else l3IntfOf env s other wanted := by
  rw [l3IntfOf, findBundle_setL3Intf]
  split
  · rw [found]
    rfl
  · rfl

theorem l3IntfOf_deleteHost {bundle : Bundle} (found : opsFpaFindBundle env s up aux = some bundle)
    (l3Intf : L3Intf) (entry : HostTableEntry) (other : OfprotoRef) (wanted : Aux) :
    l3IntfOf env (deleteHost env s up aux l3Intf entry) other wanted =
      if other = up ∧ wanted = aux then releasedIntf l3Intf else l3IntfOf env s other wanted := by
  rw [l3IntfOf, findBundle_deleteHost]
  split
  · rw [found]
    rfl
  · rfl

theorem l3IntfOf_hostAdded {fpa : Fpa} {entry : HostTableEntry}
    (other : OfprotoRef) (wanted : Aux) :
    l3IntfOf env (hostAdded env s up aux fpa entry) other wanted =
      if other = up ∧ wanted = aux then
        (l3IntfOf env s up aux).map fun l3Intf =>
          { l3Intf with routesCount := ulongSucc l3Intf.routesCount }
      else l3IntfOf env s other wanted := by
  rw [l3IntfOf, findBundle_hostAdded]
  split
  · rw [Option.bind_map, l3IntfOf, Option.map_bind]
    rfl
  · rfl

theorem enableRouting_routesCount {hw after : Hw} {type : NetdevType} {intfId : Int}
    {vlanId : Nat} {mac : EthAddr} {l3Intf : L3Intf}
    (enabled : enableRouting env hw type intfId vlanId mac = (some l3Intf, after)) :
    l3Intf.routesCount = 0 := by
  have onVlan : ∀ fpa l3Intf after,
      opsFpaEnableRoutingVlan env fpa vlanId mac = (some l3Intf, after) →
      l3Intf.routesCount = 0 := by
    intro fpa l3Intf after enabled
    simp only [opsFpaEnableRoutingVlan] at enabled
    repeat' split at enabled
    all_goals cases enabled
    rfl
  cases type with
  | system =>
      simp only [enableRouting, opsFpaEnableRoutingInterface] at enabled
      split at enabled
      · cases enabled
      · split at enabled
        · cases enabled
        · rename_i onVlanIntf _ worked
          cases enabled
          exact onVlan _ onVlanIntf _ worked
  | internal | vlansubint | loopback =>
      simp only [enableRouting, Prod.mk.injEq] at enabled
      exact onVlan _ l3Intf _ (Prod.ext enabled.1 rfl)

def routedBy (env : Env) (hw : Hw) (bundle : Bundle) (port : Ofport) (vlanId : Int)
    (set : BundleSettings) : Bool :=
  match bundle.l3Intf with
  | some l3Intf => set.enable || l3Intf.routesCount ≠ 0
  | none => set.enable && vlanId ≠ 0 &&
      (enableRouting env hw port.netdev.type bundle.intfId (uint16 vlanId) port.netdev.mac).1.isSome

theorem configureRouting_unrouted {bundle : Bundle} {port : Ofport} {vlanId : Int}
    {set : BundleSettings} (found : opsFpaFindBundle env s up bundle.aux = some bundle)
    (unrouted : routedBy env s.hw bundle port vlanId set = false)
    (configured : configureRouting env s up bundle port vlanId set = (rc, next)) :
    l3IntfOf env next up bundle.aux = none := by
  rcases configureRouting_cases found configured with
    ⟨l3Intf, _, _, _, _, rfl⟩ | ⟨enable, absent, nonzero, l3Intf, hw, enabled, _, rfl⟩ |
    ⟨kept, absent, _, rfl⟩
  · have foundHw : opsFpaFindBundle env { s with hw := opsFpaDisableRouting env s.hw l3Intf } up
        bundle.aux = some bundle := found
    rw [l3IntfOf_setL3Intf foundHw, if_pos ⟨rfl, rfl⟩]
  · have foundHw : opsFpaFindBundle env { s with hw } up bundle.aux = some bundle := found
    rw [l3IntfOf_setL3Intf foundHw, if_pos ⟨rfl, rfl⟩]
    simp only [routedBy, absent, enable, enabled] at unrouted
    simpa [nonzero] using unrouted
  · rw [l3IntfOf, found, Option.bind_some]
    cases routed : bundle.l3Intf with
    | none => rfl
    | some l3Intf =>
        simp only [routedBy, routed, Bool.or_eq_false_iff, decide_eq_false_iff_not, ne_eq,
          not_not] at unrouted
        exact absurd unrouted.2 (kept l3Intf unrouted.1 routed)

/-- The primary address that a vrf bundle gives up, or keeps while it gives up others, as long as
it is routed: a host there is deleted. -/
def lostAddress (env : Env) (s : Sys) (up : OfprotoRef) (bundle : Bundle) (slave : Nat)
    (set : BundleSettings) : Option CString :=
  match (s.ofprotos up).type with
  | .system => none
  | .vrf => ((ofprotoGetPort s up slave).bind s.ofports).bind fun port =>
      (routedVlanId port.netdev.type set).bind fun vlanId =>
        if routedBy env s.hw bundle port vlanId set then deletedAddress bundle set else none

theorem lostAddress_vrf {bundle : Bundle} {slave : Nat} {set : BundleSettings} {address : CString}
    (isLost : lostAddress env s up bundle slave set = some address) :
    (s.ofprotos up).type = .vrf ∧ deletedAddress bundle set = some address := by
  rw [lostAddress] at isLost
  split at isLost
  · cases isLost
  · rename_i isVrf
    obtain ⟨port, _, routes⟩ := Option.bind_eq_some_iff.mp isLost
    obtain ⟨vlanId, _, stays⟩ := Option.bind_eq_some_iff.mp routes
    split at stays
    · exact ⟨isVrf, stays⟩
    · cases stays

/-- What settings have a vrf bundle routed on: the netdev of the slave, and a VLAN id. -/
structure RoutingRequest (env : Env) (s : Sys) (up : OfprotoRef) (bundle : Bundle) (slave : Nat)
    (set : BundleSettings) (port : Ofport) (vlanId : Int) : Prop where
  isVrf : (s.ofprotos up).type = .vrf
  isPort : (ofprotoGetPort s up slave).bind s.ofports = some port
  supported : routedVlanId port.netdev.type set = some vlanId
  fits : overrunsRouting env s bundle port vlanId set = false

/-- Whatever survives a change of the routing, of the addresses and of the VLANs of a bundle
survives `ops_fpa_ofproto_bundle_set` from where the bundle is there. -/
theorem configured_invariant {bundle : Bundle} {slave : Nat} {set : BundleSettings}
    (holds : Sys → Prop) (found : opsFpaFindBundle env s up aux = some bundle)
    (routed : ∀ port vlanId outcome between,
      RoutingRequest env s up bundle slave set port vlanId →
      opsFpaFindBundle env s up bundle.aux = some bundle →
      configureRouting env s up bundle port vlanId set = (outcome, between) → holds between)
    (updated : ∀ state update, KeepsRouting update → holds state →
      holds (modifyBundle state up aux update))
    (deleted : ∀ state rc after address, lostAddress env s up bundle slave set = some address →
      holds state → deleteL3HostEntry env state up aux false address = .ok (rc, after) →
      holds after)
    (tagged : ∀ ref port, s.ofports ref = some port → holds (setVmap s ref port
      (applyDiff env s.hw (s.ofprotos up).vlans (vnew set) (netdevGetIfindex port.netdev))))
    (initial : holds s)
    (configured : (s.ofprotos up).type = .vrf ∧
        configureVrf env s up bundle slave set = .ok (rc, next) ∨
      (s.ofprotos up).type = .system ∧ configureL2 env s up bundle set = .ok (rc, next)) :
    holds next := by
  have isAux := findBundle_aux found
  subst isAux
  rcases configured with ⟨isVrf, vrf⟩ | ⟨_, bridge⟩
  · rcases configureVrf_cases vrf with ⟨rfl, _⟩ |
      ⟨port, vlanId, between, outcome, isPort, supported, fits, routing, after⟩
    · exact initial
    · have betweenHolds := routed port vlanId outcome between ⟨isVrf, isPort, supported, fits⟩ found
        routing
      rcases after with ⟨_, _, readdressed⟩ | ⟨_, _, rfl⟩
      · obtain ⟨l3Intf, stillFound⟩ := findBundle_configureRouting found routing
        cases stays : routedBy env s.hw bundle port vlanId set with
        | true =>
            refine bundleIpReconfigure_invariant holds updated stillFound ?_ betweenHolds
              readdressed
            intro state rc after address isDeleted
            refine deleted state rc after address ?_
            simp only [lostAddress, isVrf, isPort, Option.bind_some, supported, stays, if_true]
            exact isDeleted
        | false =>
            -- without an interface the hosts at the old address stay
            have unrouted := configureRouting_unrouted found stays routing
            refine (bundleIpReconfigure_invariant (fun state => holds state ∧
              l3IntfOf env state up bundle.aux = none) ?_ stillFound ?_ ⟨betweenHolds, unrouted⟩
              readdressed).1
            · intro state update keeps kept
              exact ⟨updated state update keeps kept.1,
                (l3IntfOf_modifyBundle keeps _ _).trans kept.2⟩
            · intro state rc after address _ kept taken
              rcases deleteL3HostEntry_cases taken with ⟨_, rfl⟩ |
                ⟨_, _, _, _, _, _, nowFound, isRouted, _⟩
              · exact kept
              · have noIntf := kept.2
                rw [l3IntfOf, nowFound, Option.bind_some, isRouted] at noIntf
                cases noIntf
      · exact betweenHolds
  · rcases (configureL2_cases bridge).2 with ⟨rfl, _⟩ | ⟨ref, port, _, _, _, isPort, rfl⟩
    · exact initial
    · exact tagged ref port isPort

end Routing

section Frames

theorem setVmap_frame (s : Sys) (ref : OfportRef) (port : Ofport) (result : Hw × Bitmap) :
    (setVmap s ref port result).arpIndices = s.arpIndices ∧
      (setVmap s ref port result).hostTable = s.hostTable ∧
      (setVmap s ref port result).portsByPid = s.portsByPid ∧
      (setVmap s ref port result).ofprotos = s.ofprotos ∧
      (setVmap s ref port result).ml = s.ml :=
  ⟨rfl, rfl, rfl, rfl, rfl⟩

theorem ensureBundle_frame {slave : Nat} {name : CString}
    (ensured : ensureBundle env s up aux slave name = .ok next) :
    next.hw = s.hw ∧ next.arpIndices = s.arpIndices ∧ next.hostTable = s.hostTable ∧
      next.ofports = s.ofports ∧ next.ml = s.ml := by
  rcases ensureBundle_cases ensured with ⟨_, rfl⟩ | ⟨created, _, done, rfl⟩
  · exact ⟨rfl, rfl, rfl, rfl, rfl⟩
  · rcases createBundle_cases done with ⟨_, rfl⟩ | ⟨ref, port, portsByPid, _, _, _, _, _, rfl⟩
    · exact ⟨rfl, rfl, rfl, rfl, rfl⟩
    · exact ⟨rfl, rfl, rfl, rfl, rfl⟩

theorem deleteL3HostEntry_frame {isIpv6Addr : Bool} {ipAddr : CString}
    (taken : deleteL3HostEntry env s up aux isIpv6Addr ipAddr = .ok (rc, next)) :
    next.portsByPid = s.portsByPid ∧ next.ofports = s.ofports ∧ next.ml = s.ml := by
  rcases deleteL3HostEntry_cases taken with ⟨_, rfl⟩ | ⟨_, _, _, _, _, _, _, _, _, _, rfl⟩
  · exact ⟨rfl, rfl, rfl⟩
  · rw [deleteHost_eq]
    exact ⟨rfl, rfl, rfl⟩

theorem addL3HostEntry_frame {isIpv6Addr : Bool} {ipAddr : CString}
    {nextHopMacAddr : Option CString} {reply : Option Int}
    (taken : addL3HostEntry env s up aux isIpv6Addr ipAddr nextHopMacAddr = .ok (rc, reply, next)) :
    next.portsByPid = s.portsByPid ∧ next.ofports = s.ofports ∧ next.ml = s.ml := by
  rcases addL3HostEntry_cases taken with ⟨_, rfl⟩ | ⟨_, _, _, _, _, _, _, installed⟩
  · exact ⟨rfl, rfl, rfl⟩
  · rcases installHost_cases installed with ⟨_, fpa, rfl | ⟨_, rfl⟩⟩ | ⟨_, fpa, _, _, _, rfl⟩
    · exact ⟨rfl, rfl, rfl⟩
    · exact ⟨rfl, rfl, rfl⟩
    · exact ⟨rfl, rfl, rfl⟩

def SameOfprotos (s next : Sys) : Prop :=
  ∀ up, (next.ofprotos up).type = (s.ofprotos up).type ∧
    (next.ofprotos up).name = (s.ofprotos up).name ∧
    (next.ofprotos up).ports = (s.ofprotos up).ports ∧
    (next.ofprotos up).vlans = (s.ofprotos up).vlans

theorem SameOfprotos.of_eq (same : next.ofprotos = s.ofprotos) : SameOfprotos s next := by
  intro up
  rw [same]
  exact ⟨rfl, rfl, rfl, rfl⟩

theorem SameOfprotos.trans {between : Sys} (first : SameOfprotos s between)
    (second : SameOfprotos between next) : SameOfprotos s next := by
  intro up
  obtain ⟨type, name, ports, vlans⟩ := second up
  rw [type, name, ports, vlans]
  exact first up

theorem SameOfprotos.modifyBundle (update : Bundle → Bundle) :
    SameOfprotos s (modifyBundle s up aux update) := by
  intro other
  by_cases here : other = up
  · simp [FpaPlugin.modifyBundle, here]
  · simp [FpaPlugin.modifyBundle, Function.update_of_ne here]

theorem ensureBundle_ofproto {slave : Nat} {name : CString}
    (ensured : ensureBundle env s up aux slave name = .ok next) : SameOfprotos s next := by
  have grown : ∀ bundle, SameOfprotos s (withBundle env s up bundle) := by
    intro bundle other
    by_cases here : other = up
    · simp [withBundle, here]
    · simp [withBundle, Function.update_of_ne here]
  rcases ensureBundle_cases ensured with ⟨_, rfl⟩ | ⟨created, _, done, rfl⟩
  · exact SameOfprotos.modifyBundle _
  · refine SameOfprotos.trans ?_ (SameOfprotos.modifyBundle _)
    rcases createBundle_cases done with ⟨_, rfl⟩ | ⟨_, _, _, _, _, _, _, _, rfl⟩
    · exact grown _
    · exact grown _

/-- The host that `delete_l3_host_entry` deletes, and the interface that loses it. -/
def deletedHost (env : Env) (s : Sys) (up : OfprotoRef) (aux : Aux) (isIpv6Addr : Bool)
    (ipAddr : CString) : Option (L3Intf × HostTableEntry) :=
  if isIpv6Addr then none
  else
    match l3IntfOf env s up aux, (hostAddress ipAddr).bind (hostTableFind env s.hostTable) with
    | some l3Intf, some entry => some (l3Intf, entry)
    | _, _ => none

theorem deletedHost_some {isIpv6Addr : Bool} {ipAddr : CString} {l3Intf : L3Intf}
    {ipv4Addr : InAddr} {entry : HostTableEntry} (notIpv6 : isIpv6Addr = false)
    (routed : l3IntfOf env s up aux = some l3Intf) (address : hostAddress ipAddr = some ipv4Addr)
    (found : hostTableFind env s.hostTable ipv4Addr = some entry) :
    deletedHost env s up aux isIpv6Addr ipAddr = some (l3Intf, entry) := by
  simp [deletedHost, notIpv6, routed, address, found]

theorem deletedHost_found {isIpv6Addr : Bool} {ipAddr : CString} {l3Intf : L3Intf}
    {entry : HostTableEntry}
    (isDeleted : deletedHost env s up aux isIpv6Addr ipAddr = some (l3Intf, entry)) :
    ∃ ipv4Addr, hostAddress ipAddr = some ipv4Addr ∧
      hostTableFind env s.hostTable ipv4Addr = some entry := by
  simp only [deletedHost] at isDeleted
  split at isDeleted
  · cases isDeleted
  · split at isDeleted
    · rename_i found
      cases isDeleted
      exact Option.bind_eq_some_iff.mp found
    · cases isDeleted

def givenUpAddress (env : Env) (s : Sys) (up : OfprotoRef) (aux : Aux) (set : BundleSettings) :
    Option CString :=
  match set.slaves with
  | [slave] => (opsFpaFindBundle env s up aux).bind fun bundle =>
      lostAddress env s up bundle slave set
  | _ => none

/-- The hosts that a call may delete: that of an address, or those at the address that a bundle
loses. -/
def deletedHosts (env : Env) (s : Sys) : Call → List HostTableEntry
  | .deleteL3Host up aux isIpv6Addr ipAddr =>
      (deletedHost env s up aux isIpv6Addr ipAddr).toList.map Prod.snd
  | .bundleSet up aux (some set) =>
      match (givenUpAddress env s up aux set).bind hostAddress with
      | none => []
      | some ipv4Addr => s.hostTable.values.filter fun entry => entry.ipv4Addr = ipv4Addr
  | _ => []

theorem mem_deletedHosts_deleteL3Host {isIpv6Addr : Bool} {ipAddr : CString} {l3Intf : L3Intf}
    {entry : HostTableEntry}
    (isDeleted : deletedHost env s up aux isIpv6Addr ipAddr = some (l3Intf, entry)) :
    entry ∈ deletedHosts env s (.deleteL3Host up aux isIpv6Addr ipAddr) := by
  simp [deletedHosts, isDeleted]

theorem mem_deletedHosts_bundleSet {set : BundleSettings} {address : CString} {ipv4Addr : InAddr}
    {entry : HostTableEntry} (isGivenUp : givenUpAddress env s up aux set = some address)
    (parsed : hostAddress address = some ipv4Addr) (member : entry ∈ s.hostTable.values)
    (isAddress : entry.ipv4Addr = ipv4Addr) :
    entry ∈ deletedHosts env s (.bundleSet up aux (some set)) := by
  simp [deletedHosts, isGivenUp, parsed, member, isAddress]

theorem lostAddress_ensured {slave : Nat} {set : BundleSettings} {bundle : Bundle}
    {address : CString} (keyed : BundlesKeyed env s) (single : set.slaves = [slave])
    (ensured : ensureBundle env s up aux slave set.name = .ok next)
    (found : opsFpaFindBundle env next up aux = some bundle)
    (isLost : lostAddress env next up bundle slave set = some address) :
    givenUpAddress env s up aux set = some address := by
  obtain ⟨sameHw, _, _, samePorts, _⟩ := ensureBundle_frame ensured
  obtain ⟨sameType, _, slavePorts, _⟩ := ensureBundle_ofproto ensured up
  obtain ⟨old, origin, nowFound⟩ := findBundle_ensureBundle keyed ensured
  have here := nowFound up aux
  rw [if_pos ⟨rfl, rfl⟩, found, Option.some.injEq] at here
  have sameRouting : ∀ vlanId port, routedBy env next.hw bundle port vlanId set =
      routedBy env s.hw old port vlanId set := by
    intro vlanId port
    rw [here, sameHw]
    rfl
  have sameAddress : deletedAddress bundle set = deletedAddress old set := by
    rw [here]
    rfl
  have wasLost : lostAddress env s up old slave set = some address := by
    rw [← isLost]
    simp only [lostAddress, sameType, ofprotoGetPort, slavePorts, samePorts, sameRouting,
      sameAddress]
  rcases origin with wasFound | ⟨_, rfl⟩
  · simp only [givenUpAddress, single, wasFound, Option.bind_some, wasLost]
  · have isDeleted := (lostAddress_vrf wasLost).2
    rw [deletedAddress_unset rfl] at isDeleted
    cases isDeleted

theorem deleteL3HostEntry_ofproto {isIpv6Addr : Bool} {ipAddr : CString}
    (taken : deleteL3HostEntry env s up aux isIpv6Addr ipAddr = .ok (rc, next)) :
    SameOfprotos s next := by
  rcases deleteL3HostEntry_cases taken with ⟨_, rfl⟩ | ⟨_, _, _, _, _, _, _, _, _, _, rfl⟩
  · exact SameOfprotos.of_eq rfl
  · rw [deleteHost_eq]
    exact SameOfprotos.trans (SameOfprotos.of_eq rfl) (SameOfprotos.modifyBundle _)

theorem addL3HostEntry_ofproto {isIpv6Addr : Bool} {ipAddr : CString}
    {nextHopMacAddr : Option CString} {reply : Option Int}
    (taken : addL3HostEntry env s up aux isIpv6Addr ipAddr nextHopMacAddr = .ok (rc, reply, next)) :
    SameOfprotos s next := by
  rcases addL3HostEntry_cases taken with ⟨_, rfl⟩ | ⟨_, _, _, _, _, _, _, installed⟩
  · exact SameOfprotos.of_eq rfl
  · rcases installHost_cases installed with ⟨_, fpa, rfl | ⟨_, rfl⟩⟩ | ⟨_, fpa, _, _, _, rfl⟩
    · exact SameOfprotos.of_eq rfl
    · exact SameOfprotos.of_eq rfl
    · exact SameOfprotos.trans (SameOfprotos.of_eq rfl) (SameOfprotos.modifyBundle _)

theorem bundleSet_ofproto {set : Option BundleSettings}
    (taken : opsFpaOfprotoBundleSet env s up aux set = .ok (rc, next)) : SameOfprotos s next := by
  rcases bundleSet_cases taken with ⟨_, removed⟩ | ⟨_, _, _, _, rfl⟩ |
    ⟨settings, slave, ensured, bundle, _, _, created, found, configured⟩
  · rw [opsFpaRmBundle] at removed
    split at removed
    · cases removed
      exact SameOfprotos.of_eq rfl
    · cases removed
      intro other
      by_cases here : other = up
      · simp [here]
      · simp [Function.update_of_ne here]
  · exact SameOfprotos.of_eq rfl
  · refine SameOfprotos.trans (ensureBundle_ofproto created) ?_
    refine configured_invariant (SameOfprotos ensured) found ?_
      (fun _ _ _ kept => kept.trans (SameOfprotos.modifyBundle _))
      (fun _ _ _ _ _ kept deleted => kept.trans (deleteL3HostEntry_ofproto deleted))
      (fun _ _ _ => SameOfprotos.of_eq (setVmap_frame _ _ _ _).2.2.2.1)
      (SameOfprotos.of_eq rfl) configured
    intro port vlanId outcome between _ found routing
    rcases configureRouting_result found routing with rfl | ⟨hw, l3Intf, rfl⟩
    · exact SameOfprotos.of_eq rfl
    · exact SameOfprotos.trans (SameOfprotos.of_eq rfl) (SameOfprotos.modifyBundle _)

theorem configureRouting_frame {bundle : Bundle} {port : Ofport} {vlanId : Int}
    {set : BundleSettings} (found : opsFpaFindBundle env s up bundle.aux = some bundle)
    (configured : configureRouting env s up bundle port vlanId set = (rc, next)) :
    next.arpIndices = s.arpIndices ∧ next.hostTable = s.hostTable ∧
      next.portsByPid = s.portsByPid ∧ next.ofports = s.ofports ∧ next.ml = s.ml := by
  rcases configureRouting_result found configured with rfl | ⟨hw, l3Intf, rfl⟩
  · exact ⟨rfl, rfl, rfl, rfl, rfl⟩
  · exact ⟨rfl, rfl, rfl, rfl, rfl⟩

def setVlanOnPort (env : Env) (hw : Hw) (port : Ofport) (vid : Nat) (add : Bool) : Hw × Bitmap :=
  if add then enableVlanOnPort env hw port.vmap (netdevGetIfindex port.netdev) vid
  else disableVlanOnPort env hw port.vmap port.ofpPort (netdevGetIfindex port.netdev) vid

theorem setVlanOnPorts_cons {vid : Nat} {add : Bool} {bundle : Bundle} {rest : List Bundle}
    (done : setVlanOnPorts env vid add (bundle :: rest) s = .ok next) :
    opsFpaGetOfportByPid s bundle.intfId = none ∧ setVlanOnPorts env vid add rest s = .ok next ∨
    ∃ ref port, opsFpaGetOfportByPid s bundle.intfId = some ref ∧ s.ofports ref = some port ∧
      setVlanOnPorts env vid add rest (setVmap s ref port (setVlanOnPort env s.hw port vid add)) =
        .ok next := by
  simp only [setVlanOnPorts] at done
  split at done
  · rename_i unknown
    exact .inl ⟨unknown, done⟩
  · rename_i ref found
    split at done
    · cases done
    · rename_i port read
      rw [derefOfport] at read
      split at read
      · cases read
      · rename_i isPort
        cases read
        exact .inr ⟨ref, port, found, isPort, done⟩

theorem setVlanOnPorts_frame {vid : Nat} {add : Bool} : ∀ (bundles : List Bundle) (state : Sys),
    setVlanOnPorts env vid add bundles state = .ok next →
    next.arpIndices = state.arpIndices ∧ next.hostTable = state.hostTable ∧
      next.portsByPid = state.portsByPid ∧ next.ofprotos = state.ofprotos ∧
      next.ml = state.ml := by
  intro bundles
  induction bundles with
  | nil =>
      intro state done
      cases done
      exact ⟨rfl, rfl, rfl, rfl, rfl⟩
  | cons bundle rest ih =>
      intro state done
      rcases setVlanOnPorts_cons done with ⟨_, later⟩ | ⟨_, _, _, _, later⟩
      · exact ih state later
      · have framed := ih _ later
        simpa only [setVmap_frame] using framed

theorem replaceRoute_frame {ipv4 : InAddr} {maskLen : Int} {add : Fpa → Status × Fpa}
    (replaced : replaceRoute env s ipv4 maskLen add = (rc, next)) :
    ∃ fpa, next = { s with hw := { s.hw with fpa } } := by
  simp only [replaceRoute] at replaced
  split at replaced
  · cases replaced
    exact ⟨_, rfl⟩
  · cases replaced
    exact ⟨_, rfl⟩

theorem l3RouteAction_frame {action : RouteAction} {route : OfprotoRoute}
    (taken : l3RouteAction env s action route = (rc, next)) :
    ∃ fpa, next = { s with hw := { s.hw with fpa } } := by
  simp only [l3RouteAction, addRoute] at taken
  repeat' split at taken
  all_goals first
    | exact replaceRoute_frame taken
    | cases taken; exact ⟨_, rfl⟩

theorem setVlan_cases {vid : Fin 4096} {add : Bool}
    (taken : opsFpaOfprotoSetVlan env s up vid add = .ok (rc, next)) :
    ∃ visited, setVlanOnPorts env vid add (s.ofprotos up).bundles.values s = .ok visited ∧
      rc = .ok ∧
      next = { visited with
        ofprotos := Function.update visited.ofprotos up
          { visited.ofprotos up with vlans := (visited.ofprotos up).vlans.set vid add } } := by
  simp only [opsFpaOfprotoSetVlan] at taken
  split at taken
  · cases taken
  · rename_i visited done
    cases taken
    exact ⟨visited, done, rfl, rfl⟩

theorem setVlan_ofproto {vid : Fin 4096} {add : Bool}
    (taken : opsFpaOfprotoSetVlan env s up vid add = .ok (rc, next)) (other : OfprotoRef) :
    (next.ofprotos other).type = (s.ofprotos other).type ∧
      (next.ofprotos other).bundles = (s.ofprotos other).bundles ∧
      (next.ofprotos other).ports = (s.ofprotos other).ports ∧
      (next.ofprotos other).vlans =
        if other = up then (s.ofprotos up).vlans.set vid add else (s.ofprotos other).vlans := by
  obtain ⟨visited, done, _, rfl⟩ := setVlan_cases taken
  obtain ⟨_, _, _, sameOfprotos, _⟩ := setVlanOnPorts_frame _ _ done
  by_cases here : other = up
  · simp [here, sameOfprotos]
  · simp [here, sameOfprotos]

theorem portConstruct_ofproto (s : Sys) (up : OfprotoRef) (ofpPort : Nat) (ref : OfportRef)
    (netdev : Netdev) (mtu : Nat) (other : OfprotoRef) :
    ((opsFpaOfprotoPortConstruct s up ofpPort ref netdev mtu).ofprotos other).type =
        (s.ofprotos other).type ∧
      ((opsFpaOfprotoPortConstruct s up ofpPort ref netdev mtu).ofprotos other).bundles =
        (s.ofprotos other).bundles ∧
      ((opsFpaOfprotoPortConstruct s up ofpPort ref netdev mtu).ofprotos other).vlans =
        (s.ofprotos other).vlans := by
  by_cases here : other = up
  · simp [opsFpaOfprotoPortConstruct, here]
  · simp [opsFpaOfprotoPortConstruct, Function.update_of_ne here]

theorem findBundle_portConstruct (s : Sys) (up : OfprotoRef) (ofpPort : Nat) (ref : OfportRef)
    (netdev : Netdev) (mtu : Nat) (other : OfprotoRef) (aux : Aux) :
    opsFpaFindBundle env (opsFpaOfprotoPortConstruct s up ofpPort ref netdev mtu) other aux =
      opsFpaFindBundle env s other aux := by
  rw [opsFpaFindBundle, (portConstruct_ofproto s up ofpPort ref netdev mtu other).2.1,
    opsFpaFindBundle]

theorem step_addL3Host {isIpv6Addr : Bool} {ipAddr : CString} {nextHopMacAddr : Option CString}
    (taken : step env s (.addL3Host up aux isIpv6Addr ipAddr nextHopMacAddr) = .ok (rc, next)) :
    ∃ reply, addL3HostEntry env s up aux isIpv6Addr ipAddr nextHopMacAddr = .ok (rc, reply, next) := by
  simp only [step] at taken
  split at taken
  · cases taken
  · rename_i added
    cases taken
    exact ⟨_, added⟩

theorem step_addressMsg {msg : AddressMsg}
    (taken : step env s (.addressMsg msg) = .ok (rc, next)) :
    ∃ ml, macLearningAsicEvent env (portNameByPid s) s.ml msg = .ok ml ∧ rc = .ok ∧
      next = { s with ml } := by
  simp only [step] at taken
  split at taken
  · cases taken
  · rename_i handled
    cases taken
    exact ⟨_, handled, rfl, rfl⟩

theorem step_fdbFlush (taken : step env s .fdbFlush = .ok (rc, next)) :
    ∃ ml, opsFpaMacLearningFlush env (portNameByPid s) s.ml = .ok ml ∧ rc = .ok ∧
      next = { s with ml } := by
  simp only [step] at taken
  split at taken
  · cases taken
  · rename_i flushed
    cases taken
    exact ⟨_, flushed, rfl, rfl⟩

def Call.IsPeripheral : Call → Prop
  | .bundleSet _ _ _ => False
  | .addL3Host _ _ _ _ _ => False
  | .deleteL3Host _ _ _ _ => False
  | _ => True

theorem step_cases {call : Call} (taken : step env s call = .ok (rc, next)) :
    (∃ up aux set, call = .bundleSet up aux set ∧
      opsFpaOfprotoBundleSet env s up aux set = .ok (rc, next)) ∨
    (∃ up aux isIpv6Addr ipAddr nextHopMacAddr reply,
      call = .addL3Host up aux isIpv6Addr ipAddr nextHopMacAddr ∧
      addL3HostEntry env s up aux isIpv6Addr ipAddr nextHopMacAddr = .ok (rc, reply, next)) ∨
    (∃ up aux isIpv6Addr ipAddr, call = .deleteL3Host up aux isIpv6Addr ipAddr ∧
      deleteL3HostEntry env s up aux isIpv6Addr ipAddr = .ok (rc, next)) ∨
    (call.IsPeripheral ∧ next.arpIndices = s.arpIndices ∧ next.hostTable = s.hostTable ∧
      ∀ up, (next.ofprotos up).bundles = (s.ofprotos up).bundles ∧
        (next.ofprotos up).type = (s.ofprotos up).type) := by
  cases call with
  | bundleSet up aux set => exact Or.inl ⟨up, aux, set, rfl, taken⟩
  | setVlan up vid add =>
      have kept := setVlan_ofproto taken
      obtain ⟨_, done, _, rfl⟩ := setVlan_cases taken
      obtain ⟨sameCells, sameHosts, _⟩ := setVlanOnPorts_frame _ _ done
      refine Or.inr (Or.inr (Or.inr ⟨trivial, sameCells, sameHosts, fun other => ?_⟩))
      exact ⟨(kept other).2.1, (kept other).1⟩
  | addL3Host up aux isIpv6Addr ipAddr nextHopMacAddr =>
      obtain ⟨_, added⟩ := step_addL3Host taken
      exact Or.inr (Or.inl ⟨up, aux, isIpv6Addr, ipAddr, nextHopMacAddr, _, rfl, added⟩)
  | deleteL3Host up aux isIpv6Addr ipAddr =>
      exact Or.inr (Or.inr (Or.inl ⟨up, aux, isIpv6Addr, ipAddr, rfl, taken⟩))
  | routeAction action route =>
      simp only [step, Except.ok.injEq] at taken
      obtain ⟨fpa, rfl⟩ := l3RouteAction_frame taken
      exact Or.inr (Or.inr (Or.inr ⟨trivial, rfl, rfl, fun _ => ⟨rfl, rfl⟩⟩))
  | portConstruct up ofpPort ref netdev mtu =>
      cases taken
      refine Or.inr (Or.inr (Or.inr ⟨trivial, rfl, rfl, fun other => ?_⟩))
      obtain ⟨sameType, sameBundles, _⟩ := portConstruct_ofproto s up ofpPort ref netdev mtu other
      exact ⟨sameBundles, sameType⟩
  | portDestruct up ofpPort =>
      cases taken
      simp only [opsFpaOfprotoPortDestruct]
      split
      · exact Or.inr (Or.inr (Or.inr ⟨trivial, rfl, rfl, fun _ => ⟨rfl, rfl⟩⟩))
      · refine Or.inr (Or.inr (Or.inr ⟨trivial, rfl, rfl, fun other => ?_⟩))
        by_cases here : other = up
        · simp [here]
        · simp [Function.update_of_ne here]
  | addressMsg msg =>
      obtain ⟨_, _, rfl, rfl⟩ := step_addressMsg taken
      exact Or.inr (Or.inr (Or.inr ⟨trivial, rfl, rfl, fun _ => ⟨rfl, rfl⟩⟩))
  | fdbFlush =>
      obtain ⟨_, _, rfl, rfl⟩ := step_fdbFlush taken
      exact Or.inr (Or.inr (Or.inr ⟨trivial, rfl, rfl, fun _ => ⟨rfl, rfl⟩⟩))

end Frames

section Keyed

theorem BundlesKeyed.congr (keyed : BundlesKeyed env s) (same : next.ofprotos = s.ofprotos) :
    BundlesKeyed env next := by
  intro other
  rw [same]
  exact keyed other

theorem BundlesKeyed.setL3Intf (keyed : BundlesKeyed env s) (up : OfprotoRef) (aux : Aux)
    (l3Intf : Option L3Intf) : BundlesKeyed env (setL3Intf s up aux l3Intf) := by
  have kept : ∀ bundle : Bundle, ({ bundle with l3Intf } : Bundle).aux = bundle.aux := fun _ => rfl
  exact keyed.modifyBundle up aux kept

theorem BundlesKeyed.named (keyed : BundlesKeyed env s) (name : CString) :
    BundlesKeyed env (named s up aux name) := by
  have kept : ∀ bundle : Bundle, ({ bundle with name := some name } : Bundle).aux = bundle.aux :=
    fun _ => rfl
  exact keyed.modifyBundle up aux kept

theorem ensureBundle_keyed {slave : Nat} {name : CString} (keyed : BundlesKeyed env s)
    (ensured : ensureBundle env s up aux slave name = .ok next) : BundlesKeyed env next := by
  rcases ensureBundle_cases ensured with ⟨_, rfl⟩ | ⟨created, absent, done, rfl⟩
  · exact keyed.named name
  · have grown : BundlesKeyed env (FpaPlugin.withBundle env s up (newBundle s up aux slave)) :=
      keyed.withBundle absent
    rcases createBundle_cases done with ⟨_, rfl⟩ | ⟨_, _, _, _, _, _, _, _, rfl⟩
    · exact grown.named name
    · exact (grown.congr rfl).named name

theorem deleteL3HostEntry_keyed {isIpv6Addr : Bool} {ipAddr : CString}
    (keyed : BundlesKeyed env s)
    (taken : deleteL3HostEntry env s up aux isIpv6Addr ipAddr = .ok (rc, next)) :
    BundlesKeyed env next := by
  rcases deleteL3HostEntry_cases taken with ⟨_, rfl⟩ | ⟨_, _, _, _, _, _, _, _, _, _, rfl⟩
  · exact keyed
  · rw [deleteHost_eq]
    exact BundlesKeyed.setL3Intf (keyed.congr rfl) up aux _

theorem addL3HostEntry_keyed {isIpv6Addr : Bool} {ipAddr : CString}
    {nextHopMacAddr : Option CString} {reply : Option Int} (keyed : BundlesKeyed env s)
    (taken : addL3HostEntry env s up aux isIpv6Addr ipAddr nextHopMacAddr = .ok (rc, reply, next)) :
    BundlesKeyed env next := by
  rcases addL3HostEntry_cases taken with ⟨_, rfl⟩ | ⟨_, _, _, _, _, _, _, installed⟩
  · exact keyed
  · rcases installHost_cases installed with ⟨_, fpa, rfl | ⟨_, rfl⟩⟩ | ⟨_, fpa, _, _, _, rfl⟩
    · exact keyed
    · exact keyed
    · exact BundlesKeyed.modifyBundle (keyed.congr rfl) up aux fun _ => rfl

theorem rmBundle_frame (removed : opsFpaRmBundle env s up aux = (rc, next)) :
    next.arpIndices = s.arpIndices ∧ next.hostTable = s.hostTable ∧
      next.portsByPid = s.portsByPid ∧ next.ofports = s.ofports ∧ next.ml = s.ml := by
  rw [opsFpaRmBundle] at removed
  split at removed
  · cases removed
    exact ⟨rfl, rfl, rfl, rfl, rfl⟩
  · cases removed
    exact ⟨rfl, rfl, rfl, rfl, rfl⟩

theorem rmBundle_keyed (keyed : BundlesKeyed env s)
    (removed : opsFpaRmBundle env s up aux = (rc, next)) : BundlesKeyed env next := by
  rw [opsFpaRmBundle] at removed
  split at removed
  · cases removed
    exact keyed
  · rename_i bundle found
    cases removed
    intro other
    by_cases here : other = up
    · subst here
      have member := (Hmap.lookup_some found).1
      have isAux := findBundle_aux found
      simp only [Function.update_self]
      rw [← isAux]
      exact (keyed other).remove member
    · simp only [Function.update_of_ne here]
      exact keyed other

theorem findBundle_rmBundle (keyed : BundlesKeyed env s)
    (removed : opsFpaRmBundle env s up aux = (rc, next)) (other : OfprotoRef) (wanted : Aux) :
    opsFpaFindBundle env next other wanted =
      if other = up ∧ wanted = aux then none else opsFpaFindBundle env s other wanted := by
  rw [opsFpaRmBundle] at removed
  split at removed
  · rename_i absent
    cases removed
    split
    · rename_i same
      rw [same.1, same.2, absent]
    · rfl
  · rename_i bundle found
    cases removed
    by_cases here : other = up
    · subst here
      have member := (Hmap.lookup_some found).1
      have isAux := findBundle_aux found
      simp only [opsFpaFindBundle, Function.update_self, true_and]
      rw [← isAux, (keyed other).lookup_remove member wanted]
      simp only [eq_comm]
    · simp only [opsFpaFindBundle, Function.update_of_ne here, here, false_and, if_false]

theorem bundleSet_keyed {set : Option BundleSettings} (keyed : BundlesKeyed env s)
    (taken : opsFpaOfprotoBundleSet env s up aux set = .ok (rc, next)) : BundlesKeyed env next := by
  rcases bundleSet_cases taken with ⟨_, removed⟩ | ⟨_, _, _, _, rfl⟩ |
    ⟨settings, slave, ensured, bundle, _, _, created, found, configured⟩
  · exact rmBundle_keyed keyed removed
  · exact keyed
  · replace keyed := ensureBundle_keyed keyed created
    refine configured_invariant (BundlesKeyed env) found ?_
      (fun _ _ keeps kept => kept.modifyBundle _ _ keeps.aux)
      (fun _ _ _ _ _ kept deleted => deleteL3HostEntry_keyed kept deleted)
      (fun _ _ _ => keyed.congr (setVmap_frame _ _ _ _).2.2.2.1) keyed configured
    intro port vlanId outcome between _ found routing
    rcases configureRouting_result found routing with rfl | ⟨hw, l3Intf, rfl⟩
    · exact keyed
    · exact BundlesKeyed.setL3Intf (keyed.congr rfl) _ _ _

theorem bundleSet_l3IntfOf_other (keyed : BundlesKeyed env s) {set : Option BundleSettings}
    (taken : opsFpaOfprotoBundleSet env s up aux set = .ok (rc, next)) {other : OfprotoRef}
    {wanted : Aux} (different : ¬(other = up ∧ wanted = aux)) :
    l3IntfOf env next other wanted = l3IntfOf env s other wanted := by
  rcases bundleSet_cases taken with ⟨_, removed⟩ | ⟨_, _, _, _, rfl⟩ |
    ⟨settings, slave, ensured, bundle, _, _, created, found, configured⟩
  · rw [l3IntfOf, findBundle_rmBundle keyed removed, if_neg different, l3IntfOf]
  · rfl
  · rw [← l3IntfOf_ensureBundle keyed created]
    have isAux := findBundle_aux found
    subst isAux
    refine configured_invariant
      (fun state => l3IntfOf env state other wanted = l3IntfOf env ensured other wanted)
      found ?_ ?_ ?_ ?_ rfl configured
    · intro port vlanId outcome between _ found routing
      rcases configureRouting_result found routing with rfl | ⟨hw, l3Intf, rfl⟩
      · rfl
      · rw [l3IntfOf, findBundle_setL3Intf, if_neg different]
        rfl
    · intro state update keeps same
      rw [l3IntfOf_modifyBundle keeps, same]
    · intro state rc after address _ same deleted
      rcases deleteL3HostEntry_cases deleted with ⟨_, rfl⟩ |
        ⟨_, _, _, _, _, _, nowFound, _, _, _, rfl⟩
      · exact same
      · rw [l3IntfOf_deleteHost nowFound, if_neg different, same]
    · intro ref port _
      rw [l3IntfOf, findBundle_congr (setVmap_frame _ _ _ _).2.2.2.1, l3IntfOf]

theorem step_keyed {call : Call} (keyed : BundlesKeyed env s)
    (taken : step env s call = .ok (rc, next)) : BundlesKeyed env next := by
  rcases step_cases taken with ⟨_, _, _, _, changed⟩ | ⟨_, _, _, _, _, _, _, added⟩ |
    ⟨_, _, _, _, _, deleted⟩ | ⟨_, _, _, sameBundles⟩
  · exact bundleSet_keyed keyed changed
  · exact addL3HostEntry_keyed keyed added
  · exact deleteL3HostEntry_keyed keyed deleted
  · intro other
    rw [(sameBundles other).1]
    exact keyed other

theorem Initial.bundlesKeyed (initial : Initial s) : BundlesKeyed env s := by
  intro up
  rw [initial.bundles]
  exact Hmap.Keyed.empty 0

theorem Initial.findBundle_none (initial : Initial s) (up : OfprotoRef) (aux : Aux) :
    opsFpaFindBundle env s up aux = none := by
  rw [opsFpaFindBundle, initial.bundles]
  rfl

theorem Initial.l3IntfOf_none (initial : Initial s) (up : OfprotoRef) (aux : Aux) :
    l3IntfOf env s up aux = none := by
  rw [l3IntfOf, initial.findBundle_none, Option.bind_none]

end Keyed

end FpaPlugin
