import FpaPlugin.System

/-! What one call can do: inversion of the host operations, and the rule that carries
a property through everything `ops_fpa_ofproto_bundle_set` does to a bundle. -/

namespace FpaPlugin

variable {env : Env}

section Frames

variable (s : Sys) (up : OfprotoRef) (aux : Aux) (update : Bundle → Bundle)

@[simp] theorem hw_modifyBundle : (modifyBundle s up aux update).hw = s.hw := rfl

@[simp] theorem arpIndices_modifyBundle :
    (modifyBundle s up aux update).arpIndices = s.arpIndices := rfl

@[simp] theorem hostTable_modifyBundle :
    (modifyBundle s up aux update).hostTable = s.hostTable := rfl

@[simp] theorem portsByPid_modifyBundle :
    (modifyBundle s up aux update).portsByPid = s.portsByPid := rfl

@[simp] theorem ofports_modifyBundle : (modifyBundle s up aux update).ofports = s.ofports := rfl

@[simp] theorem ml_modifyBundle : (modifyBundle s up aux update).ml = s.ml := rfl

end Frames

def BundlesKeyed (env : Env) (s : Sys) : Prop :=
  ∀ up, (s.ofprotos up).bundles.Keyed env.hashPointer Bundle.aux

theorem findBundle_congr {s t : Sys} (same : t.ofprotos = s.ofprotos) (up : OfprotoRef) (aux : Aux) :
    opsFpaFindBundle env t up aux = opsFpaFindBundle env s up aux := by
  rw [opsFpaFindBundle, opsFpaFindBundle, same]

theorem findBundle_withHw (s : Sys) (hw : Hw) (up : OfprotoRef) (aux : Aux) :
    opsFpaFindBundle env { s with hw } up aux = opsFpaFindBundle env s up aux := rfl

theorem findBundle_aux {s : Sys} {up : OfprotoRef} {aux : Aux} {bundle : Bundle}
    (found : opsFpaFindBundle env s up aux = some bundle) : bundle.aux = aux :=
  (Hmap.lookup_some found).2

theorem findBundle_modifyBundle (s : Sys) (up : OfprotoRef) (aux : Aux) {update : Bundle → Bundle}
    (kept : ∀ bundle, (update bundle).aux = bundle.aux) (other : OfprotoRef) (wanted : Aux) :
    opsFpaFindBundle env (modifyBundle s up aux update) other wanted =
      if other = up ∧ wanted = aux then (opsFpaFindBundle env s up aux).map update
      else opsFpaFindBundle env s other wanted := by
  have keptAll : ∀ bundle : Bundle,
      (if bundle.aux = aux then update bundle else bundle).aux = bundle.aux := by
    intro bundle
    split
    · exact kept bundle
    · rfl
  by_cases here : other = up
  · subst here
    simp only [opsFpaFindBundle, modifyBundle, Function.update_self, true_and]
    rw [Hmap.lookup_modify keptAll]
    cases found : Hmap.lookup (s.ofprotos other).bundles env.hashPointer Bundle.aux wanted with
    | none =>
        split
        · rename_i same
          rw [← same, found]
          rfl
        · rfl
    | some bundle =>
        have wantedEq : bundle.aux = wanted := (Hmap.lookup_some found).2
        by_cases same : wanted = aux
        · subst same
          simp [found, wantedEq]
        · have different : bundle.aux ≠ aux := fun equal => same (wantedEq.symm.trans equal)
          simp [same, different]
  · simp only [opsFpaFindBundle, modifyBundle, Function.update_of_ne here, here, false_and, if_false]

theorem BundlesKeyed.modifyBundle {s : Sys} (keyed : BundlesKeyed env s) (up : OfprotoRef)
    (aux : Aux) {update : Bundle → Bundle} (kept : ∀ bundle, (update bundle).aux = bundle.aux) :
    BundlesKeyed env (modifyBundle s up aux update) := by
  intro other
  by_cases here : other = up
  · subst here
    simp only [FpaPlugin.modifyBundle, Function.update_self]
    refine (keyed other).modify ?_
    intro bundle
    split
    · exact kept bundle
    · rfl
  · simp only [FpaPlugin.modifyBundle, Function.update_of_ne here]
    exact keyed other

theorem findBundle_setL3Intf (s : Sys) (up : OfprotoRef) (aux : Aux) (l3Intf : Option L3Intf)
    (other : OfprotoRef) (wanted : Aux) :
    opsFpaFindBundle env (setL3Intf s up aux l3Intf) other wanted =
      if other = up ∧ wanted = aux then
        (opsFpaFindBundle env s up aux).map fun bundle => { bundle with l3Intf }
      else opsFpaFindBundle env s other wanted := by
  have kept : ∀ bundle : Bundle, ({ bundle with l3Intf } : Bundle).aux = bundle.aux := fun _ => rfl
  exact findBundle_modifyBundle s up aux kept other wanted

section Inversion

variable {s next : Sys} {up : OfprotoRef} {aux : Aux} {rc : Rc}

theorem hostTableFind_some {hosts : Hmap HostTableEntry} {ipv4Addr : InAddr}
    {entry : HostTableEntry} (found : hostTableFind env hosts ipv4Addr = some entry) :
    (env.hashIpv4 entry.ipv4Addr, entry) ∈ hosts.nodes ∧ entry.ipv4Addr = ipv4Addr := by
  have member := Hmap.mem_withHash.mp (List.mem_of_find?_eq_some found)
  have matched : entry.ipv4Addr = ipv4Addr := by simpa using List.find?_some found
  exact ⟨matched ▸ member, matched⟩

structure HostInstalled (env : Env) (s : Sys) (vlanId mtu : Nat) (egress : Int)
    (srcMac dstMac : EthAddr) (ipv4Addr : InAddr) (fpa : Fpa) (l2Group l3Group : Nat) : Prop where
  available : s.arpIndices 0 ≠ 0
  installed : ∃ fpaL2 fpaL3,
    opsFpaRouteAddL2Group env s.hw.fpa egress vlanId false = (some l2Group, fpaL2) ∧
    opsFpaRouteAddL3Group env fpaL2 l2Group (s.arpIndices 0) vlanId mtu srcMac dstMac =
      (some l3Group, fpaL3) ∧
    opsFpaRouteAddRoute env fpaL3 l3Group ipv4Addr 32 = (.ok, fpa)

def Bundle.countRoute (bundle : Bundle) : Bundle :=
  { bundle with
    l3Intf := bundle.l3Intf.map fun l3Intf =>
      { l3Intf with routesCount := ulongSucc l3Intf.routesCount } }

def hostAdded (env : Env) (s : Sys) (up : OfprotoRef) (aux : Aux) (fpa : Fpa)
    (entry : HostTableEntry) : Sys :=
  modifyBundle
    { s with
      hw := { s.hw with fpa }
      arpIndices := FreeList.pop s.arpIndices
      hostTable := hostTableAdd env s.hostTable entry } up aux Bundle.countRoute

theorem findBundle_hostAdded (s : Sys) (up : OfprotoRef) (aux : Aux) (fpa : Fpa)
    (entry : HostTableEntry) (other : OfprotoRef) (wanted : Aux) :
    opsFpaFindBundle env (hostAdded env s up aux fpa entry) other wanted =
      if other = up ∧ wanted = aux then (opsFpaFindBundle env s up aux).map Bundle.countRoute
      else opsFpaFindBundle env s other wanted := by
  have kept : ∀ bundle : Bundle, bundle.countRoute.aux = bundle.aux := fun _ => rfl
  rw [hostAdded, findBundle_modifyBundle _ up aux kept]
  rfl

theorem installHost_cases {vlanId mtu : Nat} {egress : Int} {srcMac dstMac : EthAddr}
    {ipv4Addr : InAddr}
    (taken : installHost env s up aux vlanId mtu egress srcMac dstMac ipv4Addr = (rc, next)) :
    (rc = .einval ∧ ∃ fpa, next = { s with hw := { s.hw with fpa } } ∨
      s.arpIndices 0 ≠ 0 ∧
        next = { s with hw := { s.hw with fpa }, arpIndices := FreeList.pop s.arpIndices }) ∨
    (rc = .ok ∧ ∃ fpa l2Group l3Group,
      HostInstalled env s vlanId mtu egress srcMac dstMac ipv4Addr fpa l2Group l3Group ∧
      next = hostAdded env s up aux fpa ⟨ipv4Addr, s.arpIndices 0, l3Group, l2Group⟩) := by
  simp only [installHost] at taken
  split at taken
  · rename_i fpa _
    cases taken
    exact Or.inl ⟨rfl, fpa, Or.inl rfl⟩
  · rename_i l2Group fpaL2 addedL2
    split at taken
    · cases taken
      exact Or.inl ⟨rfl, _, Or.inl rfl⟩
    · rename_i available
      split at taken
      · cases taken
        exact Or.inl ⟨rfl, _, Or.inr ⟨available, rfl⟩⟩
      · rename_i l3Group fpaL3 addedL3
        split at taken
        · cases taken
          exact Or.inl ⟨rfl, _, Or.inr ⟨available, rfl⟩⟩
        · rename_i fpa addedRoute
          cases taken
          exact Or.inr ⟨rfl, fpa, l2Group, l3Group,
            ⟨available, fpaL2, fpaL3, addedL2, addedL3, addedRoute⟩, rfl⟩

structure HostRequest (env : Env) (s : Sys) (up : OfprotoRef) (aux : Aux) (ipAddr : CString)
    (nextHopMacAddr : Option CString) (bundle : Bundle) (l3Intf : L3Intf) (port : Ofport)
    (dstMac : EthAddr) (egress : Int) (ipv4Addr : InAddr) : Prop where
  found : opsFpaFindBundle env s up aux = some bundle
  routed : bundle.l3Intf = some l3Intf
  resolved : derefOfport s (opsFpaGetOfportByPid s bundle.intfId) = .ok port
  nextHop : nextHopMacAddr.bind env.ethAddrFromString = some dstMac
  egressFound : l3EgressId s l3Intf dstMac = .ok egress
  address : hostAddress ipAddr = some ipv4Addr

theorem addL3HostEntry_cases {isIpv6Addr : Bool} {ipAddr : CString}
    {nextHopMacAddr : Option CString} {reply : Option Int}
    (taken : addL3HostEntry env s up aux isIpv6Addr ipAddr nextHopMacAddr = .ok (rc, reply, next)) :
    (rc = .einval ∧ next = s) ∨
    ∃ bundle l3Intf port dstMac egress ipv4Addr,
      HostRequest env s up aux ipAddr nextHopMacAddr bundle l3Intf port dstMac egress ipv4Addr ∧
      installHost env s up aux l3Intf.vlanId port.mtu egress port.netdev.mac dstMac ipv4Addr =
        (rc, next) := by
  simp only [addL3HostEntry] at taken
  split at taken
  · cases taken
    exact Or.inl ⟨rfl, rfl⟩
  · split at taken
    · cases taken
      exact Or.inl ⟨rfl, rfl⟩
    · rename_i nextHop
      split at taken
      · cases taken
      · rename_i bundle found
        split at taken
        · cases taken
          exact Or.inl ⟨rfl, rfl⟩
        · rename_i l3Intf routed
          split at taken
          · cases taken
          · rename_i port resolved
            split at taken
            · cases taken
              exact Or.inl ⟨rfl, rfl⟩
            · rename_i dstMac parsed
              split at taken
              · cases taken
              · rename_i egress egressFound
                split at taken
                · cases taken
                  exact Or.inl ⟨rfl, rfl⟩
                · rename_i ipv4Addr address
                  cases taken
                  exact Or.inr ⟨bundle, l3Intf, port, dstMac, egress, ipv4Addr,
                    ⟨found, routed, resolved, parsed, egressFound, address⟩, rfl⟩

section Request

variable {ipAddr : CString} {nextHopMacAddr : Option CString} {bundle : Bundle} {l3Intf : L3Intf}
  {port : Ofport} {dstMac : EthAddr} {egress : Int} {ipv4Addr : InAddr}

theorem HostRequest.reaches
    (request : HostRequest env s up aux ipAddr nextHopMacAddr bundle l3Intf port dstMac egress
      ipv4Addr) :
    addL3HostEntry env s up aux false ipAddr nextHopMacAddr =
      let (rc, next) := installHost env s up aux l3Intf.vlanId port.mtu egress port.netdev.mac
        dstMac ipv4Addr
      .ok (rc, some egress, next) := by
  obtain ⟨nextHop, rfl, parsed⟩ := Option.bind_eq_some_iff.mp request.nextHop
  simp only [addL3HostEntry, Bool.false_eq_true, if_false, request.found, request.routed,
    request.resolved, parsed, request.egressFound, request.address]

theorem HostRequest.added {fpa : Fpa} {l2Group l3Group : Nat}
    (request : HostRequest env s up aux ipAddr nextHopMacAddr bundle l3Intf port dstMac egress
      ipv4Addr)
    (acquired : HostInstalled env s l3Intf.vlanId port.mtu egress port.netdev.mac dstMac ipv4Addr
      fpa l2Group l3Group) :
    addL3HostEntry env s up aux false ipAddr nextHopMacAddr = .ok (.ok, some egress,
      hostAdded env s up aux fpa ⟨ipv4Addr, s.arpIndices 0, l3Group, l2Group⟩) := by
  obtain ⟨fpaL2, fpaL3, addedL2, addedL3, addedRoute⟩ := acquired.installed
  simp only [request.reaches, installHost, addedL2, acquired.available, if_false, addedL3,
    addedRoute]
  rfl

end Request

theorem deleteL3HostEntry_cases {isIpv6Addr : Bool} {ipAddr : CString}
    (taken : deleteL3HostEntry env s up aux isIpv6Addr ipAddr = .ok (rc, next)) :
    (rc = .einval ∧ next = s) ∨
    (rc = .ok ∧ isIpv6Addr = false ∧ ∃ bundle l3Intf ipv4Addr entry,
      opsFpaFindBundle env s up aux = some bundle ∧ bundle.l3Intf = some l3Intf ∧
      hostAddress ipAddr = some ipv4Addr ∧ hostTableFind env s.hostTable ipv4Addr = some entry ∧
      next = deleteHost env s up aux l3Intf entry) := by
  simp only [deleteL3HostEntry] at taken
  split at taken
  · cases taken
    exact Or.inl ⟨rfl, rfl⟩
  · rename_i notIpv6
    split at taken
    · cases taken
    · rename_i bundle found
      split at taken
      · cases taken
        exact Or.inl ⟨rfl, rfl⟩
      · rename_i l3Intf routed
        split at taken
        · cases taken
          exact Or.inl ⟨rfl, rfl⟩
        · rename_i ipv4Addr address
          split at taken
          · cases taken
            exact Or.inl ⟨rfl, rfl⟩
          · rename_i entry hostFound
            cases taken
            exact Or.inr ⟨rfl, by simpa using notIpv6, bundle, l3Intf, ipv4Addr, entry, found,
              routed, address, hostFound, rfl⟩

theorem addL3HostEntry_no_nextHop {isIpv6Addr : Bool} {ipAddr : CString} :
    addL3HostEntry env s up aux isIpv6Addr ipAddr none = .ok (.einval, none, s) := by
  simp [addL3HostEntry]

/-- What `--routes_count == 0` leaves of the interface. -/
def releasedIntf (l3Intf : L3Intf) : Option L3Intf :=
  let routesCount := ulongPred l3Intf.routesCount
  if routesCount = 0 then none else some { l3Intf with routesCount }

def hostDeletedHw (env : Env) (hw : Hw) (l3Intf : L3Intf) (entry : HostTableEntry) : Hw :=
  let fpa := (opsFpaRouteDelRoute env hw.fpa entry.ipv4Addr 32).2
  let fpa := (opsFpaRouteDelGroup env fpa entry.l3Group).2
  let fpa := (opsFpaRouteDelGroup env fpa entry.l2Group).2
  if releasedIntf l3Intf = none then opsFpaDisableRouting env { hw with fpa } l3Intf
  else { hw with fpa }

theorem deleteHost_eq (s : Sys) (up : OfprotoRef) (aux : Aux) (l3Intf : L3Intf)
    (entry : HostTableEntry) :
    deleteHost env s up aux l3Intf entry =
      setL3Intf
        { s with
          hw := hostDeletedHw env s.hw l3Intf entry
          arpIndices := FreeList.push s.arpIndices entry.arpIndex
          hostTable := hostTableDelete env s.hostTable entry }
        up aux (releasedIntf l3Intf) := by
  simp only [deleteHost, releaseRoute, hostDeletedHw, releasedIntf]
  split <;> simp

theorem findBundle_deleteHost (s : Sys) (up : OfprotoRef) (aux : Aux) (l3Intf : L3Intf)
    (entry : HostTableEntry) (other : OfprotoRef) (wanted : Aux) :
    opsFpaFindBundle env (deleteHost env s up aux l3Intf entry) other wanted =
      if other = up ∧ wanted = aux then
        (opsFpaFindBundle env s up aux).map fun bundle =>
          { bundle with l3Intf := releasedIntf l3Intf }
      else opsFpaFindBundle env s other wanted := by
  rw [deleteHost_eq, findBundle_setL3Intf]
  simp only [opsFpaFindBundle]

end Inversion

end FpaPlugin
