import FpaPlugin.BundleSpec

/-! `ports_by_pid`: which ofports `ops_fpa_ofproto_bundle_set` links into it, and what
`ops_fpa_get_ofport_by_pid` finds there. -/

namespace FpaPlugin

variable {env : Env}

def registration (env : Env) (event : Event) : Option (OfportRef × Int) :=
  match event.input with
  | .bundleSet up aux (some set) =>
      match set.slaves, opsFpaFindBundle env event.before up aux with
      | [slave], none =>
          (ofprotoGetPort event.before up slave).bind fun ref =>
            (event.before.ofports ref).bind fun port =>
              if netdevGetIfindex port.netdev = fpaInvalidIntfId then none
              else some (ref, netdevGetIfindex port.netdev)
      | _, _ => none
  | _ => none

def registered (env : Env) : Trace → List (OfportRef × Int)
  | [] => []
  | event :: earlier => (registration env event).toList ++ registered env earlier

section Step

variable {s next : Sys} {up : OfprotoRef} {aux : Aux} {rc : Rc}

theorem createBundle_registration {slave : Nat} {settings : BundleSettings} {created after : Sys}
    (single : settings.slaves = [slave]) (absent : opsFpaFindBundle env s up aux = none)
    (done : createBundle env s up aux slave = .ok created) :
    (registration env ⟨s, .bundleSet up aux (some settings), rc, after⟩ = none ∧
      created.portsByPid = s.portsByPid) ∨
    ∃ ref pid, registration env ⟨s, .bundleSet up aux (some settings), rc, after⟩ =
        some (ref, pid) ∧
      s.portsByPid.insert env.growth ref (hashOfPid pid) = some created.portsByPid := by
  simp only [registration, single, absent]
  rcases createBundle_cases done with ⟨invalid, rfl⟩ |
    ⟨ref, port, portsByPid, isRef, isPort, _, valid, inserted, rfl⟩
  · refine Or.inl ⟨?_, rfl⟩
    cases isRef : ofprotoGetPort s up slave with
    | none => rfl
    | some ref =>
        cases isPort : s.ofports ref with
        | none => simp [isPort]
        | some port =>
            simp only [newBundle, isRef, Option.bind_some, isPort] at invalid
            simp [isPort, invalid]
  · refine Or.inr ⟨ref, netdevGetIfindex port.netdev, ?_, inserted⟩
    simp [isRef, isPort, valid]

theorem ensureBundle_registration {slave : Nat} {settings : BundleSettings} {ensured after : Sys}
    (single : settings.slaves = [slave])
    (done : ensureBundle env s up aux slave settings.name = .ok ensured) :
    (registration env ⟨s, .bundleSet up aux (some settings), rc, after⟩ = none ∧
      ensured.portsByPid = s.portsByPid) ∨
    ∃ ref pid, registration env ⟨s, .bundleSet up aux (some settings), rc, after⟩ =
        some (ref, pid) ∧
      s.portsByPid.insert env.growth ref (hashOfPid pid) = some ensured.portsByPid := by
  rcases ensureBundle_cases done with ⟨⟨bundle, found⟩, rfl⟩ | ⟨created, absent, made, rfl⟩
  · exact Or.inl ⟨by simp [registration, single, found], rfl⟩
  · have same : (named created up aux settings.name).portsByPid = created.portsByPid := rfl
    rw [same]
    exact createBundle_registration single absent made

/-- What happens to a bundle once it is there concerns neither the registry nor the FDB. -/
theorem bundleSet_frame {settings : BundleSettings} {slave : Nat} {ensured : Sys} {bundle : Bundle}
    (found : opsFpaFindBundle env ensured up aux = some bundle)
    (configured : ((ensured.ofprotos up).type = .vrf ∧
        configureVrf env ensured up bundle slave settings = .ok (rc, next)) ∨
      ((ensured.ofprotos up).type = .system ∧
        configureL2 env ensured up bundle settings = .ok (rc, next))) :
    next.portsByPid = ensured.portsByPid ∧ next.ml = ensured.ml := by
  refine configured_invariant
    (fun state => state.portsByPid = ensured.portsByPid ∧ state.ml = ensured.ml) found ?_
    (fun _ _ _ kept => kept) ?_ ?_ ⟨rfl, rfl⟩ configured
  · intro port vlanId outcome between _ found routing
    obtain ⟨_, _, routed, _, learned⟩ := configureRouting_frame found routing
    exact ⟨routed, learned⟩
  · intro state rc after address _ kept deleted
    obtain ⟨ports, _, fdb⟩ := deleteL3HostEntry_frame deleted
    exact ⟨ports.trans kept.1, fdb.trans kept.2⟩
  · intro ref port _
    obtain ⟨_, _, ports, _, fdb⟩ := setVmap_frame ensured ref port _
    exact ⟨ports, fdb⟩

theorem bundleSet_registration {set : Option BundleSettings}
    (taken : opsFpaOfprotoBundleSet env s up aux set = .ok (rc, next)) :
    (registration env ⟨s, .bundleSet up aux set, rc, next⟩ = none ∧
      next.portsByPid = s.portsByPid) ∨
    ∃ ref pid, registration env ⟨s, .bundleSet up aux set, rc, next⟩ = some (ref, pid) ∧
      s.portsByPid.insert env.growth ref (hashOfPid pid) = some next.portsByPid := by
  rcases bundleSet_cases taken with ⟨rfl, removed⟩ | ⟨settings, rfl, notSingle, _, rfl⟩ |
    ⟨settings, slave, ensured, bundle, rfl, single, created, found, configured⟩
  · exact Or.inl ⟨rfl, (rmBundle_frame removed).2.2.1⟩
  · refine Or.inl ⟨?_, rfl⟩
    simp only [registration]
    split
    · rename_i slave single _
      exact absurd single (notSingle slave)
    · rfl
  · rw [(bundleSet_frame found configured).1]
    exact ensureBundle_registration single created

theorem step_registration {call : Call} (taken : step env s call = .ok (rc, next)) :
    (registration env ⟨s, call, rc, next⟩ = none ∧ next.portsByPid = s.portsByPid) ∨
    ∃ ref pid, registration env ⟨s, call, rc, next⟩ = some (ref, pid) ∧
      s.portsByPid.insert env.growth ref (hashOfPid pid) = some next.portsByPid := by
  cases call with
  | bundleSet up aux set => exact bundleSet_registration taken
  | setVlan up vid add =>
      obtain ⟨_, done, _, rfl⟩ := setVlan_cases taken
      exact Or.inl ⟨rfl, (setVlanOnPorts_frame _ _ done).2.2.1⟩
  | addL3Host up aux isIpv6Addr ipAddr nextHopMacAddr =>
      obtain ⟨_, added⟩ := step_addL3Host taken
      exact Or.inl ⟨rfl, (addL3HostEntry_frame added).1⟩
  | deleteL3Host up aux isIpv6Addr ipAddr => exact Or.inl ⟨rfl, (deleteL3HostEntry_frame taken).1⟩
  | routeAction action route =>
      simp only [step, Except.ok.injEq] at taken
      obtain ⟨fpa, rfl⟩ := l3RouteAction_frame taken
      exact Or.inl ⟨rfl, rfl⟩
  | portConstruct up ofpPort ref netdev mtu =>
      cases taken
      exact Or.inl ⟨rfl, rfl⟩
  | portDestruct up ofpPort =>
      cases taken
      refine Or.inl ⟨rfl, ?_⟩
      simp only [opsFpaOfprotoPortDestruct]
      split
      · rfl
      · rfl
  | addressMsg msg =>
      obtain ⟨_, _, rfl, rfl⟩ := step_addressMsg taken
      exact Or.inl ⟨rfl, rfl⟩
  | fdbFlush =>
      obtain ⟨_, _, rfl, rfl⟩ := step_fdbFlush taken
      exact Or.inl ⟨rfl, rfl⟩

end Step

def registryMask (growth : HmapGrowth) : Nat → Nat
  | 0 => 0
  | count + 1 => Hmap.nextMask growth (registryMask growth count) (count + 1)

structure Registers (env : Env) (s : Sys) (ports : List (OfportRef × Int)) (view : Hmap OfportRef) :
    Prop where
  represents : s.portsByPid.Represents view
  nodes : view.nodes.Perm (ports.map fun port => (hashOfPid port.2, port.1))
  mask : view.mask = registryMask env.growth ports.length

theorem Registers.count {s : Sys} {ports : List (OfportRef × Int)} {view : Hmap OfportRef}
    (holds : Registers env s ports view) : view.count = ports.length := by
  rw [Hmap.count, holds.nodes.length_eq, List.length_map]

theorem Registers.values {s : Sys} {ports : List (OfportRef × Int)} {view : Hmap OfportRef}
    (holds : Registers env s ports view) : view.values.Perm (ports.map Prod.fst) := by
  have mapped := holds.nodes.map Prod.snd
  rwa [List.map_map] at mapped

theorem Registers.insert {s next : Sys} {ports : List (OfportRef × Int)} {view : Hmap OfportRef}
    (holds : Registers env s ports view) {ref : OfportRef} {pid : Int}
    (fresh : ref ∉ ports.map Prod.fst)
    (inserted : s.portsByPid.insert env.growth ref (hashOfPid pid) = some next.portsByPid) :
    Registers env next ((ref, pid) :: ports) (view.insert env.growth (hashOfPid pid) ref) := by
  have absent : ref ∉ view.values := fun member => fresh (holds.values.mem_iff.mp member)
  obtain ⟨after, isAfter, represents⟩ := holds.represents.insert env.growth absent (hashOfPid pid)
  rw [inserted] at isAfter
  cases isAfter
  refine ⟨represents, ?_, ?_⟩
  · exact (Hmap.nodes_insert_perm env.growth view _ ref).trans (holds.nodes.cons _)
  · rw [Hmap.mask_insert, holds.count, holds.mask, List.length_cons, registryMask]

theorem run_registers {s state : Sys} {trace : Trace} (initial : Initial s)
    (run : Run env s trace state) (once : ((registered env trace).map Prod.fst).Nodup) :
    ∃ view, Registers env state (registered env trace) view := by
  induction run with
  | nil =>
      obtain ⟨nextField, hashField, isEmpty⟩ := initial.portsByPid
      refine ⟨Hmap.empty 0, ?_, ?_, rfl⟩
      · rw [isEmpty]
        exact LinkedHmap.Represents.empty 0 nextField hashField
      · simp [registered]
  | cons _ taken ih =>
      rcases step_registration taken with ⟨unregistered, same⟩ | ⟨ref, pid, isNew, inserted⟩
      · rw [registered, unregistered] at once ⊢
        obtain ⟨view, holds⟩ := ih once
        refine ⟨view, ?_, holds.nodes, holds.mask⟩
        rw [same]
        exact holds.represents
      · rw [registered, isNew] at once ⊢
        obtain ⟨fresh, earlierOnce⟩ := List.nodup_cons.mp once
        obtain ⟨view, holds⟩ := ih earlierOnce
        exact ⟨_, holds.insert fresh inserted⟩

/-! Linked nodes that stay in use. -/

section Lifetime

def PortInUse (env : Env) (s : Sys) (ref : OfportRef) : Prop :=
  ∃ port up aux bundle, s.ofports ref = some port ∧ opsFpaFindBundle env s up aux = some bundle ∧
    bundle.intfId = netdevGetIfindex port.netdev

/-- Every node is linked once and in use, so that chains end, insertion terminates and
a lookup never yields a port that is gone. -/
def PortsLinked (env : Env) (s : Sys) : Prop :=
  ∃ view, s.portsByPid.Represents view ∧ (∀ ref ∈ view.values, PortInUse env s ref) ∧
    (∀ ref ∉ view.values, ∀ hash, (s.portsByPid.insert env.growth ref hash).isSome) ∧
    ∀ pid ref, opsFpaGetOfportByPid s pid = some ref → PortInUse env s ref

def allocatesFresh (_ : Trace) (event : Event) : Bool :=
  match event.input with
  | .portConstruct _ _ ref _ _ => (event.before.ofports ref).isNone
  | _ => true

/-- A linked ofport is not linked again and neither its bundle nor itself is removed. -/
def keepsLinked (env : Env) (earlier : Trace) (event : Event) : Bool :=
  match event.input with
  | .bundleSet up aux none =>
      (opsFpaFindBundle env event.before up aux).all fun bundle => bundle.intfId = fpaInvalidIntfId
  | .bundleSet _ _ (some _) =>
      (registration env event).all fun port => port.1 ∉ (registered env earlier).map Prod.fst
  | .portDestruct up ofpPort =>
      (ofprotoGetPort event.before up ofpPort).all fun ref =>
        ref ∉ (registered env earlier).map Prod.fst
  | _ => true

def KeepsBundles (env : Env) (s next : Sys) : Prop :=
  ∀ up aux bundle, opsFpaFindBundle env s up aux = some bundle →
    ∃ after, opsFpaFindBundle env next up aux = some after ∧ after.intfId = bundle.intfId

variable {s next : Sys} {up : OfprotoRef} {aux : Aux} {rc : Rc}

theorem KeepsBundles.of_bundles
    (same : ∀ up, (next.ofprotos up).bundles = (s.ofprotos up).bundles) :
    KeepsBundles env s next := by
  intro up aux bundle found
  refine ⟨bundle, ?_, rfl⟩
  rw [opsFpaFindBundle, same]
  exact found

theorem KeepsBundles.trans {between : Sys} (first : KeepsBundles env s between)
    (second : KeepsBundles env between next) : KeepsBundles env s next := by
  intro up aux bundle found
  obtain ⟨middle, foundMiddle, sameFirst⟩ := first up aux bundle found
  obtain ⟨after, foundAfter, sameSecond⟩ := second up aux middle foundMiddle
  exact ⟨after, foundAfter, sameSecond.trans sameFirst⟩

theorem KeepsBundles.modifyBundle {update : Bundle → Bundle}
    (sameAux : ∀ bundle, (update bundle).aux = bundle.aux)
    (sameIntfId : ∀ bundle, (update bundle).intfId = bundle.intfId) :
    KeepsBundles env s (modifyBundle s up aux update) := by
  intro other wanted bundle found
  rw [findBundle_modifyBundle s up aux sameAux]
  split
  · rename_i same
    obtain ⟨rfl, rfl⟩ := same
    exact ⟨update bundle, by rw [found]; rfl, sameIntfId bundle⟩
  · exact ⟨bundle, found, rfl⟩

theorem KeepsBundles.setL3Intf (l3Intf : Option L3Intf) :
    KeepsBundles env s (setL3Intf s up aux l3Intf) := by
  have sameAux : ∀ bundle : Bundle, ({ bundle with l3Intf } : Bundle).aux = bundle.aux :=
    fun _ => rfl
  exact KeepsBundles.modifyBundle sameAux fun _ => rfl

theorem deleteL3HostEntry_keepsBundles {isIpv6Addr : Bool} {ipAddr : CString}
    (taken : deleteL3HostEntry env s up aux isIpv6Addr ipAddr = .ok (rc, next)) :
    KeepsBundles env s next := by
  rcases deleteL3HostEntry_cases taken with ⟨_, rfl⟩ | ⟨_, _, _, _, _, _, _, _, _, _, rfl⟩
  · exact KeepsBundles.of_bundles fun _ => rfl
  · rw [deleteHost_eq]
    exact KeepsBundles.trans (KeepsBundles.of_bundles fun _ => rfl) (KeepsBundles.setL3Intf _)

theorem addL3HostEntry_keepsBundles {isIpv6Addr : Bool} {ipAddr : CString}
    {nextHopMacAddr : Option CString} {reply : Option Int}
    (taken : addL3HostEntry env s up aux isIpv6Addr ipAddr nextHopMacAddr = .ok (rc, reply, next)) :
    KeepsBundles env s next := by
  rcases addL3HostEntry_cases taken with ⟨_, rfl⟩ | ⟨_, _, _, _, _, _, _, installed⟩
  · exact KeepsBundles.of_bundles fun _ => rfl
  · rcases installHost_cases installed with ⟨_, fpa, rfl | ⟨_, rfl⟩⟩ | ⟨_, fpa, _, _, _, rfl⟩
    · exact KeepsBundles.of_bundles fun _ => rfl
    · exact KeepsBundles.of_bundles fun _ => rfl
    · have sameAux : ∀ bundle : Bundle, bundle.countRoute.aux = bundle.aux := fun _ => rfl
      exact KeepsBundles.trans (KeepsBundles.of_bundles fun _ => rfl)
        (KeepsBundles.modifyBundle sameAux fun _ => rfl)

theorem configured_keepsBundles {bundle : Bundle} {slave : Nat} {settings : BundleSettings}
    (found : opsFpaFindBundle env s up aux = some bundle)
    (configured : (s.ofprotos up).type = .vrf ∧
        configureVrf env s up bundle slave settings = .ok (rc, next) ∨
      (s.ofprotos up).type = .system ∧ configureL2 env s up bundle settings = .ok (rc, next)) :
    KeepsBundles env s next := by
  refine configured_invariant (KeepsBundles env s) found ?_
    (fun _ _ keeps kept => kept.trans (KeepsBundles.modifyBundle keeps.aux keeps.intfId))
    (fun _ _ _ _ _ kept deleted => kept.trans (deleteL3HostEntry_keepsBundles deleted)) ?_
    (KeepsBundles.of_bundles fun _ => rfl) configured
  · intro port vlanId outcome between _ found routing
    rcases configureRouting_result found routing with rfl | ⟨hw, l3Intf, rfl⟩
    · exact KeepsBundles.of_bundles fun _ => rfl
    · exact KeepsBundles.trans (KeepsBundles.of_bundles fun _ => rfl) (KeepsBundles.setL3Intf _)
  · intro ref port _
    refine KeepsBundles.of_bundles fun other => ?_
    rw [(setVmap_frame _ _ _ _).2.2.2.1]

theorem bundleSet_keepsBundles (keyed : BundlesKeyed env s) {settings : BundleSettings}
    (taken : opsFpaOfprotoBundleSet env s up aux (some settings) = .ok (rc, next)) :
    KeepsBundles env s next := by
  rcases bundleSet_cases taken with ⟨absurdity, _⟩ | ⟨_, _, _, _, rfl⟩ |
    ⟨_, slave, ensured, bundle, same, single, created, found, configured⟩
  · cases absurdity
  · exact KeepsBundles.of_bundles fun _ => rfl
  · refine KeepsBundles.trans ?_ (configured_keepsBundles found configured)
    obtain ⟨old, origin, nowFound⟩ := findBundle_ensureBundle keyed created
    intro other wanted known isKnown
    rw [nowFound]
    split
    · rename_i here
      obtain ⟨rfl, rfl⟩ := here
      rcases origin with wasFound | ⟨absent, _⟩
      · rw [isKnown] at wasFound
        cases wasFound
        exact ⟨_, rfl, rfl⟩
      · rw [isKnown] at absent
        cases absent
    · exact ⟨known, isKnown, rfl⟩

theorem bundleSet_registered (keyed : BundlesKeyed env s) {set : Option BundleSettings}
    {ref : OfportRef} {pid : Int}
    (taken : opsFpaOfprotoBundleSet env s up aux set = .ok (rc, next))
    (isNew : registration env ⟨s, .bundleSet up aux set, rc, next⟩ = some (ref, pid)) :
    pid ≠ fpaInvalidIntfId ∧
      (∃ port, s.ofports ref = some port ∧ netdevGetIfindex port.netdev = pid) ∧
      ∃ bundle, opsFpaFindBundle env next up aux = some bundle ∧ bundle.intfId = pid := by
  cases set with
  | none => cases isNew
  | some settings =>
      simp only [registration] at isNew
      split at isNew
      · rename_i slave single absent
        cases isRef : ofprotoGetPort s up slave with
        | none =>
            rw [isRef] at isNew
            cases isNew
        | some slaveRef =>
            cases isPort : s.ofports slaveRef with
            | none => simp [isRef, isPort] at isNew
            | some port =>
                simp only [isRef, isPort, Option.bind_some] at isNew
                split at isNew
                · cases isNew
                · rename_i valid
                  cases isNew
                  refine ⟨valid, ⟨port, isPort, rfl⟩, ?_⟩
                  rcases bundleSet_cases taken with ⟨absurdity, _⟩ | ⟨_, same, notSingle, _⟩ |
                    ⟨_, slave', ensured, bundle, same, single', created, found, configured⟩
                  · cases absurdity
                  · cases same
                    exact absurd single (notSingle slave)
                  · cases same
                    rw [single] at single'
                    cases single'
                    obtain ⟨old, origin, nowFound⟩ := findBundle_ensureBundle keyed created
                    have isBundle := nowFound up aux
                    rw [if_pos ⟨rfl, rfl⟩] at isBundle
                    obtain ⟨after, foundAfter, sameIntfId⟩ :=
                      configured_keepsBundles found configured up aux _ isBundle
                    refine ⟨after, foundAfter, ?_⟩
                    rcases origin with wasFound | ⟨_, rfl⟩
                    · rw [absent] at wasFound
                      cases wasFound
                    · rw [sameIntfId]
                      simp [newBundle, isRef, isPort]
      · cases isNew

def KeepsPort (s next : Sys) (ref : OfportRef) : Prop :=
  ∀ port, s.ofports ref = some port → ∃ after, next.ofports ref = some after ∧
    after.netdev = port.netdev

def netdevAt (s : Sys) (ref : OfportRef) : Option Netdev := (s.ofports ref).map Ofport.netdev

theorem netdevAt_congr (same : next.ofports = s.ofports) (ref : OfportRef) :
    netdevAt next ref = netdevAt s ref := by
  rw [netdevAt, netdevAt, same]

theorem KeepsPort.of_netdevAt {ref : OfportRef} (same : netdevAt next ref = netdevAt s ref) :
    KeepsPort s next ref := by
  intro port isPort
  rw [netdevAt, netdevAt, isPort, Option.map_some] at same
  exact Option.map_eq_some_iff.mp same

theorem netdevAt_setVmap {changed : OfportRef} {port : Ofport} (isPort : s.ofports changed = some port)
    (result : Hw × Bitmap) (ref : OfportRef) :
    netdevAt (setVmap s changed port result) ref = netdevAt s ref := by
  by_cases here : ref = changed
  · simp [netdevAt, setVmap, here, isPort]
  · simp [netdevAt, setVmap, Function.update_of_ne here]

theorem netdevAt_setVlanOnPorts {vid : Nat} {add : Bool} (ref : OfportRef) :
    ∀ (bundles : List Bundle) (state : Sys),
      setVlanOnPorts env vid add bundles state = .ok next → netdevAt next ref = netdevAt state ref := by
  intro bundles
  induction bundles with
  | nil =>
      intro state done
      cases done
      rfl
  | cons bundle rest ih =>
      intro state done
      rcases setVlanOnPorts_cons done with ⟨_, later⟩ | ⟨changed, port, _, isPort, later⟩
      · exact ih state later
      · rw [ih _ later, netdevAt_setVmap isPort]

theorem netdevAt_bundleSet {set : Option BundleSettings}
    (taken : opsFpaOfprotoBundleSet env s up aux set = .ok (rc, next)) (ref : OfportRef) :
    netdevAt next ref = netdevAt s ref := by
  rcases bundleSet_cases taken with ⟨_, removed⟩ | ⟨_, _, _, _, rfl⟩ |
    ⟨settings, slave, ensured, bundle, _, _, created, found, configured⟩
  · exact netdevAt_congr (rmBundle_frame removed).2.2.2.1 ref
  · rfl
  · rw [← netdevAt_congr (ensureBundle_frame created).2.2.2.1]
    refine configured_invariant (fun state => netdevAt state ref = netdevAt ensured ref) found ?_
      (fun _ _ _ kept => kept) ?_ (fun _ _ isPort => netdevAt_setVmap isPort _ ref) rfl configured
    · intro port vlanId outcome between _ found routing
      exact netdevAt_congr (configureRouting_frame found routing).2.2.2.1 ref
    · intro state rc after address _ kept deleted
      exact (netdevAt_congr (deleteL3HostEntry_frame deleted).2.1 ref).trans kept

theorem netdevAt_step {call : Call} (taken : step env s call = .ok (rc, next)) (ref : OfportRef) :
    netdevAt next ref = netdevAt s ref ∨
    (∃ up ofpPort netdev mtu, call = .portConstruct up ofpPort ref netdev mtu ∧
      netdevAt next ref = some netdev) ∨
    ∃ up ofpPort, call = .portDestruct up ofpPort ∧ ofprotoGetPort s up ofpPort = some ref ∧
      netdevAt next ref = none := by
  cases call with
  | bundleSet up aux set => exact .inl (netdevAt_bundleSet taken ref)
  | setVlan up vid add =>
      obtain ⟨_, done, _, rfl⟩ := setVlan_cases taken
      have same := netdevAt_setVlanOnPorts ref _ _ done
      exact .inl same
  | addL3Host up aux isIpv6Addr ipAddr nextHopMacAddr =>
      obtain ⟨_, added⟩ := step_addL3Host taken
      exact .inl (netdevAt_congr (addL3HostEntry_frame added).2.1 ref)
  | deleteL3Host up aux isIpv6Addr ipAddr =>
      exact .inl (netdevAt_congr (deleteL3HostEntry_frame taken).2.1 ref)
  | routeAction action route =>
      simp only [step, Except.ok.injEq] at taken
      obtain ⟨fpa, rfl⟩ := l3RouteAction_frame taken
      exact .inl rfl
  | portConstruct up ofpPort newRef netdev mtu =>
      cases taken
      by_cases here : ref = newRef
      · subst here
        refine .inr (.inl ⟨up, ofpPort, netdev, mtu, rfl, ?_⟩)
        simp [netdevAt, opsFpaOfprotoPortConstruct]
      · exact .inl (by simp [netdevAt, opsFpaOfprotoPortConstruct, Function.update_of_ne here])
  | portDestruct up ofpPort =>
      cases taken
      rw [opsFpaOfprotoPortDestruct]
      cases found : ofprotoGetPort s up ofpPort with
      | none => exact .inl rfl
      | some gone =>
          by_cases here : ref = gone
          · subst here
            exact .inr (.inr ⟨up, ofpPort, rfl, found, by simp [netdevAt]⟩)
          · exact .inl (by simp [netdevAt, Function.update_of_ne here])
  | addressMsg msg =>
      obtain ⟨_, _, rfl, rfl⟩ := step_addressMsg taken
      exact .inl rfl
  | fdbFlush =>
      obtain ⟨_, _, rfl, rfl⟩ := step_fdbFlush taken
      exact .inl rfl

variable {trace : Trace}

structure Served (env : Env) (s : Sys) (ref : OfportRef) (pid : Int) : Prop where
  valid : pid ≠ fpaInvalidIntfId
  alive : ∃ port, s.ofports ref = some port ∧ netdevGetIfindex port.netdev = pid
  bundled : ∃ up aux bundle, opsFpaFindBundle env s up aux = some bundle ∧ bundle.intfId = pid

theorem Served.inUse {ref : OfportRef} {pid : Int} (served : Served env s ref pid) :
    PortInUse env s ref := by
  obtain ⟨port, isPort, isPid⟩ := served.alive
  obtain ⟨up, aux, bundle, found, sameId⟩ := served.bundled
  exact ⟨port, up, aux, bundle, isPort, found, sameId.trans isPid.symm⟩

theorem Served.step {ref : OfportRef} {pid : Int} (served : Served env s ref pid)
    (ports : KeepsPort s next ref) (bundles : KeepsBundles env s next) : Served env next ref pid := by
  obtain ⟨port, isPort, isPid⟩ := served.alive
  obtain ⟨up, aux, bundle, found, sameId⟩ := served.bundled
  obtain ⟨after, isAfter, sameNetdev⟩ := ports port isPort
  obtain ⟨bundle', foundAfter, keptId⟩ := bundles up aux bundle found
  exact ⟨served.valid, ⟨after, isAfter, by rw [sameNetdev, isPid]⟩,
    ⟨up, aux, bundle', foundAfter, keptId.trans sameId⟩⟩

structure LinkInvariant (env : Env) (trace : Trace) (s : Sys) : Prop where
  keyed : BundlesKeyed env s
  once : ((registered env trace).map Prod.fst).Nodup
  served : ∀ port ∈ registered env trace, Served env s port.1 port.2

theorem Initial.linkInvariant (initial : Initial s) : LinkInvariant env [] s where
  keyed := initial.bundlesKeyed
  once := List.nodup_nil
  served := by
    intro port member
    cases member

theorem removed_served (keyed : BundlesKeyed env s) {ref : OfportRef} {pid : Int}
    (served : Served env s ref pid)
    (unlinked : ∀ bundle, opsFpaFindBundle env s up aux = some bundle →
      bundle.intfId = fpaInvalidIntfId)
    (removed : opsFpaRmBundle env s up aux = (rc, next)) : Served env next ref pid := by
  obtain ⟨port, isPort, isPid⟩ := served.alive
  obtain ⟨other, wanted, bundle, found, sameId⟩ := served.bundled
  have elsewhere : ¬(other = up ∧ wanted = aux) := by
    rintro ⟨rfl, rfl⟩
    exact served.valid (sameId.symm.trans (unlinked bundle found))
  refine ⟨served.valid, ⟨port, ?_, isPid⟩, ⟨other, wanted, bundle, ?_, sameId⟩⟩
  · rw [(rmBundle_frame removed).2.2.2.1, isPort]
  · rw [findBundle_rmBundle keyed removed, if_neg elsewhere, found]

theorem peripheral_served {call : Call} {ref : OfportRef} {pid : Int}
    (served : Served env s ref pid) (taken : step env s call = .ok (rc, next))
    (notSet : ∀ up aux set, call ≠ .bundleSet up aux set)
    (fresh : allocatesFresh trace ⟨s, call, rc, next⟩ = true)
    (kept : ∀ up ofpPort, call = .portDestruct up ofpPort →
      ofprotoGetPort s up ofpPort ≠ some ref) : Served env next ref pid := by
  have bundles : KeepsBundles env s next := by
    rcases step_cases taken with ⟨_, _, _, isSet, _⟩ | ⟨_, _, _, _, _, _, _, added⟩ |
      ⟨_, _, _, _, _, deleted⟩ | ⟨_, _, _, same⟩
    · exact absurd isSet (notSet _ _ _)
    · exact addL3HostEntry_keepsBundles added
    · exact deleteL3HostEntry_keepsBundles deleted
    · exact KeepsBundles.of_bundles fun other => (same other).1
  refine served.step ?_ bundles
  rcases netdevAt_step taken ref with same | ⟨up, ofpPort, netdev, mtu, rfl, _⟩ |
    ⟨up, ofpPort, rfl, isGone, _⟩
  · exact KeepsPort.of_netdevAt same
  · intro port isPort
    simp [allocatesFresh, isPort] at fresh
  · exact absurd isGone (kept up ofpPort rfl)

theorem registration_peripheral {call : Call}
    (notSet : ∀ up aux set, call ≠ .bundleSet up aux set) :
    registration env ⟨s, call, rc, next⟩ = none := by
  cases call with
  | bundleSet up aux set => exact absurd rfl (notSet up aux set)
  | _ => rfl

theorem step_linkInvariant {call : Call} (invariant : LinkInvariant env trace s)
    (taken : step env s call = .ok (rc, next))
    (fresh : allocatesFresh trace ⟨s, call, rc, next⟩ = true)
    (kept : keepsLinked env trace ⟨s, call, rc, next⟩ = true) :
    LinkInvariant env (⟨s, call, rc, next⟩ :: trace) next := by
  refine ⟨step_keyed invariant.keyed taken, ?_, ?_⟩
  · rw [registered]
    cases isNew : registration env ⟨s, call, rc, next⟩ with
    | none => exact invariant.once
    | some port =>
        refine List.nodup_cons.mpr ⟨?_, invariant.once⟩
        cases call with
        | bundleSet up aux set =>
            cases set with
            | none => cases isNew
            | some settings => simpa [keepsLinked, isNew] using kept
        | _ => cases isNew
  · intro port member
    rw [registered] at member
    by_cases isSet : ∃ up aux set, call = .bundleSet up aux set
    · obtain ⟨up, aux, set, rfl⟩ := isSet
      simp only [step] at taken
      rcases List.mem_append.mp member with new | old
      · obtain ⟨valid, ⟨ofport, isPort, isPid⟩, bundle, found, sameId⟩ :=
          bundleSet_registered invariant.keyed taken (Option.mem_toList.mp new)
        obtain ⟨after, isAfter, sameNetdev⟩ :=
          KeepsPort.of_netdevAt (netdevAt_bundleSet taken port.1) ofport isPort
        exact ⟨valid, ⟨after, isAfter, by rw [sameNetdev, isPid]⟩, ⟨up, aux, bundle, found, sameId⟩⟩
      · have served := invariant.served port old
        cases set with
        | none =>
            simp only [opsFpaOfprotoBundleSet, Except.ok.injEq] at taken
            refine removed_served invariant.keyed served ?_ taken
            intro bundle found
            simpa [keepsLinked, found] using kept
        | some settings =>
            exact served.step (KeepsPort.of_netdevAt (netdevAt_bundleSet taken port.1))
              (bundleSet_keepsBundles invariant.keyed taken)
    · have notSet : ∀ up aux set, call ≠ .bundleSet up aux set :=
        fun up aux set same => isSet ⟨up, aux, set, same⟩
      rw [registration_peripheral notSet] at member
      refine peripheral_served (invariant.served port member) taken notSet fresh ?_
      rintro up ofpPort rfl isPort
      simp only [keepsLinked, isPort, Option.all_some, decide_eq_true_eq] at kept
      exact kept (List.mem_map_of_mem member)

end Lifetime

/-- In every run that never removes what is linked and links no ofport twice, the nodes
of `ports_by_pid` are linked once and in use. -/
theorem ports_linked_while_in_use (env : Env) {s : Sys} (initial : Initial s) {trace : Trace}
    {state : Sys} (run : Run env s trace state)
    (fresh : Runs.Along (fun earlier event => allocatesFresh earlier event) trace)
    (kept : Runs.Along (fun earlier event => keepsLinked env earlier event) trace) :
    PortsLinked env state := by
  have invariant : LinkInvariant env trace state := by
    refine Runs.Run.invariant initial.linkInvariant ?_ run (fresh.and kept)
    intro trace state call rc next invariant taken allowed
    exact step_linkInvariant invariant taken allowed.1 allowed.2
  obtain ⟨view, holds⟩ := run_registers initial run invariant.once
  have inUse : ∀ ref ∈ view.values, PortInUse env state ref := by
    intro ref member
    obtain ⟨port, isPort, rfl⟩ := List.mem_map.mp (holds.values.mem_iff.mp member)
    exact (invariant.served port isPort).inUse
  refine ⟨view, holds.represents, inUse, ?_, ?_⟩
  · intro ref absent hash
    obtain ⟨after, inserted, _⟩ := holds.represents.insert env.growth absent hash
    rw [inserted]
    rfl
  · intro pid ref found
    rw [opsFpaGetOfportByPid, holds.represents.firstInBucket, Hmap.firstInBucket_eq] at found
    obtain ⟨node, isHead, rfl⟩ := Option.map_eq_some_iff.mp found
    exact inUse node.2 (LinkedHmap.mem_values_of_chain
      (List.mem_map_of_mem (List.mem_of_head? isHead)))

theorem ports_linked_two_bundles : ∃ trace state, Run idealEnv idealSys trace state ∧
    Runs.Along (fun earlier event => allocatesFresh earlier event) trace ∧
    Runs.Along (fun earlier event => keepsLinked idealEnv earlier event) trace ∧
    registered idealEnv trace = [(20, 2), (10, 1)] ∧ PortsLinked idealEnv state := by
  obtain ⟨trace, state, run, fresh, kept, ports⟩ := run_of_check idealEnv idealSys
    [.portConstruct 1 1 10 (systemNetdev 1) 1500, .portConstruct 1 2 20 (systemNetdev 2) 1500,
      .portConstruct 1 3 30 (systemNetdev 3) 1500, .bundleSet 1 100 (some idleSettings),
      .bundleSet 1 101 (some { idleSettings with slaves := [2] }), .portDestruct 1 3]
    (fun trace _ => Runs.Along (fun earlier event => allocatesFresh earlier event) trace ∧
      Runs.Along (fun earlier event => keepsLinked idealEnv earlier event) trace ∧
      registered idealEnv trace = [(20, 2), (10, 1)]) (by decide +kernel)
  exact ⟨trace, state, run, fresh, kept, ports,
    ports_linked_while_in_use idealEnv idealSys_initial run fresh kept⟩

theorem not_chainFrom_loop {ν : Type} {next : ν → Option ν} {node : ν}
    (loop : next node = some node) : ∀ chain, ¬LinkedHmap.ChainFrom next (some node) chain := by
  intro chain
  induction chain with
  | nil => exact id
  | cons first rest ih =>
      intro chained
      have tail := chained.2
      rw [loop] at tail
      exact ih tail

/-- A bundle is created, removed and created again for its port: the node of the port
is linked to itself. -/
theorem port_linked_to_itself : ∃ trace state, Run idealEnv idealSys trace state ∧
    Runs.Along (fun earlier event => allocatesFresh earlier event) trace ∧
    ¬PortsLinked idealEnv state := by
  obtain ⟨trace, state, run, fresh, head, loop⟩ := run_of_check idealEnv idealSys
    [.portConstruct 1 1 10 (systemNetdev 1) 1500, .bundleSet 1 100 (some idleSettings),
      .bundleSet 1 100 none, .bundleSet 1 100 (some idleSettings)]
    (fun trace state => Runs.Along (fun earlier event => allocatesFresh earlier event) trace ∧
      state.portsByPid.bucket 1 = some 10 ∧ state.portsByPid.next 10 = some 10) (by decide +kernel)
  refine ⟨trace, state, run, fresh, ?_⟩
  rintro ⟨view, represents, _⟩
  have chained := represents.chained 1
  rw [head] at chained
  exact not_chainFrom_loop loop _ chained

end FpaPlugin
