import FpaPlugin.BundleSpec

/-! `add_l3_host_entry` when it gives up: every exit deletes the L2-interface group it was
given, whether or not the group was there before, and none returns the ARP index. -/

namespace FpaPlugin

variable {env : Env} {s next : Sys} {up : OfprotoRef} {aux : Aux} {rc : Rc}

def Env.DeletesSucceed (env : Env) : Prop :=
  ∀ calls group asic, env.verdict calls (.groupTableEntryDelete group) asic = .ok

structure SameResources (env : Env) (s next : Sys) : Prop where
  groups : next.hw.fpa.asic.groups = s.hw.fpa.asic.groups
  routes : next.hw.fpa.asic.flows .l3Unicast = s.hw.fpa.asic.flows .l3Unicast
  hosts : next.hostTable = s.hostTable
  arpIndices : next.arpIndices = s.arpIndices
  routesCounts : ∀ up aux, (l3IntfOf env next up aux).map L3Intf.routesCount =
    (l3IntfOf env s up aux).map L3Intf.routesCount

/-- The group is deleted when its bucket is refused; it must not have been there before. -/
def UnwindsL2Group (env : Env) (fpa : Fpa) (pid : Int) (vid : Nat) (popTag : Bool) : Prop :=
  ∀ group, fpaLibGroupIdentifierBuild env (.l2Interface (portNum pid) vid) = some group →
    ∀ added, fpa.issue env (.groupTableEntryAdd group) = (.ok, added) →
      (added.issue env (.groupEntryBucketAdd group (.l2Interface (portNum pid) popTag))).1 = .fail →
        fpa.asic.hasGroup group = false

/-- Once an ARP index is taken nothing more is refused, and a call that ends before that
with the L2-interface group deleted was the first to add the group. -/
def UnwindsInstall (env : Env) (s : Sys) (vlanId mtu : Nat) (egress : Int)
    (srcMac dstMac : EthAddr) (ipv4Addr : InAddr) : Prop :=
  ∀ group, fpaLibGroupIdentifierBuild env (.l2Interface (portNum egress) vlanId) = some group →
    ∀ fpa, s.hw.fpa.issue env (.groupTableEntryAdd group) = (.ok, fpa) →
      match fpa.issue env (.groupEntryBucketAdd group (.l2Interface (portNum egress) false)) with
      | (.fail, _) => s.hw.fpa.asic.hasGroup group = false
      | (.ok, fpa) =>
          if s.arpIndices 0 = 0 then s.hw.fpa.asic.hasGroup group = false
          else
            match opsFpaRouteAddL3Group env fpa group (s.arpIndices 0) vlanId mtu srcMac dstMac with
            | (none, _) => False
            | (some l3Group, fpa) => (opsFpaRouteAddRoute env fpa l3Group ipv4Addr 32).1 = .ok

def UnwindsHost (env : Env) (s : Sys) (up : OfprotoRef) (aux : Aux) (isIpv6Addr : Bool)
    (ipAddr : CString) (nextHopMacAddr : Option CString) : Prop :=
  isIpv6Addr = false → ∀ bundle l3Intf port dstMac egress ipv4Addr,
    HostRequest env s up aux ipAddr nextHopMacAddr bundle l3Intf port dstMac egress ipv4Addr →
    UnwindsInstall env s l3Intf.vlanId port.mtu egress port.netdev.mac dstMac ipv4Addr

section Groups

theorem filter_groups_iff (asic : Asic) (group : Nat) :
    asic.groups.filter (fun entry => entry.groupIdentifier ≠ group) = asic.groups ↔
      asic.hasGroup group = false := by
  rw [List.filter_eq_self, Bool.eq_false_iff, ne_eq, Asic.hasGroup_iff]
  simp

theorem filter_groupTableEntryAdd (asic : Asic) (group : Nat) :
    (asic.apply (.groupTableEntryAdd group)).groups.filter
      (fun entry => entry.groupIdentifier ≠ group) =
    asic.groups.filter (fun entry => entry.groupIdentifier ≠ group) := by
  simp only [Asic.apply]
  split
  · rfl
  · simp [List.filter_append]

theorem filter_groupEntryBucketAdd (asic : Asic) (group : Nat) (bucket : Bucket) :
    (asic.apply (.groupEntryBucketAdd group bucket)).groups.filter
      (fun entry => entry.groupIdentifier ≠ group) =
    asic.groups.filter (fun entry => entry.groupIdentifier ≠ group) := by
  simp only [Asic.apply]
  induction asic.groups with
  | nil => rfl
  | cons first rest ih =>
      by_cases here : first.groupIdentifier = group
      · simpa [here] using ih
      · simpa [here] using ih

theorem asic_of_issue {fpa after : Fpa} {call : FpaCall} {status : Status}
    (issued : fpa.issue env call = (status, after)) :
    after.asic = if status = .ok then fpa.asic.apply call else fpa.asic := by
  cases issued
  rfl

theorem issue_delete (deletes : env.DeletesSucceed) (fpa : Fpa) (group : Nat) :
    (fpa.issue env (.groupTableEntryDelete group)).2.asic =
      fpa.asic.apply (.groupTableEntryDelete group) := by
  simp only [Fpa.issue, deletes fpa.calls group fpa.asic, if_true]

variable {fpa after : Fpa} {pid : Int} {vid : Nat} {popTag : Bool}

theorem addL2Group_added {group : Nat}
    (added : opsFpaRouteAddL2Group env fpa pid vid popTag = (some group, after)) :
    fpaLibGroupIdentifierBuild env (.l2Interface (portNum pid) vid) = some group ∧
      after.asic = (fpa.asic.apply (.groupTableEntryAdd group)).apply
        (.groupEntryBucketAdd group (.l2Interface (portNum pid) popTag)) := by
  simp only [opsFpaRouteAddL2Group] at added
  split at added
  · cases added
  · rename_i built isBuilt
    split at added
    · cases added
    · rename_i entered isEntered
      split at added
      · rename_i filled isFilled
        cases added
        refine ⟨isBuilt, ?_⟩
        rw [asic_of_issue isFilled, if_pos rfl, asic_of_issue isEntered, if_pos rfl]
      · cases added

theorem addL2Group_refused (deletes : env.DeletesSucceed)
    (refused : opsFpaRouteAddL2Group env fpa pid vid popTag = (none, after)) :
    after.asic.flows = fpa.asic.flows ∧
      (after.asic.groups = fpa.asic.groups ↔ UnwindsL2Group env fpa pid vid popTag) := by
  simp only [opsFpaRouteAddL2Group] at refused
  simp only [UnwindsL2Group]
  cases built : fpaLibGroupIdentifierBuild env (.l2Interface (portNum pid) vid) with
  | none =>
      simp only [built] at refused
      cases refused
      exact ⟨rfl, iff_of_true rfl (fun _ absurdity => by cases absurdity)⟩
  | some group =>
      simp only [built, Option.some.injEq, forall_eq'] at refused ⊢
      cases entered : fpa.issue env (.groupTableEntryAdd group) with
      | mk status fpaEntered =>
      have afterEnter := asic_of_issue entered
      simp only [entered] at refused
      cases status with
      | fail =>
          cases refused
          rw [afterEnter, if_neg (by decide)]
          exact ⟨rfl, iff_of_true rfl (fun _ absurdity => by cases absurdity)⟩
      | ok =>
          rw [if_pos rfl] at afterEnter
          simp only [Prod.mk.injEq, true_and, forall_eq']
          cases filled : fpaEntered.issue env
            (.groupEntryBucketAdd group (.l2Interface (portNum pid) popTag)) with
          | mk status fpaFilled =>
          have afterFill := asic_of_issue filled
          simp only [filled] at refused
          cases status with
          | ok => cases refused
          | fail =>
              cases refused
              rw [if_neg (by decide)] at afterFill
              rw [issue_delete deletes, afterFill, afterEnter]
              refine ⟨?_, ?_⟩
              · rw [Asic.flows_groupTableEntryDelete, Asic.flows_groupTableEntryAdd]
              · simp only [forall_const]
                rw [← filter_groups_iff, ← filter_groupTableEntryAdd]
                exact Iff.rfl

end Groups

section Install

variable {vlanId mtu : Nat} {egress : Int} {srcMac dstMac : EthAddr} {ipv4Addr : InAddr}

theorem SameResources.of_fpa {fpa : Fpa}
    (groups : fpa.asic.groups = s.hw.fpa.asic.groups)
    (routes : fpa.asic.flows .l3Unicast = s.hw.fpa.asic.flows .l3Unicast) :
    SameResources env s { s with hw := { s.hw with fpa } } where
  groups := groups
  routes := routes
  hosts := rfl
  arpIndices := rfl
  routesCounts := fun _ _ => rfl

theorem sameResources_deleted_iff {fpa : Fpa} {group : Nat}
    (groups : fpa.asic.groups = s.hw.fpa.asic.groups.filter fun entry =>
      entry.groupIdentifier ≠ group)
    (routes : fpa.asic.flows .l3Unicast = s.hw.fpa.asic.flows .l3Unicast) :
    SameResources env s { s with hw := { s.hw with fpa } } ↔
      s.hw.fpa.asic.hasGroup group = false := by
  rw [← filter_groups_iff, ← groups]
  exact ⟨fun same => same.groups, fun same => SameResources.of_fpa same routes⟩

theorem unwindsInstall_refused {after : Fpa}
    (refused : opsFpaRouteAddL2Group env s.hw.fpa egress vlanId false = (none, after)) :
    UnwindsInstall env s vlanId mtu egress srcMac dstMac ipv4Addr ↔
      UnwindsL2Group env s.hw.fpa egress vlanId false := by
  refine forall_congr' fun group => forall_congr' fun built => forall_congr' fun entered =>
    forall_congr' fun isEntered => ?_
  simp only [opsFpaRouteAddL2Group, built, isEntered] at refused
  cases filled : entered.issue env
    (.groupEntryBucketAdd group (.l2Interface (portNum egress) false)) with
  | mk status fpaFilled =>
  simp only [filled] at refused ⊢
  cases status with
  | ok => cases refused
  | fail => exact ⟨fun absent _ => absent, fun absent => absent rfl⟩

theorem unwindsInstall_added {group : Nat} {fpa : Fpa}
    (added : opsFpaRouteAddL2Group env s.hw.fpa egress vlanId false = (some group, fpa)) :
    UnwindsInstall env s vlanId mtu egress srcMac dstMac ipv4Addr ↔
      if s.arpIndices 0 = 0 then s.hw.fpa.asic.hasGroup group = false
      else
        ∃ l3Group fpaL3, opsFpaRouteAddL3Group env fpa group (s.arpIndices 0) vlanId mtu srcMac
            dstMac = (some l3Group, fpaL3) ∧
          (opsFpaRouteAddRoute env fpaL3 l3Group ipv4Addr 32).1 = .ok := by
  simp only [opsFpaRouteAddL2Group] at added
  simp only [UnwindsInstall]
  cases built : fpaLibGroupIdentifierBuild env (.l2Interface (portNum egress) vlanId) with
  | none =>
      simp only [built] at added
      cases added
  | some itsGroup =>
      simp only [built, Option.some.injEq, forall_eq'] at added ⊢
      cases entered : s.hw.fpa.issue env (.groupTableEntryAdd itsGroup) with
      | mk status fpaEntered =>
      simp only [entered] at added
      cases status with
      | fail => cases added
      | ok =>
          simp only [Prod.mk.injEq, true_and, forall_eq']
          cases filled : fpaEntered.issue env
            (.groupEntryBucketAdd itsGroup (.l2Interface (portNum egress) false)) with
          | mk status fpaFilled =>
          simp only [filled] at added ⊢
          cases status with
          | fail => cases added
          | ok =>
              cases added
              simp only
              by_cases noIndex : s.arpIndices 0 = 0
              · rw [if_pos noIndex, if_pos noIndex]
              · rw [if_neg noIndex, if_neg noIndex]
                cases builds : opsFpaRouteAddL3Group env fpa group (s.arpIndices 0) vlanId mtu
                  srcMac dstMac with
                | mk l3Group fpaL3 =>
                cases l3Group with
                | none => simp
                | some l3Group => simp

theorem installHost_unwinds_iff (deletes : env.DeletesSucceed)
    (taken : installHost env s up aux vlanId mtu egress srcMac dstMac ipv4Addr = (rc, next)) :
    (rc ≠ .ok → SameResources env s next) ↔
      UnwindsInstall env s vlanId mtu egress srcMac dstMac ipv4Addr := by
  simp only [installHost] at taken
  cases l2 : opsFpaRouteAddL2Group env s.hw.fpa egress vlanId false with
  | mk result fpaL2 =>
  simp only [l2] at taken
  cases result with
  | none =>
      cases taken
      obtain ⟨sameFlows, unwound⟩ := addL2Group_refused deletes l2
      rw [unwindsInstall_refused l2, ← unwound]
      constructor
      · exact fun same => (same (by decide)).groups
      · exact fun same _ => SameResources.of_fpa same (congrFun sameFlows .l3Unicast)
  | some group =>
      obtain ⟨_, afterL2⟩ := addL2Group_added l2
      rw [unwindsInstall_added l2]
      by_cases noIndex : s.arpIndices 0 = 0
      · simp only [noIndex, if_true] at taken ⊢
        cases taken
        refine Iff.trans ⟨fun same => same (by decide), fun same _ => same⟩
          (sameResources_deleted_iff ?_ ?_)
        · rw [opsFpaRouteDelGroup, issue_delete deletes, afterL2]
          exact (filter_groupEntryBucketAdd _ _ _).trans (filter_groupTableEntryAdd _ _)
        · rw [opsFpaRouteDelGroup, issue_delete deletes, afterL2,
            Asic.flows_groupTableEntryDelete, Asic.flows_groupEntryBucketAdd,
            Asic.flows_groupTableEntryAdd]
      · simp only [noIndex, if_false] at taken ⊢
        -- from here on every exit but the last has lost the index
        have leaks : next.arpIndices = FreeList.pop s.arpIndices → rc = .einval →
            ¬ (rc ≠ .ok → SameResources env s next) := by
          intro popped refused same
          have kept := (same (by rw [refused]; decide)).arpIndices
          rw [popped] at kept
          exact FreeList.pop_ne_self noIndex kept
        cases builds : opsFpaRouteAddL3Group env fpaL2 group (s.arpIndices 0) vlanId mtu
          srcMac dstMac with
        | mk l3Group fpaL3 =>
        simp only [builds] at taken
        cases l3Group with
        | none =>
            cases taken
            refine iff_of_false (leaks rfl rfl) ?_
            rintro ⟨_, _, absurdity, _⟩
            cases absurdity
        | some l3Group =>
            cases routes : opsFpaRouteAddRoute env fpaL3 l3Group ipv4Addr 32 with
            | mk status fpaRouted =>
            simp only [routes] at taken
            cases status with
            | fail =>
                cases taken
                refine iff_of_false (leaks rfl rfl) ?_
                rintro ⟨_, _, same, worked⟩
                cases same
                rw [routes] at worked
                cases worked
            | ok =>
                cases taken
                exact iff_of_true (fun refused => (refused rfl).elim)
                  ⟨l3Group, fpaL3, rfl, by rw [routes]⟩

end Install

theorem HostRequest.determined {ipAddr : CString} {nextHopMacAddr : Option CString}
    {bundle other : Bundle} {l3Intf otherIntf : L3Intf} {port otherPort : Ofport}
    {dstMac otherMac : EthAddr} {egress otherEgress : Int} {ipv4Addr otherAddr : InAddr}
    (request : HostRequest env s up aux ipAddr nextHopMacAddr bundle l3Intf port dstMac egress
      ipv4Addr)
    (again : HostRequest env s up aux ipAddr nextHopMacAddr other otherIntf otherPort otherMac
      otherEgress otherAddr) :
    otherIntf = l3Intf ∧ otherPort = port ∧ otherMac = dstMac ∧ otherEgress = egress ∧
      otherAddr = ipv4Addr := by
  have sameBundle : other = bundle := Option.some.inj (again.found.symm.trans request.found)
  subst sameBundle
  have sameIntf : otherIntf = l3Intf := Option.some.inj (again.routed.symm.trans request.routed)
  have samePort : otherPort = port := Except.ok.inj (again.resolved.symm.trans request.resolved)
  have sameMac : otherMac = dstMac := Option.some.inj (again.nextHop.symm.trans request.nextHop)
  subst sameIntf sameMac
  exact ⟨rfl, samePort, rfl, Except.ok.inj (again.egressFound.symm.trans request.egressFound),
    Option.some.inj (again.address.symm.trans request.address)⟩

/-- A host that cannot be added leaves nothing behind, and takes nothing away, exactly when
the call unwinds as `UnwindsHost` says. -/
theorem failed_add_unwinds_iff (env : Env) (deletes : env.DeletesSucceed) (s : Sys)
    (up : OfprotoRef) (aux : Aux) (isIpv6Addr : Bool) (ipAddr : CString)
    (nextHopMacAddr : Option CString) {rc : Rc} {reply : Option Int} {next : Sys}
    (taken : addL3HostEntry env s up aux isIpv6Addr ipAddr nextHopMacAddr = .ok (rc, reply, next)) :
    (rc ≠ .ok → SameResources env s next) ↔
      UnwindsHost env s up aux isIpv6Addr ipAddr nextHopMacAddr := by
  by_cases requested : isIpv6Addr = false ∧ ∃ bundle l3Intf port dstMac egress ipv4Addr,
      HostRequest env s up aux ipAddr nextHopMacAddr bundle l3Intf port dstMac egress ipv4Addr
  · obtain ⟨rfl, bundle, l3Intf, port, dstMac, egress, ipv4Addr, request⟩ := requested
    rw [request.reaches] at taken
    generalize outcome : installHost env s up aux l3Intf.vlanId port.mtu egress port.netdev.mac
      dstMac ipv4Addr = result at taken
    obtain ⟨code, after⟩ := result
    cases taken
    rw [installHost_unwinds_iff deletes outcome]
    constructor
    · intro unwinds _ _ _ _ _ _ _ again
      obtain ⟨rfl, rfl, rfl, rfl, rfl⟩ := request.determined again
      exact unwinds
    · intro unwinds
      exact unwinds rfl bundle l3Intf port dstMac egress ipv4Addr request
  · have unchanged : next = s := by
      cases isIpv6Addr with
      | true =>
          cases taken
          rfl
      | false =>
          rcases addL3HostEntry_cases taken with ⟨_, same⟩ |
            ⟨bundle, l3Intf, port, dstMac, egress, ipv4Addr, request, _⟩
          · exact same
          · exact (requested ⟨rfl, bundle, l3Intf, port, dstMac, egress, ipv4Addr, request⟩).elim
    subst unchanged
    refine iff_of_true (fun _ => SameResources.of_fpa rfl rfl) ?_
    intro isIpv4 bundle l3Intf port dstMac egress ipv4Addr request
    exact (requested ⟨isIpv4, bundle, l3Intf, port, dstMac, egress, ipv4Addr, request⟩).elim

def hostOf (env : Env) (s : Sys) : Except Fault (Rc × Option Int × Sys) :=
  addL3HostEntry env s 1 100 false "10.0.0.2".toList (some "00:00:00:00:00:02".toList)

def routedCalls : List Call :=
  [.portConstruct 1 1 10 (systemNetdev 1) 1500, .bundleSet 1 100 (some (routedSettings 1024))]

def refusesBuckets : Env :=
  { idealEnv with
    verdict := fun _ call _ =>
      match call with
      | .groupEntryBucketAdd _ _ => .fail
      | _ => .ok }

def learnedOnVlan : List Call :=
  [.portConstruct 1 1 10 (systemNetdev 1) 1500, .bundleSet 1 100 (some idleSettings),
    .portConstruct 1 2 20 ⟨"vlan10".toList, .internal, fpaInvalidIntfId, 2#48⟩ 1500,
    .bundleSet 1 200 (some
      { idleSettings with name := "vlan10".toList, slaves := [2], vlan := 10, enable := true }),
    .addressMsg ⟨.updateNew, 1, 10, 2#48⟩]

def hostOnVlan (env : Env) (s : Sys) : Except Fault (Rc × Option Int × Sys) :=
  addL3HostEntry env s 1 200 false "10.0.0.2".toList (some "00:00:00:00:00:02".toList)

/-- A group that is new to the switch goes again when its bucket is refused. -/
theorem failed_add_unwinds_new_group : ∃ trace state, Run refusesBuckets idealSys trace state ∧
    ∃ reply next, hostOnVlan refusesBuckets state = .ok (.einval, reply, next) ∧
      next.hw.fpa.calls.length = state.hw.fpa.calls.length + 3 ∧
      SameResources refusesBuckets state next := by
  obtain ⟨trace, state, run, refused, noGroups⟩ :=
    run_of_check refusesBuckets idealSys learnedOnVlan
    (fun _ state => (match hostOnVlan refusesBuckets state with
      | .ok (.einval, _, next) =>
          decide (next.hw.fpa.calls.length = state.hw.fpa.calls.length + 3)
      | _ => false) = true ∧ state.hw.fpa.asic.groups = []) (by decide +kernel)
  refine ⟨trace, state, run, ?_⟩
  split at refused
  · rename_i reply next outcome
    refine ⟨reply, next, outcome, of_decide_eq_true refused, ?_⟩
    refine (failed_add_unwinds_iff refusesBuckets (fun _ _ _ => rfl) state 1 200 false
      "10.0.0.2".toList (some "00:00:00:00:00:02".toList) outcome).mpr ?_ (by decide)
    intro _ bundle l3Intf port dstMac egress ipv4Addr _ group _ fpa _
    change state.hw.fpa.asic.hasGroup group = false
    rw [Asic.hasGroup, noGroups]
    rfl
  · cases refused

def refusingEnv : Env :=
  { idealEnv with
    verdict := fun _ call _ =>
      match call with
      | .flowEntryAdd .l3Unicast _ => .fail
      | _ => .ok }

/-- The ARP index of a host whose route is refused is not free any more, and the group of the
routed interface is gone. -/
theorem refused_route_leaks_index : refusingEnv.DeletesSucceed ∧
    ∃ trace state, Run refusingEnv idealSys trace state ∧
      ∃ reply next, hostOf refusingEnv state = .ok (.einval, reply, next) ∧
        next.arpIndices 0 ≠ state.arpIndices 0 ∧
        next.hw.fpa.asic.groups ≠ state.hw.fpa.asic.groups ∧
        ¬ SameResources refusingEnv state next := by
  refine ⟨fun _ _ _ => rfl, ?_⟩
  obtain ⟨trace, state, run, refused⟩ := run_of_check refusingEnv idealSys routedCalls
    (fun _ state => (match hostOf refusingEnv state with
      | .ok (.einval, _, next) => next.arpIndices 0 ≠ state.arpIndices 0 &&
          next.hw.fpa.asic.groups ≠ state.hw.fpa.asic.groups
      | _ => false) = true) (by decide +kernel)
  refine ⟨trace, state, run, ?_⟩
  split at refused
  · rename_i reply next outcome
    rw [Bool.and_eq_true, decide_eq_true_eq, decide_eq_true_eq] at refused
    exact ⟨reply, next, outcome, refused.1, refused.2, fun same => refused.2 same.groups⟩
  · cases refused

end FpaPlugin
