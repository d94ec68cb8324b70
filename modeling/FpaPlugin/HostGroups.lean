import FpaPlugin.ArpIndices
import FpaPlugin.HwSpec

/-! What a live host has in the switch: its own ARP index, the L3 group that goes with the
index, and in the bucket of that group the neighbour it was added for. -/

namespace FpaPlugin

variable {env : Env}

structure NextHop where
  mac : EthAddr
  egress : Int
  vlanId : Nat
  deriving DecidableEq

def requestedNextHop (env : Env) (s : Sys) (up : OfprotoRef) (aux : Aux)
    (nextHopMacAddr : Option CString) : Option NextHop :=
  match l3IntfOf env s up aux, nextHopMacAddr.bind env.ethAddrFromString with
  | some l3Intf, some mac =>
      match l3EgressId s l3Intf mac with
      | .ok egress => some ⟨mac, egress, l3Intf.vlanId⟩
      | .error _ => none
  | _, _ => none

/-- The neighbour behind a host: that of the latest call which put it into the table. -/
def hostNextHop (env : Env) : Trace → HostTableEntry → Option NextHop
  | [], _ => none
  | event :: earlier, entry =>
      if entry ∈ event.after.hostTable.values ∧ entry ∉ event.before.hostTable.values then
        match event.input with
        | .addL3Host up aux _ _ nextHopMacAddr =>
            requestedNextHop env event.before up aux nextHopMacAddr
        | _ => none
      else hostNextHop env earlier entry

section Hosts

variable {s next : Sys} {up : OfprotoRef} {aux : Aux} {rc : Rc}
  {origin : HostTableEntry → Option NextHop}

structure HostSound (env : Env) (origin : HostTableEntry → Option NextHop) (asic : Asic)
    (host : HostTableEntry) : Prop where
  l3Group : fpaLibGroupIdentifierBuild env (.l3Unicast host.arpIndex) = some host.l3Group
  l2Group : host.l2Group < l3GroupBase
  bucket : ∃ nextHop data, origin host = some nextHop ∧
    asic.bucketOf host.l3Group = some (.l3Unicast data) ∧
    data.dstMac = nextHop.mac ∧ isL2Group env nextHop.egress nextHop.vlanId data.refGroupId

structure HostsSound (env : Env) (origin : HostTableEntry → Option NextHop) (s : Sys) : Prop where
  indices : IndicesSound s.arpIndices s.hostTable
  each : ∀ host ∈ s.hostTable.values, HostSound env origin s.hw.fpa.asic host
  noStale : ∀ group, l3GroupBase ≤ group → s.hw.fpa.asic.hasGroup group = true →
    ∃ host ∈ s.hostTable.values, host.l3Group = group

theorem HostSound.base_le {asic : Asic} {host : HostTableEntry}
    (sound : HostSound env origin asic host) :
    l3GroupBase ≤ host.l3Group := by
  have isGroup := l3Group_eq sound.l3Group
  omega

theorem HostSound.congr {asic other : Asic} {host : HostTableEntry}
    (sound : HostSound env origin asic host)
    (same : other.bucketOf host.l3Group = asic.bucketOf host.l3Group) :
    HostSound env origin other host where
  l3Group := sound.l3Group
  l2Group := sound.l2Group
  bucket := by
    rw [same]
    exact sound.bucket

theorem HostsSound.framed (sound : HostsSound env origin s) (same : SameHosts s next) :
    HostsSound env origin next where
  indices := by
    rw [same.arpIndices, same.hostTable]
    exact sound.indices
  each := by
    intro host member
    rw [same.hostTable] at member
    exact (sound.each host member).congr (same.l3.buckets _ (sound.each host member).base_le)
  noStale := by
    intro group bound present
    rw [same.hostTable]
    rw [same.l3.groups group bound] at present
    exact sound.noStale group bound present

theorem HostsSound.eq_of_l3Group (sound : HostsSound env origin s) {host other : HostTableEntry}
    (member : host ∈ s.hostTable.values) (otherMember : other ∈ s.hostTable.values)
    (same : host.l3Group = other.l3Group) : host = other := by
  obtain ⟨_, _, unique, _⟩ := sound.indices
  have isGroup := l3Group_eq (sound.each host member).l3Group
  have isOther := l3Group_eq (sound.each other otherMember).l3Group
  exact List.inj_on_of_nodup_map unique member otherMember (by omega)

theorem deleteHost_l3 (succeeds : env.AllSucceed) (s : Sys) (up : OfprotoRef) (aux : Aux)
    (l3Intf : L3Intf) {entry : HostTableEntry} (l2Group : entry.l2Group < l3GroupBase) :
    SameL3 ((s.hw.fpa.asic.apply (.flowTableCookieDelete .l3Unicast
        (opsFpaRouteIpv4Cookie entry.ipv4Addr 32))).apply (.groupTableEntryDelete entry.l3Group))
      (deleteHost env s up aux l3Intf entry).hw.fpa.asic := by
  rw [deleteHost_eq]
  change SameL3 _ (hostDeletedHw env s.hw l3Intf entry).fpa.asic
  simp only [hostDeletedHw, opsFpaRouteDelRoute, opsFpaRouteDelGroup, Fpa.issue_ok succeeds]
  have isL2 : L2Call (fun _ => True) (.groupTableEntryDelete entry.l2Group) := ⟨l2Group, trivial⟩
  split
  · have down : ∀ hw : Hw, SameL3 hw.fpa.asic (opsFpaDisableRouting env hw l3Intf).fpa.asic :=
      fun hw => (disableRouting_l2 hw l3Intf).sameL3
    exact SameL3.trans (SameL3.apply _ isL2) (down ⟨⟨_, _⟩, _, _⟩)
  · exact SameL3.apply _ isL2

theorem HostsSound.delete (succeeds : env.AllSucceed) (sound : HostsSound env origin s)
    {isIpv6Addr : Bool} {ipAddr : CString}
    (taken : deleteL3HostEntry env s up aux isIpv6Addr ipAddr = .ok (rc, next)) :
    HostsSound env origin next ∧
      (∀ host ∈ next.hostTable.values, host ∈ s.hostTable.values) ∧
      (∀ flow ∈ next.hw.fpa.asic.flows .l3Unicast, flow ∈ s.hw.fpa.asic.flows .l3Unicast) ∧
      (∀ host ∈ s.hostTable.values, host ∈ next.hostTable.values ∨
        (hostAddress ipAddr).bind (hostTableFind env s.hostTable) = some host ∧
        ∀ flow ∈ next.hw.fpa.asic.flows .l3Unicast,
          flow.cookie ≠ opsFpaRouteIpv4Cookie host.ipv4Addr 32) := by
  have still := deleteL3HostEntry_indicesSound sound.indices taken
  rcases deleteL3HostEntry_cases taken with ⟨_, rfl⟩ |
    ⟨_, _, bundle, l3Intf, ipv4Addr, entry, _, _, address, found, rfl⟩
  · exact ⟨sound, fun _ member => member, fun _ member => member, fun _ member => .inl member⟩
  · have perm := Hmap.values_remove_perm (hostTableFind_some found).1
    have entryMember : entry ∈ s.hostTable.values := perm.mem_iff.mp List.mem_cons_self
    have sameL3 := deleteHost_l3 succeeds s up aux l3Intf (sound.each entry entryMember).l2Group
    have tableEq : (deleteHost env s up aux l3Intf entry).hostTable =
        hostTableDelete env s.hostTable entry := by
      rw [deleteHost_eq]
      rfl
    have flowsEq : (deleteHost env s up aux l3Intf entry).hw.fpa.asic.flows .l3Unicast =
        (s.hw.fpa.asic.flows .l3Unicast).filter fun flow =>
          flow.cookie ≠ opsFpaRouteIpv4Cookie entry.ipv4Addr 32 := by
      rw [sameL3.flows, Asic.flows_groupTableEntryDelete, Asic.flows_cookieDelete]
    have subset : ∀ host ∈ hostTableDelete env s.hostTable entry |>.values,
        host ∈ s.hostTable.values :=
      fun host member => perm.mem_iff.mp (List.mem_cons_of_mem _ member)
    rw [tableEq, flowsEq]
    refine ⟨⟨still, ?_, ?_⟩, subset, fun _ member => List.mem_of_mem_filter member, ?_⟩
    · intro host member
      rw [tableEq] at member
      have old := sound.each host (subset host member)
      -- the deleted host was in the table once, so this one has another group
      have different : host.l3Group ≠ entry.l3Group := by
        intro same
        have isEntry := sound.eq_of_l3Group (subset host member) entryMember same
        obtain ⟨_, _, unique, _⟩ := sound.indices
        have once := (List.nodup_cons.mp
          ((perm.map HostTableEntry.arpIndex).nodup_iff.mpr unique)).1
        exact once (List.mem_map.mpr ⟨host, member, by rw [isEntry]⟩)
      refine old.congr ((sameL3.buckets _ old.base_le).trans ?_)
      exact Asic.bucketOf_groupTableEntryDelete different
    · intro group bound present
      rw [sameL3.groups group bound, Asic.hasGroup_groupTableEntryDelete, Bool.and_eq_true,
        bne_iff_ne] at present
      obtain ⟨different, was⟩ := present
      obtain ⟨host, member, isGroup⟩ := sound.noStale group bound was
      rw [tableEq]
      rcases List.mem_cons.mp (perm.mem_iff.mpr member) with same | stays
      · exact (different (by rw [← isGroup, same])).elim
      · exact ⟨host, stays, isGroup⟩
    · intro host member
      rcases List.mem_cons.mp (perm.mem_iff.mpr member) with same | stays
      · refine .inr ⟨?_, ?_⟩
        · rw [address, same]
          exact found
        · intro flow inTable
          rw [same]
          simpa using (List.mem_filter.mp inTable).2
      · exact .inl stays

theorem addL2Group_some {fpa after : Fpa} {pid : Int} {vid group : Nat} {popTag : Bool}
    (added : opsFpaRouteAddL2Group env fpa pid vid popTag = (some group, after)) :
    isL2Group env pid vid group := by
  simp only [opsFpaRouteAddL2Group] at added
  split at added
  · cases added
  · rename_i built
    split at added
    · cases added
    · split at added
      · cases added
        exact built
      · cases added

theorem addL3Group_some {fpa after : Fpa} {l2Group arpIndex vid mtu l3Group : Nat}
    {srcMac dstMac : EthAddr}
    (added : opsFpaRouteAddL3Group env fpa l2Group arpIndex vid mtu srcMac dstMac =
      (some l3Group, after)) :
    fpaLibGroupIdentifierBuild env (.l3Unicast arpIndex) = some l3Group ∧
      after.asic = (fpa.asic.apply (.groupTableEntryAdd l3Group)).apply
        (.groupEntryBucketAdd l3Group (.l3Unicast ⟨dstMac, srcMac, vid, mtu, l2Group⟩)) := by
  simp only [opsFpaRouteAddL3Group] at added
  split at added
  · cases added
  · rename_i group built
    split at added
    · cases added
    · split at added
      · cases added
      · rename_i between ok
        split at added
        · rename_i filled done
          cases added
          refine ⟨built, ?_⟩
          simp only [Fpa.issue, Prod.mk.injEq] at ok done
          rw [← done.2, ← ok.2]
          simp only [ok.1, if_true, ← ok.2] at done ⊢
          simp only [done.1, if_true]
        · cases added

theorem issue_groups {call : FpaCall} (kept : ∀ asic : Asic, (asic.apply call).groups = asic.groups)
    (fpa : Fpa) : (fpa.issue env call).2.asic.groups = fpa.asic.groups := by
  simp only [Fpa.issue]
  split
  · exact kept fpa.asic
  · rfl

theorem addRouteFlow_groups (fpa : Fpa) (flow : FlowEntry .l3Unicast) :
    (addRouteFlow env fpa flow).2.asic.groups = fpa.asic.groups := by
  have started := @issue_groups env (.flowEntryInit .l3Unicast) (fun _ => rfl) fpa
  simp only [addRouteFlow]
  split
  · rename_i failed
    rwa [failed] at started
  · rename_i ok
    rw [ok] at started
    rw [issue_groups fun _ => rfl]
    exact started

theorem installHost_refused (succeeds : env.AllSucceed) {vlanId mtu : Nat} {egress : Int}
    {srcMac dstMac : EthAddr} {ipv4Addr : InAddr}
    (taken : installHost env s up aux vlanId mtu egress srcMac dstMac ipv4Addr = (.einval, next)) :
    SameL3 s.hw.fpa.asic next.hw.fpa.asic ∧ next.hostTable = s.hostTable := by
  have issued := (@addL2Group_issues env s.hw.fpa egress vlanId false).mono VlanCall.isL2
  simp only [installHost] at taken
  split at taken
  · rename_i failed
    cases taken
    rw [failed] at issued
    exact ⟨issued.sameL3, rfl⟩
  · rename_i l2Group fpaL2 added
    have built := addL2Group_some added
    have deleted : ∀ fpa : Fpa,
        SameL3 fpa.asic (opsFpaRouteDelGroup env fpa l2Group).2.asic := by
      intro fpa
      have one : Issues env (L2Call fun _ => True) fpa (opsFpaRouteDelGroup env fpa l2Group).2 :=
        .one ⟨l2Group_lt built, trivial⟩
      exact one.sameL3
    rw [added] at issued
    split at taken
    · cases taken
      exact ⟨issued.sameL3.trans (deleted fpaL2), rfl⟩
    · split at taken
      · rename_i fpaL3 failed
        cases taken
        -- with every call accepted, only the index itself can have been refused
        have untouched : fpaL3 = fpaL2 := by
          simp only [opsFpaRouteAddL3Group, Fpa.issue_ok succeeds] at failed
          split at failed
          · cases failed
            rfl
          · split at failed
            · cases failed
              rfl
            · cases failed
        rw [untouched]
        exact ⟨issued.sameL3.trans (deleted fpaL2), rfl⟩
      · split at taken
        · rename_i failed
          simp only [opsFpaRouteAddRoute, addRouteFlow, Fpa.issue_ok succeeds] at failed
          cases failed
        · cases taken

theorem HostsSound.add (sound : HostsSound env origin s) {vlanId mtu : Nat} {egress : Int}
    {srcMac dstMac : EthAddr} {ipv4Addr : InAddr} {fpa : Fpa} {l2Group l3Group : Nat}
    (installed : HostInstalled env s vlanId mtu egress srcMac dstMac ipv4Addr fpa l2Group l3Group)
    {later : HostTableEntry → Option NextHop}
    (kept : ∀ host ∈ s.hostTable.values, later host = origin host)
    (known : later ⟨ipv4Addr, s.arpIndices 0, l3Group, l2Group⟩ = some ⟨dstMac, egress, vlanId⟩) :
    HostsSound env later
      (hostAdded env s up aux fpa ⟨ipv4Addr, s.arpIndices 0, l3Group, l2Group⟩) := by
  obtain ⟨available, fpaL2, fpaL3, addedL2, addedL3, addedRoute⟩ := installed
  have builtL2 := addL2Group_some addedL2
  obtain ⟨builtL3, asicL3⟩ := addL3Group_some addedL3
  have sameL2 : SameL3 s.hw.fpa.asic fpaL2.asic := by
    have issued := (@addL2Group_issues env s.hw.fpa egress vlanId false).mono VlanCall.isL2
    rw [addedL2] at issued
    exact issued.sameL3
  have buckets : ∀ group, fpa.asic.bucketOf group = fpaL3.asic.bucketOf group := by
    have groups := @addRouteFlow_groups env fpaL3 (routeFlow env l3Group .none ipv4Addr 32)
    rw [← opsFpaRouteAddRoute, addedRoute] at groups
    exact Asic.bucketOf_congr groups
  have perm : (hostAdded env s up aux fpa
      ⟨ipv4Addr, s.arpIndices 0, l3Group, l2Group⟩).hostTable.values.Perm
        (⟨ipv4Addr, s.arpIndices 0, l3Group, l2Group⟩ :: s.hostTable.values) :=
    Hmap.values_insert_perm env.growth s.hostTable _ _
  refine ⟨sound.indices.add available rfl, ?_, ?_⟩
  swap
  · intro group bound present
    have groups := @addRouteFlow_groups env fpaL3 (routeFlow env l3Group .none ipv4Addr 32)
    rw [← opsFpaRouteAddRoute, addedRoute] at groups
    change fpa.asic.hasGroup group = true at present
    rw [Asic.hasGroup_congr groups, asicL3, Asic.hasGroup_groupEntryBucketAdd,
      Asic.hasGroup_groupTableEntryAdd, Bool.or_eq_true, beq_iff_eq,
      sameL2.groups group bound] at present
    rcases present with new | old
    · exact ⟨_, perm.mem_iff.mpr List.mem_cons_self, new.symm⟩
    · obtain ⟨host, member, isGroup⟩ := sound.noStale group bound old
      exact ⟨host, perm.mem_iff.mpr (List.mem_cons_of_mem _ member), isGroup⟩
  intro host member
  change HostSound env later fpa.asic host
  rcases List.mem_cons.mp (perm.mem_iff.mp member) with same | old
  · subst same
    refine ⟨builtL3, l2Group_lt builtL2, ⟨dstMac, egress, vlanId⟩,
      ⟨dstMac, srcMac, vlanId, mtu, l2Group⟩, known, ?_, rfl, builtL2⟩
    rw [buckets, asicL3]
    exact Asic.bucketOf_groupEntryBucketAdd (by simp)
  · have oldSound := sound.each host old
    have different : host.l3Group ≠ l3Group := by
      obtain ⟨free, holds, _, live⟩ := sound.indices
      obtain ⟨rest, freeEq, _⟩ := holds.pop available
      have notFree := (live host.arpIndex (List.mem_map_of_mem old)).1
      rw [freeEq] at notFree
      have otherIndex : host.arpIndex ≠ s.arpIndices 0 :=
        fun same => notFree (same ▸ List.mem_cons_self)
      have isGroup := l3Group_eq oldSound.l3Group
      have isNew := l3Group_eq builtL3
      omega
    have same : fpa.asic.bucketOf host.l3Group = s.hw.fpa.asic.bucketOf host.l3Group := by
      rw [buckets, asicL3, Asic.bucketOf_groupEntryBucketAdd_ne different,
        Asic.bucketOf_groupTableEntryAdd different, sameL2.buckets _ oldSound.base_le]
    obtain ⟨l3, l2, bucket⟩ := oldSound.congr same
    rw [← kept host old] at bucket
    exact ⟨l3, l2, bucket⟩

theorem replaceRoute_groups {ipv4 : InAddr} {maskLen : Int} {add : Fpa → Status × Fpa}
    (adds : ∀ fpa : Fpa, (add fpa).2.asic.groups = fpa.asic.groups)
    (replaced : replaceRoute env s ipv4 maskLen add = (rc, next)) :
    next.hw.fpa.asic.groups = s.hw.fpa.asic.groups := by
  have deleted : (opsFpaRouteDelRoute env s.hw.fpa ipv4 maskLen).2.asic.groups =
      s.hw.fpa.asic.groups := issue_groups (fun _ => rfl) s.hw.fpa
  have added := adds (opsFpaRouteDelRoute env s.hw.fpa ipv4 maskLen).2
  rw [deleted] at added
  simp only [replaceRoute] at replaced
  split at replaced
  · rename_i done
    cases replaced
    rwa [done] at added
  · rename_i failed
    cases replaced
    rwa [failed] at added

theorem l3RouteAction_groups {action : RouteAction} {route : OfprotoRoute}
    (taken : l3RouteAction env s action route = (rc, next)) :
    next.hw.fpa.asic.groups = s.hw.fpa.asic.groups := by
  have trapped : ∀ ipv4 maskLen (fpa : Fpa),
      (opsFpaRouteAddRouteTrap env fpa ipv4 maskLen).2.asic.groups = fpa.asic.groups :=
    fun ipv4 maskLen fpa => addRouteFlow_groups fpa _
  have routed : ∀ l3Group ipv4 maskLen (fpa : Fpa),
      (opsFpaRouteAddRoute env fpa l3Group ipv4 maskLen).2.asic.groups = fpa.asic.groups :=
    fun l3Group ipv4 maskLen fpa => addRouteFlow_groups fpa _
  simp only [l3RouteAction, addRoute] at taken
  repeat' split at taken
  all_goals first
    | exact replaceRoute_groups (routed _ _ _) taken
    | exact replaceRoute_groups (trapped _ _) taken
    | cases taken; exact issue_groups (fun _ => rfl) s.hw.fpa
    | cases taken; rfl

end Hosts

section Step

variable {s next : Sys} {up : OfprotoRef} {aux : Aux} {rc : Rc} {trace : Trace}

theorem hostNextHop_kept {event : Event} {host : HostTableEntry}
    (old : host ∈ event.before.hostTable.values) :
    hostNextHop env (event :: trace) host = hostNextHop env trace host := by
  rw [hostNextHop, if_neg]
  exact fun fresh => fresh.2 old

theorem HostsSound.later {event : Event}
    (sound : HostsSound env (hostNextHop env trace) event.after)
    (subset : ∀ host ∈ event.after.hostTable.values, host ∈ event.before.hostTable.values) :
    HostsSound env (hostNextHop env (event :: trace)) event.after := by
  refine ⟨sound.indices, fun host member => ?_, sound.noStale⟩
  obtain ⟨l3, l2, bucket⟩ := sound.each host member
  rw [← hostNextHop_kept (subset host member)] at bucket
  exact ⟨l3, l2, bucket⟩

theorem addL3Host_hostsSound {isIpv6Addr : Bool} {ipAddr : CString}
    {nextHopMacAddr : Option CString} {reply : Option Int} (succeeds : env.AllSucceed)
    (sound : HostsSound env (hostNextHop env trace) s)
    (taken : addL3HostEntry env s up aux isIpv6Addr ipAddr nextHopMacAddr = .ok (rc, reply, next)) :
    HostsSound env (hostNextHop env
        (⟨s, .addL3Host up aux isIpv6Addr ipAddr nextHopMacAddr, rc, next⟩ :: trace)) next ∧
      ∀ host ∈ s.hostTable.values, host ∈ next.hostTable.values := by
  have indices := addL3HostEntry_indicesSound sound.indices taken
  have refused : SameL3 s.hw.fpa.asic next.hw.fpa.asic → next.hostTable = s.hostTable →
      HostsSound env (hostNextHop env
        (⟨s, .addL3Host up aux isIpv6Addr ipAddr nextHopMacAddr, rc, next⟩ :: trace)) next ∧
      ∀ host ∈ s.hostTable.values, host ∈ next.hostTable.values := by
    intro same sameTable
    have still : HostsSound env (hostNextHop env trace) next := by
      refine ⟨indices, ?_, ?_⟩
      · intro host member
        rw [sameTable] at member
        have old := sound.each host member
        exact old.congr (same.buckets _ old.base_le)
      · intro group bound present
        rw [sameTable]
        rw [same.groups group bound] at present
        exact sound.noStale group bound present
    refine ⟨@HostsSound.later env trace ⟨s, .addL3Host up aux isIpv6Addr ipAddr nextHopMacAddr, rc,
      next⟩ still (fun host member => sameTable ▸ member), fun host member => sameTable ▸ member⟩
  rcases addL3HostEntry_cases taken with ⟨_, rfl⟩ |
    ⟨bundle, l3Intf, port, dstMac, egress, ipv4Addr, request, installed⟩
  · exact refused (SameL3.refl _) rfl
  · rcases installHost_cases installed with ⟨isRefused, _⟩ |
      ⟨_, fpa, l2Group, l3Group, acquired, rfl⟩
    · subst isRefused
      obtain ⟨same, sameTable⟩ := installHost_refused succeeds installed
      exact refused same sameTable
    · have perm : (hostAdded env s up aux fpa
          ⟨ipv4Addr, s.arpIndices 0, l3Group, l2Group⟩).hostTable.values.Perm
            (⟨ipv4Addr, s.arpIndices 0, l3Group, l2Group⟩ :: s.hostTable.values) :=
        Hmap.values_insert_perm env.growth s.hostTable _ _
      have absent := sound.indices.fresh acquired.available
        (show (HostTableEntry.mk ipv4Addr (s.arpIndices 0) l3Group l2Group).arpIndex =
          s.arpIndices 0 from rfl)
      have requested : requestedNextHop env s up aux nextHopMacAddr =
          some ⟨dstMac, egress, l3Intf.vlanId⟩ := by
        have routed : l3IntfOf env s up aux = some l3Intf := by
          rw [l3IntfOf, request.found]
          exact request.routed
        simp only [requestedNextHop, routed, request.nextHop, request.egressFound]
      refine ⟨sound.add acquired (fun host member => hostNextHop_kept member) ?_, ?_⟩
      · rw [hostNextHop, if_pos ⟨perm.mem_iff.mpr List.mem_cons_self, absent⟩]
        exact requested
      · exact fun host member => perm.mem_iff.mpr (List.mem_cons_of_mem _ member)

theorem routeAction_hostsSound {action : RouteAction} {route : OfprotoRoute}
    (sound : HostsSound env (hostNextHop env trace) s)
    (taken : l3RouteAction env s action route = (rc, next)) :
    HostsSound env (hostNextHop env trace) next ∧ next.hostTable = s.hostTable := by
  have groups := l3RouteAction_groups taken
  obtain ⟨fpa, isNext⟩ := l3RouteAction_frame taken
  have sameTable : next.hostTable = s.hostTable := by rw [isNext]
  have sameCells : next.arpIndices = s.arpIndices := by rw [isNext]
  refine ⟨⟨?_, ?_, ?_⟩, sameTable⟩
  · rw [sameCells, sameTable]
    exact sound.indices
  · intro host member
    rw [sameTable] at member
    exact (sound.each host member).congr (Asic.bucketOf_congr groups _)
  · intro group bound present
    rw [sameTable]
    rw [Asic.hasGroup_congr groups] at present
    exact sound.noStale group bound present

theorem bundleSet_hostsSound {set : Option BundleSettings} (succeeds : env.AllSucceed)
    (keyed : BundlesKeyed env s) (sound : HostsSound env (hostNextHop env trace) s)
    (taken : opsFpaOfprotoBundleSet env s up aux set = .ok (rc, next)) :
    HostsSound env (hostNextHop env trace) next ∧
      ∀ host ∈ next.hostTable.values, host ∈ s.hostTable.values := by
  refine bundleSet_hosts_rule keyed (fun state => HostsSound env (hostNextHop env trace) state ∧
    ∀ host ∈ state.hostTable.values, host ∈ s.hostTable.values) ?_ ?_
    ⟨sound, fun _ member => member⟩ taken
  · intro state after same kept
    exact ⟨kept.1.framed same, same.hostTable ▸ kept.2⟩
  · intro settings address _ _ state rc after kept deleted
    obtain ⟨still, subset, _, _⟩ := kept.1.delete succeeds deleted
    exact ⟨still, fun host member => kept.2 host (subset host member)⟩

theorem step_hostsSound {call : Call} (succeeds : env.AllSucceed) (keyed : BundlesKeyed env s)
    (sound : HostsSound env (hostNextHop env trace) s) (taken : step env s call = .ok (rc, next)) :
    HostsSound env (hostNextHop env (⟨s, call, rc, next⟩ :: trace)) next := by
  have shrink : HostsSound env (hostNextHop env trace) next →
      (∀ host ∈ next.hostTable.values, host ∈ s.hostTable.values) →
      HostsSound env (hostNextHop env (⟨s, call, rc, next⟩ :: trace)) next :=
    fun still subset => @HostsSound.later env trace ⟨s, call, rc, next⟩ still subset
  rcases step_cases taken with ⟨up, aux, set, rfl, changed⟩ |
    ⟨up, aux, isIpv6Addr, ipAddr, nextHopMacAddr, reply, rfl, added⟩ |
    ⟨up, aux, isIpv6Addr, ipAddr, rfl, deleted⟩ | ⟨peripheral, _, sameTable, _⟩
  · obtain ⟨still, subset⟩ := bundleSet_hostsSound succeeds keyed sound changed
    exact shrink still subset
  · exact (addL3Host_hostsSound succeeds sound added).1
  · obtain ⟨still, subset, _, _⟩ := sound.delete succeeds deleted
    exact shrink still subset
  · refine shrink ?_ (fun host member => sameTable ▸ member)
    rcases peripheral_sameHosts peripheral taken with ⟨action, route, rfl⟩ | same
    · simp only [step, Except.ok.injEq] at taken
      exact (routeAction_hostsSound sound taken).1
    · exact sound.framed same

theorem Initial.hostsSound (initial : Initial s) (origin : HostTableEntry → Option NextHop) :
    HostsSound env origin s where
  indices := initial.indicesSound
  each := by
    rw [initial.hostTable]
    intro host member
    simp [Hmap.values] at member
  noStale := by
    rw [initial.asic]
    intro group _ present
    simp [Asic.hasGroup] at present

end Step

end FpaPlugin
