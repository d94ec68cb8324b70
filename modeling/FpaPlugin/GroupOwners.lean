import FpaPlugin.HostGroups
import FpaPlugin.Membership

/-! Who needs an L2-interface group. Hosts, VLAN memberships and routed interfaces create
and delete the group of their port and VLAN without counting one another. -/

namespace FpaPlugin

variable {env : Env}

inductive GroupOwner
  | host (entry : HostTableEntry)
  | member (port vid : Nat) (popTag : Bool)
  | interface (up : OfprotoRef) (aux : Aux)
  deriving DecidableEq

def InterfaceGroup (env : Env) (l3Intf : L3Intf) (group : Nat) : Prop :=
  l3Intf.vlanIntf = true ∧ isL2Group env l3Intf.intfId l3Intf.vlanId group

def Owns (env : Env) (s : Sys) : GroupOwner → Nat → Prop
  | .host entry, group => entry ∈ s.hostTable.values ∧ entry.l2Group = group
  | .member port vid popTag, group =>
      s.hw.members port (vidxEgress vid popTag) = true ∧
        fpaLibGroupIdentifierBuild env (.l2Interface port vid) = some group
  | .interface up aux, group =>
      ∃ l3Intf, l3IntfOf env s up aux = some l3Intf ∧ InterfaceGroup env l3Intf group

def GroupsPresent (env : Env) (s : Sys) : Prop :=
  ∀ owner group, Owns env s owner group → s.hw.fpa.asic.hasGroup group = true

def Spares (env : Env) (s : Sys) (group : Nat) (givenUp : GroupOwner → Prop) : Prop :=
  ∀ owner, Owns env s owner group → givenUp owner

section Conditions

def takenDown (env : Env) (s : Sys) (up : OfprotoRef) (aux : Aux) :
    Option BundleSettings → Option L3Intf
  | none => l3IntfOf env s up aux
  | some set =>
      match set.slaves, (s.ofprotos up).type with
      | [slave], .vrf =>
          (l3IntfOf env s up aux).filter fun l3Intf =>
            !set.enable && l3Intf.routesCount = 0 &&
              (((ofprotoGetPort s up slave).bind s.ofports).bind fun port =>
                routedVlanId port.netdev.type set).isSome
      | _, _ => none

def EndsWith (up : OfprotoRef) (aux : Aux) (l3Intf : L3Intf) (owner : GroupOwner) : Prop :=
  l3Intf.vlanIntf = true ∧
    (owner = .member (portNum l3Intf.intfId) l3Intf.vlanId false ∨ owner = .interface up aux)

def configuredPort (env : Env) (s : Sys) (up : OfprotoRef) (aux : Aux) (set : BundleSettings) :
    Option Ofport :=
  (configuredRef env s up aux set).bind s.ofports

/-- A pass over the VIDX of a port that ends with the group of a VLAN deleted leaves no
membership of that VLAN behind, and takes the group from nobody else. -/
def ChangesSafely (env : Env) (s : Sys) (vlans desired : Bitmap) (pid : Int) : Prop :=
  let changes := vidxChanges vlans (opsFpaVlanFetch env s.hw.fpa pid) desired
  let adds vid popTag := changes (vidxEgress vid popTag) && desired (vidxEgress vid popTag)
  let deletes vid popTag := changes (vidxEgress vid popTag) && !desired (vidxEgress vid popTag)
  ∀ vid group, isL2Group env pid vid group →
    (deletes vid true || deletes vid false && !adds vid true) = true →
    adds vid false = false ∧ Spares env s group fun owner =>
      ∃ popTag, deletes vid popTag = true ∧ owner = .member (portNum pid) vid popTag

/-- The call deletes a group only when no owner is left that needs it. -/
def ReleasesSafely (env : Env) (s : Sys) : Call → Prop
  | .bundleSet up aux set =>
      (∀ l3Intf, takenDown env s up aux set = some l3Intf → ∀ group,
        InterfaceGroup env l3Intf group → Spares env s group (EndsWith up aux l3Intf)) ∧
      ∀ settings port, set = some settings → configuredPort env s up aux settings = some port →
        ChangesSafely env s (s.ofprotos up).vlans (vnew settings) (netdevGetIfindex port.netdev)
  | .setVlan up vid false =>
      ∀ bundle ∈ (s.ofprotos up).bundles.values, ∀ port,
        (opsFpaGetOfportByPid s bundle.intfId).bind s.ofports = some port →
        ∀ popTag group,
          opsFpaVlanFetch env s.hw.fpa port.ofpPort (vidxEgress vid popTag) = true →
          isL2Group env (netdevGetIfindex port.netdev) vid group →
          Spares env s group fun owner =>
            owner = .member (portNum (netdevGetIfindex port.netdev)) vid popTag
  | .addL3Host up aux isIpv6Addr ipAddr nextHopMacAddr =>
      -- without a free ARP index the group is deleted again
      s.arpIndices 0 = 0 → isIpv6Addr = false → hostAddress ipAddr ≠ none → ∀ nextHop,
        requestedNextHop env s up aux nextHopMacAddr = some nextHop →
        ∀ group, isL2Group env nextHop.egress nextHop.vlanId group →
          Spares env s group fun _ => False
  | .deleteL3Host up aux isIpv6Addr ipAddr =>
      ∀ l3Intf entry, deletedHost env s up aux isIpv6Addr ipAddr = some (l3Intf, entry) →
        ∀ group, (group = entry.l2Group ∨
            releasedIntf l3Intf = none ∧ InterfaceGroup env l3Intf group) →
          Spares env s group fun owner =>
            owner = .host entry ∨ releasedIntf l3Intf = none ∧ EndsWith up aux l3Intf owner
  | _ => True

def keepsHosts (env : Env) (s : Sys) : Call → Bool
  | .bundleSet up aux (some set) =>
      (s.ofprotos up).type ≠ .vrf ||
        ((((opsFpaFindBundle env s up aux).bind fun bundle => deletedAddress bundle set).bind
          hostAddress).bind (hostTableFind env s.hostTable)).isNone
  | _ => true

end Conditions

section Rules

variable {s next : Sys} {origin : HostTableEntry → Option NextHop}

theorem Owns.lt (sound : HostsSound env origin s) {owner : GroupOwner} {group : Nat}
    (owns : Owns env s owner group) : group < l3GroupBase := by
  cases owner with
  | host entry =>
      rw [← owns.2]
      exact (sound.each entry owns.1).l2Group
  | member port vid popTag => exact l2Group_lt owns.2
  | interface up aux =>
      obtain ⟨_, _, _, isGroup⟩ := owns
      exact l2Group_lt isGroup

theorem owns_congr (interfaces : ∀ up aux, l3IntfOf env next up aux = l3IntfOf env s up aux)
    (hosts : next.hostTable = s.hostTable) (members : next.hw.members = s.hw.members)
    (owner : GroupOwner) (group : Nat) : Owns env next owner group ↔ Owns env s owner group := by
  cases owner with
  | host entry => simp only [Owns, hosts]
  | member port vid popTag => simp only [Owns, members]
  | interface up aux => simp only [Owns, interfaces]

theorem HostsSound.next_l3Group (builds : env.BuildsIdents) (sound : HostsSound env origin s)
    (available : s.arpIndices 0 ≠ 0) :
    ∃ group, fpaLibGroupIdentifierBuild env (.l3Unicast (s.arpIndices 0)) = some group ∧
      l3GroupBase ≤ group ∧ s.hw.fpa.asic.hasGroup group = false := by
  obtain ⟨free, holds, _, live⟩ := sound.indices
  obtain ⟨rest, isFree, _⟩ := holds.pop available
  have head : s.arpIndices 0 ∈ free := by
    rw [isFree]
    exact List.mem_cons_self
  have small : s.arpIndices 0 < 2 ^ 28 := by
    have size : arpIndicesSize = 1024 := rfl
    have inRange := (holds.inRange _ head).2
    omega
  have built : fpaLibGroupIdentifierBuild env (.l3Unicast (s.arpIndices 0)) =
      some (2 <<< 28 ||| s.arpIndices 0) := builds (.l3Unicast (s.arpIndices 0)) small
  have isGroup := l3Group_eq built
  refine ⟨_, built, by omega, ?_⟩
  rw [Bool.eq_false_iff]
  intro stale
  obtain ⟨host, isLive, same⟩ := sound.noStale _ (by omega) stale
  have hostGroup := l3Group_eq (sound.each host isLive).l3Group
  have index : host.arpIndex = s.arpIndices 0 := by omega
  have notFree := (live host.arpIndex (List.mem_map_of_mem isLive)).1
  rw [index] at notFree
  exact notFree head

theorem GroupsPresent.grows (present : GroupsPresent env s) (grown : Grows env s.hw next.hw)
    (hosts : ∀ host ∈ next.hostTable.values, host ∈ s.hostTable.values ∨
      next.hw.fpa.asic.hasGroup host.l2Group = true)
    (interfaces : ∀ up aux l3Intf, l3IntfOf env next up aux = some l3Intf →
      ∀ group, InterfaceGroup env l3Intf group →
        Owns env s (.interface up aux) group ∨ next.hw.fpa.asic.hasGroup group = true) :
    GroupsPresent env next := by
  have old : ∀ owner group, Owns env s owner group → next.hw.fpa.asic.hasGroup group = true :=
    fun owner group owns => grown.groups group (present owner group owns)
  intro owner group owns
  cases owner with
  | host entry =>
      obtain ⟨live, isGroup⟩ := owns
      rcases hosts entry live with wasLive | has
      · exact old (.host entry) group ⟨wasLive, isGroup⟩
      · rwa [← isGroup]
  | member port vid popTag =>
      obtain ⟨installed, isGroup⟩ := owns
      rcases grown.members port vid popTag group isGroup installed with wasInstalled | has
      · exact old (.member port vid popTag) group ⟨wasInstalled, isGroup⟩
      · exact has
  | interface up aux =>
      obtain ⟨l3Intf, isIntf, isGroup⟩ := owns
      rcases interfaces up aux l3Intf isIntf group isGroup with wasThere | has
      · exact old (.interface up aux) group wasThere
      · exact has

theorem GroupsPresent.shrinks (present : GroupsPresent env s) (sound : HostsSound env origin s)
    {released : Nat → Prop} {givenUp : GroupOwner → Prop}
    (kept : ∀ group, group < l3GroupBase → s.hw.fpa.asic.hasGroup group = true →
      next.hw.fpa.asic.hasGroup group = true ∨ released group)
    (older : ∀ owner group, Owns env next owner group → Owns env s owner group ∧ ¬ givenUp owner)
    (spared : ∀ group, released group → Spares env s group givenUp) : GroupsPresent env next := by
  intro owner group owns
  obtain ⟨was, stays⟩ := older owner group owns
  rcases kept group (was.lt sound) (present owner group was) with has | isReleased
  · exact has
  · exact (stays (spared group isReleased owner was)).elim

end Rules

def VlansBounded (env : Env) (s : Sys) : Prop :=
  ∀ up aux l3Intf, l3IntfOf env s up aux = some l3Intf → l3Intf.vlanIntf = true →
    l3Intf.vlanId < 4096

structure Disabling (env : Env) (s state : Sys) : Prop where
  present : GroupsPresent env state
  hosts : state.hostTable = s.hostTable
  ofprotos : state.ofprotos = s.ofprotos
  portsByPid : state.portsByPid = s.portsByPid
  members : ∀ port vidx, state.hw.members port vidx = true → s.hw.members port vidx = true
  fewer : Fewer s.hw.fpa.asic state.hw.fpa.asic
  ports : ∀ ref port, state.ofports ref = some port →
    ∃ vmap, s.ofports ref = some { port with vmap }

section Operations

variable {s next : Sys} {up : OfprotoRef} {aux : Aux} {rc : Rc}
  {origin : HostTableEntry → Option NextHop} (succeeds : env.AllSucceed)

include succeeds

theorem takeDown_present (present : GroupsPresent env s) (sound : HostsSound env origin s)
    {l3Intf : L3Intf} (bound : l3Intf.vlanIntf = true → l3Intf.vlanId < 4096)
    (hw : next.hw = opsFpaDisableRouting env s.hw l3Intf) (hosts : next.hostTable = s.hostTable)
    (interfaces : ∀ other wanted, l3IntfOf env next other wanted =
      if other = up ∧ wanted = aux then none else l3IntfOf env s other wanted)
    (spared : ∀ group, InterfaceGroup env l3Intf group →
      Spares env s group (EndsWith up aux l3Intf)) :
    GroupsPresent env next := by
  obtain ⟨groups, members⟩ := disableRouting_effect succeeds s.hw bound
  refine present.shrinks sound (fun group _ has => ?_) (fun owner group owns => ?_) spared
  · by_cases released : InterfaceGroup env l3Intf group
    · exact .inr released
    · rw [hw]
      exact .inl ((groups group).mpr ⟨released, has⟩)
  · cases owner with
    | host entry =>
        rw [Owns, hosts] at owns
        exact ⟨owns, fun ends => by simp [EndsWith] at ends⟩
    | member port vid popTag =>
        obtain ⟨installed, isGroup⟩ := owns
        rw [hw] at installed
        obtain ⟨wasInstalled, elsewhere⟩ :=
          members port vid popTag (l2Group_eq isGroup).2.1 installed
        refine ⟨⟨wasInstalled, isGroup⟩, ?_⟩
        rintro ⟨vlanIntf, isMember | isInterface⟩
        · cases isMember
          exact elsewhere ⟨vlanIntf, Option.isSome_of_eq_some isGroup, rfl, rfl⟩
        · cases isInterface
    | interface other wanted =>
        obtain ⟨live, isLive, isGroup⟩ := owns
        rw [interfaces] at isLive
        split at isLive
        · cases isLive
        · rename_i different
          refine ⟨⟨live, isLive, isGroup⟩, ?_⟩
          rintro ⟨_, isMember | isInterface⟩
          · cases isMember
          · cases isInterface
            exact different ⟨rfl, rfl⟩

theorem hostDeletedHw_eq (hw : Hw) (l3Intf : L3Intf) (entry : HostTableEntry) :
    ∃ calls, hostDeletedHw env hw l3Intf entry =
      let fpa : Fpa := ⟨((hw.fpa.asic.apply (.flowTableCookieDelete .l3Unicast
        (opsFpaRouteIpv4Cookie entry.ipv4Addr 32))).apply
          (.groupTableEntryDelete entry.l3Group)).apply (.groupTableEntryDelete entry.l2Group), calls⟩
      if releasedIntf l3Intf = none then opsFpaDisableRouting env { hw with fpa } l3Intf
      else { hw with fpa } := by
  simp only [hostDeletedHw, opsFpaRouteDelRoute, opsFpaRouteDelGroup, Fpa.issue_ok succeeds]
  exact ⟨_, rfl⟩

omit succeeds in
theorem deleteHost_hw (l3Intf : L3Intf) (entry : HostTableEntry) :
    (deleteHost env s up aux l3Intf entry).hw = hostDeletedHw env s.hw l3Intf entry := by
  rw [deleteHost_eq]
  rfl

theorem deleteHost_hasGroup {l3Intf : L3Intf} {entry : HostTableEntry}
    (bound : l3Intf.vlanIntf = true → l3Intf.vlanId < 4096)
    {group : Nat} (has : s.hw.fpa.asic.hasGroup group = true) (kept : group ≠ entry.l2Group)
    (isL2 : group ≠ entry.l3Group)
    (notInterface : ¬ (releasedIntf l3Intf = none ∧ InterfaceGroup env l3Intf group)) :
    (deleteHost env s up aux l3Intf entry).hw.fpa.asic.hasGroup group = true := by
  obtain ⟨calls, hwEq⟩ := hostDeletedHw_eq succeeds s.hw l3Intf entry
  rw [deleteHost_hw, hwEq]
  simp only
  split
  · rename_i down
    refine ((disableRouting_effect succeeds _ bound).1 group).mpr
      ⟨fun isGroup => notInterface ⟨down, isGroup⟩, ?_⟩
    simp [kept, isL2, Asic.hasGroup_congr (Asic.groups_cookieDelete _ _ _), has]
  · simp [kept, isL2, Asic.hasGroup_congr (Asic.groups_cookieDelete _ _ _), has]

theorem deleteHost_owns (sound : HostsSound env origin s) {bundle : Bundle} {l3Intf : L3Intf}
    {entry : HostTableEntry} (found : opsFpaFindBundle env s up aux = some bundle)
    (routed : bundle.l3Intf = some l3Intf) (bound : l3Intf.vlanIntf = true → l3Intf.vlanId < 4096)
    (filed : (env.hashIpv4 entry.ipv4Addr, entry) ∈ s.hostTable.nodes) {owner : GroupOwner} {group : Nat}
    (owns : Owns env (deleteHost env s up aux l3Intf entry) owner group) :
    Owns env s owner group ∧
      ¬ (owner = .host entry ∨ releasedIntf l3Intf = none ∧ EndsWith up aux l3Intf owner) := by
  have perm := Hmap.values_remove_perm filed
  cases owner with
  | host other =>
      obtain ⟨live, isGroup⟩ := owns
      rw [deleteHost_eq] at live
      refine ⟨⟨perm.mem_iff.mp (List.mem_cons_of_mem _ live), isGroup⟩, ?_⟩
      rintro (isEntry | ⟨_, _, isMember | isInterface⟩)
      · cases isEntry
        -- the deleted host was in the table once
        obtain ⟨_, _, unique, _⟩ := sound.indices
        have once := (List.nodup_cons.mp
          ((perm.map HostTableEntry.arpIndex).nodup_iff.mpr unique)).1
        exact once (List.mem_map_of_mem live)
      · cases isMember
      · cases isInterface
  | member port vid popTag =>
      obtain ⟨installed, isGroup⟩ := owns
      obtain ⟨calls, hwEq⟩ := hostDeletedHw_eq succeeds s.hw l3Intf entry
      rw [deleteHost_hw, hwEq] at installed
      simp only at installed
      split at installed
      · obtain ⟨wasInstalled, elsewhere⟩ := (disableRouting_effect succeeds _ bound).2 port vid
          popTag (l2Group_eq isGroup).2.1 installed
        refine ⟨⟨wasInstalled, isGroup⟩, ?_⟩
        rintro (isEntry | ⟨_, vlanIntf, isMember | isInterface⟩)
        · cases isEntry
        · cases isMember
          exact elsewhere ⟨vlanIntf, Option.isSome_of_eq_some isGroup, rfl, rfl⟩
        · cases isInterface
      · rename_i stays
        refine ⟨⟨installed, isGroup⟩, ?_⟩
        rintro (isEntry | ⟨down, _⟩)
        · cases isEntry
        · exact stays down
  | interface other wanted =>
      obtain ⟨live, isLive, isGroup⟩ := owns
      rw [l3IntfOf_deleteHost found] at isLive
      split at isLive
      · rename_i here
        obtain ⟨rfl, rfl⟩ := here
        have same : InterfaceGroup env l3Intf group ∧ releasedIntf l3Intf ≠ none := by
          rw [isLive]
          simp only [releasedIntf] at isLive
          split at isLive
          · cases isLive
          · cases isLive
            exact ⟨isGroup, by simp⟩
        refine ⟨⟨l3Intf, by rw [l3IntfOf, found]; exact routed, same.1⟩, ?_⟩
        rintro (isEntry | ⟨down, _⟩)
        · cases isEntry
        · exact same.2 down
      · rename_i different
        refine ⟨⟨live, isLive, isGroup⟩, ?_⟩
        rintro (isEntry | ⟨_, _, isMember | isInterface⟩)
        · cases isEntry
        · cases isMember
        · cases isInterface
          exact different ⟨rfl, rfl⟩

theorem deleteHost_present (present : GroupsPresent env s) (sound : HostsSound env origin s)
    {bundle : Bundle} {l3Intf : L3Intf} {entry : HostTableEntry}
    (found : opsFpaFindBundle env s up aux = some bundle) (routed : bundle.l3Intf = some l3Intf)
    (bound : l3Intf.vlanIntf = true → l3Intf.vlanId < 4096)
    (filed : (env.hashIpv4 entry.ipv4Addr, entry) ∈ s.hostTable.nodes)
    (spared : ∀ group,
      (group = entry.l2Group ∨ releasedIntf l3Intf = none ∧ InterfaceGroup env l3Intf group) →
      Spares env s group fun owner =>
        owner = .host entry ∨ releasedIntf l3Intf = none ∧ EndsWith up aux l3Intf owner) :
    GroupsPresent env (deleteHost env s up aux l3Intf entry) := by
  have perm := Hmap.values_remove_perm filed
  have base := (sound.each entry (perm.mem_iff.mp List.mem_cons_self)).base_le
  refine present.shrinks sound (fun group low has => ?_)
    (fun owner group owns => deleteHost_owns succeeds sound found routed bound filed owns) spared
  by_cases released :
      group = entry.l2Group ∨ releasedIntf l3Intf = none ∧ InterfaceGroup env l3Intf group
  · exact .inr released
  · rw [not_or] at released
    exact .inl (deleteHost_hasGroup succeeds bound has released.1 (by omega) released.2)

theorem hostAdded_present (present : GroupsPresent env s) {vlanId mtu : Nat} {egress : Int}
    {srcMac dstMac : EthAddr} {ipv4Addr : InAddr} {fpa : Fpa} {l2Group l3Group : Nat}
    (installed : HostInstalled env s vlanId mtu egress srcMac dstMac ipv4Addr fpa l2Group l3Group) :
    GroupsPresent env
      (hostAdded env s up aux fpa ⟨ipv4Addr, s.arpIndices 0, l3Group, l2Group⟩) := by
  obtain ⟨_, fpaL2, fpaL3, addedL2, addedL3, addedRoute⟩ := installed
  obtain ⟨calls, done⟩ := addL2Group_ok succeeds s.hw.fpa false (addL2Group_some addedL2)
  obtain ⟨_, asicL3⟩ := addL3Group_some addedL3
  rw [addedL2, Prod.mk.injEq] at done
  have groups : ∀ group, fpa.asic.hasGroup group =
      (group == l3Group || (group == l2Group || s.hw.fpa.asic.hasGroup group)) := by
    intro group
    have kept := @addRouteFlow_groups env fpaL3 (routeFlow env l3Group .none ipv4Addr 32)
    rw [← opsFpaRouteAddRoute, addedRoute] at kept
    rw [Asic.hasGroup_congr kept, asicL3, done.2]
    simp
  have perm : (hostAdded env s up aux fpa
      ⟨ipv4Addr, s.arpIndices 0, l3Group, l2Group⟩).hostTable.values.Perm
        (⟨ipv4Addr, s.arpIndices 0, l3Group, l2Group⟩ :: s.hostTable.values) :=
    Hmap.values_insert_perm env.growth s.hostTable _ _
  refine present.grows ⟨?_, fun _ _ _ _ _ => .inl⟩ ?_ ?_
  · intro group has
    change fpa.asic.hasGroup group = true
    simp [groups, has]
  · intro host live
    rcases List.mem_cons.mp (perm.mem_iff.mp live) with new | old
    · right
      change fpa.asic.hasGroup host.l2Group = true
      simp [groups, new]
    · exact .inl old
  · intro other wanted l3Intf isLive group isGroup
    left
    rw [l3IntfOf_hostAdded] at isLive
    split at isLive
    · rename_i here
      obtain ⟨rfl, rfl⟩ := here
      obtain ⟨old, isOld, isCounted⟩ := Option.map_eq_some_iff.mp isLive
      rw [← isCounted] at isGroup
      exact ⟨old, isOld, isGroup⟩
    · exact ⟨l3Intf, isLive, isGroup⟩

theorem installHost_einval (readsBack : env.ReadsBack) (sound : HostsSound env origin s)
    {vlanId mtu : Nat} {egress : Int} {srcMac dstMac : EthAddr} {ipv4Addr : InAddr}
    (taken : installHost env s up aux vlanId mtu egress srcMac dstMac ipv4Addr = (.einval, next)) :
    next = s ∨ s.arpIndices 0 = 0 ∧ ∃ group calls, isL2Group env egress vlanId group ∧
      next = { s with hw := { s.hw with fpa :=
        ⟨((s.hw.fpa.asic.apply (.groupTableEntryAdd group)).apply
          (.groupEntryBucketAdd group (.l2Interface (portNum egress) false))).apply
            (.groupTableEntryDelete group), calls⟩ } } := by
  simp only [installHost] at taken
  cases built : fpaLibGroupIdentifierBuild env (.l2Interface (portNum egress) vlanId) with
  | none =>
      simp only [opsFpaRouteAddL2Group, built] at taken
      cases taken
      exact .inl rfl
  | some l2Group =>
      obtain ⟨calls, added⟩ := addL2Group_ok succeeds s.hw.fpa false built
      simp only [added] at taken
      split at taken
      · rename_i exhausted
        simp only [opsFpaRouteDelGroup, Fpa.issue_ok succeeds] at taken
        cases taken
        exact .inr ⟨exhausted, l2Group, _, built, rfl⟩
      · rename_i available
        obtain ⟨l3Group, builtL3, base, absent⟩ := sound.next_l3Group succeeds.builds available
        have different : l3Group ≠ l2Group := by
          have low := l2Group_lt built
          omega
        simp only [opsFpaRouteAddL3Group, builtL3, Fpa.read, readsBack _ _,
          Asic.hasGroup_groupEntryBucketAdd, Asic.hasGroup_groupTableEntryAdd, absent, different,
          beq_iff_eq, Bool.or_false, if_false, Fpa.issue_ok succeeds, opsFpaRouteAddRoute,
          addRouteFlow] at taken
        cases taken

theorem addL3Host_present (readsBack : env.ReadsBack) (present : GroupsPresent env s)
    (sound : HostsSound env origin s) {isIpv6Addr : Bool} {ipAddr : CString}
    {nextHopMacAddr : Option CString} {reply : Option Int}
    (safe : ReleasesSafely env s (.addL3Host up aux isIpv6Addr ipAddr nextHopMacAddr))
    (taken : addL3HostEntry env s up aux isIpv6Addr ipAddr nextHopMacAddr = .ok (rc, reply, next)) :
    GroupsPresent env next := by
  have notIpv6 : isIpv6Addr = true → next = s := by
    rintro rfl
    simp only [addL3HostEntry, if_true] at taken
    cases taken
    rfl
  rcases addL3HostEntry_cases taken with ⟨_, rfl⟩ |
    ⟨bundle, l3Intf, port, dstMac, egress, ipv4Addr, request, installed⟩
  · exact present
  · rcases installHost_cases installed with ⟨rfl, _⟩ | ⟨_, fpa, l2Group, l3Group, acquired, rfl⟩
    · rcases installHost_einval succeeds readsBack sound installed with rfl |
        ⟨exhausted, group, calls, isGroup, isNext⟩
      · exact present
      · cases ipv6 : isIpv6Addr with
        | true =>
            rw [notIpv6 ipv6]
            exact present
        | false =>
            have requested : requestedNextHop env s up aux nextHopMacAddr =
                some ⟨dstMac, egress, l3Intf.vlanId⟩ := by
              have routed : l3IntfOf env s up aux = some l3Intf := by
                rw [l3IntfOf, request.found]
                exact request.routed
              simp only [requestedNextHop, routed, request.nextHop, request.egressFound]
            have spared := safe exhausted ipv6 (by simp [request.address]) _ requested group isGroup
            have sameOwners : ∀ owner group, Owns env next owner group → Owns env s owner group := by
              rw [isNext]
              intro owner group owns
              cases owner with
              | host | member | interface => exact owns
            refine @GroupsPresent.shrinks env s next origin present sound (· = group)
              (fun _ => False) (fun other _ has => ?_)
              (fun owner group owns => ⟨sameOwners owner group owns, id⟩)
              (fun other same => same ▸ spared)
            by_cases same : other = group
            · exact .inr same
            · left
              rw [isNext]
              simp [same, has]
    · exact hostAdded_present succeeds present acquired

theorem deleteL3Host_present (present : GroupsPresent env s) (sound : HostsSound env origin s)
    (bounds : VlansBounded env s)
    {isIpv6Addr : Bool} {ipAddr : CString}
    (safe : ReleasesSafely env s (.deleteL3Host up aux isIpv6Addr ipAddr))
    (taken : deleteL3HostEntry env s up aux isIpv6Addr ipAddr = .ok (rc, next)) :
    GroupsPresent env next := by
  rcases deleteL3HostEntry_cases taken with ⟨_, rfl⟩ |
    ⟨_, notIpv6, bundle, l3Intf, ipv4Addr, entry, found, routed, address, isHost, rfl⟩
  · exact present
  · have isIntf : l3IntfOf env s up aux = some l3Intf := by
      rw [l3IntfOf, found]
      exact routed
    have isDeleted := deletedHost_some notIpv6 isIntf address isHost
    exact deleteHost_present succeeds present sound found routed (bounds up aux l3Intf isIntf)
      (hostTableFind_some isHost).1 (safe l3Intf entry isDeleted)

omit succeeds in
theorem Owns.before (hosts : next.hostTable = s.hostTable)
    (interfaces : ∀ up aux, l3IntfOf env next up aux = l3IntfOf env s up aux)
    {owner : GroupOwner} {group : Nat} (owns : Owns env next owner group)
    (wasMember : ∀ port vid popTag, owner = .member port vid popTag →
      s.hw.members port (vidxEgress vid popTag) = true) : Owns env s owner group := by
  cases owner with
  | host entry => exact ⟨hosts ▸ owns.1, owns.2⟩
  | member port vid popTag => exact ⟨wasMember port vid popTag rfl, owns.2⟩
  | interface up aux =>
      obtain ⟨l3Intf, isLive, isGroup⟩ := owns
      exact ⟨l3Intf, (interfaces up aux).symm.trans isLive, isGroup⟩

omit succeeds in
theorem DiffApplied.owner {changes desired : Bitmap} {pid : Int}
    (applied : DiffApplied env s.hw changes desired pid vmapBits next.hw) {vid group : Nat}
    (isGroup : isL2Group env pid vid group) {port other : Nat} {popTag : Bool}
    (owns : Owns env next (.member port other popTag) group) :
    port = portNum pid ∧ other = vid ∧ (if changes (vidxEgress vid popTag) then
      desired (vidxEgress vid popTag) else s.hw.members port (vidxEgress vid popTag)) = true := by
  obtain ⟨installed, built⟩ := owns
  obtain ⟨_, vidBound, first⟩ := l2Group_eq isGroup
  obtain ⟨_, _, second⟩ := l2Group_eq built
  obtain ⟨rfl, rfl⟩ : port = portNum pid ∧ other = vid := by omega
  rw [applied.members] at installed
  have fits : installable env pid (vidxEgress other popTag) = true := by
    rw [installable, vidxVid_egress vidBound, buildsGroup]
    simp [built]
  simp only [true_and, vidxEgress_lt vidBound, fits, and_true] at installed
  exact ⟨rfl, rfl, installed⟩

omit succeeds in
theorem DiffApplied.unreleased (present : GroupsPresent env s)
    (hosts : next.hostTable = s.hostTable)
    (interfaces : ∀ up aux, l3IntfOf env next up aux = l3IntfOf env s up aux)
    {changes desired : Bitmap} {pid : Int}
    (applied : DiffApplied env s.hw changes desired pid vmapBits next.hw) {vid group : Nat}
    (isGroup : isL2Group env pid vid group)
    (unreleased : (changes (vidxEgress vid true) && !desired (vidxEgress vid true) ||
      changes (vidxEgress vid false) && !desired (vidxEgress vid false) &&
        !(changes (vidxEgress vid true) && desired (vidxEgress vid true))) = false)
    {owner : GroupOwner} (owns : Owns env next owner group) :
    next.hw.fpa.asic.hasGroup group = true := by
  obtain ⟨_, vidBound, _⟩ := l2Group_eq isGroup
  rw [applied.groups vid group isGroup, groupAfter]
  simp only [vidxEgress_lt vidBound, decide_true, Bool.true_and]
  split
  · rename_i changed
    simp only [changed, Bool.true_and, Bool.or_eq_false_iff, Bool.not_eq_false'] at unreleased
    exact unreleased.1
  · rename_i unchanged
    split
    · rename_i changed
      simpa [changed, unchanged] using unreleased
    · rename_i bothUnchanged
      refine present owner group (owns.before hosts interfaces ?_)
      rintro port other popTag rfl
      obtain ⟨_, isVid, now⟩ := applied.owner isGroup owns
      rw [isVid]
      cases popTag with
      | false => simpa [bothUnchanged] using now
      | true => simpa [unchanged] using now

theorem applyDiff_present (present : GroupsPresent env s) {vlans desired : Bitmap} {pid : Int}
    (safe : ChangesSafely env s vlans desired pid)
    (hw : next.hw = (applyDiff env s.hw vlans desired pid).1)
    (hosts : next.hostTable = s.hostTable)
    (interfaces : ∀ up aux, l3IntfOf env next up aux = l3IntfOf env s up aux) :
    GroupsPresent env next := by
  have applied := applyDiff_effect succeeds s.hw vlans desired pid
  rw [← hw] at applied
  generalize isChanges : vidxChanges vlans (opsFpaVlanFetch env s.hw.fpa pid) desired = changes
    at applied
  simp only [ChangesSafely, isChanges] at safe
  intro owner group owns
  by_cases mine : ∃ vid, isL2Group env pid vid group
  · obtain ⟨vid, isGroup⟩ := mine
    by_cases released : (changes (vidxEgress vid true) && !desired (vidxEgress vid true) ||
        changes (vidxEgress vid false) && !desired (vidxEgress vid false) &&
          !(changes (vidxEgress vid true) && desired (vidxEgress vid true))) = true
    · obtain ⟨noneAdded, spared⟩ := safe vid group isGroup released
      have wasMember : ∀ port other popTag, owner = .member port other popTag →
          s.hw.members port (vidxEgress other popTag) = true := by
        rintro port other popTag rfl
        obtain ⟨_, isVid, now⟩ := applied.owner isGroup owns
        split at now
        · rename_i changed
          cases popTag with
          | false => simp [changed, now] at noneAdded
          | true => simp [changed, now] at released
        · rw [isVid]
          exact now
      obtain ⟨popTag, deleted, rfl⟩ := spared owner (owns.before hosts interfaces wasMember)
      obtain ⟨_, _, now⟩ := applied.owner isGroup owns
      simp only [Bool.and_eq_true, Bool.not_eq_true'] at deleted
      rw [if_pos deleted.1, deleted.2] at now
      cases now
    · exact applied.unreleased present hosts interfaces isGroup (Bool.eq_false_iff.mpr released) owns
  · have elsewhere : ∀ vid, ¬ isL2Group env pid vid group := fun vid isGroup => mine ⟨vid, isGroup⟩
    rw [applied.others group elsewhere]
    refine present owner group (owns.before hosts interfaces ?_)
    rintro port vid popTag rfl
    obtain ⟨installed, built⟩ := owns
    rw [applied.members, if_neg] at installed
    · exact installed
    · rintro ⟨rfl, _⟩
      exact elsewhere vid built

theorem setVlanOnPorts_grows {vid : Nat} : ∀ (bundles : List Bundle) (state : Sys),
    setVlanOnPorts env vid true bundles state = .ok next → Grows env state.hw next.hw := by
  intro bundles
  induction bundles with
  | nil =>
      intro state done
      cases done
      exact Grows.refl _
  | cons bundle rest ih =>
      intro state done
      rcases setVlanOnPorts_cons done with ⟨_, later⟩ | ⟨ref, port, _, _, later⟩
      · exact ih state later
      · refine Grows.trans ?_ (ih _ later)
        rw [hw_setVmap, setVlanOnPort, if_pos rfl]
        exact enableVlanOnPort_grows succeeds _ _ _ _

omit succeeds in
theorem l3IntfOf_congr (same : next.ofprotos = s.ofprotos) (up : OfprotoRef) (aux : Aux) :
    l3IntfOf env next up aux = l3IntfOf env s up aux := by
  rw [l3IntfOf, l3IntfOf, findBundle_congr same]

theorem Disabling.visit (readsBack : env.ReadsBack) {state : Sys} (disabling : Disabling env s state)
    {vid : Nat} {ref : OfportRef} {port : Ofport} (isPort : state.ofports ref = some port)
    (spared : ∀ popTag group,
      opsFpaVlanFetch env s.hw.fpa port.ofpPort (vidxEgress vid popTag) = true →
      isL2Group env (netdevGetIfindex port.netdev) vid group →
      Spares env s group fun owner =>
        owner = .member (portNum (netdevGetIfindex port.netdev)) vid popTag) :
    Disabling env s (setVmap state ref port (setVlanOnPort env state.hw port vid false)) := by
  rw [setVlanOnPort, if_neg Bool.false_ne_true]
  have disabled := disableVlanOnPort_effect succeeds state.hw port.vmap port.ofpPort
    (netdevGetIfindex port.netdev) vid
  generalize disableVlanOnPort env state.hw port.vmap port.ofpPort (netdevGetIfindex port.netdev) vid
    = result at disabled
  have members : ∀ number vidx, result.1.members number vidx = true →
      state.hw.members number vidx = true := by
    intro number vidx installed
    rw [disabled.members] at installed
    split at installed
    · cases installed
    · exact installed
  refine ⟨?_, disabling.hosts, disabling.ofprotos, disabling.portsByPid,
    fun number vidx installed => disabling.members number vidx (members number vidx installed),
    disabling.fewer.trans disabled.fewer, ?_⟩
  · have older : ∀ owner group, Owns env (setVmap state ref port result) owner group →
        Owns env state owner group := by
      intro owner group owns
      cases owner with
      | host | interface => exact owns
      | member number other popTag => exact ⟨members _ _ owns.1, owns.2⟩
    have oldest : ∀ owner group, Owns env state owner group → Owns env s owner group := by
      intro owner group owns
      cases owner with
      | host entry => exact ⟨disabling.hosts ▸ owns.1, owns.2⟩
      | member number other popTag => exact ⟨disabling.members _ _ owns.1, owns.2⟩
      | interface up aux =>
          obtain ⟨l3Intf, isLive, isGroup⟩ := owns
          exact ⟨l3Intf, (l3IntfOf_congr disabling.ofprotos up aux).symm.trans isLive, isGroup⟩
    intro owner group owns
    have wasThere := disabling.present owner group (older owner group owns)
    rcases disabled.gone group wasThere with has | ⟨isGroup, popTag, fetched⟩
    · exact has
    · have isMember := spared popTag group (fetch_fewer readsBack disabling.fewer fetched) isGroup
        owner (oldest owner group (older owner group owns))
      subst isMember
      have bound := (l2Group_eq isGroup).2.1
      have inside : vidxEgress vid popTag < vmapBits := vidxEgress_lt bound popTag
      have installed : result.1.members (portNum (netdevGetIfindex port.netdev))
        (vidxEgress vid popTag) = true := owns.1
      rw [disabled.members, if_pos] at installed
      · cases installed
      · refine ⟨rfl, inside, fetched, vidxVid_egress bound popTag, ?_⟩
        rw [installable, vidxVid_egress bound, buildsGroup, isGroup]
        simp
  · intro other found isFound
    change Function.update state.ofports ref (some { port with vmap := result.2 }) other =
      some found at isFound
    by_cases here : other = ref
    · subst here
      rw [Function.update_self, Option.some.injEq] at isFound
      obtain ⟨vmap, was⟩ := disabling.ports other port isPort
      exact ⟨vmap, by rw [was, ← isFound]⟩
    · rw [Function.update_of_ne here] at isFound
      exact disabling.ports other found isFound

theorem setVlanOnPorts_disabling (readsBack : env.ReadsBack) {vid : Nat} :
    ∀ (bundles : List Bundle) (state : Sys), Disabling env s state →
    (∀ bundle ∈ bundles, ∀ port, (opsFpaGetOfportByPid s bundle.intfId).bind s.ofports = some port →
      ∀ popTag group, opsFpaVlanFetch env s.hw.fpa port.ofpPort (vidxEgress vid popTag) = true →
        isL2Group env (netdevGetIfindex port.netdev) vid group →
        Spares env s group fun owner =>
          owner = .member (portNum (netdevGetIfindex port.netdev)) vid popTag) →
    setVlanOnPorts env vid false bundles state = .ok next → Disabling env s next := by
  intro bundles
  induction bundles with
  | nil =>
      intro state disabling _ done
      cases done
      exact disabling
  | cons bundle rest ih =>
      intro state disabling spared done
      have others := fun other member => spared other (List.mem_cons_of_mem bundle member)
      rcases setVlanOnPorts_cons done with ⟨_, later⟩ | ⟨ref, port, found, isPort, later⟩
      · exact ih state disabling others later
      · obtain ⟨vmap, wasPort⟩ := disabling.ports ref port isPort
        have wasFound : (opsFpaGetOfportByPid s bundle.intfId).bind s.ofports =
            some { port with vmap } := by
          rw [opsFpaGetOfportByPid, ← disabling.portsByPid, ← opsFpaGetOfportByPid, found]
          exact wasPort
        have here := spared bundle List.mem_cons_self _ wasFound
        exact ih _ (disabling.visit succeeds readsBack isPort here) others later

theorem setVlan_present (readsBack : env.ReadsBack) (present : GroupsPresent env s)
    {vid : Fin 4096} {add : Bool} (safe : ReleasesSafely env s (.setVlan up vid add))
    (taken : opsFpaOfprotoSetVlan env s up vid add = .ok (rc, next)) : GroupsPresent env next := by
  obtain ⟨visited, done, _, rfl⟩ := setVlan_cases taken
  obtain ⟨_, sameHosts, _, sameOfprotos, _⟩ := setVlanOnPorts_frame _ _ done
  have interfaces : ∀ other wanted, l3IntfOf env { visited with
      ofprotos := Function.update visited.ofprotos up
        { visited.ofprotos up with vlans := (visited.ofprotos up).vlans.set vid add } } other wanted =
      l3IntfOf env visited other wanted := by
    intro other wanted
    simp only [l3IntfOf, opsFpaFindBundle]
    by_cases here : other = up
    · rw [here, Function.update_self]
    · rw [Function.update_of_ne here]
  have visitedPresent : GroupsPresent env visited := by
    cases add with
    | true =>
        refine present.grows (setVlanOnPorts_grows succeeds _ _ done)
          (fun host live => .inl (sameHosts ▸ live)) ?_
        intro other wanted l3Intf isLive group isGroup
        exact .inl ⟨l3Intf, (l3IntfOf_congr sameOfprotos other wanted).symm.trans isLive, isGroup⟩
    | false =>
        have start : Disabling env s s :=
          ⟨present, rfl, rfl, rfl, fun _ _ => id, Fewer.refl _, fun _ port isPort =>
            ⟨port.vmap, isPort⟩⟩
        exact (setVlanOnPorts_disabling succeeds readsBack _ _ start safe done).present
  intro owner group owns
  exact visitedPresent owner group ((owns_congr interfaces rfl rfl owner group).mp owns)

theorem rmBundle_present (keyed : BundlesKeyed env s) (present : GroupsPresent env s)
    (sound : HostsSound env origin s) (bounds : VlansBounded env s)
    (safe : ReleasesSafely env s (.bundleSet up aux none))
    (removed : opsFpaRmBundle env s up aux = (rc, next)) :
    GroupsPresent env next ∧ VlansBounded env next := by
  have sameHosts := (rmBundle_frame removed).2.1
  have interfaces : ∀ other wanted, l3IntfOf env next other wanted =
      if other = up ∧ wanted = aux then none else l3IntfOf env s other wanted := by
    intro other wanted
    rw [l3IntfOf, findBundle_rmBundle keyed removed]
    split
    · rfl
    · rfl
  have older : ∀ other wanted l3Intf, l3IntfOf env next other wanted = some l3Intf →
      l3IntfOf env s other wanted = some l3Intf := by
    intro other wanted l3Intf isLive
    rw [interfaces] at isLive
    split at isLive
    · cases isLive
    · exact isLive
  refine ⟨?_, fun other wanted l3Intf isLive => bounds other wanted l3Intf
    (older other wanted l3Intf isLive)⟩
  cases routed : l3IntfOf env s up aux with
  | none =>
      have sameHw : next.hw = s.hw := by
        rw [opsFpaRmBundle] at removed
        split at removed
        · cases removed
          rfl
        · rename_i bundle found
          rw [l3IntfOf, found, Option.bind_some] at routed
          cases removed
          simp only [routed]
      refine present.grows (sameHw ▸ Grows.refl _) (fun host live => .inl (sameHosts ▸ live)) ?_
      intro other wanted l3Intf isLive group isGroup
      exact .inl ⟨l3Intf, older other wanted l3Intf isLive, isGroup⟩
  | some l3Intf =>
      have isHw : next.hw = opsFpaDisableRouting env s.hw l3Intf := by
        rw [opsFpaRmBundle] at removed
        split at removed
        · rename_i absent
          rw [l3IntfOf, absent] at routed
          cases routed
        · rename_i bundle found
          rw [l3IntfOf, found, Option.bind_some] at routed
          cases removed
          simp only [routed]
      exact takeDown_present succeeds present sound (bounds up aux l3Intf routed) isHw sameHosts
        interfaces (safe.1 l3Intf routed)

theorem configureRouting_present (present : GroupsPresent env s) (sound : HostsSound env origin s)
    (bounds : VlansBounded env s) {bundle : Bundle} {port : Ofport} {vlanId : Int}
    {set : BundleSettings} (found : opsFpaFindBundle env s up bundle.aux = some bundle)
    (fits : overrunsRouting env s bundle port vlanId set = false)
    (spared : ∀ l3Intf, set.enable = false → bundle.l3Intf = some l3Intf →
      l3Intf.routesCount = 0 → ∀ group, InterfaceGroup env l3Intf group →
        Spares env s group (EndsWith up bundle.aux l3Intf))
    (configured : configureRouting env s up bundle port vlanId set = (rc, next)) :
    GroupsPresent env next ∧ VlansBounded env next := by
  rcases configureRouting_cases found configured with
    ⟨l3Intf, disabled, routed, idle, _, rfl⟩ |
    ⟨enable, unrouted, nonzero, l3Intf, hw, enabled, _, rfl⟩ |
    ⟨_, _, _, rfl⟩
  · have interfaces := @l3IntfOf_setL3Intf env
      { s with hw := opsFpaDisableRouting env s.hw l3Intf } up bundle.aux bundle found none
    have isIntf : l3IntfOf env s up bundle.aux = some l3Intf := by
      rw [l3IntfOf, found]
      exact routed
    refine ⟨takeDown_present succeeds present sound (bounds _ _ _ isIntf) rfl rfl interfaces
      (spared l3Intf disabled routed idle), fun other wanted live isLive => ?_⟩
    rw [interfaces] at isLive
    split at isLive
    · cases isLive
    · exact bounds other wanted live isLive
  · have interfaces := @l3IntfOf_setL3Intf env { s with hw } up bundle.aux bundle found l3Intf
    obtain ⟨grown, comesUp⟩ := enableRouting_grows succeeds s.hw port.netdev.type bundle.intfId
      port.netdev.mac (fits_of_enabling fits enable unrouted nonzero)
    rw [enabled] at grown comesUp
    refine ⟨present.grows grown (fun _ => .inl) ?_, fun other wanted live isLive => ?_⟩
    · intro other wanted live isLive group isGroup
      rw [interfaces] at isLive
      split at isLive
      · exact .inr (((comesUp live isLive).2 isGroup.1).2 group isGroup.2)
      · exact .inl ⟨live, isLive, isGroup⟩
    · rw [interfaces] at isLive
      split at isLive
      · intro vlanIntf
        rw [(comesUp live isLive).1]
        exact ((comesUp live isLive).2 vlanIntf).1
      · exact bounds other wanted live isLive
  · exact ⟨present, bounds⟩

omit succeeds in
theorem bundleIpReconfigure_present {between : Sys} {bundle : Bundle} {set : BundleSettings}
    (found : opsFpaFindBundle env between up aux = some bundle)
    (unused : ((deletedAddress bundle set).bind hostAddress).bind
      (hostTableFind env between.hostTable) = none)
    (present : GroupsPresent env between ∧ VlansBounded env between)
    (done : bundleIpReconfigure env between up aux set = .ok next) :
    GroupsPresent env next ∧ VlansBounded env next := by
  refine (bundleIpReconfigure_invariant (fun state => (GroupsPresent env state ∧
    VlansBounded env state) ∧ state.hostTable = between.hostTable) ?_ found ?_
    ⟨present, rfl⟩ done).1
  · intro state update keeps kept
    have interfaces := @l3IntfOf_modifyBundle env state up aux update keeps
    refine ⟨⟨fun owner group owns => kept.1.1 owner group
      ((owns_congr interfaces rfl rfl owner group).mp owns), fun other wanted l3Intf isLive => ?_⟩,
      kept.2⟩
    exact kept.1.2 other wanted l3Intf ((interfaces other wanted).symm.trans isLive)
  · intro state rc after address isDeleted kept gone
    rcases deleteL3HostEntry_cases gone with ⟨_, rfl⟩ |
      ⟨_, _, _, _, ipv4Addr, entry, _, _, isAddress, isHost, _⟩
    · exact kept
    · rw [isDeleted, Option.bind_some, isAddress, Option.bind_some, ← kept.2, isHost] at unused
      cases unused

omit succeeds in
theorem ensured_present (keyed : BundlesKeyed env s) (present : GroupsPresent env s)
    (bounds : VlansBounded env s) {slave : Nat} {name : CString}
    (created : ensureBundle env s up aux slave name = .ok next) :
    GroupsPresent env next ∧ VlansBounded env next := by
  obtain ⟨sameHw, _, sameHosts, _⟩ := ensureBundle_frame created
  have interfaces := l3IntfOf_ensureBundle keyed created
  refine ⟨fun owner group owns => ?_, fun other wanted l3Intf isLive => ?_⟩
  · rw [sameHw]
    exact present owner group ((owns_congr interfaces sameHosts (by rw [sameHw]) owner group).mp owns)
  · exact bounds other wanted l3Intf ((interfaces other wanted).symm.trans isLive)

omit succeeds in
theorem keepsHosts_ensured (keyed : BundlesKeyed env s) {set : BundleSettings} {slave : Nat}
    {ensured : Sys} {bundle : Bundle} (isVrf : (s.ofprotos up).type = .vrf)
    (keeps : keepsHosts env s (.bundleSet up aux (some set)) = true)
    (created : ensureBundle env s up aux slave set.name = .ok ensured)
    (found : opsFpaFindBundle env ensured up aux = some bundle) (l3Intf : Option L3Intf) :
    ((deletedAddress { bundle with l3Intf } set).bind hostAddress).bind
      (hostTableFind env s.hostTable) = none := by
  obtain ⟨old, wasOld, nowFound⟩ := findBundle_ensureBundle keyed created
  have here := nowFound up aux
  rw [if_pos ⟨rfl, rfl⟩, found] at here
  have sameAddress : deletedAddress { bundle with l3Intf } set = deletedAddress old set := by
    rw [Option.some.inj here]
    rfl
  rw [sameAddress]
  rcases wasOld with wasFound | ⟨_, rfl⟩
  · simpa [keepsHosts, isVrf, wasFound] using keeps
  · rw [deletedAddress_unset rfl]
    rfl

theorem configureVrf_present (keyed : BundlesKeyed env s) (present : GroupsPresent env s)
    (sound : HostsSound env origin s) (bounds : VlansBounded env s) {set : BundleSettings}
    {slave : Nat} {ensured : Sys} {bundle : Bundle} (isVrf : (s.ofprotos up).type = .vrf)
    (single : set.slaves = [slave])
    (safe : ∀ l3Intf, takenDown env s up aux (some set) = some l3Intf →
      ∀ group, InterfaceGroup env l3Intf group → Spares env s group (EndsWith up aux l3Intf))
    (keeps : keepsHosts env s (.bundleSet up aux (some set)) = true)
    (created : ensureBundle env s up aux slave set.name = .ok ensured)
    (found : opsFpaFindBundle env ensured up aux = some bundle)
    (taken : configureVrf env ensured up bundle slave set = .ok (rc, next)) :
    GroupsPresent env next ∧ VlansBounded env next := by
  obtain ⟨ensuredPresent, ensuredBounds⟩ := ensured_present keyed present bounds created
  obtain ⟨sameHw, _, sameHosts, sameOfports, _⟩ := ensureBundle_frame created
  have interfaces := l3IntfOf_ensureBundle keyed created
  have unused := keepsHosts_ensured keyed isVrf keeps created found
  have isAux := findBundle_aux found
  subst isAux
  rcases configureVrf_cases taken with ⟨rfl, _⟩ |
    ⟨port, vlanId, between, outcome, isPort, supported, fits, routing, after⟩
  · exact ⟨ensuredPresent, ensuredBounds⟩
  · have spared : ∀ l3Intf, set.enable = false → bundle.l3Intf = some l3Intf →
        l3Intf.routesCount = 0 → ∀ group, InterfaceGroup env l3Intf group →
          Spares env ensured group (EndsWith up bundle.aux l3Intf) := by
      intro l3Intf disabled routed idle group isGroup owner owns
      have isIntf : l3IntfOf env s up bundle.aux = some l3Intf := by
        rw [← interfaces, l3IntfOf, found]
        exact routed
      have isDown : takenDown env s up bundle.aux (some set) = some l3Intf := by
        rw [ofprotoGetPort, (ensureBundle_ofproto created up).2.2.1, sameOfports] at isPort
        simp [takenDown, single, isVrf, isIntf, disabled, idle, ofprotoGetPort, isPort, supported]
      exact safe l3Intf isDown group isGroup owner
        ((owns_congr interfaces sameHosts (by rw [sameHw]) owner group).mp owns)
    have routed := configureRouting_present succeeds ensuredPresent
      (sound.framed (ensureBundle_sameHosts created)) ensuredBounds found
      fits spared routing
    rcases after with ⟨_, _, readdressed⟩ | ⟨_, _, rfl⟩
    · obtain ⟨l3Intf, stillFound⟩ := findBundle_configureRouting found routing
      refine bundleIpReconfigure_present stillFound ?_ routed readdressed
      rw [(configureRouting_frame found routing).2.1, sameHosts]
      exact unused l3Intf
    · exact routed

theorem configureL2_present (keyed : BundlesKeyed env s) (present : GroupsPresent env s)
    (bounds : VlansBounded env s) {set : BundleSettings} {slave : Nat} {ensured : Sys}
    {bundle : Bundle} (isSystem : (s.ofprotos up).type = .system) (single : set.slaves = [slave])
    (safe : ∀ port, configuredPort env s up aux set = some port →
      ChangesSafely env s (s.ofprotos up).vlans (vnew set) (netdevGetIfindex port.netdev))
    (created : ensureBundle env s up aux slave set.name = .ok ensured)
    (found : opsFpaFindBundle env ensured up aux = some bundle)
    (taken : configureL2 env ensured up bundle set = .ok (rc, next)) :
    GroupsPresent env next ∧ VlansBounded env next := by
  rcases (configureL2_cases taken).2 with ⟨rfl, _⟩ |
    ⟨ref, port, valid, external, lookedUp, isPort, rfl⟩
  · exact ensured_present keyed present bounds created
  · obtain ⟨sameHw, _, sameHosts, sameOfports, _⟩ := ensureBundle_frame created
    obtain ⟨_, sameName, _, sameVlans⟩ := ensureBundle_ofproto created up
    have isConfigured : configuredPort env s up aux set = some port := by
      rw [sameName] at external
      rw [sameOfports] at isPort
      simp [configuredPort, configuredRef, single, isSystem, created, found, valid, external,
        lookedUp, isPort]
    obtain ⟨_, frameHosts, _, frameOfprotos, _⟩ := setVmap_frame ensured ref port
      (applyDiff env ensured.hw (ensured.ofprotos up).vlans (vnew set)
        (netdevGetIfindex port.netdev))
    have sameIntfs := fun other wanted => (l3IntfOf_congr frameOfprotos other wanted).trans
      (l3IntfOf_ensureBundle keyed created other wanted)
    refine ⟨applyDiff_present succeeds present (safe port isConfigured) ?_
      (frameHosts.trans sameHosts) sameIntfs, fun other wanted l3Intf isLive => ?_⟩
    · rw [hw_setVmap, sameHw, sameVlans]
    · exact bounds other wanted l3Intf ((sameIntfs other wanted).symm.trans isLive)

theorem bundleSet_present (keyed : BundlesKeyed env s) (present : GroupsPresent env s)
    (sound : HostsSound env origin s) (bounds : VlansBounded env s) {set : Option BundleSettings}
    (safe : ReleasesSafely env s (.bundleSet up aux set))
    (keeps : keepsHosts env s (.bundleSet up aux set) = true)
    (taken : opsFpaOfprotoBundleSet env s up aux set = .ok (rc, next)) :
    GroupsPresent env next ∧ VlansBounded env next := by
  rcases bundleSet_cases taken with ⟨rfl, removed⟩ | ⟨_, _, _, _, rfl⟩ |
    ⟨settings, slave, ensured, bundle, rfl, single, created, found, configured⟩
  · exact rmBundle_present succeeds keyed present sound bounds safe removed
  · exact ⟨present, bounds⟩
  · have sameType := (ensureBundle_ofproto created up).1
    rcases configured with ⟨isVrf, vrf⟩ | ⟨isSystem, bridge⟩
    · exact configureVrf_present succeeds keyed present sound bounds (sameType ▸ isVrf) single
        safe.1 keeps created found vrf
    · exact configureL2_present succeeds keyed present bounds (sameType ▸ isSystem) single
        (fun port => safe.2 settings port rfl) created found bridge

theorem peripheral_present (readsBack : env.ReadsBack) (present : GroupsPresent env s) {call : Call}
    (peripheral : call.IsPeripheral) (safe : ReleasesSafely env s call)
    (interfaces : ∀ up aux, l3IntfOf env next up aux = l3IntfOf env s up aux)
    (hosts : next.hostTable = s.hostTable) (taken : step env s call = .ok (rc, next)) :
    GroupsPresent env next := by
  have sameHw : next.hw = s.hw → GroupsPresent env next := by
    intro same owner group owns
    rw [same]
    exact present owner group ((owns_congr interfaces hosts (by rw [same]) owner group).mp owns)
  cases call with
  | bundleSet | addL3Host | deleteL3Host => exact peripheral.elim
  | setVlan up vid add => exact setVlan_present succeeds readsBack present safe taken
  | routeAction action route =>
      simp only [step, Except.ok.injEq] at taken
      have groups := l3RouteAction_groups taken
      obtain ⟨fpa, isNext⟩ := l3RouteAction_frame taken
      have members : next.hw.members = s.hw.members := by rw [isNext]
      intro owner group owns
      rw [Asic.hasGroup_congr groups]
      exact present owner group ((owns_congr interfaces hosts members owner group).mp owns)
  | portConstruct =>
      cases taken
      exact sameHw rfl
  | portDestruct =>
      cases taken
      refine sameHw ?_
      rw [opsFpaOfprotoPortDestruct]
      split
      · rfl
      · rfl
  | addressMsg =>
      obtain ⟨_, _, _, rfl⟩ := step_addressMsg taken
      exact sameHw rfl
  | fdbFlush =>
      obtain ⟨_, _, _, rfl⟩ := step_fdbFlush taken
      exact sameHw rfl

end Operations

section Run

variable {s next : Sys} {rc : Rc} {trace : Trace}

theorem addL3Host_bounds {up : OfprotoRef} {aux : Aux} {isIpv6Addr : Bool} {ipAddr : CString}
    {nextHopMacAddr : Option CString} {reply : Option Int} (bounds : VlansBounded env s)
    (taken : addL3HostEntry env s up aux isIpv6Addr ipAddr nextHopMacAddr = .ok (rc, reply, next)) :
    VlansBounded env next := by
  rcases addL3HostEntry_cases taken with ⟨_, rfl⟩ | ⟨_, _, _, _, _, _, _, installed⟩
  · exact bounds
  · rcases installHost_cases installed with ⟨_, fpa, rfl | ⟨_, rfl⟩⟩ | ⟨_, fpa, _, _, _, rfl⟩
    · exact bounds
    · exact bounds
    · intro other wanted l3Intf isLive
      rw [l3IntfOf_hostAdded] at isLive
      split at isLive
      · obtain ⟨old, isOld, isCounted⟩ := Option.map_eq_some_iff.mp isLive
        rw [← isCounted]
        exact bounds up aux old isOld
      · exact bounds other wanted l3Intf isLive

theorem deleteL3Host_bounds {up : OfprotoRef} {aux : Aux} {isIpv6Addr : Bool} {ipAddr : CString}
    (bounds : VlansBounded env s)
    (taken : deleteL3HostEntry env s up aux isIpv6Addr ipAddr = .ok (rc, next)) :
    VlansBounded env next := by
  rcases deleteL3HostEntry_cases taken with ⟨_, rfl⟩ |
    ⟨_, _, bundle, l3Intf, _, entry, found, routed, _, _, rfl⟩
  · exact bounds
  · intro other wanted live isLive
    rw [l3IntfOf_deleteHost found] at isLive
    split at isLive
    · have bound : l3Intf.vlanIntf = true → l3Intf.vlanId < 4096 := by
        apply bounds up aux l3Intf
        rw [l3IntfOf, found]
        exact routed
      simp only [releasedIntf] at isLive
      split at isLive
      · cases isLive
      · cases isLive
        exact bound
    · exact bounds other wanted live isLive

structure GroupInvariant (env : Env) (trace : Trace) (s : Sys) : Prop where
  keyed : BundlesKeyed env s
  hosts : HostsSound env (hostNextHop env trace) s
  bounds : VlansBounded env s
  present : GroupsPresent env s

theorem step_groupInvariant {call : Call} (succeeds : env.AllSucceed) (readsBack : env.ReadsBack)
    (invariant : GroupInvariant env trace s) (safe : ReleasesSafely env s call)
    (keeps : keepsHosts env s call = true) (taken : step env s call = .ok (rc, next)) :
    GroupInvariant env (⟨s, call, rc, next⟩ :: trace) next := by
  obtain ⟨keyed, sound, bounds, present⟩ := invariant
  have later : GroupsPresent env next ∧ VlansBounded env next := by
    rcases step_cases taken with ⟨up, aux, set, rfl, changed⟩ |
      ⟨up, aux, isIpv6Addr, ipAddr, nextHopMacAddr, reply, rfl, added⟩ |
      ⟨up, aux, isIpv6Addr, ipAddr, rfl, deleted⟩ | ⟨peripheral, _, sameTable, sameBundles⟩
    · exact bundleSet_present succeeds keyed present sound bounds safe keeps changed
    · exact ⟨addL3Host_present succeeds readsBack present sound safe added,
        addL3Host_bounds bounds added⟩
    · exact ⟨deleteL3Host_present succeeds present sound bounds safe deleted,
        deleteL3Host_bounds bounds deleted⟩
    · have interfaces : ∀ up aux, l3IntfOf env next up aux = l3IntfOf env s up aux := by
        intro up aux
        rw [l3IntfOf, l3IntfOf, opsFpaFindBundle, opsFpaFindBundle, (sameBundles up).1]
      refine ⟨peripheral_present succeeds readsBack present peripheral safe interfaces sameTable
        taken, fun up aux l3Intf isLive => ?_⟩
      exact bounds up aux l3Intf ((interfaces up aux).symm.trans isLive)
  exact ⟨step_keyed keyed taken, step_hostsSound succeeds keyed sound taken, later.2, later.1⟩

theorem Initial.groupInvariant (initial : Initial s) : GroupInvariant env [] s where
  keyed := initial.bundlesKeyed
  hosts := initial.hostsSound _
  bounds := by
    intro up aux l3Intf isLive
    rw [initial.l3IntfOf_none] at isLive
    cases isLive
  present := by
    intro owner group owns
    cases owner with
    | host entry =>
        have live := owns.1
        rw [initial.hostTable] at live
        simp [Hmap.values] at live
    | member port vid popTag =>
        have installed := owns.1
        rw [initial.members] at installed
        cases installed
    | interface up aux =>
        obtain ⟨l3Intf, isLive, _⟩ := owns
        rw [initial.l3IntfOf_none] at isLive
        cases isLive

/-- As long as every call that deletes groups is the last to need them, the L2-interface
group of every host, membership and routed interface is there. -/
theorem groups_present_of_safe_releases (env : Env) (succeeds : env.AllSucceed)
    (readsBack : env.ReadsBack) (start : Sys) (initial : Initial start) (trace : Trace) (state : Sys)
    (run : Run env start trace state)
    (keeps : Runs.Along (fun _ event => keepsHosts env event.before event.input) trace)
    (safe : Runs.Along (fun _ event => ReleasesSafely env event.before event.input) trace) :
    GroupsPresent env state := by
  have invariant : GroupInvariant env trace state := by
    refine Runs.Run.invariant initial.groupInvariant ?_ run (keeps.and safe)
    intro earlier before call rc after invariant taken allowed
    exact step_groupInvariant succeeds readsBack invariant allowed.2 allowed.1 taken
  exact invariant.present

section TwoHosts

def bundlesNamed : Trace → List (OfprotoRef × Aux)
  | [] => []
  | event :: earlier =>
      match event.input with
      | .bundleSet up aux _ => (up, aux) :: bundlesNamed earlier
      | _ => bundlesNamed earlier

theorem step_named {call : Call} (keyed : BundlesKeyed env s)
    (named : ∀ up aux, l3IntfOf env s up aux ≠ none → (up, aux) ∈ bundlesNamed trace)
    (taken : step env s call = .ok (rc, next)) (up : OfprotoRef) (aux : Aux)
    (live : l3IntfOf env next up aux ≠ none) :
    (up, aux) ∈ bundlesNamed (⟨s, call, rc, next⟩ :: trace) := by
  rcases step_cases taken with ⟨other, wanted, set, rfl, changed⟩ |
    ⟨other, wanted, isIpv6Addr, ipAddr, nextHopMacAddr, reply, rfl, added⟩ |
    ⟨other, wanted, isIpv6Addr, ipAddr, rfl, deleted⟩ | ⟨peripheral, _, _, sameBundles⟩
  · rw [bundlesNamed, List.mem_cons]
    by_cases here : up = other ∧ aux = wanted
    · exact .inl (Prod.ext here.1 here.2)
    · rw [bundleSet_l3IntfOf_other keyed changed here] at live
      exact .inr (named up aux live)
  · refine named up aux fun none => live ?_
    rcases addL3HostEntry_cases added with ⟨_, rfl⟩ | ⟨_, _, _, _, _, _, _, installed⟩
    · exact none
    · rcases installHost_cases installed with ⟨_, fpa, rfl | ⟨_, rfl⟩⟩ | ⟨_, fpa, _, _, _, rfl⟩
      · exact none
      · exact none
      · rw [l3IntfOf_hostAdded]
        split
        · rename_i here
          rw [← here.1, ← here.2, none]
          rfl
        · exact none
  · refine named up aux fun none => live ?_
    rcases deleteL3HostEntry_cases deleted with ⟨_, rfl⟩ |
      ⟨_, _, bundle, l3Intf, _, entry, found, routed, _, _, rfl⟩
    · exact none
    · rw [l3IntfOf_deleteHost found]
      split
      · rename_i here
        rw [l3IntfOf, here.1, here.2, found] at none
        rw [Option.bind_some, routed] at none
        cases none
      · exact none
  · have same : l3IntfOf env next up aux = l3IntfOf env s up aux := by
      rw [l3IntfOf, l3IntfOf, opsFpaFindBundle, opsFpaFindBundle, (sameBundles up).1]
    rw [same] at live
    cases call with
    | bundleSet | addL3Host | deleteL3Host => exact peripheral.elim
    | _ => exact named up aux live

instance InterfaceGroup.decidable (env : Env) (l3Intf : L3Intf) (group : Nat) :
    Decidable (InterfaceGroup env l3Intf group) :=
  inferInstanceAs (Decidable (l3Intf.vlanIntf = true ∧ fpaLibGroupIdentifierBuild env
    (.l2Interface (portNum l3Intf.intfId) l3Intf.vlanId) = some group))

instance Owns.decidable (env : Env) (s : Sys) : ∀ owner group, Decidable (Owns env s owner group)
  | .host entry, group =>
      inferInstanceAs (Decidable (entry ∈ s.hostTable.values ∧ entry.l2Group = group))
  | .member port vid popTag, group =>
      inferInstanceAs (Decidable (s.hw.members port (vidxEgress vid popTag) = true ∧
        fpaLibGroupIdentifierBuild env (.l2Interface port vid) = some group))
  | .interface up aux, group =>
      decidable_of_iff
        ((l3IntfOf env s up aux).any
          (fun l3Intf => decide (InterfaceGroup env l3Intf group)) = true)
        (Option.any_eq_true _ _ |>.trans (by simp only [decide_eq_true_eq, Owns]))

instance EndsWith.decidable (up : OfprotoRef) (aux : Aux) (l3Intf : L3Intf) (owner : GroupOwner) :
    Decidable (EndsWith up aux l3Intf owner) :=
  inferInstanceAs (Decidable (l3Intf.vlanIntf = true ∧
    (owner = .member (portNum l3Intf.intfId) l3Intf.vlanId false ∨ owner = .interface up aux)))

def candidates (bundles : List (OfprotoRef × Aux)) (s : Sys) (group : Nat) : List GroupOwner :=
  s.hostTable.values.map .host ++
    [.member (group % 65536) (group / 65536) false, .member (group % 65536) (group / 65536) true] ++
    bundles.map fun bundle => .interface bundle.1 bundle.2

theorem mem_candidates {bundles : List (OfprotoRef × Aux)}
    (named : ∀ up aux, l3IntfOf env s up aux ≠ none → (up, aux) ∈ bundles) {owner : GroupOwner}
    {group : Nat} (owns : Owns env s owner group) : owner ∈ candidates bundles s group := by
  simp only [candidates, List.mem_append, List.mem_map, List.mem_cons, List.not_mem_nil, or_false]
  cases owner with
  | host entry => exact .inl (.inl ⟨entry, owns.1, rfl⟩)
  | member port vid popTag =>
      obtain ⟨portBound, vidBound, isGroup⟩ := l2Group_eq owns.2
      have isPort : group % 65536 = port := by omega
      have isVid : group / 65536 = vid := by omega
      rw [isPort, isVid]
      cases popTag with
      | false => exact .inl (.inr (.inl rfl))
      | true => exact .inl (.inr (.inr rfl))
  | interface up aux =>
      obtain ⟨l3Intf, isLive, _⟩ := owns
      exact .inr ⟨(up, aux), named up aux (by simp [isLive]), rfl⟩

/-- A check that is enough for `ReleasesSafely`: interfaces go only with their last host. -/
def releasesCheck (env : Env) (bundles : List (OfprotoRef × Aux)) (s : Sys) : Call → Bool
  | .bundleSet up aux set =>
      (takenDown env s up aux set).isNone && (set.bind (configuredPort env s up aux)).isNone
  | .setVlan _ _ add => add
  | .addL3Host _ _ _ _ _ => s.arpIndices 0 ≠ 0
  | .deleteL3Host up aux isIpv6Addr ipAddr =>
      (deletedHost env s up aux isIpv6Addr ipAddr).all fun deleted =>
        InterfaceGroup env deleted.1 deleted.2.l2Group &&
          (candidates bundles s deleted.2.l2Group).all fun owner =>
            !decide (Owns env s owner deleted.2.l2Group) || owner = .host deleted.2 ||
              decide (releasedIntf deleted.1 = none ∧ EndsWith up aux deleted.1 owner)
  | _ => true

theorem releasesSafely_of_check {bundles : List (OfprotoRef × Aux)}
    (named : ∀ up aux, l3IntfOf env s up aux ≠ none → (up, aux) ∈ bundles) {call : Call}
    (checked : releasesCheck env bundles s call = true) : ReleasesSafely env s call := by
  cases call with
  | bundleSet up aux set =>
      simp only [releasesCheck, Bool.and_eq_true, Option.isNone_iff_eq_none] at checked
      refine ⟨fun l3Intf isDown => ?_, fun settings port isSet isPort => ?_⟩
      · rw [checked.1] at isDown
        cases isDown
      · rw [isSet, Option.bind_some, isPort] at checked
        cases checked.2
  | setVlan up vid add =>
      cases add with
      | true => trivial
      | false => cases checked
  | addL3Host up aux isIpv6Addr ipAddr nextHopMacAddr =>
      intro exhausted
      simp [releasesCheck, exhausted] at checked
  | deleteL3Host up aux isIpv6Addr ipAddr =>
      intro l3Intf entry isDeleted group isReleased owner owns
      simp only [releasesCheck, isDeleted, Option.all_some, Bool.and_eq_true,
        decide_eq_true_eq] at checked
      obtain ⟨isIntfGroup, checked⟩ := checked
      have isGroup : group = entry.l2Group := by
        rcases isReleased with same | ⟨_, _, built⟩
        · exact same
        · have other := isIntfGroup.2
          rw [isL2Group] at built other
          rw [built] at other
          exact Option.some.inj other
      subst isGroup
      have here := List.all_eq_true.mp checked owner (mem_candidates named owns)
      simp only [owns, decide_true, Bool.not_true, Bool.false_or, Bool.or_eq_true,
        decide_eq_true_eq] at here
      exact here
  | routeAction | portConstruct | portDestruct | addressMsg | fdbFlush => trivial

theorem run_releasesSafely {start state : Sys} (initial : Initial start)
    (run : Run env start trace state)
    (checked : Runs.Along (fun earlier event =>
      releasesCheck env (bundlesNamed earlier) event.before event.input) trace) :
    Runs.Along (fun _ event => ReleasesSafely env event.before event.input) trace ∧
      BundlesKeyed env state ∧
      ∀ up aux, l3IntfOf env state up aux ≠ none → (up, aux) ∈ bundlesNamed trace := by
  induction run with
  | nil =>
      refine ⟨trivial, initial.bundlesKeyed, fun up aux live => ?_⟩
      exact (live (initial.l3IntfOf_none up aux)).elim
  | cons _ taken ih =>
      obtain ⟨safe, keyed, named⟩ := ih checked.2
      exact ⟨⟨releasesSafely_of_check named checked.1, safe⟩, step_keyed keyed taken,
        step_named keyed named taken⟩

def oneNeighbour : List Call :=
  [.portConstruct 1 1 10 (systemNetdev 1) 1500,
    .bundleSet 1 100 (some (routedSettings 1024)),
    .addL3Host 1 100 false "10.0.0.2".toList (some "00:00:00:00:00:02".toList)]

theorem groups_present_after_last_host_deleted :
    ∃ trace state, Run idealEnv idealSys trace state ∧ state.hostTable.values.length = 1 ∧
      GroupsPresent idealEnv state := by
  obtain ⟨trace, state, run, one, keeps, checked⟩ := run_of_check idealEnv idealSys
    (oneNeighbour ++
      [.deleteL3Host 1 100 false "10.0.0.2".toList,
        .bundleSet 1 100 (some (routedSettings 1024)),
        .addL3Host 1 100 false "10.0.0.3".toList (some "00:00:00:00:00:03".toList)])
    (fun trace state => state.hostTable.values.length = 1 ∧
      Runs.Along (fun _ event => keepsHosts idealEnv event.before event.input) trace ∧
      Runs.Along (fun earlier event =>
        releasesCheck idealEnv (bundlesNamed earlier) event.before event.input) trace)
    (by decide +kernel)
  exact ⟨trace, state, run, one, groups_present_of_safe_releases idealEnv idealEnv_allSucceed
    idealEnv_readsBack idealSys idealSys_initial trace state run keeps
    (run_releasesSafely idealSys_initial run checked).1⟩

/-- Of two hosts behind one port, the first to go takes the group of the other. -/
theorem group_deleted_under_live_host :
    ∃ trace state, Run idealEnv idealSys trace state ∧
      Runs.Along (fun _ event => keepsHosts idealEnv event.before event.input) trace ∧
      ¬ GroupsPresent idealEnv state := by
  obtain ⟨trace, state, run, keeps, found⟩ := run_of_check idealEnv idealSys
    (oneNeighbour ++
      [.addL3Host 1 100 false "10.0.0.3".toList (some "00:00:00:00:00:03".toList),
        .deleteL3Host 1 100 false "10.0.0.2".toList])
    (fun trace state =>
      Runs.Along (fun _ event => keepsHosts idealEnv event.before event.input) trace ∧
      state.hostTable.values.any (fun entry => !state.hw.fpa.asic.hasGroup entry.l2Group) = true)
    (by decide +kernel)
  obtain ⟨entry, live, absent⟩ := List.any_eq_true.mp found
  refine ⟨trace, state, run, keeps, fun present => ?_⟩
  rw [present (.host entry) entry.l2Group ⟨live, rfl⟩] at absent
  cases absent

end TwoHosts

end Run

end FpaPlugin
