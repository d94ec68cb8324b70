import FpaPlugin.BundleSpec

/-! ARP indices: the free list threaded through `arp_indices` and the indices of the
live hosts never meet, whatever is added, deleted or refused. -/

namespace FpaPlugin

variable {env : Env}

def liveIndices (hosts : Hmap HostTableEntry) : List Nat := hosts.values.map HostTableEntry.arpIndex

def IndicesSound (cells : Nat → Nat) (hosts : Hmap HostTableEntry) : Prop :=
  ∃ free, FreeList.Holds arpIndicesSize cells free ∧ (liveIndices hosts).Nodup ∧
    ∀ index ∈ liveIndices hosts, index ∉ free ∧ 1 ≤ index ∧ index ≤ arpIndicesSize

theorem liveIndices_add (hosts : Hmap HostTableEntry) (entry : HostTableEntry) :
    (liveIndices (hostTableAdd env hosts entry)).Perm (entry.arpIndex :: liveIndices hosts) :=
  (Hmap.values_insert_perm env.growth hosts _ entry).map HostTableEntry.arpIndex

theorem liveIndices_delete {hosts : Hmap HostTableEntry} {ipv4Addr : InAddr}
    {entry : HostTableEntry} (found : hostTableFind env hosts ipv4Addr = some entry) :
    (liveIndices hosts).Perm (entry.arpIndex :: liveIndices (hostTableDelete env hosts entry)) :=
  ((Hmap.values_remove_perm (hostTableFind_some found).1).map HostTableEntry.arpIndex).symm

theorem indicesSound_init (s : Sys) :
    IndicesSound (opsFpaOfprotoInit s).arpIndices (opsFpaOfprotoInit s).hostTable := by
  have noneLive : liveIndices (opsFpaOfprotoInit s).hostTable = [] := by
    simp [liveIndices, opsFpaOfprotoInit, Hmap.values, Hmap.nodes_empty]
  refine ⟨_, FreeList.Holds.full arpIndicesSize, ?_, ?_⟩
  · rw [noneLive]
    exact List.nodup_nil
  · rw [noneLive]
    intro index member
    cases member

theorem IndicesSound.pop {cells : Nat → Nat} {hosts : Hmap HostTableEntry}
    (sound : IndicesSound cells hosts) (available : cells 0 ≠ 0) :
    IndicesSound (FreeList.pop cells) hosts := by
  obtain ⟨free, holds, unique, live⟩ := sound
  obtain ⟨rest, freeEq, left⟩ := holds.pop available
  refine ⟨rest, left, unique, ?_⟩
  intro index member
  obtain ⟨notFree, bounds⟩ := live index member
  refine ⟨?_, bounds⟩
  intro inRest
  apply notFree
  rw [freeEq]
  exact List.mem_cons_of_mem _ inRest

theorem IndicesSound.fresh {cells : Nat → Nat} {hosts : Hmap HostTableEntry}
    (sound : IndicesSound cells hosts) (available : cells 0 ≠ 0) {entry : HostTableEntry}
    (taken : entry.arpIndex = cells 0) : entry ∉ hosts.values := by
  obtain ⟨free, holds, _, live⟩ := sound
  obtain ⟨rest, freeEq, _⟩ := holds.pop available
  intro member
  have notFree := (live entry.arpIndex (List.mem_map_of_mem member)).1
  rw [taken, freeEq] at notFree
  exact notFree List.mem_cons_self

theorem IndicesSound.add {cells : Nat → Nat} {hosts : Hmap HostTableEntry}
    (sound : IndicesSound cells hosts) (available : cells 0 ≠ 0) {entry : HostTableEntry}
    (taken : entry.arpIndex = cells 0) :
    IndicesSound (FreeList.pop cells) (hostTableAdd env hosts entry) := by
  obtain ⟨free, holds, unique, live⟩ := sound
  obtain ⟨rest, freeEq, left⟩ := holds.pop available
  have headFree : cells 0 ∈ free := by
    rw [freeEq]
    exact List.mem_cons_self
  have headOnce : cells 0 ∉ rest := by
    have once := holds.unique
    rw [freeEq] at once
    exact (List.nodup_cons.mp once).1
  have perm := @liveIndices_add env hosts entry
  rw [taken] at perm
  refine ⟨rest, left, ?_, ?_⟩
  · refine perm.nodup_iff.mpr (List.nodup_cons.mpr ⟨?_, unique⟩)
    intro member
    exact (live _ member).1 headFree
  · intro index member
    rcases List.mem_cons.mp (perm.mem_iff.mp member) with same | old
    · rw [same]
      exact ⟨headOnce, holds.inRange _ headFree⟩
    · obtain ⟨notFree, bounds⟩ := live index old
      refine ⟨?_, bounds⟩
      intro inRest
      apply notFree
      rw [freeEq]
      exact List.mem_cons_of_mem _ inRest

theorem IndicesSound.delete {cells : Nat → Nat} {hosts : Hmap HostTableEntry} {ipv4Addr : InAddr}
    {entry : HostTableEntry} (sound : IndicesSound cells hosts)
    (found : hostTableFind env hosts ipv4Addr = some entry) :
    IndicesSound (FreeList.push cells entry.arpIndex) (hostTableDelete env hosts entry) := by
  obtain ⟨free, holds, unique, live⟩ := sound
  have perm := liveIndices_delete found
  have once := List.nodup_cons.mp (perm.nodup_iff.mp unique)
  obtain ⟨notFree, bounds⟩ := live entry.arpIndex (perm.mem_iff.mpr List.mem_cons_self)
  refine ⟨entry.arpIndex :: free, holds.push bounds notFree, once.2, ?_⟩
  intro index member
  obtain ⟨otherFree, otherBounds⟩ := live index (perm.mem_iff.mpr (List.mem_cons_of_mem _ member))
  refine ⟨?_, otherBounds⟩
  intro pushed
  rcases List.mem_cons.mp pushed with same | old
  · exact once.1 (same ▸ member)
  · exact otherFree old

section Step

variable {s next : Sys} {up : OfprotoRef} {aux : Aux} {rc : Rc}

theorem addL3HostEntry_indicesSound {isIpv6Addr : Bool} {ipAddr : CString}
    {nextHopMacAddr : Option CString} {reply : Option Int}
    (sound : IndicesSound s.arpIndices s.hostTable)
    (taken : addL3HostEntry env s up aux isIpv6Addr ipAddr nextHopMacAddr = .ok (rc, reply, next)) :
    IndicesSound next.arpIndices next.hostTable := by
  rcases addL3HostEntry_cases taken with ⟨_, rfl⟩ | ⟨_, _, _, _, _, _, _, installed⟩
  · exact sound
  · rcases installHost_cases installed with ⟨_, fpa, rfl | ⟨available, rfl⟩⟩ |
      ⟨_, fpa, l2Group, l3Group, acquired, rfl⟩
    · exact sound
    · exact sound.pop available
    · exact sound.add acquired.available rfl

theorem deleteL3HostEntry_indicesSound {isIpv6Addr : Bool} {ipAddr : CString}
    (sound : IndicesSound s.arpIndices s.hostTable)
    (taken : deleteL3HostEntry env s up aux isIpv6Addr ipAddr = .ok (rc, next)) :
    IndicesSound next.arpIndices next.hostTable := by
  rcases deleteL3HostEntry_cases taken with ⟨_, rfl⟩ |
    ⟨_, _, _, _, ipv4Addr, entry, _, _, _, found, rfl⟩
  · exact sound
  · rw [deleteHost_eq]
    exact sound.delete found

theorem bundleSet_indicesSound {set : Option BundleSettings}
    (sound : IndicesSound s.arpIndices s.hostTable)
    (taken : opsFpaOfprotoBundleSet env s up aux set = .ok (rc, next)) :
    IndicesSound next.arpIndices next.hostTable := by
  rcases bundleSet_cases taken with ⟨_, removed⟩ | ⟨_, _, _, _, rfl⟩ |
    ⟨settings, slave, ensured, bundle, _, _, created, found, configured⟩
  · obtain ⟨sameCells, sameHosts, _⟩ := rmBundle_frame removed
    rwa [sameCells, sameHosts]
  · exact sound
  · obtain ⟨_, sameCells, sameHosts, _, _⟩ := ensureBundle_frame created
    rw [← sameCells, ← sameHosts] at sound
    refine configured_invariant (fun state => IndicesSound state.arpIndices state.hostTable)
      found ?_ (fun _ _ _ kept => kept)
      (fun _ _ _ _ _ kept deleted => deleteL3HostEntry_indicesSound kept deleted)
      (fun _ _ _ => by simpa only [setVmap_frame] using sound) sound configured
    intro port vlanId outcome between _ found routing
    obtain ⟨routedCells, routedHosts, _⟩ := configureRouting_frame found routing
    rwa [routedCells, routedHosts]

theorem step_indicesSound {call : Call} (sound : IndicesSound s.arpIndices s.hostTable)
    (taken : step env s call = .ok (rc, next)) : IndicesSound next.arpIndices next.hostTable := by
  rcases step_cases taken with ⟨_, _, _, _, changed⟩ | ⟨_, _, _, _, _, _, _, added⟩ |
    ⟨_, _, _, _, _, deleted⟩ | ⟨_, sameCells, sameHosts, _⟩
  · exact bundleSet_indicesSound sound changed
  · exact addL3HostEntry_indicesSound sound added
  · exact deleteL3HostEntry_indicesSound sound deleted
  · rwa [sameCells, sameHosts]

end Step

theorem run_indicesSound {s state : Sys} {trace : Trace}
    (run : Run env (opsFpaOfprotoInit s) trace state) :
    IndicesSound state.arpIndices state.hostTable := by
  induction run with
  | nil => exact indicesSound_init s
  | cons _ taken ih => exact step_indicesSound ih taken

theorem Initial.indicesSound {s : Sys} (initial : Initial s) :
    IndicesSound s.arpIndices s.hostTable := by
  have sound := indicesSound_init s
  rwa [opsFpaOfprotoInit, ← initial.arpIndices, ← initial.hostTable] at sound

theorem IndicesSound.length_le {cells : Nat → Nat} {hosts : Hmap HostTableEntry}
    (sound : IndicesSound cells hosts) : hosts.values.length ≤ arpIndicesSize := by
  obtain ⟨_, _, unique, live⟩ := sound
  have bound := FreeList.length_le_of_inRange unique fun index member => (live index member).2
  rwa [liveIndices, List.length_map] at bound

/-- From initialisation on, the chain through `arp_indices` ends after at most
`ARP_INDICES_SIZE` distinct indices in range, none of which a live host holds, and
no two live hosts hold the same one. -/
theorem arp_index_handed_out_once (env : Env) (s : Sys) {trace : Trace} {state : Sys}
    (run : Run env (opsFpaOfprotoInit s) trace state) :
    ∃ free, FreeList.Linked state.arpIndices 0 free ∧ free.length ≤ arpIndicesSize ∧
      (∀ index ∈ free, 1 ≤ index ∧ index ≤ arpIndicesSize) ∧ free.Nodup ∧
      (∀ entry ∈ state.hostTable.values, entry.arpIndex ∉ free) ∧
      (state.hostTable.values.map HostTableEntry.arpIndex).Nodup := by
  obtain ⟨free, holds, unique, live⟩ := run_indicesSound run
  refine ⟨free, holds.linked, ?_, holds.inRange, holds.unique, ?_, unique⟩
  · exact FreeList.length_le_of_inRange holds.unique holds.inRange
  · intro entry member
    exact (live entry.arpIndex (List.mem_map_of_mem member)).1

theorem arp_index_handed_out_once_reuse : ∃ trace state,
    Run idealEnv (opsFpaOfprotoInit bareSys) trace state ∧
      liveIndices state.hostTable = [1, 2] ∧
      ∃ free, FreeList.Linked state.arpIndices 0 free ∧ free.length ≤ arpIndicesSize ∧
        (∀ index ∈ free, 1 ≤ index ∧ index ≤ arpIndicesSize) ∧ free.Nodup ∧
        (∀ entry ∈ state.hostTable.values, entry.arpIndex ∉ free) ∧
        (state.hostTable.values.map HostTableEntry.arpIndex).Nodup := by
  obtain ⟨trace, state, run, live⟩ := run_of_check idealEnv (opsFpaOfprotoInit bareSys)
    [.portConstruct 1 1 10 (systemNetdev 1) 1500,
      .bundleSet 1 100 (some (routedSettings 1024)),
      .addL3Host 1 100 false "10.0.0.2".toList (some "00:00:00:00:00:02".toList),
      .addL3Host 1 100 false "10.0.0.3".toList (some "00:00:00:00:00:03".toList),
      .deleteL3Host 1 100 false "10.0.0.2".toList,
      .addL3Host 1 100 false "10.0.0.4".toList (some "00:00:00:00:00:04".toList)]
    (fun _ state => liveIndices state.hostTable = [1, 2]) (by decide +kernel)
  exact ⟨trace, state, run, live, arp_index_handed_out_once idealEnv bareSys run⟩

end FpaPlugin
