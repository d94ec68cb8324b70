import FpaPlugin.DevSpec
import FpaPlugin.TapMaps

/-! `ops_fpa_tap_deinit` with interfaces left. The loop hands the port number of each entry to
`ops_fpa_tap_if_delete` as its fd, and frees entries of the map it walks over. -/

namespace FpaPlugin

variable {growth : HmapGrowth} {s next : DevSys} {rc : DevRc}

/-- Every live interface is deleted: `pending` is what the pipes held before. -/
def DeletesAll (s : DevSys) (pending : Listener → List CtrlCmd) (live : List TapIf) : Prop :=
  ∃ closed next info, opsFpaTapDeinit s = .ok (closed, next) ∧
    next.dev.bind FpaDev.tapIfInfo = some info ∧
    closed.Perm (live.map TapIf.fd) ∧
    (∀ listener, ∃ deleted, deleted.Perm (live.map TapIf.delCmd) ∧
      info.ctrl listener = pending listener ++ deleted ++ [.threadExit]) ∧
    info.fdToTapIfMap.nodes = []

/-! The fds of the live interfaces are open and distinct, whatever the port numbers are. -/

structure FdsSound (threads : TapSys) : Prop where
  filed : ∀ node ∈ threads.info.fdToTapIfMap.nodes, node = (tapIfOf node).node .tap
  distinct : (threads.interfaces.map TapIf.fd).Nodup
  positive : ∀ tapIf ∈ threads.interfaces, 0 < tapIf.fd.toInt
  opened : ∀ tapIf ∈ threads.interfaces, threads.kernel tapIf.fd ≠ none
  opening : ∀ tapIf, threads.main = .opened tapIf → 0 < tapIf.fd.toInt ∧
    threads.kernel tapIf.fd ≠ none ∧ tapIf.fd ∉ threads.interfaces.map TapIf.fd
  deleting : ∀ tapIf unsent, threads.main = .deleting tapIf unsent → tapIf ∈ threads.interfaces
  closing : ∀ fd, threads.main = .closing fd → fd ∉ threads.interfaces.map TapIf.fd

section Steps

variable {threads after : TapSys}

theorem TapSys.Initial.fdsSound (initial : threads.Initial) : FdsSound threads := by
  have none := initial.interfaces_nil
  constructor
  · rw [initial.map, Hmap.nodes_empty]
    exact fun _ absurdity => (List.not_mem_nil absurdity).elim
  · rw [none]
    exact List.nodup_nil
  · rw [none]
    exact fun _ absurdity => (List.not_mem_nil absurdity).elim
  · rw [none]
    exact fun _ absurdity => (List.not_mem_nil absurdity).elim
  · rw [initial.main]
    rintro _ ⟨⟩
  · rw [initial.main]
    rintro _ _ ⟨⟩
  · rw [initial.main]
    rintro _ ⟨⟩

theorem FdsSound.rephase (sound : FdsSound threads)
    (map : after.info.fdToTapIfMap = threads.info.fdToTapIfMap)
    (kernel : after.kernel = threads.kernel)
    (opening : ∀ tapIf, after.main = .opened tapIf → threads.main = .opened tapIf)
    (deleting : ∀ tapIf unsent, after.main = .deleting tapIf unsent →
      tapIf ∈ threads.interfaces)
    (closing : ∀ fd, after.main = .closing fd → threads.main = .closing fd) :
    FdsSound after := by
  have same : after.interfaces = threads.interfaces := by
    rw [TapSys.interfaces, TapSys.interfaces, map]
  constructor
  · rw [map]
    exact sound.filed
  · rw [same]
    exact sound.distinct
  · rw [same]
    exact sound.positive
  · rw [same, kernel]
    exact sound.opened
  · rw [same, kernel]
    exact fun tapIf isOpened => sound.opening tapIf (opening tapIf isOpened)
  · rw [same]
    exact deleting
  · rw [same]
    exact fun fd isClosing => sound.closing fd (closing fd isClosing)

theorem tunAlloc_positive {tapIf : TapIf} {reply : Unit}
    (taken : tapStep growth threads (.tunAlloc tapIf) = .ok (reply, after)) :
    0 < tapIf.fd.toInt := by
  by_cases guards : threads.main = .idle ∧ 0 < tapIf.fd.toInt ∧ threads.kernel tapIf.fd = none
  · exact guards.2.1
  · simp only [tapStep, tunAllocStep, if_neg guards] at taken
    cases taken

theorem FdsSound.tunAlloc (sound : FdsSound threads) {tapIf : TapIf}
    (positive : 0 < tapIf.fd.toInt) (free : threads.kernel tapIf.fd = none) :
    FdsSound
      { threads with
        kernel := Function.update threads.kernel tapIf.fd (some tapIf.portNum)
        main := .opened tapIf } := by
  have unused : tapIf.fd ∉ threads.interfaces.map TapIf.fd := by
    intro member
    obtain ⟨other, isOther, same⟩ := List.mem_map.mp member
    exact sound.opened other isOther (same ▸ free)
  refine ⟨sound.filed, sound.distinct, sound.positive, ?_, ?_, ?_, ?_⟩
  · intro other member
    by_cases same : other.fd = tapIf.fd
    · simp [same]
    · simp only [Function.update_of_ne same]
      exact sound.opened other member
  · rintro _ ⟨⟩
    exact ⟨positive, by simp, unused⟩
  · rintro _ _ ⟨⟩
  · rintro _ ⟨⟩

theorem FdsSound.insertIf (sound : FdsSound threads) {tapIf : TapIf}
    (isOpened : threads.main = .opened tapIf) :
    FdsSound
      { threads with
        info := { threads.info with
          fdToTapIfMap := threads.info.fdToTapIfMap.insert growth (sizeOfInt tapIf.fd) tapIf.entry }
        main := .adding tapIf [.tap, .asic] } := by
  obtain ⟨positive, isOpen, unused⟩ := sound.opening tapIf isOpened
  have grown := interfaces_insert growth threads tapIf
  refine ⟨?_, ?_, ?_, ?_, ?_, ?_, ?_⟩
  · intro node member
    rcases Hmap.mem_nodes_insert.mp member with rfl | old
    · exact congrArg (TapIf.node .tap) (tapIfOf_node tapIf).symm
    · exact sound.filed node old
  · exact (grown.map TapIf.fd).nodup_iff.mpr (List.nodup_cons.mpr ⟨unused, sound.distinct⟩)
  · intro other member
    rcases List.mem_cons.mp (grown.mem_iff.mp member) with rfl | old
    · exact positive
    · exact sound.positive other old
  · intro other member
    rcases List.mem_cons.mp (grown.mem_iff.mp member) with rfl | old
    · exact isOpen
    · exact sound.opened other old
  · rintro _ ⟨⟩
  · rintro _ _ ⟨⟩
  · rintro _ ⟨⟩

theorem FdsSound.removeIf (sound : FdsSound threads) {tapIf : TapIf}
    (deleting : threads.main = .deleting tapIf []) :
    FdsSound
      { threads with
        info := { threads.info with
          fdToTapIfMap := threads.info.fdToTapIfMap.remove (sizeOfInt tapIf.fd) tapIf.entry }
        main := .closing tapIf.fd } := by
  obtain ⟨node, isNode, rfl⟩ := List.mem_map.mp (sound.deleting tapIf [] deleting)
  have isFiled : (sizeOfInt (tapIfOf node).fd, (tapIfOf node).entry) = node :=
    (sound.filed node isNode).symm
  have left := Hmap.nodes_remove threads.info.fdToTapIfMap (sizeOfInt (tapIfOf node).fd)
    (tapIfOf node).entry
  rw [isFiled] at left
  have kept : ((threads.info.fdToTapIfMap.remove (sizeOfInt (tapIfOf node).fd)
      (tapIfOf node).entry).nodes.map tapIfOf).Sublist threads.interfaces := by
    rw [left]
    exact List.erase_sublist.map tapIfOf
  have distinct := sound.distinct
  rw [TapSys.interfaces, List.map_map] at distinct
  refine ⟨?_, ?_, ?_, ?_, ?_, ?_, ?_⟩
  · intro other member
    rw [left] at member
    exact sound.filed other (List.mem_of_mem_erase member)
  · exact (kept.map TapIf.fd).nodup sound.distinct
  · exact fun other member => sound.positive other (kept.subset member)
  · exact fun other member => sound.opened other (kept.subset member)
  · rintro _ ⟨⟩
  · rintro _ _ ⟨⟩
  · rintro _ ⟨⟩ member
    obtain ⟨_, isOther, sameFd⟩ := List.mem_map.mp member
    obtain ⟨other, inNodes, rfl⟩ := List.mem_map.mp isOther
    rw [left] at inNodes
    have same := List.inj_on_of_nodup_map distinct (List.mem_of_mem_erase inNodes) isNode sameFd
    rw [same] at inNodes
    exact distinct.of_map.not_mem_erase inNodes

theorem FdsSound.closeFd (sound : FdsSound threads) {fd : BitVec 32}
    (closing : threads.main = .closing fd) :
    FdsSound
      { threads with
        kernel := Function.update threads.kernel fd none
        main := .idle } := by
  refine ⟨sound.filed, sound.distinct, sound.positive, ?_, ?_, ?_, ?_⟩
  · intro tapIf member
    have different : tapIf.fd ≠ fd := by
      rintro rfl
      exact sound.closing _ closing (List.mem_map.mpr ⟨tapIf, member, rfl⟩)
    simp only [Function.update_of_ne different]
    exact sound.opened tapIf member
  · rintro _ ⟨⟩
  · rintro _ _ ⟨⟩
  · rintro _ ⟨⟩

theorem FdsSound.step (sound : FdsSound threads) {input : TapStep} {reply : Unit}
    (taken : tapStep growth threads input = .ok (reply, after)) : FdsSound after := by
  cases tapStep_moves taken with
  | tunAlloc _ free => exact sound.tunAlloc (tunAlloc_positive taken) free
  | insertIf isOpened => exact sound.insertIf isOpened
  | sendAdd adding =>
      refine sound.rephase rfl rfl ?_ ?_ ?_
      all_goals
        dsimp only
        split_ifs
        all_goals simp
  | sendDel deleting =>
      refine sound.rephase rfl rfl ?_ ?_ ?_
      · rintro _ ⟨⟩
      · rintro _ _ ⟨⟩
        exact sound.deleting _ _ deleting
      · rintro _ ⟨⟩
  | findIf _ found =>
      refine sound.rephase rfl rfl ?_ ?_ ?_
      · rintro _ ⟨⟩
      · rintro _ _ ⟨⟩
        exact mem_interfaces_of_found found
      · rintro _ ⟨⟩
  | removeIf deleting => exact sound.removeIf deleting
  | closeFd closing => exact sound.closeFd closing
  | recv | await | receive | pipeEmpty | findPort =>
      exact sound.rephase rfl rfl (fun _ => id) sound.deleting fun _ => id

theorem fdsSound_of_run {start : TapSys} {trace : TapTrace} (initial : start.Initial)
    (run : TapRun growth start trace threads) : FdsSound threads := by
  induction run with
  | nil => exact initial.fdsSound
  | cons _ taken ih => exact ih.step taken

end Steps

/-! One visit of the loop. -/

theorem tapIfDelete_map {tapFd : BitVec 32} (taken : opsFpaTapIfDelete s tapFd = .ok (rc, next)) :
    next.tapIfMap = s.tapIfMap ∨ ∃ entry, getIfEntry s.tapIfMap tapFd = some entry ∧
      next.tapIfMap = s.tapIfMap.remove (sizeOfInt tapFd) entry := by
  rw [opsFpaTapIfDelete] at taken
  split at taken
  · cases taken
  · cases locking : opsFpaDevMutexLock s with
    | error fault =>
        rw [locking] at taken
        cases taken
    | ok locked =>
        obtain ⟨_, rfl⟩ := mutexLock_cases locking
        simp only [locking] at taken
        cases known : s.dev with
        | none =>
            simp only [getTapInfoBySwitchId, opsFpaDevById, known] at taken
            cases taken
        | some dev =>
            cases isInfo : dev.tapIfInfo with
            | none =>
                simp only [getTapInfoBySwitchId, opsFpaDevById, known, isInfo] at taken
                cases taken
                exact .inl (by simp [DevSys.tapIfMap, known])
            | some info =>
                have isMap : s.tapIfMap = info.fdToTapIfMap := by
                  simp [DevSys.tapIfMap, known, isInfo]
                simp only [getTapInfoBySwitchId, opsFpaDevById, known, isInfo, ← isMap] at taken
                cases found : getIfEntry s.tapIfMap tapFd with
                | none =>
                    simp only [found] at taken
                    cases taken
                    exact .inl (by simp [DevSys.tapIfMap, known])
                | some entry =>
                    simp only [found] at taken
                    cases taken
                    refine .inr ⟨entry, rfl, ?_⟩
                    rw [isMap]
                    simp [DevSys.tapIfMap, opsFpaDevMutexUnlock, setTapInfo, deleteTapIf,
                      notifyListeners, sendCtrlCmd, TapIf.entry, TapIfEntry.portNum]

theorem deinitTapIf_map {node : Nat × TapIfEntry} {before after : List (BitVec 32) × DevSys}
    (ran : deinitTapIf node before = .ok after) :
    after.2.tapIfMap.nodes = before.2.tapIfMap.nodes ∨
    ∃ entry, after.2.tapIfMap.nodes =
      before.2.tapIfMap.nodes.erase (sizeOfInt node.2.fd, entry) := by
  rw [deinitTapIf] at ran
  cases taken : opsFpaTapIfDelete before.2 node.2.fd with
  | error fault =>
      rw [taken] at ran
      cases ran
  | ok result =>
      rw [taken] at ran
      cases ran
      rcases tapIfDelete_map taken with same | ⟨entry, _, removed⟩
      · exact .inl (by rw [same])
      · exact .inr ⟨entry, by rw [removed, Hmap.nodes_remove]⟩

theorem deinitTapIf_freesOne :
    Hmap.FreesOne (fun s : List (BitVec 32) × DevSys => s.2.tapIfMap) deinitTapIf where
  shrinks := by
    intro node before after ran
    rcases deinitTapIf_map ran with same | ⟨entry, erased⟩
    · exact same ▸ List.Sublist.refl _
    · exact erased ▸ List.erase_sublist
  one := by
    intro node before after ran
    rcases deinitTapIf_map ran with same | ⟨entry, erased⟩
    · rw [same]
      omega
    · rw [erased, List.length_erase]
      split <;> omega

theorem deinitTapIf_own {node : Nat × TapIfEntry} {before after : List (BitVec 32) × DevSys}
    (ran : deinitTapIf node before = .ok after) (member : node ∈ before.2.tapIfMap.nodes)
    (freed : node ∉ after.2.tapIfMap.nodes) : node.1 = sizeOfInt node.2.portNum := by
  rcases deinitTapIf_map ran with same | ⟨entry, erased⟩
  · exact (freed (same ▸ member)).elim
  · by_contra different
    have ne : node ≠ (sizeOfInt node.2.fd, entry) := by
      intro same
      exact different (congrArg Prod.fst same)
    exact freed (erased ▸ (List.mem_erase_of_ne ne).mpr member)

/-- The nodes of `start` that are no longer `ahead` have been deleted one by one. -/
structure DeinitSound (start : TapInfo) (ahead : List (Nat × TapIfEntry))
    (s : List (BitVec 32) × DevSys) : Prop where
  nodes : s.2.tapIfMap.nodes = ahead
  reached : ∃ dev info done, s.2 = ⟨false, some dev⟩ ∧ dev.tapIfInfo = some info ∧
    start.fdToTapIfMap.nodes = done ++ ahead ∧ s.1 = (done.map tapIfOf).map TapIf.fd ∧
    ∀ listener, info.ctrl listener = start.ctrl listener ++ (done.map tapIfOf).map TapIf.delCmd

theorem getIfEntry_of_distinct {map : Hmap TapIfEntry} {node : Nat × TapIfEntry}
    {tapFd : BitVec 32} (member : node ∈ map.nodes) (isHash : node.1 = sizeOfInt tapFd)
    (distinct : (map.nodes.map Prod.fst).Nodup) : getIfEntry map tapFd = some node.2 := by
  cases found : getIfEntry map tapFd with
  | none => exact (Hmap.firstWithHash_none found node.2 (isHash ▸ member)).elim
  | some entry =>
      have inNodes := Hmap.firstWithHash_some found
      have same := List.inj_on_of_nodup_map distinct inNodes member isHash.symm
      rw [← same]

theorem ctrl_notifyListeners (info : TapInfo) (cmd : CtrlCmd) (listener : Listener) :
    (notifyListeners info cmd).ctrl listener = info.ctrl listener ++ [cmd] := by
  cases listener <;> simp [notifyListeners, sendCtrlCmd]

theorem hashes_distinct {threads : TapSys} (sound : FdsSound threads) :
    (threads.info.fdToTapIfMap.nodes.map Prod.fst).Nodup := by
  have fds := sound.distinct
  rw [TapSys.interfaces, List.map_map] at fds
  refine List.Nodup.map_on ?_ fds.of_map
  intro node isNode other isOther sameHash
  have nodeHash : node.1 = sizeOfInt (tapIfOf node).fd := congrArg Prod.fst (sound.filed node isNode)
  have otherHash : other.1 = sizeOfInt (tapIfOf other).fd :=
    congrArg Prod.fst (sound.filed other isOther)
  have sameFd := sizeOfInt_inj (nodeHash.symm.trans (sameHash.trans otherHash))
  exact List.inj_on_of_nodup_map fds isNode isOther sameFd

theorem DeinitSound.visit {threads : TapSys} (fds : FdsSound threads)
    (ownFd : ∀ tapIf ∈ threads.interfaces, tapIf.portNum = tapIf.fd) {node : Nat × TapIfEntry}
    {ahead : List (Nat × TapIfEntry)} {before : List (BitVec 32) × DevSys}
    (sound : DeinitSound threads.info (node :: ahead) before) :
    ∃ after, deinitTapIf node before = .ok after ∧ DeinitSound threads.info ahead after := by
  obtain ⟨isNodes, dev, info, done, isSys, isInfo, split, isClosed, isSent⟩ := sound
  obtain ⟨closed, sys⟩ := before
  obtain rfl : sys = ⟨false, some dev⟩ := isSys
  have isMap : (⟨false, some dev⟩ : DevSys).tapIfMap = info.fdToTapIfMap := by
    simp [DevSys.tapIfMap, isInfo]
  rw [isMap] at isNodes
  have isNode : node ∈ threads.info.fdToTapIfMap.nodes := by
    rw [split]
    exact List.mem_append_right _ List.mem_cons_self
  have isLive : tapIfOf node ∈ threads.interfaces := List.mem_map.mpr ⟨node, isNode, rfl⟩
  have filed : (sizeOfInt (tapIfOf node).fd, (tapIfOf node).entry) = node :=
    (fds.filed node isNode).symm
  have own : (tapIfOf node).fd = node.2.fd := (ownFd _ isLive).symm
  have isTapIf : (⟨node.2.name, node.2.fd, node.2.portNum, node.2.mac⟩ : TapIf) = tapIfOf node := by
    rw [← own]
    rfl
  have isHash : node.1 = sizeOfInt node.2.fd := by
    rw [← own]
    exact (congrArg Prod.fst filed).symm
  have distinct : (info.fdToTapIfMap.nodes.map Prod.fst).Nodup := by
    have kept : info.fdToTapIfMap.nodes.Sublist threads.info.fdToTapIfMap.nodes := by
      rw [isNodes, split]
      exact List.sublist_append_right _ _
    exact (kept.map Prod.fst).nodup (hashes_distinct fds)
  have found : getIfEntry info.fdToTapIfMap node.2.fd = some node.2 :=
    getIfEntry_of_distinct (isNodes ▸ List.mem_cons_self) isHash distinct
  have deleted : opsFpaTapIfDelete ⟨false, some dev⟩ node.2.fd =
      .ok (.ok, ⟨false, some { dev with tapIfInfo := some (deleteTapIf info (tapIfOf node)) }⟩) := by
    rw [opsFpaTapIfDelete, if_neg (not_not.mpr (own ▸ fds.positive _ isLive)), mutexLock_free rfl]
    simp only [getTapInfoBySwitchId, opsFpaDevById, isInfo, found, isTapIf]
    rfl
  refine ⟨_, by rw [deinitTapIf, deleted], ?_, _, _, done ++ [node], rfl, rfl, ?_, ?_, ?_⟩
  · have removed := Hmap.nodes_remove info.fdToTapIfMap (sizeOfInt (tapIfOf node).fd)
      (tapIfOf node).entry
    rw [filed, isNodes, List.erase_cons_head] at removed
    exact removed
  · rw [split, List.append_assoc, List.singleton_append]
  · rw [if_pos rfl, List.map_append, List.map_append, List.map_singleton, List.map_singleton, own]
    exact congrArg (· ++ [node.2.fd]) isClosed
  · intro listener
    rw [List.map_append, List.map_append, ← List.append_assoc, ← isSent]
    exact ctrl_notifyListeners info _ listener

theorem tapIfMap_stopListeners (s : DevSys) : (stopListeners s).tapIfMap = s.tapIfMap := by
  cases known : s.dev with
  | none => simp [DevSys.tapIfMap, stopListeners, known]
  | some dev =>
      cases isInfo : dev.tapIfInfo <;>
        simp [DevSys.tapIfMap, stopListeners, known, isInfo, notifyListeners, sendCtrlCmd]

theorem tapIfMap_of_hasThreads {threads : TapSys} (has : HasThreads s threads) :
    s.tapIfMap = threads.info.fdToTapIfMap := by
  obtain ⟨_, dev, known, isInfo⟩ := has
  simp [DevSys.tapIfMap, known, isInfo]

theorem tapDeinit_of_hasThreads {threads : TapSys} (has : HasThreads s threads) :
    opsFpaTapDeinit s = (deleteTapIfs threads.info s).map fun result =>
      (result.1, stopListeners result.2) := by
  obtain ⟨_, dev, known, isInfo⟩ := has
  simp only [opsFpaTapDeinit, getTapInfoBySwitchId, opsFpaDevById, known, isInfo]
  cases deleteTapIfs threads.info s <;> rfl

theorem own_fd_of_deletesAll {threads : TapSys} (sound : FdsSound threads)
    (has : HasThreads s threads)
    (deletes : DeletesAll s threads.info.ctrl threads.interfaces) :
    ∀ tapIf ∈ threads.interfaces, tapIf.portNum = tapIf.fd := by
  obtain ⟨closed, after, info, ended, isInfo, _, _, empty⟩ := deletes
  intro tapIf member
  obtain ⟨node, isNode, rfl⟩ := List.mem_map.mp member
  rw [tapDeinit_of_hasThreads has] at ended
  cases looped : deleteTapIfs threads.info s with
  | error fault =>
      rw [looped] at ended
      cases ended
  | ok result =>
      rw [looped] at ended
      cases ended
      have emptied : result.2.tapIfMap.nodes = [] := by
        rw [← tapIfMap_stopListeners, DevSys.tapIfMap, isInfo]
        exact empty
      have split : s.tapIfMap.nodes = [] ++ threads.info.fdToTapIfMap.nodes := by
        rw [tapIfMap_of_hasThreads has, List.nil_append]
      have distinct : s.tapIfMap.nodes.Nodup := split ▸ (hashes_distinct sound).of_map
      obtain ⟨_, visited⟩ := Hmap.forEachSafe_emptied deinitTapIf_freesOne _ [] _ ([], s) result split
        distinct looped emptied
      obtain ⟨before, later, _, ran, isBefore, freed⟩ := visited node isNode
      have isHash := deinitTapIf_own ran isBefore freed
      have filedHash : node.1 = sizeOfInt (tapIfOf node).fd :=
        congrArg Prod.fst (sound.filed node isNode)
      exact sizeOfInt_inj (isHash.symm.trans filedHash)

theorem deletesAll_of_own_fd {threads : TapSys} (sound : FdsSound threads)
    (has : HasThreads s threads) (free : s.mutex = false)
    (own : ∀ tapIf ∈ threads.interfaces, tapIf.portNum = tapIf.fd) :
    DeletesAll s threads.info.ctrl threads.interfaces := by
  have started : DeinitSound threads.info threads.info.fdToTapIfMap.nodes ([], s) := by
    refine ⟨congrArg Hmap.nodes (tapIfMap_of_hasThreads has), ?_⟩
    obtain ⟨_, dev, known, isInfo⟩ := has
    refine ⟨dev, threads.info, [], ?_, isInfo, rfl, rfl, ?_⟩
    · cases s
      cases free
      cases known
      rfl
    · simp
  obtain ⟨final, looped, empty, dev, info, done, isSys, isInfo, split, isClosed, isSent⟩ :
      ∃ final, deleteTapIfs threads.info s = .ok final ∧ DeinitSound threads.info [] final :=
    Hmap.forEachSafe_frees (fun _ _ held => held.nodes) (fun _ _ _ held => held.visit sound own)
      _ ([], s) (hashes_distinct sound).of_map started
  have isLive : done.map tapIfOf = threads.interfaces := by
    rw [TapSys.interfaces, split, List.append_nil]
  rw [isLive] at isClosed isSent
  refine ⟨final.1, stopListeners final.2, notifyListeners info .threadExit, ?_, ?_, ?_, ?_, ?_⟩
  · rw [tapDeinit_of_hasThreads has, looped]
    rfl
  · simp [isSys, stopListeners, isInfo]
  · rw [isClosed]
  · intro listener
    refine ⟨_, List.Perm.refl _, ?_⟩
    rw [ctrl_notifyListeners, isSent]
  · rw [isSys] at empty
    simpa [DevSys.tapIfMap, isInfo, notifyListeners, sendCtrlCmd] using empty

theorem tapIfDelete_ends (s : DevSys) (tapFd : BitVec 32) :
    opsFpaTapIfDelete s tapFd ≠ .error (.crash .endlessLoop) := by
  rw [opsFpaTapIfDelete, opsFpaDevMutexLock]
  split_ifs
  · rintro ⟨⟩
  · dsimp only [getTapInfoBySwitchId, opsFpaDevById]
    cases s.dev with
    | none => rintro ⟨⟩
    | some dev =>
        dsimp only
        cases dev.tapIfInfo with
        | none => rintro ⟨⟩
        | some info =>
            dsimp only
            cases getIfEntry info.fdToTapIfMap tapFd with
            | none => rintro ⟨⟩
            | some => rintro ⟨⟩
  · rintro ⟨⟩

theorem deinitTapIf_ends (node : Nat × TapIfEntry) (before : List (BitVec 32) × DevSys) :
    deinitTapIf node before ≠ .error (.crash .endlessLoop) := by
  rw [deinitTapIf]
  cases taken : opsFpaTapIfDelete before.2 node.2.fd with
  | error fault => exact fun same => tapIfDelete_ends _ _ (taken.trans (by rw [Except.error.inj same]))
  | ok => rintro ⟨⟩

theorem tapDeinit_ends {start threads : TapSys} {trace : TapTrace} (initial : start.Initial)
    (run : TapRun growth start trace threads) (has : HasThreads s threads) :
    opsFpaTapDeinit s ≠ .error (.crash .endlessLoop) := by
  have sound := fdsSound_of_run initial run
  have split : s.tapIfMap.nodes = [] ++ threads.info.fdToTapIfMap.nodes := by
    rw [tapIfMap_of_hasThreads has, List.nil_append]
  have ends : deleteTapIfs threads.info s ≠ .error (.crash .endlessLoop) :=
    Hmap.forEachSafe_ends deinitTapIf_freesOne (by decide) deinitTapIf_ends _ [] _ ([], s) split
      (split ▸ (hashes_distinct sound).of_map) (Nat.le_refl _)
  rw [tapDeinit_of_hasThreads has]
  cases looped : deleteTapIfs threads.info s with
  | error fault => exact fun same => ends (looped.trans same)
  | ok => rintro ⟨⟩

theorem deinit_deletes_all_iff {start threads : TapSys} {trace : TapTrace}
    (initial : start.Initial) (run : TapRun growth start trace threads)
    (has : HasThreads s threads) (free : s.mutex = false) :
    DeletesAll s threads.info.ctrl threads.interfaces ↔
      ∀ tapIf ∈ threads.interfaces, tapIf.portNum = tapIf.fd := by
  have sound := fdsSound_of_run initial run
  constructor
  · exact own_fd_of_deletesAll sound has
  · exact deletesAll_of_own_fd sound has free

def tapUp (tapIf : TapIf) : TapSys :=
  { idleTap with
    info := addTapIf ovsGrowth idleTap.info tapIf
    kernel := Function.update idleTap.kernel tapIf.fd (some tapIf.portNum) }

def devUp (tapIf : TapIf) : DevSys := ⟨false, some ⟨1, some (tapUp tapIf).info, none⟩⟩

theorem devUp_hasThreads (tapIf : TapIf) : HasThreads (devUp tapIf) (tapUp tapIf) :=
  ⟨rfl, _, rfl, rfl⟩

theorem deinit_deletes_fd_7 : ∃ trace, TapRun ovsGrowth idleTap trace (tapUp (tapIf5 7#32)) ∧
    (tapUp (tapIf5 7#32)).interfaces = [tapIf5 7#32] ∧
    DeletesAll (devUp (tapIf5 7#32)) (tapUp (tapIf5 7#32)).info.ctrl
      (tapUp (tapIf5 7#32)).interfaces := by
  obtain ⟨trace, run⟩ := @addTapIf_steps idleTap ovsGrowth (tapIf5 7#32)
    idleTap_initial.main (by decide) rfl
  refine ⟨trace, run, by decide +kernel, ?_⟩
  exact (deinit_deletes_all_iff idleTap_initial run (devUp_hasThreads _) rfl).mpr (by decide +kernel)

/-- Port 5 has its interface on fd 7: no interface has fd 5, and nothing is closed. -/
theorem port_5_left_open : ∃ trace, TapRun ovsGrowth idleTap trace (tapUp (tapIf5 5#32)) ∧
    HasThreads (devUp (tapIf5 5#32)) (tapUp (tapIf5 5#32)) ∧ (devUp (tapIf5 5#32)).mutex = false ∧
    (opsFpaTapDeinit (devUp (tapIf5 5#32))).toOption.map Prod.fst = some [] ∧
    ¬ DeletesAll (devUp (tapIf5 5#32)) (tapUp (tapIf5 5#32)).info.ctrl
      (tapUp (tapIf5 5#32)).interfaces := by
  obtain ⟨trace, run⟩ := @addTapIf_steps idleTap ovsGrowth (tapIf5 5#32)
    idleTap_initial.main (by decide) rfl
  refine ⟨trace, run, devUp_hasThreads _, rfl, by decide +kernel, fun deletes => ?_⟩
  have own := own_fd_of_deletesAll (fdsSound_of_run idleTap_initial run) (devUp_hasThreads _) deletes
  exact absurd own (by decide +kernel)

end FpaPlugin
