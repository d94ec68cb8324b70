import FpaPlugin.Netdev
import FpaPlugin.System
import FpaPlugin.TapDeinit

/-! Who has a TAP interface. Over any run the interface map of the device holds one entry for
each network device that was told which port it stands for, and none besides. -/

namespace FpaPlugin

structure OpenTap where
  sid : Int
  pid : Int
  fd : BitVec 32

def FpaNetdev.tap (netdev : FpaNetdev) : Option OpenTap :=
  if netdev.tapFd = 0 then none else some ⟨netdev.sid, netdev.pid, netdev.tapFd⟩

def tapsOf (netdevs : List FpaNetdev) : List OpenTap := netdevs.filterMap FpaNetdev.tap

def OpenTap.filed (tap : OpenTap) : Nat × BitVec 32 :=
  (sizeOfInt tap.fd, BitVec.ofInt 32 tap.pid)

def filedPort (node : Nat × TapIfEntry) : Nat × BitVec 32 := (node.1, node.2.portNum)

/-- Destroying the netdev deletes the interface of its own fd and port, and tells both listeners
so. -/
def ClosesOwnTap (s : DevSys) (netdev : FpaNetdev) : Prop :=
  ∃ info entry next, s.dev.bind FpaDev.tapIfInfo = some info ∧
    getIfEntry info.fdToTapIfMap netdev.tapFd = some entry ∧
    opsFpaNetdevDestruct s netdev = .ok next ∧
    next.dev.bind FpaDev.tapIfInfo =
      some (deleteTapIf info ⟨entry.name, netdev.tapFd, BitVec.ofInt 32 netdev.pid, entry.mac⟩)

/-- A netdev closes its TAP while the mutex of the device is free: an `ops_fpa_tap_if_create` that
was refused keeps it. -/
structure TapsOwned (s : NetdevSys) : Prop where
  opened : ∀ netdev ∈ s.netdevs,
    netdev.tapFd ≠ 0 ↔ netdev.type = .system ∧ netdev.inited = true
  filed : (s.dev.tapIfMap.nodes.map filedPort).Perm ((tapsOf s.netdevs).map OpenTap.filed)
  distinct : ((tapsOf s.netdevs).map OpenTap.fd).Nodup
  closes : ∀ netdev ∈ s.netdevs, netdev.tapFd ≠ 0 → s.dev.mutex = false →
    ClosesOwnTap s.dev netdev

/-- The kernel hands out no fd that a TAP interface still has, and the device is not freed under
one. -/
def keepsTaps (s : NetdevSys) : NetdevCall → Bool
  | .setHwIntfInfo name _ outcome _ =>
      (s.find name).all fun netdev =>
        !((tapsOf s.netdevs).map OpenTap.fd).contains (createdFd netdev outcome)
  | .devDeinit =>
      s.dev.dev.all fun dev => dev.refCnt ≠ 1 || (tapsOf s.netdevs).isEmpty
  | _ => true

section Calls

variable {env : NetdevEnv} {devEnv : Env} {portName : Nat → Option PortName} {maxEntries : Nat}
  {s next : NetdevSys}

/-! The interface map after each call of the device. -/

section Device

variable {sys after : DevSys} {rc : DevRc} {tapFd : BitVec 32}

theorem mem_tapIfMap {node : Nat × TapIfEntry} (member : node ∈ sys.tapIfMap.nodes) :
    ∃ dev info, sys.dev = some dev ∧ dev.tapIfInfo = some info ∧
      sys.tapIfMap = info.fdToTapIfMap := by
  cases known : sys.dev with
  | none =>
      simp [DevSys.tapIfMap, known, Hmap.nodes_empty] at member
  | some dev =>
      cases isInfo : dev.tapIfInfo with
      | none => simp [DevSys.tapIfMap, known, isInfo, Hmap.nodes_empty] at member
      | some info => exact ⟨dev, info, rfl, isInfo, by simp [DevSys.tapIfMap, known, isInfo]⟩

theorem tapIfCreate_map {portNum : BitVec 32} {name : CString} {mac : EthAddr}
    {outcome : CreateOutcome}
    (taken : opsFpaTapIfCreate devEnv sys portNum name mac outcome = .ok (rc, after)) :
    (rc ≠ .ok ∧ after.tapIfMap = sys.tapIfMap) ∨
    (rc = .ok ∧ 0 < (outcome.tunAlloc (name.take (ifNameSize - 1))).1.toInt ∧
      ∃ tapIfName, after.tapIfMap = sys.tapIfMap.insert devEnv.growth
        (sizeOfInt (outcome.tunAlloc (name.take (ifNameSize - 1))).1)
        ⟨tapIfName, portNum, mac⟩) := by
  rw [opsFpaTapIfCreate] at taken
  split at taken
  · cases taken
  · rename_i locking
    obtain ⟨_, rfl⟩ := mutexLock_cases locking
    cases known : sys.dev with
    | none =>
        simp only [getTapInfoBySwitchId, opsFpaDevById, known] at taken
        cases taken
    | some dev =>
        cases isInfo : dev.tapIfInfo with
        | none =>
            simp only [getTapInfoBySwitchId, opsFpaDevById, known, isInfo] at taken
            cases taken
            exact .inl ⟨by decide, by simp [DevSys.tapIfMap, known]⟩
        | some info =>
            simp only [getTapInfoBySwitchId, opsFpaDevById, known, isInfo] at taken
            split_ifs at taken with failed
            all_goals cases taken
            · exact .inl ⟨by decide, by simp [DevSys.tapIfMap, known]⟩
            · exact .inl ⟨by decide, by simp [DevSys.tapIfMap, known]⟩
            · exact .inl ⟨by decide, by simp [DevSys.tapIfMap, known]⟩
            · refine .inr ⟨rfl, Int.not_le.mp failed,
                (outcome.tunAlloc (name.take (ifNameSize - 1))).2, ?_⟩
              simp [DevSys.tapIfMap, known, isInfo, setTapInfo, opsFpaDevMutexUnlock, addTapIf,
                notifyListeners, sendCtrlCmd, TapIf.entry]

theorem destruct_free {netdev : FpaNetdev} (isOpen : netdev.tapFd ≠ 0)
    (taken : opsFpaNetdevDestruct sys netdev = .ok after) : sys.mutex = false := by
  cases isFree : sys.mutex with
  | false => rfl
  | true =>
      rw [opsFpaNetdevDestruct, if_neg isOpen, ofSwitch, opsFpaTapIfDelete, opsFpaDevMutexLock,
        if_pos isFree] at taken
      split_ifs at taken

theorem tapIfDelete_own {dev : FpaDev} {info : TapInfo} {entry : TapIfEntry}
    (free : sys.mutex = false) (known : sys.dev = some dev) (isInfo : dev.tapIfInfo = some info)
    (positive : 0 < tapFd.toInt) (found : getIfEntry info.fdToTapIfMap tapFd = some entry) :
    opsFpaTapIfDelete sys tapFd = .ok (.ok, ⟨false, some { dev with
      tapIfInfo := some (deleteTapIf info ⟨entry.name, tapFd, entry.portNum, entry.mac⟩) }⟩) := by
  rw [opsFpaTapIfDelete, if_neg (not_not.mpr positive), mutexLock_free free]
  simp only [getTapInfoBySwitchId, opsFpaDevById, known, isInfo, found]
  simp [setTapInfo, opsFpaDevMutexUnlock]

theorem destruct_own {netdev : FpaNetdev} {dev : FpaDev} {info : TapInfo} {entry : TapIfEntry}
    (isOpen : netdev.tapFd ≠ 0) (isDefault : netdev.sid = fpaDevSwitchIdDefault)
    (positive : 0 < netdev.tapFd.toInt) (free : sys.mutex = false) (known : sys.dev = some dev)
    (isInfo : dev.tapIfInfo = some info)
    (found : getIfEntry info.fdToTapIfMap netdev.tapFd = some entry) :
    opsFpaNetdevDestruct sys netdev = .ok ⟨false, some { dev with
      tapIfInfo := some
        (deleteTapIf info ⟨entry.name, netdev.tapFd, entry.portNum, entry.mac⟩) }⟩ := by
  have deleted := tapIfDelete_own free known isInfo positive found
  rw [opsFpaNetdevDestruct, if_neg isOpen, ofSwitch, isDefault, if_neg (by simp [positive,
    fpaDevSwitchIdDefault, fpaInvalidSwitchId]), if_pos rfl, deleted]

theorem ofSwitch_ok {α : Type} {sid : Int} {call : DevSys → Except DevFault α} {result : α}
    (taken : ofSwitch sys sid true call = .ok result) :
    sid = fpaDevSwitchIdDefault ∧ call sys = .ok result := by
  rw [ofSwitch] at taken
  split at taken
  · cases taken
  · split at taken
    · rename_i isDefault
      exact ⟨isDefault, taken⟩
    · split at taken
      · cases taken
      · cases taken

theorem devInit_map {outcome : InitOutcome}
    (taken : opsFpaDevInit devEnv maxEntries sys outcome = .ok (rc, after)) :
    after.tapIfMap.nodes = sys.tapIfMap.nodes := by
  rw [opsFpaDevInit] at taken
  split at taken
  · cases taken
  · rename_i locking
    obtain ⟨_, rfl⟩ := mutexLock_cases locking
    cases known : sys.dev with
    | some dev =>
        simp only [known] at taken
        cases taken
        simp [DevSys.tapIfMap, known, opsFpaDevMutexUnlock]
    | none =>
        simp only [known, opsFpaTapInit, getTapInfoBySwitchId, opsFpaDevById] at taken
        split_ifs at taken
        all_goals
          cases taken
          simp [DevSys.tapIfMap, known, opsFpaDevMutexUnlock]

theorem devDeinit_map (taken : opsFpaDevDeinit devEnv portName sys = .ok (rc, after)) :
    ∃ dev, sys.dev = some dev ∧
      (dev.refCnt = 1 ∧ after.tapIfMap.nodes = [] ∨
        dev.refCnt ≠ 1 ∧ after.tapIfMap = sys.tapIfMap) := by
  obtain ⟨_, _, dev, known, isAfter⟩ := devDeinit_cases taken
  refine ⟨dev, known, ?_⟩
  by_cases last : dev.refCnt = 1
  · rw [if_pos last] at isAfter
    exact .inl ⟨last, by simp [DevSys.tapIfMap, isAfter, Hmap.nodes_empty]⟩
  · rw [if_neg last] at isAfter
    exact .inr ⟨last, by simp [DevSys.tapIfMap, isAfter, known]⟩

end Device

section Netdevs

variable {netdev record : FpaNetdev} {before after : List FpaNetdev}

theorem tap_none (closed : netdev.tapFd = 0) : netdev.tap = none := if_pos closed

theorem tap_some (isOpen : netdev.tapFd ≠ 0) :
    netdev.tap = some ⟨netdev.sid, netdev.pid, netdev.tapFd⟩ := if_neg isOpen

theorem tapsOf_closed (closed : netdev.tapFd = 0) :
    tapsOf (before ++ netdev :: after) = tapsOf (before ++ after) := by
  simp [tapsOf, tap_none closed]

theorem tapsOf_open (isOpen : netdev.tapFd ≠ 0) :
    (tapsOf (before ++ netdev :: after)).Perm
      (⟨netdev.sid, netdev.pid, netdev.tapFd⟩ :: tapsOf (before ++ after)) := by
  simp only [tapsOf, List.filterMap_append, List.filterMap_cons, tap_some isOpen]
  exact List.perm_middle

theorem mem_tapsOf {netdevs : List FpaNetdev} (member : netdev ∈ netdevs)
    (isOpen : netdev.tapFd ≠ 0) :
    ⟨netdev.sid, netdev.pid, netdev.tapFd⟩ ∈ tapsOf netdevs :=
  List.mem_filterMap.mpr ⟨netdev, member, tap_some isOpen⟩

structure SameTap (netdev record : FpaNetdev) : Prop where
  key : record.key = netdev.key
  type : record.type = netdev.type
  tap : record.tap = netdev.tap
  inited : netdev.type = .system → record.inited = netdev.inited

theorem SameTap.refl (netdev : FpaNetdev) : SameTap netdev netdev := ⟨rfl, rfl, rfl, fun _ => rfl⟩

theorem SameTap.tapFd (same : SameTap netdev record) : record.tapFd = 0 ↔ netdev.tapFd = 0 := by
  have taps := same.tap
  rw [FpaNetdev.tap, FpaNetdev.tap] at taps
  by_cases closed : netdev.tapFd = 0
  · rw [if_pos closed] at taps
    simpa [closed] using taps
  · rw [if_neg closed] at taps
    refine iff_of_false ?_ closed
    intro isClosed
    rw [if_pos isClosed] at taps
    cases taps

theorem SameTap.closed {netdev record : FpaNetdev} (key : record.key = netdev.key)
    (type : record.type = netdev.type) (closed : netdev.tapFd = 0) (stays : record.tapFd = 0)
    (inited : netdev.type = .system → record.inited = netdev.inited) : SameTap netdev record :=
  ⟨key, type, by rw [tap_none closed, tap_none stays], inited⟩

theorem readHwIntfInfo_cases {args : HwIntfInfo} {tapMac : Option EthAddr}
    (read : readHwIntfInfo env netdev args = .ok (record, tapMac)) :
    ∃ sid pid mac, record = { netdev with sid, pid, mac } := by
  rw [readHwIntfInfo] at read
  split at read
  · cases read
    exact ⟨netdev.sid, netdev.pid, netdev.mac, rfl⟩
  · split at read
    · cases read
    · split at read
      · cases read
        exact ⟨_, netdev.pid, netdev.mac, rfl⟩
      · split at read
        · cases read
        · split at read
          · cases read
          · dsimp only at read
            split at read
            · split at read
              · cases read
              · cases read
                exact ⟨_, _, _, rfl⟩
            · cases read
              exact ⟨_, _, _, rfl⟩

def FpaNetdev.withTap (netdev : FpaNetdev) (pid : Int) (mac : EthAddr) (fd : BitVec 32) :
    FpaNetdev :=
  { netdev with sid := fpaDevSwitchIdDefault, pid, mac, tapFd := fd, inited := true }

inductive LearnsPort (devEnv : Env) (outcome : CreateOutcome) (sys : DevSys) (netdev : FpaNetdev) :
    FpaNetdev → DevSys → Prop
  | already (inited : netdev.inited = true) : LearnsPort devEnv outcome sys netdev netdev sys
  | unknownType (notSystem : netdev.type ≠ .system) :
      LearnsPort devEnv outcome sys netdev { netdev with inited := true } sys
  | refused (fresh : netdev.inited = false) (sid pid : Int) (mac : EthAddr) {after : DevSys}
      (sameMap : after.tapIfMap = sys.tapIfMap) :
      LearnsPort devEnv outcome sys netdev { netdev with sid, pid, mac } after
  | opened (fresh : netdev.inited = false) (isSystem : netdev.type = .system)
      (positive : 0 < (createdFd netdev outcome).toInt) (pid : Int) (mac tapMac : EthAddr)
      (tapIfName : CString) {after : DevSys}
      (inserted : after.tapIfMap = sys.tapIfMap.insert devEnv.growth
        (sizeOfInt (createdFd netdev outcome)) ⟨tapIfName, BitVec.ofInt 32 pid, tapMac⟩) :
      LearnsPort devEnv outcome sys netdev (netdev.withTap pid mac (createdFd netdev outcome)) after

theorem setHwIntfInfo_learns {args : HwIntfInfo} {outcome : CreateOutcome} {sys after : DevSys}
    {rc : NetdevRc}
    (taken : opsFpaNetdevSetHwIntfInfo env devEnv sys netdev args outcome =
      .ok (rc, record, after)) : LearnsPort devEnv outcome sys netdev record after := by
  rw [opsFpaNetdevSetHwIntfInfo] at taken
  split_ifs at taken with inited isSystem
  · cases taken
    exact .already inited
  · have fresh := Bool.not_eq_true _ ▸ inited
    split at taken
    · cases taken
    · rename_i read isRead
      cases taken
      obtain ⟨sid, pid, mac, rfl⟩ := readHwIntfInfo_cases isRead
      exact .refused fresh sid pid mac rfl
    · rename_i read tapMac isRead
      obtain ⟨sid, pid, mac, rfl⟩ := readHwIntfInfo_cases isRead
      dsimp only at taken
      split at taken
      · cases taken
      · rename_i created
        cases taken
        obtain ⟨isDefault, called⟩ := ofSwitch_ok created
        rcases tapIfCreate_map called with ⟨failed, _⟩ | ⟨_, positive, tapIfName, inserted⟩
        · exact (failed rfl).elim
        · rw [isDefault]
          exact LearnsPort.opened fresh isSystem positive pid mac tapMac tapIfName inserted
      · rename_i notOk created
        cases taken
        obtain ⟨_, called⟩ := ofSwitch_ok created
        rcases tapIfCreate_map called with ⟨_, sameMap⟩ | ⟨rfl, _⟩
        · exact .refused fresh sid pid mac sameMap
        · exact (notOk rfl).elim
  · cases taken
    exact .unknownType isSystem

end Netdevs

structure TapsInvariant (s : NetdevSys) : Prop where
  names : (s.netdevs.map FpaNetdev.key).Nodup
  opened : ∀ netdev ∈ s.netdevs,
    netdev.tapFd ≠ 0 ↔ netdev.type = .system ∧ netdev.inited = true
  sound : ∀ tap ∈ tapsOf s.netdevs, tap.sid = fpaDevSwitchIdDefault ∧ 0 < tap.fd.toInt
  distinct : ((tapsOf s.netdevs).map OpenTap.fd).Nodup
  filed : (s.dev.tapIfMap.nodes.map filedPort).Perm ((tapsOf s.netdevs).map OpenTap.filed)

section Invariant

theorem onNetdev_ok {name : CString}
    {call : FpaNetdev → Except NetdevFault (NetdevReply × NetdevSys)} {reply : NetdevReply}
    (taken : onNetdev s name call = .ok (reply, next)) :
    ∃ netdev, s.find name = some netdev ∧ call netdev = .ok (reply, next) := by
  rw [onNetdev] at taken
  split at taken
  · cases taken
  · rename_i netdev found
    exact ⟨netdev, found, taken⟩

theorem noNetdevs_tapsInvariant (ports : PortTable) : TapsInvariant (noNetdevs ports) where
  names := List.nodup_nil
  opened := by
    intro netdev member
    cases member
  sound := by
    intro tap member
    cases member
  distinct := List.nodup_nil
  filed := by
    rw [noNetdevs, noDev, DevSys.tapIfMap]
    simp [Hmap.nodes_empty, tapsOf]

theorem TapsInvariant.hashes_distinct (invariant : TapsInvariant s) :
    (s.dev.tapIfMap.nodes.map Prod.fst).Nodup := by
  have hashes : (s.dev.tapIfMap.nodes.map Prod.fst).Perm
      (((tapsOf s.netdevs).map OpenTap.fd).map sizeOfInt) := by
    simpa [List.map_map, Function.comp_def, filedPort, OpenTap.filed] using
      invariant.filed.map Prod.fst
  rw [hashes.nodup_iff]
  exact invariant.distinct.map fun _ _ => sizeOfInt_inj

theorem TapsInvariant.found (invariant : TapsInvariant s) {tap : OpenTap}
    (member : tap ∈ tapsOf s.netdevs) :
    ∃ entry, getIfEntry s.dev.tapIfMap tap.fd = some entry ∧
      (sizeOfInt tap.fd, entry) ∈ s.dev.tapIfMap.nodes ∧ entry.portNum = BitVec.ofInt 32 tap.pid := by
  have isFiled := invariant.filed.mem_iff.mpr (List.mem_map_of_mem member)
  obtain ⟨⟨hash, entry⟩, isNode, same⟩ := List.mem_map.mp isFiled
  obtain ⟨isHash, isPort⟩ := Prod.mk.inj same
  obtain rfl : hash = sizeOfInt tap.fd := isHash
  exact ⟨entry, getIfEntry_of_distinct isNode rfl invariant.hashes_distinct, isNode, isPort⟩

theorem TapsInvariant.closesOwnTap (invariant : TapsInvariant s) {netdev : FpaNetdev}
    (member : netdev ∈ s.netdevs) (isOpen : netdev.tapFd ≠ 0) (free : s.dev.mutex = false) :
    ClosesOwnTap s.dev netdev := by
  have isTap := mem_tapsOf member isOpen
  obtain ⟨isDefault, positive⟩ := invariant.sound _ isTap
  obtain ⟨entry, found, isNode, isPort⟩ := invariant.found isTap
  obtain ⟨dev, info, known, isInfo, isMap⟩ := mem_tapIfMap isNode
  rw [isMap] at found
  have destroyed := destruct_own isOpen isDefault positive free known isInfo found
  exact ⟨info, entry, _, by simp [known, isInfo], found, destroyed, by simp [isPort]⟩

theorem TapsInvariant.tapsOwned (invariant : TapsInvariant s) : TapsOwned s where
  opened := invariant.opened
  filed := invariant.filed
  distinct := invariant.distinct
  closes := fun _ => invariant.closesOwnTap

theorem TapsInvariant.of_map (invariant : TapsInvariant s) {change : FpaNetdev → FpaNetdev}
    (isMap : next.netdevs = s.netdevs.map change)
    (same : ∀ netdev ∈ s.netdevs, SameTap netdev (change netdev))
    (nodes : next.dev.tapIfMap.nodes = s.dev.tapIfMap.nodes) : TapsInvariant next := by
  have sameTaps : tapsOf next.netdevs = tapsOf s.netdevs := by
    rw [tapsOf, isMap, List.filterMap_map]
    exact List.filterMap_congr fun netdev member => (same netdev member).tap
  constructor
  · rw [isMap, List.map_map]
    have sameKeys := List.map_congr_left fun netdev member => (same netdev member).key
    exact sameKeys ▸ invariant.names
  · rw [isMap]
    intro record member
    obtain ⟨netdev, isNetdev, rfl⟩ := List.mem_map.mp member
    have alike := same netdev isNetdev
    have opened := invariant.opened netdev isNetdev
    rw [Ne, alike.tapFd, ← Ne, opened, alike.type]
    exact and_congr_right fun isSystem => by rw [alike.inited isSystem]
  · rw [sameTaps]
    exact invariant.sound
  · rw [sameTaps]
    exact invariant.distinct
  · rw [sameTaps, nodes]
    exact invariant.filed

theorem TapsInvariant.of_put (invariant : TapsInvariant s) {name : CString}
    {netdev record : FpaNetdev} (found : s.find name = some netdev) (same : SameTap netdev record)
    (isPut : next.netdevs = KeyedList.put FpaNetdev.key s.netdevs record)
    (nodes : next.dev.tapIfMap.nodes = s.dev.tapIfMap.nodes) : TapsInvariant next := by
  obtain ⟨isMember, _⟩ := KeyedList.find_mem found
  refine invariant.of_map isPut ?_ nodes
  intro other member
  split
  · rename_i sameKey
    rw [same.key] at sameKey
    obtain rfl := List.inj_on_of_nodup_map invariant.names member isMember sameKey
    exact same
  · exact SameTap.refl other

theorem TapsInvariant.of_same (invariant : TapsInvariant s) (sameNetdevs : next.netdevs = s.netdevs)
    (nodes : next.dev.tapIfMap.nodes = s.dev.tapIfMap.nodes) : TapsInvariant next :=
  invariant.of_map (sameNetdevs.trans (List.map_id' _).symm) (fun netdev _ => SameTap.refl netdev)
    nodes

theorem TapsInvariant.construct (invariant : TapsInvariant s) {name : CString} {type : NetdevType}
    (free : s.find name = none) :
    TapsInvariant { s with
      netdevs := newNetdev name type s.nextN :: s.netdevs
      nextN := s.nextN + 1 } where
  names := List.nodup_cons.mpr ⟨KeyedList.find_none free, invariant.names⟩
  opened := by
    intro netdev member
    rcases List.mem_cons.mp member with rfl | old
    · simp [newNetdev]
    · exact invariant.opened netdev old
  sound := invariant.sound
  distinct := invariant.distinct
  filed := invariant.filed

theorem TapsInvariant.destruct (invariant : TapsInvariant s) {name : CString} {netdev : FpaNetdev}
    {dev : DevSys} (found : s.find name = some netdev)
    (taken : opsFpaNetdevDestruct s.dev netdev = .ok dev) :
    TapsInvariant { s with
      dev, netdevs := KeyedList.remove FpaNetdev.key s.netdevs name } := by
  obtain ⟨before, after, split, _, removed⟩ := KeyedList.find_split invariant.names found
  have isMember := (KeyedList.find_mem found).1
  have kept : (before ++ after).Sublist s.netdevs := by
    rw [split]
    exact (List.sublist_cons_self netdev after).append_left before
  have keptTaps : (tapsOf (before ++ after)).Sublist (tapsOf s.netdevs) := kept.filterMap _
  refine ⟨?_, ?_, ?_, ?_, ?_⟩
  all_goals dsimp only
  all_goals rw [removed]
  · exact (kept.map FpaNetdev.key).nodup invariant.names
  · exact fun other member => invariant.opened other (kept.subset member)
  · exact fun tap member => invariant.sound tap (keptTaps.subset member)
  · exact (keptTaps.map OpenTap.fd).nodup invariant.distinct
  · have filed := invariant.filed
    by_cases closed : netdev.tapFd = 0
    · rw [opsFpaNetdevDestruct, if_pos closed] at taken
      cases taken
      rw [split, tapsOf_closed closed] at filed
      exact filed
    · have isTap := mem_tapsOf isMember closed
      obtain ⟨isDefault, positive⟩ := invariant.sound _ isTap
      obtain ⟨entry, isEntry, isNode, isPort⟩ := invariant.found isTap
      obtain ⟨sysDev, info, known, isInfo, isMap⟩ := mem_tapIfMap isNode
      rw [isMap] at isEntry isNode filed
      rw [destruct_own closed isDefault positive (destruct_free closed taken) known isInfo isEntry]
        at taken
      cases taken
      rw [split] at filed
      -- one node and one TAP interface go, and they are filed alike
      have nodes := (List.perm_cons_erase isNode).map filedPort
      have taps := (@tapsOf_open netdev before after closed).map OpenTap.filed
      have sameFiled : filedPort (sizeOfInt netdev.tapFd, entry) =
          OpenTap.filed ⟨netdev.sid, netdev.pid, netdev.tapFd⟩ := by
        rw [filedPort, OpenTap.filed, isPort]
      rw [List.map_cons] at nodes taps
      rw [sameFiled] at nodes
      have rest := List.Perm.cons_inv ((nodes.symm.trans filed).trans taps)
      have isAfter : (⟨false, some { sysDev with tapIfInfo := some (deleteTapIf info
          ⟨entry.name, netdev.tapFd, entry.portNum, entry.mac⟩) }⟩ : DevSys).tapIfMap =
          info.fdToTapIfMap.remove (sizeOfInt netdev.tapFd) entry := by
        simp [DevSys.tapIfMap, deleteTapIf, notifyListeners, sendCtrlCmd, TapIf.entry,
          TapIfEntry.portNum]
      rw [isAfter, Hmap.nodes_remove]
      exact rest

theorem TapsInvariant.learns (invariant : TapsInvariant s) {name : CString}
    {netdev record : FpaNetdev} {outcome : CreateOutcome} {dev : DevSys}
    (found : s.find name = some netdev)
    (unused : createdFd netdev outcome ∉ (tapsOf s.netdevs).map OpenTap.fd)
    (learns : LearnsPort devEnv outcome s.dev netdev record dev) :
    TapsInvariant ({ s with dev }.put record) := by
  obtain ⟨isMember, isName⟩ := KeyedList.find_mem found
  have opened := invariant.opened netdev isMember
  cases learns with
  | already inited => exact invariant.of_put found (SameTap.refl netdev) rfl rfl
  | unknownType notSystem =>
      have same : SameTap netdev { netdev with inited := true } :=
        ⟨rfl, rfl, rfl, fun isSystem => (notSystem isSystem).elim⟩
      exact invariant.of_put found same rfl rfl
  | refused fresh sid pid mac sameMap =>
      have closed : netdev.tapFd = 0 := by
        by_contra isOpen
        rw [(opened.mp isOpen).2] at fresh
        cases fresh
      have same : SameTap netdev { netdev with sid, pid, mac } :=
        SameTap.closed rfl rfl closed closed fun _ => rfl
      exact invariant.of_put found same rfl (congrArg Hmap.nodes sameMap)
  | opened fresh isSystem positive pid mac tapMac tapIfName inserted =>
      have closed : netdev.tapFd = 0 := by
        by_contra isOpen
        rw [(opened.mp isOpen).2] at fresh
        cases fresh
      have isOpen : createdFd netdev outcome ≠ 0 := by
        intro isZero
        rw [isZero] at positive
        exact absurd positive (by decide)
      obtain ⟨before, after, split, put, _⟩ := KeyedList.find_split invariant.names found
      have isPut := put (netdev.withTap pid mac (createdFd netdev outcome)) isName
      have oldTaps : tapsOf s.netdevs = tapsOf (before ++ after) := by
        rw [split, tapsOf_closed closed]
      have taps := @tapsOf_open (netdev.withTap pid mac (createdFd netdev outcome)) before after isOpen
      rw [← isPut, ← oldTaps] at taps
      refine ⟨?_, ?_, ?_, ?_, ?_⟩
      · rw [NetdevSys.put, KeyedList.map_key_put]
        exact invariant.names
      · intro other member
        rcases KeyedList.mem_put member with rfl | ⟨old, _⟩
        · exact iff_of_true isOpen ⟨isSystem, rfl⟩
        · exact invariant.opened other old
      · intro tap member
        rcases List.mem_cons.mp (taps.mem_iff.mp member) with rfl | old
        · exact ⟨rfl, positive⟩
        · exact invariant.sound tap old
      · exact ((taps.map OpenTap.fd).nodup_iff).mpr (List.nodup_cons.mpr ⟨unused, invariant.distinct⟩)
      · have nodes := (Hmap.nodes_insert_perm devEnv.growth s.dev.tapIfMap
          (sizeOfInt (createdFd netdev outcome)) ⟨tapIfName, BitVec.ofInt 32 pid, tapMac⟩).map
            filedPort
        rw [← inserted] at nodes
        exact (nodes.trans (invariant.filed.cons _)).trans (taps.map OpenTap.filed).symm

theorem opsFpaNetdevSetHwIntfConfig_same {ports : PortTable} {netdev : FpaNetdev}
    (args : HwIntfConfig) (answer : PortAnswer) (status : Status) :
    SameTap netdev (opsFpaNetdevSetHwIntfConfig env ports netdev args answer status).2.1 := by
  rw [opsFpaNetdevSetHwIntfConfig]
  split_ifs
  · exact SameTap.refl netdev
  · split
    · exact SameTap.refl netdev
    · cases status <;> exact ⟨rfl, rfl, rfl, fun _ => rfl⟩

theorem pollNetdev_same (ports : PortTable) (netdev : FpaNetdev) (answer : PortAnswer) :
    SameTap netdev (pollNetdev env ports netdev answer) := by
  rw [pollNetdev]
  split
  · exact SameTap.refl netdev
  · dsimp only
    split_ifs
    · exact ⟨rfl, rfl, rfl, fun _ => rfl⟩
    · exact ⟨rfl, rfl, rfl, fun _ => rfl⟩
    · exact SameTap.refl netdev

theorem TapsInvariant.setHwIntfConfig (invariant : TapsInvariant s) (env : NetdevEnv)
    {name : CString} {netdev : FpaNetdev} (found : s.find name = some netdev) (args : HwIntfConfig)
    (answer : PortAnswer) (status : Status) :
    TapsInvariant (setHwIntfConfigStep env s netdev args answer status).2 := by
  rw [setHwIntfConfigStep]
  split
  · exact invariant.of_put found (opsFpaNetdevSetHwIntfConfig_same args answer status) rfl rfl
  · exact invariant.of_put found (opsFpaNetdevSetHwIntfConfig_same args answer status) rfl rfl
  · have same : SameTap netdev (internalNetdevSetHwIntfConfig netdev args).2 := by
      rw [internalNetdevSetHwIntfConfig]
      split_ifs
      · exact SameTap.refl netdev
      · exact ⟨rfl, rfl, rfl, fun _ => rfl⟩
    exact invariant.of_put found same rfl rfl
  · exact invariant

theorem TapsInvariant.step (invariant : TapsInvariant s) {call : NetdevCall} {reply : NetdevReply}
    (taken : netdevStep env devEnv portName maxEntries s call = .ok (reply, next))
    (keeps : keepsTaps s call = true) : TapsInvariant next := by
  cases call with
  | construct name type =>
      simp only [netdevStep] at taken
      split at taken
      · cases taken
      · rename_i free
        cases taken
        exact invariant.construct free
  | destruct name =>
      obtain ⟨netdev, found, called⟩ := onNetdev_ok taken
      split at called
      · cases called
      · rename_i destroyed
        cases called
        exact invariant.destruct found destroyed
  | setHwIntfInfo name args outcome bridgeCreated =>
      obtain ⟨netdev, found, called⟩ := onNetdev_ok taken
      simp only [keepsTaps, found, Option.all_some, Bool.not_eq_true', List.contains_eq_mem,
        decide_eq_false_iff_not] at keeps
      rw [setHwIntfInfoStep] at called
      split at called
      · split at called
        · cases called
        · rename_i learned
          cases called
          exact invariant.learns found keeps (setHwIntfInfo_learns learned)
      · split at called
        · cases called
        · rename_i learned
          cases called
          exact invariant.learns found keeps (setHwIntfInfo_learns learned)
      · rename_i isInternal
        cases called
        have same : SameTap netdev (internalNetdevSetHwIntfInfo netdev args bridgeCreated).2 := by
          rw [internalNetdevSetHwIntfInfo]
          split_ifs
          · exact SameTap.refl netdev
          · exact SameTap.refl netdev
          · refine ⟨rfl, rfl, rfl, fun isSystem => ?_⟩
            rw [isInternal] at isSystem
            cases isSystem
        exact invariant.of_put found same rfl rfl
      · cases called
        exact invariant
  | setHwIntfConfig name args answer status =>
      obtain ⟨netdev, found, called⟩ := onNetdev_ok taken
      have kept := invariant.setHwIntfConfig env found args answer status
      rw [Except.ok.inj called] at kept
      exact kept
  | setEtheraddr name mac =>
      obtain ⟨netdev, found, called⟩ := onNetdev_ok taken
      cases called
      have same : SameTap netdev (FpaNetdev.setEtheraddr netdev mac) := by
        rw [FpaNetdev.setEtheraddr]
        split_ifs
        · exact ⟨rfl, rfl, rfl, fun _ => rfl⟩
        · exact SameTap.refl netdev
      exact invariant.of_put found same rfl rfl
  | setAdvertisements name advertise status =>
      obtain ⟨netdev, found, called⟩ := onNetdev_ok taken
      obtain ⟨ports, onlyPorts⟩ := setAdvertisementsStep_apart env s netdev advertise status
      rw [Except.ok.inj called] at onlyPorts
      obtain rfl : next = { s with ports } := onlyPorts
      exact invariant.of_same rfl rfl
  | updateFlags name off on answer status =>
      obtain ⟨netdev, found, called⟩ := onNetdev_ok taken
      obtain ⟨ports, onlyPorts⟩ := updateFlagsStep_apart env s netdev off on answer status
      rw [Except.ok.inj called] at onlyPorts
      obtain rfl : next = { s with ports } := onlyPorts
      exact invariant.of_same rfl rfl
  | run answers =>
      cases taken
      refine invariant.of_map rfl ?_ rfl
      intro netdev _
      split
      · exact pollNetdev_same s.ports netdev _
      · exact SameTap.refl netdev
  | devInit outcome =>
      simp only [netdevStep] at taken
      split at taken
      · cases taken
      · rename_i inited
        cases taken
        exact invariant.of_same rfl (devInit_map inited)
  | devDeinit =>
      simp only [netdevStep] at taken
      split at taken
      · cases taken
      · rename_i deinited
        cases taken
        obtain ⟨dev, known, ⟨last, emptied⟩ | ⟨_, same⟩⟩ := devDeinit_map deinited
        · simp only [keepsTaps, known, last, Option.all_some, ne_eq, not_true_eq_false, decide_false,
            Bool.false_or, List.isEmpty_iff] at keeps
          have filed := invariant.filed
          rw [keeps, List.map_nil, List.perm_nil, List.map_eq_nil_iff] at filed
          exact invariant.of_same rfl (emptied.trans filed.symm)
        · exact invariant.of_same rfl (congrArg Hmap.nodes same)
  | portChanged sid pid port =>
      cases taken
      exact invariant.of_same rfl rfl

end Invariant

end Calls

/-- In every run the device has exactly one TAP interface for each network device that knows
its port, filed under its fd with its port, and the network device can close it. -/
theorem every_tap_has_one_netdev (env : NetdevEnv) (devEnv : Env)
    (portName : Nat → Option PortName) (maxEntries : Nat) (ports : PortTable)
    (trace : List NetdevEvent) (s : NetdevSys)
    (run : NetdevRun env devEnv portName maxEntries (noNetdevs ports) trace s)
    (keeps : Runs.Along (fun _ event => keepsTaps event.before event.input = true) trace) :
    TapsOwned s := by
  refine TapsInvariant.tapsOwned ?_
  refine Runs.Run.stateInvariant (noNetdevs_tapsInvariant ports) ?_ run keeps
  intro _ before call reply after invariant taken keeps
  exact invariant.step taken keeps

theorem every_tap_has_one_netdev_of_two :
    ∃ trace s, NetdevRun plainNetdevEnv idealEnv (fun _ => none) 16384
        (noNetdevs fun _ _ => ⟨0, 0, 0, 0, 0⟩) trace s ∧
      (tapsOf s.netdevs).map OpenTap.filed = [(8, 6#32), (7, 5#32)] ∧ s.netdevs.length = 3 ∧
      TapsOwned s := by
  obtain ⟨trace, s, run, filed, three, keeps⟩ := netdevRun_of_check plainNetdevEnv idealEnv
    (fun _ => none) 16384 (noNetdevs fun _ _ => ⟨0, 0, 0, 0, 0⟩)
    [.devInit accepted, .construct "5".toList .system, .construct "6".toList .system,
      .setHwIntfInfo "5".toList (portInfo "5".toList) (opensFd 7#32) true,
      .setHwIntfInfo "6".toList (portInfo "oops".toList) (opensFd 8#32) true,
      .setHwIntfInfo "6".toList (portInfo "6".toList) (opensFd 8#32) true,
      .construct "bridge_normal".toList .internal,
      .setHwIntfInfo "bridge_normal".toList ⟨none, none, none, true⟩ (opensFd 9#32) true]
    (fun trace s => (tapsOf s.netdevs).map OpenTap.filed = [(8, 6#32), (7, 5#32)] ∧
      s.netdevs.length = 3 ∧
      Runs.Along (fun _ event => keepsTaps event.before event.input = true) trace)
    (by decide +kernel)
  exact ⟨trace, s, run, filed, three,
    every_tap_has_one_netdev plainNetdevEnv idealEnv (fun _ => none) 16384 _ trace s run keeps⟩

end FpaPlugin
