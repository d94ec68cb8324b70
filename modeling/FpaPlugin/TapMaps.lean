import FpaPlugin.Tap

/-! The maps of the two listener threads against the map of the main thread. A command is
in flight from the moment its call has decided on it: it is in the pipe, or it is about to
be sent. Applying what is in flight to a listener's map gives the live interfaces. -/

namespace FpaPlugin

variable {growth : HmapGrowth}

def tapIfOf (node : Nat × TapIfEntry) : TapIf :=
  ⟨node.2.name, BitVec.ofNat 32 node.1, node.2.portNum, node.2.mac⟩

def TapSys.interfaces (s : TapSys) : List TapIf := s.info.fdToTapIfMap.nodes.map tapIfOf

/-- An interface is live until a call has decided to delete it. -/
def TapSys.live (s : TapSys) : List TapIf :=
  match s.main with
  | .deleting tapIf _ => s.interfaces.erase tapIf
  | _ => s.interfaces

def MainPhase.unsentTo : MainPhase → Listener → List CtrlCmd
  | .adding tapIf unsent, listener => if listener ∈ unsent then [tapIf.addCmd] else []
  | .deleting tapIf unsent, listener => if listener ∈ unsent then [tapIf.delCmd] else []
  | _, _ => []

def TapSys.inFlight (s : TapSys) (listener : Listener) : List CtrlCmd :=
  s.info.ctrl listener ++ s.main.unsentTo listener

def applyCmds (growth : HmapGrowth) (listener : Listener) (map : Hmap TapIfEntry)
    (cmds : List CtrlCmd) : Hmap TapIfEntry :=
  cmds.foldl (fun map cmd => applyCmd growth map listener cmd) map

/-- The listener's map once everything in flight has been applied to it. -/
def TapSys.settled (growth : HmapGrowth) (s : TapSys) (listener : Listener) : Hmap TapIfEntry :=
  applyCmds growth listener (s.maps listener) (s.inFlight listener)

/-- How each listener files an interface: by fd, or by port number. -/
def TapIf.node : Listener → TapIf → Nat × TapIfEntry
  | .tap, tapIf => (sizeOfInt tapIf.fd, ⟨tapIf.name, tapIf.portNum, tapIf.mac⟩)
  | .asic, tapIf => (tapIf.portNum.toNat, ⟨tapIf.name, tapIf.fd, tapIf.mac⟩)

def TapIf.key : Listener → TapIf → BitVec 32
  | .tap, tapIf => tapIf.fd
  | .asic, tapIf => tapIf.portNum

structure ListenersAgree (growth : HmapGrowth) (s : TapSys) : Prop where
  filed : ∀ node ∈ s.info.fdToTapIfMap.nodes, node = (tapIfOf node).node .tap
  settled : ∀ listener, (s.settled growth listener).nodes.Perm (s.live.map (TapIf.node listener))
  quiet : s.main = .idle → ∀ listener, s.info.ctrl listener = [] →
    (s.maps listener).nodes.Perm (s.interfaces.map (TapIf.node listener))

theorem sizeOfInt_eq (value : BitVec 32) :
    sizeOfInt value = if value.toNat < 2147483648 then value.toNat
      else value.toNat + 18446744069414584320 := by
  have bound := value.isLt
  rw [sizeOfInt, BitVec.toInt_eq_toNat_cond]
  split_ifs <;> omega

theorem sizeOfInt_inj {value other : BitVec 32} (same : sizeOfInt value = sizeOfInt other) :
    value = other := by
  have bound := value.isLt
  have otherBound := other.isLt
  rw [sizeOfInt_eq, sizeOfInt_eq] at same
  apply BitVec.eq_of_toNat_eq
  split_ifs at same <;> omega

theorem tapIfOf_node (tapIf : TapIf) : tapIfOf (tapIf.node .tap) = tapIf := by
  have bound := tapIf.fd.isLt
  have restored : BitVec.ofNat 32 (sizeOfInt tapIf.fd) = tapIf.fd := by
    apply BitVec.eq_of_toNat_eq
    rw [BitVec.toNat_ofNat, sizeOfInt_eq]
    split_ifs <;> omega
  simp only [tapIfOf, TapIf.node, restored, TapIfEntry.portNum]

/-- Whether `get_if_entry` can produce the hash that the node is filed under. -/
def findable : Listener → Nat × TapIfEntry → Bool
  | .tap, _ => true
  | .asic, node => node.1 < 2147483648

theorem findable_node_iff (listener : Listener) (tapIf : TapIf) :
    findable listener (tapIf.node listener) = true ↔
      sizeOfInt (tapIf.key listener) = (tapIf.node listener).1 := by
  cases listener with
  | tap => simp [findable, TapIf.node, TapIf.key]
  | asic =>
      rw [findable, decide_eq_true_eq, sizeOfInt_eq]
      by_cases small : tapIf.portNum.toNat < 2147483648
      · simp [TapIf.node, TapIf.key, small]
      · simp only [TapIf.node, TapIf.key, small, if_false, false_iff]
        omega

structure Files (listener : Listener) (map : Hmap TapIfEntry) (live : List TapIf) : Prop where
  bounded : ∀ node ∈ map.nodes, listener = .asic → node.1 < 4294967296
  found : (map.nodes.filter (findable listener)).Perm
    ((live.map (TapIf.node listener)).filter (findable listener))

section Files

variable {listener : Listener} {map : Hmap TapIfEntry} {live : List TapIf} {tapIf : TapIf}

theorem Files.congr (files : Files listener map live) {other : List TapIf}
    (same : live.Perm other) : Files listener map other :=
  ⟨files.bounded, files.found.trans ((same.map _).filter _)⟩

theorem applyCmd_addCmd : applyCmd growth map listener tapIf.addCmd =
    map.insert growth (tapIf.node listener).1 (tapIf.node listener).2 := by
  cases listener <;> rfl

theorem applyCmd_delCmd : applyCmd growth map listener tapIf.delCmd =
    dropIfEntry map (tapIf.key listener) := by
  cases listener <;> rfl

theorem Files.add (files : Files listener map live) :
    Files listener (applyCmd growth map listener tapIf.addCmd) (tapIf :: live) := by
  rw [applyCmd_addCmd]
  refine ⟨fun node member isAsic => ?_, ?_⟩
  · rcases Hmap.mem_nodes_insert.mp member with rfl | old
    · subst isAsic
      exact tapIf.portNum.isLt
    · exact files.bounded node old isAsic
  · refine ((Hmap.nodes_insert_perm growth map _ _).filter _).trans ?_
    rw [List.map_cons]
    simp only [Prod.mk.eta, List.filter_cons]
    split
    · exact files.found.cons _
    · exact files.found

theorem Files.getIfEntry_some (files : Files listener map live) (member : tapIf ∈ live)
    (distinct : (live.map (TapIf.key listener)).Nodup) {entry : TapIfEntry}
    (found : getIfEntry map (tapIf.key listener) = some entry) :
    (sizeOfInt (tapIf.key listener), entry) = tapIf.node listener := by
  have isNode := Hmap.firstWithHash_some found
  have reachable : findable listener (sizeOfInt (tapIf.key listener), entry) = true := by
    cases listener with
    | tap => rfl
    | asic =>
        have bound := files.bounded _ isNode rfl
        have width := (tapIf.key .asic).isLt
        simp only [findable, decide_eq_true_eq]
        rw [sizeOfInt_eq] at bound ⊢
        split_ifs at bound ⊢ <;> omega
  have filed : (sizeOfInt (tapIf.key listener), entry) ∈
      map.nodes.filter (findable listener) :=
    List.mem_filter.mpr ⟨isNode, reachable⟩
  obtain ⟨other, isLive, sameNode⟩ := List.mem_map.mp
    (List.mem_filter.mp (files.found.mem_iff.mp filed)).1
  have sameHash : sizeOfInt (other.key listener) = (other.node listener).1 := by
    apply (findable_node_iff listener other).mp
    rw [sameNode]
    exact reachable
  have sameKey : other.key listener = tapIf.key listener := by
    apply sizeOfInt_inj
    rw [sameHash, sameNode]
  have same : other = tapIf := List.inj_on_of_nodup_map distinct isLive member sameKey
  rw [← sameNode, same]

theorem Files.getIfEntry_none (files : Files listener map live) (member : tapIf ∈ live)
    (absent : getIfEntry map (tapIf.key listener) = none) :
    findable listener (tapIf.node listener) = false := by
  by_contra reachable
  rw [Bool.not_eq_false] at reachable
  have isNode : tapIf.node listener ∈ map.nodes := by
    have isListed : tapIf.node listener ∈ live.map (TapIf.node listener) :=
      List.mem_map.mpr ⟨tapIf, member, rfl⟩
    have filed : tapIf.node listener ∈ (live.map (TapIf.node listener)).filter
        (findable listener) := List.mem_filter.mpr ⟨isListed, reachable⟩
    exact (List.mem_filter.mp (files.found.mem_iff.mpr filed)).1
  have sameHash := (findable_node_iff listener tapIf).mp reachable
  refine Hmap.firstWithHash_none absent (tapIf.node listener).2 ?_
  rw [sameHash]
  exact isNode

theorem Files.del (files : Files listener map live) (member : tapIf ∈ live)
    (distinct : (live.map (TapIf.key listener)).Nodup) :
    Files listener (applyCmd growth map listener tapIf.delCmd) (live.erase tapIf) := by
  have split := ((List.perm_cons_erase member).map (TapIf.node listener)).filter
    (findable listener)
  rw [List.map_cons] at split
  rw [applyCmd_delCmd, dropIfEntry]
  cases found : getIfEntry map (tapIf.key listener) with
  | none =>
      rw [List.filter_cons_of_neg (by simp [files.getIfEntry_none member found])] at split
      exact ⟨files.bounded, files.found.trans split⟩
  | some entry =>
      have sameNode := files.getIfEntry_some member distinct found
      have isNode := Hmap.firstWithHash_some found
      have removed := Hmap.nodes_remove_perm map (sizeOfInt (tapIf.key listener)) entry
      refine ⟨fun node isLeft isAsic => ?_, ?_⟩
      · exact files.bounded node (List.mem_of_mem_erase (removed.mem_iff.mp isLeft)) isAsic
      · rw [sameNode] at isNode removed
        have reachable : findable listener (tapIf.node listener) = true := by
          rw [findable_node_iff, ← sameNode]
        have before := (List.perm_cons_erase isNode).filter (findable listener)
        rw [List.filter_cons_of_pos reachable] at before split
        exact (removed.filter _).trans (before.symm.trans (files.found.trans split)).cons_inv

end Files

theorem mem_listeners (listener : Listener) : listener ∈ [Listener.tap, Listener.asic] := by
  cases listener <;> simp

inductive Moves (growth : HmapGrowth) (s : TapSys) : TapStep → TapSys → Prop
  | tunAlloc {tapIf : TapIf} : s.main = .idle → s.kernel tapIf.fd = none →
      Moves growth s (.tunAlloc tapIf)
        { s with
          kernel := Function.update s.kernel tapIf.fd (some tapIf.portNum)
          main := .opened tapIf }
  | insertIf {tapIf : TapIf} : s.main = .opened tapIf →
      Moves growth s .insertIf
        { s with
          info := { s.info with
            fdToTapIfMap := s.info.fdToTapIfMap.insert growth (sizeOfInt tapIf.fd) tapIf.entry }
          main := .adding tapIf [.tap, .asic] }
  | sendAdd {tapIf : TapIf} {listener : Listener} {unsent : List Listener} :
      s.main = .adding tapIf (listener :: unsent) →
      Moves growth s .sendCmd
        { s with
          info := sendCtrlCmd s.info listener tapIf.addCmd
          main := if unsent = [] then .idle else .adding tapIf unsent }
  | sendDel {tapIf : TapIf} {listener : Listener} {unsent : List Listener} :
      s.main = .deleting tapIf (listener :: unsent) →
      Moves growth s .sendCmd
        { s with
          info := sendCtrlCmd s.info listener tapIf.delCmd
          main := .deleting tapIf unsent }
  | findIf {fd : BitVec 32} {entry : TapIfEntry} : s.main = .idle →
      getIfEntry s.info.fdToTapIfMap fd = some entry →
      Moves growth s (.findIf fd)
        { s with main := .deleting ⟨entry.name, fd, entry.portNum, entry.mac⟩ [.tap, .asic] }
  | removeIf {tapIf : TapIf} : s.main = .deleting tapIf [] →
      Moves growth s .removeIf
        { s with
          info := { s.info with
            fdToTapIfMap := s.info.fdToTapIfMap.remove (sizeOfInt tapIf.fd) tapIf.entry }
          main := .closing tapIf.fd }
  | closeFd {fd : BitVec 32} : s.main = .closing fd →
      Moves growth s .closeFd
        { s with
          kernel := Function.update s.kernel fd none
          main := .idle }
  | recv {step : TapStep} {listener : Listener} {cmd : CtrlCmd} {rest : List CtrlCmd} :
      s.info.ctrl listener = cmd :: rest →
      (listener = .asic → ∃ packet, s.asic = .draining packet) →
      Moves growth s step
        { s with
          info := { s.info with ctrl := Function.update s.info.ctrl listener rest }
          exited := Function.update s.exited listener (cmd = .threadExit)
          maps := Function.update s.maps listener
            (applyCmd growth (s.maps listener) listener cmd) }
  | await {step : TapStep} : Moves growth s step { s with asic := .receiving }
  | receive {packet : Option (BitVec 32)} :
      Moves growth s (.receive packet) { s with asic := .draining packet }
  | pipeEmpty {port : BitVec 32} : s.asic = .draining (some port) → s.info.ctrl .asic = [] →
      Moves growth s .pipeEmpty { s with asic := .drained port }
  | findPort {port : BitVec 32} {entry : TapIfEntry} : s.asic = .drained port →
      getIfEntry (s.maps .asic) port = some entry →
      Moves growth s .findPort { s with asic := .found port entry.fd }

theorem recvCtrlCmd_moves {s next : TapSys} {step : TapStep} {listener : Listener}
    (draining : listener = .asic → ∃ packet, s.asic = .draining packet)
    (taken : recvCtrlCmd growth s listener = some next) : Moves growth s step next := by
  simp only [recvCtrlCmd] at taken
  split at taken
  · cases taken
  · rename_i cmd rest isPipe
    cases taken
    exact .recv isPipe draining

theorem tunAllocStep_moves {s next : TapSys} {tapIf : TapIf}
    (taken : tunAllocStep s tapIf = some next) : Moves growth s (.tunAlloc tapIf) next := by
  simp only [tunAllocStep] at taken
  split at taken
  · rename_i enabled
    cases taken
    exact .tunAlloc enabled.1 enabled.2.2
  · cases taken

theorem insertIfStep_moves {s next : TapSys} (taken : insertIfStep growth s = some next) :
    Moves growth s .insertIf next := by
  simp only [insertIfStep] at taken
  split at taken
  · rename_i opened
    cases taken
    exact .insertIf opened
  · cases taken

theorem sendCmdStep_moves {s next : TapSys} (taken : sendCmdStep s = some next) :
    Moves growth s .sendCmd next := by
  simp only [sendCmdStep] at taken
  split at taken
  · rename_i adding
    cases taken
    exact .sendAdd adding
  · rename_i deleting
    cases taken
    exact .sendDel deleting
  · cases taken

theorem findIfStep_moves {s next : TapSys} {fd : BitVec 32}
    (taken : findIfStep s fd = some next) : Moves growth s (.findIf fd) next := by
  simp only [findIfStep] at taken
  split at taken
  · cases taken
  · rename_i found
    split at taken
    · rename_i enabled
      cases taken
      exact .findIf enabled.1 found
    · cases taken

theorem removeIfStep_moves {s next : TapSys} (taken : removeIfStep s = some next) :
    Moves growth s .removeIf next := by
  simp only [removeIfStep] at taken
  split at taken
  · rename_i deleting
    cases taken
    exact .removeIf deleting
  · cases taken

theorem closeFdStep_moves {s next : TapSys} (taken : closeFdStep s = some next) :
    Moves growth s .closeFd next := by
  simp only [closeFdStep] at taken
  split at taken
  · rename_i closing
    cases taken
    exact .closeFd closing
  · cases taken

theorem asicStep_moves {s next : TapSys} {step : TapStep}
    (taken : asicStep growth s step = some next) : Moves growth s step next := by
  -- `asicStep` has too many cases for the lemmas that unfold it one by one
  delta asicStep at taken
  cases step with
  | receive packet =>
      dsimp only at taken
      split at taken
      · cases taken
        exact .receive
      · cases taken
  | drainAsic =>
      dsimp only at taken
      split at taken
      · rename_i packet draining
        exact recvCtrlCmd_moves (fun _ => ⟨packet, draining⟩) taken
      · cases taken
  | pipeEmpty =>
      dsimp only at taken
      split at taken
      · cases taken
        exact .await
      · rename_i draining empty
        cases taken
        exact .pipeEmpty draining empty
      · cases taken
  | findPort =>
      dsimp only at taken
      split at taken
      · rename_i drained
        split at taken
        · cases taken
          exact .await
        · rename_i found
          cases taken
          exact .findPort drained found
      · cases taken
  | writeFd =>
      dsimp only at taken
      split at taken
      · cases taken
        exact .await
      · cases taken
  | tunAlloc | insertIf | sendCmd | findIf | removeIf | closeFd | drainTap => cases taken

theorem tapStep_moves {s next : TapSys} {step : TapStep} {reply : Unit}
    (taken : tapStep growth s step = .ok (reply, next)) : Moves growth s step next := by
  have viaAsic : (if s.exited .asic then none else asicStep growth s step) = some next →
      Moves growth s step next := by
    intro reached
    split at reached
    · cases reached
    · exact asicStep_moves reached
  simp only [tapStep] at taken
  split at taken
  · cases taken
  · rename_i reached
    cases taken
    cases step with
    | tunAlloc tapIf => exact tunAllocStep_moves reached
    | insertIf => exact insertIfStep_moves reached
    | sendCmd => exact sendCmdStep_moves reached
    | findIf fd => exact findIfStep_moves reached
    | removeIf => exact removeIfStep_moves reached
    | closeFd => exact closeFdStep_moves reached
    | drainTap =>
        simp only at reached
        split at reached
        · cases reached
        · have notAsic : Listener.tap = .asic → ∃ packet, s.asic = .draining packet :=
            fun absurdity => nomatch absurdity
          exact recvCtrlCmd_moves notAsic reached
    | receive | drainAsic | pipeEmpty | findPort | writeFd => exact viaAsic reached

def PhaseSound (s : TapSys) : Prop :=
  match s.main with
  | .idle => True
  | .opened tapIf => s.kernel tapIf.fd = some tapIf.portNum ∧
      tapIf.fd ∉ s.interfaces.map TapIf.fd ∧ tapIf.portNum ∉ s.interfaces.map TapIf.portNum
  | .adding tapIf unsent => unsent.Nodup ∧ tapIf ∈ s.interfaces
  | .deleting tapIf unsent => unsent.Nodup ∧ tapIf ∈ s.interfaces
  | .closing fd => fd ∉ s.interfaces.map TapIf.fd

/-- The interfaces that a listener has been told of: one that is being added only once its
command has been sent, one that is being deleted until then. -/
def TapSys.told (s : TapSys) (listener : Listener) : List TapIf :=
  match s.main with
  | .adding tapIf unsent =>
      if listener ∈ unsent then s.interfaces.erase tapIf else s.interfaces
  | .deleting tapIf unsent =>
      if listener ∈ unsent then s.interfaces else s.interfaces.erase tapIf
  | _ => s.interfaces

def TapSys.arrived (growth : HmapGrowth) (s : TapSys) (listener : Listener) : Hmap TapIfEntry :=
  applyCmds growth listener (s.maps listener) (s.info.ctrl listener)

structure TapInvariant (growth : HmapGrowth) (s : TapSys) : Prop where
  filed : ∀ node ∈ s.info.fdToTapIfMap.nodes, node = (tapIfOf node).node .tap
  opened : ∀ tapIf ∈ s.interfaces, s.kernel tapIf.fd = some tapIf.portNum
  fds : (s.interfaces.map TapIf.fd).Nodup
  ports : (s.interfaces.map TapIf.portNum).Nodup
  phase : PhaseSound s
  files : ∀ listener, Files listener (s.arrived growth listener) (s.told listener)

def createsNewPort (s : TapSys) : TapStep → Bool
  | .tunAlloc tapIf => tapIf.portNum ∉ s.live.map TapIf.portNum
  | _ => true

def createsSmallPort : TapStep → Bool
  | .tunAlloc tapIf => tapIf.portNum.toNat < 2147483648
  | _ => true

section Steps

variable {s next : TapSys}

theorem TapSys.Initial.interfaces_nil (initial : s.Initial) : s.interfaces = [] := by
  rw [TapSys.interfaces, initial.map, Hmap.nodes_empty]
  rfl

theorem TapSys.Initial.arrived_nodes (initial : s.Initial) (listener : Listener) :
    (s.arrived growth listener).nodes = [] := by
  rw [TapSys.arrived, initial.ctrl, initial.maps]
  exact Hmap.nodes_empty 0

theorem TapSys.Initial.tapInvariant (initial : s.Initial) : TapInvariant growth s := by
  have none := initial.interfaces_nil
  refine ⟨?_, ?_, ?_, ?_, ?_, fun listener => ⟨?_, ?_⟩⟩
  · rw [initial.map, Hmap.nodes_empty]
    exact fun _ absurdity => nomatch absurdity
  · rw [none]
    exact fun _ absurdity => nomatch absurdity
  · rw [none]
    exact List.nodup_nil
  · rw [none]
    exact List.nodup_nil
  · rw [PhaseSound, initial.main]
    trivial
  · rw [initial.arrived_nodes]
    exact fun _ absurdity => nomatch absurdity
  · rw [initial.arrived_nodes, TapSys.told, initial.main, none]
    exact List.Perm.refl _

theorem TapInvariant.keys (invariant : TapInvariant growth s) (listener : Listener) :
    (s.interfaces.map (TapIf.key listener)).Nodup := by
  cases listener with
  | tap => exact invariant.fds
  | asic => exact invariant.ports

theorem arrived_recv {listener : Listener} {cmd : CtrlCmd} {rest : List CtrlCmd}
    {exited : Listener → Bool} (isPipe : s.info.ctrl listener = cmd :: rest) (other : Listener) :
    TapSys.arrived growth
      { s with
        info := { s.info with ctrl := Function.update s.info.ctrl listener rest }
        exited
        maps := Function.update s.maps listener
          (applyCmd growth (s.maps listener) listener cmd) } other =
      s.arrived growth other := by
  by_cases here : other = listener
  · subst here
    simp only [TapSys.arrived, Function.update_self, isPipe, applyCmds, List.foldl_cons]
  · simp only [TapSys.arrived, Function.update_of_ne here]

theorem arrived_send {target : Listener} {cmd : CtrlCmd} {phase : MainPhase} :
    TapSys.arrived growth { s with info := sendCtrlCmd s.info target cmd, main := phase } target =
      applyCmd growth (s.arrived growth target) target cmd := by
  simp only [TapSys.arrived, sendCtrlCmd, Function.update_self, applyCmds, List.foldl_append,
    List.foldl_cons, List.foldl_nil]

theorem arrived_send_ne {target listener : Listener} {cmd : CtrlCmd} {phase : MainPhase}
    (different : listener ≠ target) :
    TapSys.arrived growth { s with info := sendCtrlCmd s.info target cmd, main := phase } listener =
      s.arrived growth listener := by
  simp only [TapSys.arrived, sendCtrlCmd, Function.update_of_ne different]

theorem TapInvariant.tunAlloc (invariant : TapInvariant growth s) {tapIf : TapIf}
    (idle : s.main = .idle) (free : s.kernel tapIf.fd = none)
    (fresh : createsNewPort s (.tunAlloc tapIf) = true) :
    TapInvariant growth
      { s with
        kernel := Function.update s.kernel tapIf.fd (some tapIf.portNum)
        main := .opened tapIf } := by
  have noOther : ∀ other ∈ s.interfaces, other.fd ≠ tapIf.fd := by
    intro other member same
    have isOpen := invariant.opened other member
    rw [same, free] at isOpen
    cases isOpen
  refine ⟨invariant.filed, ?_, invariant.fds, invariant.ports, ⟨?_, ?_, ?_⟩, fun listener => ?_⟩
  · intro other member
    simp only [Function.update_of_ne (noOther other member)]
    exact invariant.opened other member
  · simp only [Function.update_self]
  · intro taken
    obtain ⟨other, member, same⟩ := List.mem_map.mp taken
    exact noOther other member same
  · rw [createsNewPort, TapSys.live, idle, decide_eq_true_eq] at fresh
    exact fresh
  · have files := invariant.files listener
    rw [TapSys.told, idle] at files
    exact files

theorem interfaces_insert (growth : HmapGrowth) (s : TapSys) (tapIf : TapIf) :
    ((s.info.fdToTapIfMap.insert growth (sizeOfInt tapIf.fd) tapIf.entry).nodes.map tapIfOf).Perm
      (tapIf :: s.interfaces) := by
  have grown := (Hmap.nodes_insert_perm growth s.info.fdToTapIfMap (sizeOfInt tapIf.fd)
    tapIf.entry).map tapIfOf
  rw [List.map_cons] at grown
  have isTapIf : tapIfOf (sizeOfInt tapIf.fd, tapIf.entry) = tapIf := tapIfOf_node tapIf
  rw [isTapIf] at grown
  exact grown

theorem TapInvariant.insertIf (invariant : TapInvariant growth s) {tapIf : TapIf}
    (isOpened : s.main = .opened tapIf) :
    TapInvariant growth
      { s with
        info := { s.info with
          fdToTapIfMap := s.info.fdToTapIfMap.insert growth (sizeOfInt tapIf.fd) tapIf.entry }
        main := .adding tapIf [.tap, .asic] } := by
  have sound := invariant.phase
  rw [PhaseSound, isOpened] at sound
  obtain ⟨isOpen, newFd, newPort⟩ := sound
  have grown := interfaces_insert growth s tapIf
  refine ⟨?_, ?_, ?_, ?_, ⟨by decide, ?_⟩, fun listener => ?_⟩
  · intro node member
    rcases Hmap.mem_nodes_insert.mp member with rfl | old
    · exact congrArg (TapIf.node .tap) (tapIfOf_node tapIf).symm
    · exact invariant.filed node old
  · intro other member
    rcases List.mem_cons.mp (grown.mem_iff.mp member) with rfl | old
    · exact isOpen
    · exact invariant.opened other old
  · refine (grown.map TapIf.fd).nodup_iff.mpr ?_
    exact List.nodup_cons.mpr ⟨newFd, invariant.fds⟩
  · refine (grown.map TapIf.portNum).nodup_iff.mpr ?_
    exact List.nodup_cons.mpr ⟨newPort, invariant.ports⟩
  · exact grown.mem_iff.mpr List.mem_cons_self
  · have files := invariant.files listener
    rw [TapSys.told, isOpened] at files
    have unknown := grown.erase tapIf
    rw [List.erase_cons_head] at unknown
    rw [TapSys.told]
    simp only [mem_listeners listener, if_true]
    exact files.congr unknown.symm

theorem TapInvariant.sendAdd (invariant : TapInvariant growth s) {tapIf : TapIf}
    {target : Listener} {unsent : List Listener}
    (adding : s.main = .adding tapIf (target :: unsent)) :
    TapInvariant growth
      { s with
        info := sendCtrlCmd s.info target tapIf.addCmd
        main := if unsent = [] then .idle else .adding tapIf unsent } := by
  have sound := invariant.phase
  rw [PhaseSound, adding] at sound
  obtain ⟨once, member⟩ := sound
  obtain ⟨sent, rest⟩ := List.nodup_cons.mp once
  -- what was said to the others counts the same in both phases that may follow
  have told : ∀ listener, TapSys.told
      { s with
        info := sendCtrlCmd s.info target tapIf.addCmd
        main := if unsent = [] then .idle else .adding tapIf unsent } listener =
      if listener ∈ unsent then s.interfaces.erase tapIf else s.interfaces := by
    intro listener
    by_cases last : unsent = []
    · simp only [TapSys.told, last, if_true, List.not_mem_nil, if_false]
      rfl
    · simp only [TapSys.told, last, if_false]
      rfl
  refine ⟨invariant.filed, invariant.opened, invariant.fds, invariant.ports, ?_, fun other => ?_⟩
  · by_cases last : unsent = []
    · simp only [PhaseSound, last, if_true]
    · simp only [PhaseSound, last, if_false]
      exact ⟨rest, member⟩
  · have files := invariant.files other
    rw [TapSys.told, adding] at files
    rw [told]
    by_cases here : other = target
    · subst here
      simp only [List.mem_cons_self, if_true] at files
      rw [if_neg sent, arrived_send]
      exact files.add.congr (List.perm_cons_erase member).symm
    · simp only [List.mem_cons, here, false_or] at files
      rw [arrived_send_ne here]
      exact files

theorem TapInvariant.sendDel (invariant : TapInvariant growth s) {tapIf : TapIf}
    {target : Listener} {unsent : List Listener}
    (deleting : s.main = .deleting tapIf (target :: unsent)) :
    TapInvariant growth
      { s with
        info := sendCtrlCmd s.info target tapIf.delCmd
        main := .deleting tapIf unsent } := by
  have sound := invariant.phase
  rw [PhaseSound, deleting] at sound
  obtain ⟨once, member⟩ := sound
  obtain ⟨sent, rest⟩ := List.nodup_cons.mp once
  refine ⟨invariant.filed, invariant.opened, invariant.fds, invariant.ports, ⟨rest, member⟩,
    fun other => ?_⟩
  have files := invariant.files other
  rw [TapSys.told, deleting] at files
  rw [TapSys.told]
  by_cases here : other = target
  · subst here
    simp only [List.mem_cons_self, if_true] at files
    simp only [sent, if_false]
    rw [arrived_send]
    exact files.del member (invariant.keys other)
  · simp only [List.mem_cons, here, false_or] at files
    rw [arrived_send_ne here]
    exact files

theorem mem_interfaces_of_found {fd : BitVec 32} {entry : TapIfEntry}
    (found : getIfEntry s.info.fdToTapIfMap fd = some entry) :
    ⟨entry.name, fd, entry.portNum, entry.mac⟩ ∈ s.interfaces := by
  have isTapIf : tapIfOf (sizeOfInt fd, entry) = ⟨entry.name, fd, entry.portNum, entry.mac⟩ :=
    tapIfOf_node ⟨entry.name, fd, entry.portNum, entry.mac⟩
  exact List.mem_map.mpr ⟨_, Hmap.firstWithHash_some found, isTapIf⟩

theorem TapInvariant.findIf (invariant : TapInvariant growth s) {tapIf : TapIf}
    (idle : s.main = .idle) (member : tapIf ∈ s.interfaces) :
    TapInvariant growth { s with main := .deleting tapIf [.tap, .asic] } := by
  refine ⟨invariant.filed, invariant.opened, invariant.fds, invariant.ports,
    ⟨by decide, member⟩, fun listener => ?_⟩
  have files := invariant.files listener
  rw [TapSys.told, idle] at files
  rw [TapSys.told]
  simp only [mem_listeners listener, if_true]
  exact files

theorem TapInvariant.interfaces_remove (invariant : TapInvariant growth s) {tapIf : TapIf}
    (member : tapIf ∈ s.interfaces) :
    s.interfaces.Perm (tapIf ::
      (s.info.fdToTapIfMap.remove (sizeOfInt tapIf.fd) tapIf.entry).nodes.map tapIfOf) := by
  obtain ⟨node, isNode, rfl⟩ := List.mem_map.mp member
  have filed := invariant.filed node isNode
  have removed := Hmap.nodes_remove_perm s.info.fdToTapIfMap (sizeOfInt (tapIfOf node).fd)
    (tapIfOf node).entry
  have sameNode : (sizeOfInt (tapIfOf node).fd, (tapIfOf node).entry) = node := filed.symm
  rw [sameNode] at removed
  exact ((List.perm_cons_erase isNode).map tapIfOf).trans ((removed.map tapIfOf).symm.cons _)

theorem TapInvariant.removeIf (invariant : TapInvariant growth s) {tapIf : TapIf}
    (deleting : s.main = .deleting tapIf []) :
    TapInvariant growth
      { s with
        info := { s.info with
          fdToTapIfMap := s.info.fdToTapIfMap.remove (sizeOfInt tapIf.fd) tapIf.entry }
        main := .closing tapIf.fd } := by
  have sound := invariant.phase
  rw [PhaseSound, deleting] at sound
  have left := invariant.interfaces_remove sound.2
  have distinctFds := (left.map TapIf.fd).nodup_iff.mp invariant.fds
  have distinctPorts := (left.map TapIf.portNum).nodup_iff.mp invariant.ports
  refine ⟨?_, ?_, (List.nodup_cons.mp distinctFds).2, (List.nodup_cons.mp distinctPorts).2,
    (List.nodup_cons.mp distinctFds).1, fun listener => ?_⟩
  · intro node member
    exact invariant.filed node (Hmap.mem_nodes_remove member)
  · intro other member
    exact invariant.opened other (left.mem_iff.mpr (List.mem_cons_of_mem _ member))
  · have files := invariant.files listener
    rw [TapSys.told, deleting] at files
    simp only [List.not_mem_nil, if_false] at files
    have erased := left.erase tapIf
    rw [List.erase_cons_head] at erased
    exact files.congr erased

theorem TapInvariant.closeFd (invariant : TapInvariant growth s) {fd : BitVec 32}
    (closing : s.main = .closing fd) :
    TapInvariant growth
      { s with
        kernel := Function.update s.kernel fd none
        main := .idle } := by
  have gone := invariant.phase
  rw [PhaseSound, closing] at gone
  refine ⟨invariant.filed, ?_, invariant.fds, invariant.ports, trivial, fun listener => ?_⟩
  · intro other member
    have different : other.fd ≠ fd := by
      intro same
      exact gone (List.mem_map.mpr ⟨other, member, same⟩)
    simp only [Function.update_of_ne different]
    exact invariant.opened other member
  · have files := invariant.files listener
    rw [TapSys.told, closing] at files
    exact files

theorem TapInvariant.moves (invariant : TapInvariant growth s) {step : TapStep}
    (fresh : createsNewPort s step = true) (moved : Moves growth s step next) :
    TapInvariant growth next := by
  have idled : ∀ asic, TapInvariant growth { s with asic } := fun _ =>
    ⟨invariant.filed, invariant.opened, invariant.fds, invariant.ports, invariant.phase,
      invariant.files⟩
  cases moved with
  | tunAlloc idle free => exact invariant.tunAlloc idle free fresh
  | insertIf isOpened => exact invariant.insertIf isOpened
  | sendAdd adding => exact invariant.sendAdd adding
  | sendDel deleting => exact invariant.sendDel deleting
  | findIf idle found => exact invariant.findIf idle (mem_interfaces_of_found found)
  | removeIf deleting => exact invariant.removeIf deleting
  | closeFd closing => exact invariant.closeFd closing
  | recv isPipe =>
      refine ⟨invariant.filed, invariant.opened, invariant.fds, invariant.ports, invariant.phase,
        fun listener => ?_⟩
      rw [arrived_recv isPipe]
      exact invariant.files listener
  | await => exact idled _
  | receive => exact idled _
  | pipeEmpty => exact idled _
  | findPort => exact idled _

structure AllFindable (growth : HmapGrowth) (s : TapSys) : Prop where
  nodes : ∀ listener, ∀ node ∈ (s.arrived growth listener).nodes, findable listener node = true
  ports : ∀ tapIf ∈ s.interfaces, tapIf.portNum.toNat < 2147483648
  opening : ∀ tapIf, s.main = .opened tapIf → tapIf.portNum.toNat < 2147483648

theorem findable_node (listener : Listener) {tapIf : TapIf}
    (small : tapIf.portNum.toNat < 2147483648) :
    findable listener (tapIf.node listener) = true := by
  cases listener with
  | tap => rfl
  | asic => exact decide_eq_true small

theorem TapSys.Initial.allFindable (initial : s.Initial) : AllFindable growth s := by
  refine ⟨fun listener node member => ?_, fun tapIf member => ?_, fun tapIf isOpened => ?_⟩
  · rw [initial.arrived_nodes] at member
    cases member
  · rw [initial.interfaces_nil] at member
    cases member
  · rw [initial.main] at isOpened
    cases isOpened

theorem findable_addCmd {map : Hmap TapIfEntry} {listener : Listener} {tapIf : TapIf}
    (small : tapIf.portNum.toNat < 2147483648)
    (all : ∀ node ∈ map.nodes, findable listener node = true) :
    ∀ node ∈ (applyCmd growth map listener tapIf.addCmd).nodes, findable listener node = true := by
  intro node member
  rw [applyCmd_addCmd] at member
  rcases Hmap.mem_nodes_insert.mp member with rfl | old
  · exact findable_node listener small
  · exact all node old

theorem findable_delCmd {map : Hmap TapIfEntry} {listener : Listener} {tapIf : TapIf}
    (all : ∀ node ∈ map.nodes, findable listener node = true) :
    ∀ node ∈ (applyCmd growth map listener tapIf.delCmd).nodes, findable listener node = true := by
  intro node member
  rw [applyCmd_delCmd, dropIfEntry] at member
  split at member
  · exact all node member
  · exact all node (Hmap.mem_nodes_remove member)

theorem AllFindable.moves (invariant : TapInvariant growth s) (all : AllFindable growth s)
    {step : TapStep} (small : createsSmallPort step = true) (moved : Moves growth s step next) :
    AllFindable growth next := by
  have sound := invariant.phase
  cases moved with
  | tunAlloc idle =>
      refine ⟨all.nodes, all.ports, fun tapIf isOpened => ?_⟩
      cases isOpened
      exact of_decide_eq_true small
  | @insertIf tapIf isOpened =>
      refine ⟨all.nodes, fun other member => ?_, fun _ absurdity => nomatch absurdity⟩
      rcases List.mem_cons.mp ((interfaces_insert growth s tapIf).mem_iff.mp member) with rfl | old
      · exact all.opening other isOpened
      · exact all.ports other old
  | @sendAdd tapIf target unsent adding =>
      rw [PhaseSound, adding] at sound
      refine ⟨fun listener => ?_, all.ports, fun _ absurdity => ?_⟩
      · by_cases here : listener = target
        · subst here
          rw [arrived_send]
          exact findable_addCmd (all.ports tapIf sound.2) (all.nodes listener)
        · rw [arrived_send_ne here]
          exact all.nodes listener
      · by_cases last : unsent = []
        · simp only [last, if_true] at absurdity
          cases absurdity
        · simp only [last, if_false] at absurdity
          cases absurdity
  | @sendDel tapIf target unsent deleting =>
      refine ⟨fun listener => ?_, all.ports, fun _ absurdity => nomatch absurdity⟩
      by_cases here : listener = target
      · subst here
        rw [arrived_send]
        exact findable_delCmd (all.nodes listener)
      · rw [arrived_send_ne here]
        exact all.nodes listener
  | findIf | closeFd => exact ⟨all.nodes, all.ports, fun _ absurdity => nomatch absurdity⟩
  | removeIf deleting =>
      refine ⟨all.nodes, fun other member => ?_, fun _ absurdity => nomatch absurdity⟩
      obtain ⟨node, isNode, rfl⟩ := List.mem_map.mp member
      exact all.ports _ (List.mem_map.mpr ⟨node, Hmap.mem_nodes_remove isNode, rfl⟩)
  | recv isPipe =>
      refine ⟨fun listener => ?_, all.ports, all.opening⟩
      rw [arrived_recv isPipe]
      exact all.nodes listener
  | await | receive | pipeEmpty | findPort => exact ⟨all.nodes, all.ports, all.opening⟩

end Steps

structure FindableInvariant (growth : HmapGrowth) (s : TapSys) : Prop where
  maps : TapInvariant growth s
  all : AllFindable growth s

section Agreement

variable {s : TapSys}

theorem settled_eq (s : TapSys) (listener : Listener) : s.settled growth listener =
    applyCmds growth listener (s.arrived growth listener) (s.main.unsentTo listener) := by
  rw [TapSys.settled, TapSys.inFlight, TapSys.arrived, applyCmds, List.foldl_append]
  rfl

theorem TapInvariant.files_settled (invariant : TapInvariant growth s) (listener : Listener) :
    Files listener (s.settled growth listener) s.live := by
  have files := invariant.files listener
  have sound := invariant.phase
  rw [settled_eq, TapSys.live]
  cases phase : s.main with
  | idle | opened | closing =>
      rw [TapSys.told, phase] at files
      exact files
  | adding tapIf unsent =>
      rw [PhaseSound, phase] at sound
      rw [TapSys.told, phase] at files
      by_cases waits : listener ∈ unsent
      · simp only [waits, if_true] at files
        simp only [MainPhase.unsentTo, waits, if_true]
        exact files.add.congr (List.perm_cons_erase sound.2).symm
      · simp only [waits, if_false] at files
        simp only [MainPhase.unsentTo, waits, if_false]
        exact files
  | deleting tapIf unsent =>
      rw [PhaseSound, phase] at sound
      rw [TapSys.told, phase] at files
      by_cases waits : listener ∈ unsent
      · simp only [waits, if_true] at files
        simp only [MainPhase.unsentTo, waits, if_true]
        exact files.del sound.2 (invariant.keys listener)
      · simp only [waits, if_false] at files
        simp only [MainPhase.unsentTo, waits, if_false]
        exact files

theorem FindableInvariant.settled_nodes (invariant : FindableInvariant growth s)
    (listener : Listener) :
    ∀ node ∈ (s.settled growth listener).nodes, findable listener node = true := by
  have all := invariant.all.nodes listener
  have sound := invariant.maps.phase
  rw [settled_eq]
  cases phase : s.main with
  | idle | opened | closing => exact all
  | adding tapIf unsent =>
      rw [PhaseSound, phase] at sound
      by_cases waits : listener ∈ unsent
      · simp only [MainPhase.unsentTo, waits, if_true]
        exact findable_addCmd (invariant.all.ports tapIf sound.2) all
      · simp only [MainPhase.unsentTo, waits, if_false]
        exact all
  | deleting tapIf unsent =>
      by_cases waits : listener ∈ unsent
      · simp only [MainPhase.unsentTo, waits, if_true]
        exact findable_delCmd all
      · simp only [MainPhase.unsentTo, waits, if_false]
        exact all

theorem TapSys.mem_interfaces_of_live {tapIf : TapIf} (isLive : tapIf ∈ s.live) :
    tapIf ∈ s.interfaces := by
  rw [TapSys.live] at isLive
  split at isLive
  · exact List.mem_of_mem_erase isLive
  · exact isLive

theorem TapSys.mem_interfaces_of_told {listener : Listener} {tapIf : TapIf}
    (isTold : tapIf ∈ s.told listener) : tapIf ∈ s.interfaces := by
  rw [TapSys.told] at isTold
  split at isTold
  · split at isTold
    · exact List.mem_of_mem_erase isTold
    · exact isTold
  · split at isTold
    · exact isTold
    · exact List.mem_of_mem_erase isTold
  · exact isTold

theorem FindableInvariant.listenersAgree (invariant : FindableInvariant growth s) :
    ListenersAgree growth s := by
  have settled : ∀ listener,
      (s.settled growth listener).nodes.Perm (s.live.map (TapIf.node listener)) := by
    intro listener
    have found := (invariant.maps.files_settled listener).found
    rw [List.filter_eq_self.mpr (invariant.settled_nodes listener), List.filter_eq_self.mpr] at found
    · exact found
    · intro node member
      obtain ⟨tapIf, isLive, rfl⟩ := List.mem_map.mp member
      exact findable_node listener
        (invariant.all.ports tapIf (TapSys.mem_interfaces_of_live isLive))
  refine ⟨invariant.maps.filed, settled, fun idle listener empty => ?_⟩
  have here := settled listener
  rw [TapSys.settled, TapSys.inFlight, empty, idle, TapSys.live, idle] at here
  exact here

theorem TapSys.Initial.findableInvariant (initial : s.Initial) : FindableInvariant growth s :=
  ⟨initial.tapInvariant, initial.allFindable⟩

end Agreement

/-- At every moment, what is in flight completes both listeners' maps. -/
theorem listeners_agree_on_small_ports (growth : HmapGrowth) {start s : TapSys} {trace : TapTrace}
    (initial : start.Initial) (run : TapRun growth start trace s)
    (distinct : Runs.Along (fun _ event => createsNewPort event.before event.input = true) trace)
    (small : Runs.Along (fun _ event => createsSmallPort event.input = true) trace) :
    ListenersAgree growth s := by
  have invariant : FindableInvariant growth s := by
    refine Runs.Run.stateInvariant initial.findableInvariant ?_ run (distinct.and small)
    intro _ _ _ _ _ kept taken allowed
    have moved := tapStep_moves taken
    exact ⟨kept.maps.moves allowed.1 moved, kept.all.moves kept.maps allowed.2 moved⟩
  exact invariant.listenersAgree

def tapIf5 (portNum : BitVec 32) : TapIf := ⟨"5".toList, 7#32, portNum, 1#48⟩

def createAndDelete (portNum : BitVec 32) : List TapStep :=
  [.tunAlloc (tapIf5 portNum), .insertIf, .sendCmd, .sendCmd, .drainTap, .receive none, .drainAsic,
    .findIf 7#32, .sendCmd, .sendCmd, .removeIf, .closeFd, .drainTap, .drainAsic]

def obeys (trace : TapTrace) : Prop :=
  Runs.Along (fun _ event => createsNewPort event.before event.input = true) trace ∧
    Runs.Along (fun _ event => createsSmallPort event.input = true) trace

instance (trace : TapTrace) : Decidable (obeys trace) :=
  inferInstanceAs (Decidable (_ ∧ _))

theorem listeners_agree_on_port_5 : ∃ trace s, TapRun ovsGrowth idleTap trace s ∧
    ListenersAgree ovsGrowth s := by
  obtain ⟨trace, s, run, obeyed⟩ := tapRun_of_check ovsGrowth idleTap (createAndDelete 5#32)
    (fun trace _ => obeys trace) (by decide +kernel)
  exact ⟨trace, s, run, listeners_agree_on_small_ports ovsGrowth idleTap_initial run obeyed.1
    obeyed.2⟩

/-- `asic_listener` files port -5 under one hash and looks it up under another, so it keeps
an interface that is gone. -/
theorem negative_port_never_forgotten : ∃ trace s, TapRun ovsGrowth idleTap trace s ∧
    Runs.Along (fun _ event => createsNewPort event.before event.input = true) trace ∧
    ¬ ListenersAgree ovsGrowth s := by
  obtain ⟨trace, s, run, distinct, gone, stays⟩ := tapRun_of_check ovsGrowth idleTap
    (createAndDelete (BitVec.ofInt 32 (-5)))
    (fun trace s =>
      Runs.Along (fun _ event => createsNewPort event.before event.input = true) trace ∧
        s.live = [] ∧ (s.settled ovsGrowth .asic).nodes ≠ [])
    (by decide +kernel)
  refine ⟨trace, s, run, distinct, fun agree => stays ?_⟩
  have settled := agree.settled .asic
  rw [gone] at settled
  exact List.perm_nil.mp settled

end FpaPlugin
