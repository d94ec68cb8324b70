import FpaPlugin.System
import FpaPlugin.TapSelect

/-! What `tap_listener` watches, over every run of the threads. The commands that the main thread
sends alternate for each fd, so that the map of the listener goes through the maps that the main
thread has announced, one command behind the other. -/

namespace FpaPlugin

open ChangeQueue

section MainThread

variable {growth : HmapGrowth} {s next : TapSys}

def TapSys.filed (s : TapSys) : BitVec 32 → Option TapIfEntry := getIfEntry s.info.fdToTapIfMap

/-- The interfaces that `tap_listener` has been told of, once it reads all its commands. -/
def TapSys.announced (s : TapSys) : BitVec 32 → Option TapIfEntry :=
  match s.main with
  | .adding tapIf unsent =>
      if .tap ∈ unsent then Function.update s.filed tapIf.fd none else s.filed
  | .deleting tapIf unsent =>
      if .tap ∈ unsent then s.filed else Function.update s.filed tapIf.fd none
  | _ => s.filed

def FdPhaseSound (s : TapSys) : Prop :=
  match s.main with
  | .idle => True
  | .opened tapIf => s.kernel tapIf.fd = some tapIf.portNum ∧ s.filed tapIf.fd = none
  | .adding tapIf unsent => unsent.Nodup ∧ s.filed tapIf.fd = some tapIf.entry
  | .deleting tapIf unsent => unsent.Nodup ∧ s.filed tapIf.fd = some tapIf.entry
  | .closing fd => s.filed fd = none

/-- Whatever the port numbers are, the main thread files one open fd under each key. -/
structure MainSound (s : TapSys) : Prop where
  keyed : FdKeyed s.info.fdToTapIfMap
  opened : ∀ fd entry, s.filed fd = some entry → s.kernel fd = some entry.portNum
  phase : FdPhaseSound s

inductive Announces (s next : TapSys) : Prop
  | nothing (pipe : next.info.ctrl .tap = s.info.ctrl .tap) (same : next.announced = s.announced) :
      Announces s next
  | command {cmd : CtrlCmd} {change : BitVec 32 × Option TapIfEntry}
      (pipe : next.info.ctrl .tap = s.info.ctrl .tap ++ [cmd]) (isChange : cmd.change = some change)
      (flips : Flips s.announced change)
      (announced : next.announced = Function.update s.announced change.1 change.2) :
      Announces s next

structure OtherStep (s next : TapSys) : Prop where
  sound : MainSound next
  map : next.maps .tap = s.maps .tap
  announces : Announces s next

theorem filed_of_announced {fd : BitVec 32} {entry : TapIfEntry}
    (announced : s.announced fd = some entry) : s.filed fd = some entry := by
  have taken_out : ∀ gone, Function.update s.filed gone none fd = some entry →
      s.filed fd = some entry := by
    intro gone kept
    by_cases here : fd = gone
    · rw [here, Function.update_self] at kept
      cases kept
    · rwa [Function.update_of_ne here] at kept
  rw [TapSys.announced] at announced
  cases phase : s.main with
  | idle | opened | closing =>
      rw [phase] at announced
      exact announced
  | adding tapIf unsent =>
      simp only [phase] at announced
      split_ifs at announced
      · exact taken_out _ announced
      · exact announced
  | deleting tapIf unsent =>
      simp only [phase] at announced
      split_ifs at announced
      · exact announced
      · exact taken_out _ announced

theorem MainSound.tunAlloc (sound : MainSound s) {tapIf : TapIf} (idle : s.main = .idle)
    (free : s.kernel tapIf.fd = none) :
    OtherStep s
      { s with
        kernel := Function.update s.kernel tapIf.fd (some tapIf.portNum)
        main := .opened tapIf } := by
  have unfiled : s.filed tapIf.fd = none := by
    cases isFiled : s.filed tapIf.fd with
    | none => rfl
    | some entry =>
        have isOpen := sound.opened tapIf.fd entry isFiled
        rw [free] at isOpen
        cases isOpen
  refine ⟨⟨sound.keyed, ?_, ?_, unfiled⟩, rfl, .nothing rfl ?_⟩
  · intro fd entry isFiled
    have apart : fd ≠ tapIf.fd := by
      rintro rfl
      cases unfiled.symm.trans isFiled
    simp only [Function.update_of_ne apart]
    exact sound.opened fd entry isFiled
  · exact Function.update_self ..
  · simp only [TapSys.announced, idle]
    rfl

theorem MainSound.insertIf (sound : MainSound s) {tapIf : TapIf} (isOpened : s.main = .opened tapIf) :
    OtherStep s
      { s with
        info := { s.info with
          fdToTapIfMap := s.info.fdToTapIfMap.insert growth (sizeOfInt tapIf.fd) tapIf.entry }
        main := .adding tapIf [.tap, .asic] } := by
  have phase := sound.phase
  rw [FdPhaseSound, isOpened] at phase
  obtain ⟨isOpen, unfiled⟩ := phase
  have grown : getIfEntry (s.info.fdToTapIfMap.insert growth (sizeOfInt tapIf.fd) tapIf.entry) =
      Function.update s.filed tapIf.fd (some tapIf.entry) := getIfEntry_insert sound.keyed unfiled
  refine ⟨⟨fdKeyed_insert sound.keyed unfiled, ?_, by decide, ?_⟩, rfl, .nothing rfl ?_⟩
  · intro fd entry isFiled
    simp only [TapSys.filed, grown] at isFiled
    by_cases here : fd = tapIf.fd
    · subst here
      rw [Function.update_self] at isFiled
      cases isFiled
      exact isOpen
    · rw [Function.update_of_ne here] at isFiled
      exact sound.opened fd entry isFiled
  · simp only [TapSys.filed, grown, Function.update_self]
  · simp only [TapSys.announced, isOpened, TapSys.filed, grown, List.mem_cons, true_or, if_true,
      Function.update_idem]
    exact Function.update_eq_self_iff.mpr unfiled.symm

theorem MainSound.sendAdd (sound : MainSound s) {tapIf : TapIf} {target : Listener}
    {unsent : List Listener} (adding : s.main = .adding tapIf (target :: unsent)) :
    OtherStep s
      { s with
        info := sendCtrlCmd s.info target tapIf.addCmd
        main := if unsent = [] then .idle else .adding tapIf unsent } := by
  have phase := sound.phase
  rw [FdPhaseSound, adding] at phase
  obtain ⟨once, isFiled⟩ := phase
  obtain ⟨sent, rest⟩ := List.nodup_cons.mp once
  -- what is still to be said counts the same in both phases that may follow
  have announced : TapSys.announced
      { s with
        info := sendCtrlCmd s.info target tapIf.addCmd
        main := if unsent = [] then .idle else .adding tapIf unsent } =
      if .tap ∈ unsent then Function.update s.filed tapIf.fd none else s.filed := by
    by_cases last : unsent = []
    · simp only [TapSys.announced, last, if_true, List.not_mem_nil, if_false]
      rfl
    · simp only [TapSys.announced, last, if_false]
      rfl
  refine ⟨⟨sound.keyed, sound.opened, ?_⟩, rfl, ?_⟩
  · by_cases last : unsent = []
    · simp only [FdPhaseSound, last, if_true]
    · simp only [FdPhaseSound, last, if_false]
      exact ⟨rest, isFiled⟩
  · cases target with
    | asic =>
        refine .nothing rfl ?_
        rw [announced, TapSys.announced, adding]
        simp
    | tap =>
        have before : s.announced = Function.update s.filed tapIf.fd none := by
          rw [TapSys.announced, adding]
          simp
        refine .command rfl rfl ?_ ?_
        · rw [before]
          simp [Flips]
        · rw [announced, if_neg sent, before, Function.update_idem]
          exact (Function.update_eq_self_iff.mpr isFiled.symm).symm

theorem MainSound.sendDel (sound : MainSound s) {tapIf : TapIf} {target : Listener}
    {unsent : List Listener} (deleting : s.main = .deleting tapIf (target :: unsent)) :
    OtherStep s
      { s with
        info := sendCtrlCmd s.info target tapIf.delCmd
        main := .deleting tapIf unsent } := by
  have phase := sound.phase
  rw [FdPhaseSound, deleting] at phase
  obtain ⟨once, isFiled⟩ := phase
  obtain ⟨sent, rest⟩ := List.nodup_cons.mp once
  refine ⟨⟨sound.keyed, sound.opened, rest, isFiled⟩, rfl, ?_⟩
  cases target with
  | asic =>
      refine .nothing rfl ?_
      simp only [TapSys.announced, deleting, List.mem_cons, reduceCtorEq, false_or]
      rfl
  | tap =>
      have before : s.announced = s.filed := by
        rw [TapSys.announced, deleting]
        simp
      refine .command rfl rfl ?_ ?_
      · rw [before, Flips]
        simp [isFiled]
      · simp only [TapSys.announced, sent, if_false]
        rw [← TapSys.announced, before]
        rfl

theorem MainSound.findIf (sound : MainSound s) {fd : BitVec 32} {entry : TapIfEntry}
    (idle : s.main = .idle) (found : getIfEntry s.info.fdToTapIfMap fd = some entry) :
    OtherStep s
      { s with main := .deleting ⟨entry.name, fd, entry.portNum, entry.mac⟩ [.tap, .asic] } := by
  refine ⟨⟨sound.keyed, sound.opened, by decide, found⟩, rfl, .nothing rfl ?_⟩
  simp only [TapSys.announced, idle, List.mem_cons, true_or, if_true]
  rfl

theorem MainSound.removeIf (sound : MainSound s) {tapIf : TapIf}
    (deleting : s.main = .deleting tapIf []) :
    OtherStep s
      { s with
        info := { s.info with
          fdToTapIfMap := s.info.fdToTapIfMap.remove (sizeOfInt tapIf.fd) tapIf.entry }
        main := .closing tapIf.fd } := by
  have phase := sound.phase
  rw [FdPhaseSound, deleting] at phase
  have shrunk : getIfEntry (s.info.fdToTapIfMap.remove (sizeOfInt tapIf.fd) tapIf.entry) =
      Function.update s.filed tapIf.fd none := getIfEntry_remove sound.keyed phase.2
  refine ⟨⟨fdKeyed_remove sound.keyed _, ?_, ?_⟩, rfl, .nothing rfl ?_⟩
  · intro fd entry isFiled
    simp only [TapSys.filed, shrunk] at isFiled
    by_cases here : fd = tapIf.fd
    · rw [here, Function.update_self] at isFiled
      cases isFiled
    · rw [Function.update_of_ne here] at isFiled
      exact sound.opened fd entry isFiled
  · simp only [FdPhaseSound, TapSys.filed, shrunk, Function.update_self]
  · simp only [TapSys.announced, deleting, TapSys.filed, shrunk, List.not_mem_nil, if_false]

theorem MainSound.closeFd (sound : MainSound s) {fd : BitVec 32} (closing : s.main = .closing fd) :
    OtherStep s
      { s with
        kernel := Function.update s.kernel fd none
        main := .idle } := by
  have unfiled := sound.phase
  rw [FdPhaseSound, closing] at unfiled
  refine ⟨⟨sound.keyed, ?_, trivial⟩, rfl, .nothing rfl ?_⟩
  · intro other entry isFiled
    have apart : other ≠ fd := by
      rintro rfl
      cases unfiled.symm.trans isFiled
    simp only [Function.update_of_ne apart]
    exact sound.opened other entry isFiled
  · simp only [TapSys.announced, closing]
    rfl

theorem MainSound.apart (sound : MainSound s) (filed : next.info.fdToTapIfMap = s.info.fdToTapIfMap)
    (kernel : next.kernel = s.kernel) (main : next.main = s.main)
    (map : next.maps .tap = s.maps .tap) (pipe : next.info.ctrl .tap = s.info.ctrl .tap) :
    OtherStep s next := by
  have sameFiled : next.filed = s.filed := by rw [TapSys.filed, TapSys.filed, filed]
  refine ⟨⟨?_, ?_, ?_⟩, map, .nothing pipe ?_⟩
  · rw [filed]
    exact sound.keyed
  · rw [sameFiled, kernel]
    exact sound.opened
  · have phase := sound.phase
    rw [FdPhaseSound] at phase ⊢
    rw [main, sameFiled, kernel]
    exact phase
  · rw [TapSys.announced, TapSys.announced, main, sameFiled]

theorem MainSound.recvAsic (sound : MainSound s) (taken : recvCtrlCmd growth s .asic = some next) :
    OtherStep s next := by
  simp only [recvCtrlCmd] at taken
  split at taken
  · cases taken
  · cases taken
    refine sound.apart rfl rfl rfl ?_ ?_
    · simp
    · simp

theorem MainSound.asicStep (sound : MainSound s) {step : TapStep}
    (taken : asicStep growth s step = some next) : OtherStep s next := by
  delta FpaPlugin.asicStep at taken
  cases step with
  | receive packet =>
      dsimp only at taken
      split_ifs at taken
      cases taken
      exact sound.apart rfl rfl rfl rfl rfl
  | drainAsic =>
      dsimp only at taken
      split at taken
      · exact sound.recvAsic taken
      · cases taken
  | pipeEmpty =>
      dsimp only at taken
      split at taken
      · cases taken
        exact sound.apart rfl rfl rfl rfl rfl
      · cases taken
        exact sound.apart rfl rfl rfl rfl rfl
      · cases taken
  | findPort =>
      dsimp only at taken
      split at taken
      · split at taken
        · cases taken
          exact sound.apart rfl rfl rfl rfl rfl
        · cases taken
          exact sound.apart rfl rfl rfl rfl rfl
      · cases taken
  | writeFd =>
      dsimp only at taken
      split at taken
      · cases taken
        exact sound.apart rfl rfl rfl rfl rfl
      · cases taken
  | tunAlloc | insertIf | sendCmd | findIf | removeIf | closeFd | drainTap => cases taken

theorem MainSound.sendCmdStep (sound : MainSound s) (taken : sendCmdStep s = some next) :
    OtherStep s next := by
  simp only [FpaPlugin.sendCmdStep] at taken
  split at taken
  · rename_i adding
    cases taken
    exact sound.sendAdd adding
  · rename_i deleting
    cases taken
    exact sound.sendDel deleting
  · cases taken

theorem MainSound.findIfStep (sound : MainSound s) {fd : BitVec 32}
    (taken : findIfStep s fd = some next) : OtherStep s next := by
  simp only [FpaPlugin.findIfStep] at taken
  split at taken
  · cases taken
  · rename_i found
    split_ifs at taken with enabled
    cases taken
    exact sound.findIf enabled.1 found

theorem MainSound.step (sound : MainSound s) {step : TapStep} {reply : Unit}
    (notDrain : step ≠ .drainTap) (taken : tapStep growth s step = .ok (reply, next)) :
    OtherStep s next := by
  have viaAsic : (if s.exited .asic then none else FpaPlugin.asicStep growth s step) = some next →
      OtherStep s next := by
    intro reached
    split_ifs at reached
    exact sound.asicStep reached
  simp only [tapStep] at taken
  split at taken
  · cases taken
  · rename_i reached
    cases taken
    cases step with
    | tunAlloc tapIf =>
        simp only [tunAllocStep] at reached
        split_ifs at reached with enabled
        cases reached
        exact sound.tunAlloc enabled.1 enabled.2.2
    | insertIf =>
        simp only [insertIfStep] at reached
        split at reached
        · rename_i isOpened
          cases reached
          exact sound.insertIf isOpened
        · cases reached
    | sendCmd => exact sound.sendCmdStep reached
    | findIf fd => exact sound.findIfStep reached
    | removeIf =>
        simp only [removeIfStep] at reached
        split at reached
        · rename_i deleting
          cases reached
          exact sound.removeIf deleting
        · cases reached
    | closeFd =>
        simp only [closeFdStep] at reached
        split at reached
        · rename_i closing
          cases reached
          exact sound.closeFd closing
        · cases reached
    | drainTap => exact (notDrain rfl).elim
    | receive | drainAsic | pipeEmpty | findPort | writeFd => exact viaAsic reached

theorem tapStep_kernel {step : TapStep} {reply : Unit}
    (taken : tapStep growth s step = .ok (reply, next)) (fd : BitVec 32) :
    next.kernel fd = s.kernel fd ∨ next.kernel fd = none ∨
      ∃ tapIf, step = .tunAlloc tapIf ∧ tapIf.fd = fd := by
  cases tapStep_moves taken with
  | @tunAlloc tapIf =>
      by_cases here : fd = tapIf.fd
      · exact .inr (.inr ⟨tapIf, rfl, here.symm⟩)
      · exact .inl (Function.update_of_ne here ..)
  | @closeFd closed =>
      by_cases here : fd = closed
      · subst here
        exact .inr (.inl (Function.update_self ..))
      · exact .inl (Function.update_of_ne here ..)
  | insertIf | sendAdd | sendDel | findIf | removeIf | recv | await | receive | pipeEmpty
    | findPort => exact .inl rfl

end MainThread

section Listener

variable {env : Env} {s next : SelectSys}

def SelectSys.changes (s : SelectSys) : List (BitVec 32 × Option TapIfEntry) :=
  s.pipe.filterMap CtrlCmd.change

structure WatchInvariant (s : SelectSys) : Prop where
  main : MainSound s.threads
  keyed : FdKeyed s.map
  ctrl : s.threads.kernel s.ctrlFd = none
  spared : ∀ change ∈ s.changes, change.1 ≠ s.ctrlFd
  watched : ∀ fd, s.readFdSet fd = (decide (fd = s.ctrlFd) || (getIfEntry s.map fd).isSome)
  alternates : Alternates s.changes (getIfEntry s.map)
  announced : applied s.changes (getIfEntry s.map) = s.threads.announced

theorem TapSys.Initial.mainSound {threads : TapSys} (initial : threads.Initial) :
    MainSound threads := by
  have unfiled : ∀ fd, threads.filed fd = none := by
    intro fd
    cases isFiled : threads.filed fd with
    | none => rfl
    | some entry =>
        have member := Hmap.firstWithHash_some isFiled
        rw [initial.map, Hmap.nodes_empty] at member
        cases member
  refine ⟨?_, ?_, ?_⟩
  · rw [FdKeyed, initial.map, Hmap.nodes_empty]
    exact List.nodup_nil
  · intro fd entry isFiled
    cases (unfiled fd).symm.trans isFiled
  · rw [FdPhaseSound, initial.main]
    trivial

theorem SelectSys.Initial.watchInvariant (initial : s.Initial) : WatchInvariant s := by
  have sameMap : s.map = s.threads.info.fdToTapIfMap := by
    rw [SelectSys.map, initial.threads.maps, initial.threads.map]
  have empty : ∀ fd, getIfEntry s.map fd = none := by
    intro fd
    cases found : getIfEntry s.map fd with
    | none => rfl
    | some entry =>
        have member := Hmap.firstWithHash_some found
        rw [SelectSys.map, initial.threads.maps, Hmap.nodes_empty] at member
        cases member
  have noChanges : s.changes = [] := by
    rw [SelectSys.changes, SelectSys.pipe, initial.threads.ctrl]
    rfl
  refine ⟨initial.threads.mainSound, ?_, ?_, ?_, ?_, ?_, ?_⟩
  · rw [sameMap]
    exact initial.threads.mainSound.keyed
  · rw [initial.threads.kernel]
  · rw [noChanges]
    intro change member
    cases member
  · intro fd
    rw [initial.readFdSet, empty]
    simp
  · rw [noChanges]
    trivial
  · rw [noChanges, applied_nil, TapSys.announced, initial.threads.main, sameMap]
    rfl

theorem open_of_announced {threads : TapSys} (sound : MainSound threads) {fd : BitVec 32}
    {entry : TapIfEntry} (announced : threads.announced fd = some entry) :
    threads.kernel fd = some entry.portNum :=
  sound.opened fd entry (filed_of_announced announced)

theorem MainSound.open_of_flips {before after : TapSys} (sound : MainSound before)
    (soundAfter : MainSound after) {change : BitVec 32 × Option TapIfEntry}
    (flips : Flips before.announced change)
    (announced : after.announced = Function.update before.announced change.1 change.2) :
    before.kernel change.1 ≠ none ∨ after.kernel change.1 ≠ none := by
  cases isFiled : change.2 with
  | none =>
      left
      have known : before.announced change.1 ≠ none := fun free => flips.mp free isFiled
      obtain ⟨entry, isKnown⟩ := Option.ne_none_iff_exists'.mp known
      rw [open_of_announced sound isKnown]
      exact Option.some_ne_none _
  | some entry =>
      right
      have isKnown : after.announced change.1 = some entry := by
        rw [announced, Function.update_self, isFiled]
      rw [open_of_announced soundAfter isKnown]
      exact Option.some_ne_none _

theorem WatchInvariant.thread (invariant : WatchInvariant s) {threads : TapSys}
    (other : OtherStep s.threads threads) (ctrl : threads.kernel s.ctrlFd = none) :
    WatchInvariant { s with threads } := by
  have sameMap : SelectSys.map { s with threads } = s.map := other.map
  refine ⟨other.sound, ?_, ctrl, ?_, ?_, ?_, ?_⟩
  · rw [sameMap]
    exact invariant.keyed
  · intro change member
    cases other.announces with
    | nothing pipe same =>
        rw [SelectSys.changes, SelectSys.pipe, pipe] at member
        exact invariant.spared change member
    | @command _ sent pipe isChange flips announced =>
        rw [SelectSys.changes, SelectSys.pipe, pipe, List.filterMap_append] at member
        simp only [List.filterMap_cons, isChange, List.filterMap_nil] at member
        rcases List.mem_append.mp member with old | new
        · exact invariant.spared change old
        · rw [List.mem_singleton.mp new]
          intro same
          rcases invariant.main.open_of_flips other.sound flips announced with wasOpen | isOpen
          · exact wasOpen (same ▸ invariant.ctrl)
          · exact isOpen (same ▸ ctrl)
  · rw [sameMap]
    exact invariant.watched
  · rw [sameMap]
    cases other.announces with
    | nothing pipe same =>
        rw [SelectSys.changes, SelectSys.pipe, pipe]
        exact invariant.alternates
    | command pipe isChange flips announced =>
        rw [SelectSys.changes, SelectSys.pipe, pipe, List.filterMap_append]
        simp only [List.filterMap_cons, isChange, List.filterMap_nil]
        refine (alternates_snoc _).mpr ⟨invariant.alternates, ?_⟩
        have settled := invariant.announced
        rw [SelectSys.changes, SelectSys.pipe] at settled
        rw [settled]
        exact flips
  · rw [sameMap]
    have settled := invariant.announced
    rw [SelectSys.changes, SelectSys.pipe] at settled
    cases other.announces with
    | nothing pipe same =>
        rw [SelectSys.changes, SelectSys.pipe, pipe, settled]
        exact same.symm
    | command pipe isChange flips announced =>
        rw [SelectSys.changes, SelectSys.pipe, pipe, List.filterMap_append]
        simp only [List.filterMap_cons, isChange, List.filterMap_nil]
        rw [applied_snoc, settled]
        exact announced.symm

/-- `next` differs from `s` in the phase and the packet buffer at most. -/
structure SameWatch (s next : SelectSys) : Prop where
  threads : next.threads = s.threads
  ctrlFd : next.ctrlFd = s.ctrlFd
  watched : next.readFdSet = s.readFdSet

theorem WatchInvariant.congr (invariant : WatchInvariant s) (same : SameWatch s next) :
    WatchInvariant next := by
  obtain ⟨threads, ctrlFd, watched⟩ := same
  have sameMap : next.map = s.map := by rw [SelectSys.map, SelectSys.map, threads]
  have sameChanges : next.changes = s.changes := by
    rw [SelectSys.changes, SelectSys.changes, SelectSys.pipe, SelectSys.pipe, threads]
  refine ⟨?_, ?_, ?_, ?_, ?_, ?_, ?_⟩
  · rw [threads]
    exact invariant.main
  · rw [sameMap]
    exact invariant.keyed
  · rw [threads, ctrlFd]
    exact invariant.ctrl
  · rw [sameChanges, ctrlFd]
    exact invariant.spared
  · rw [sameMap, watched, ctrlFd]
    exact invariant.watched
  · rw [sameMap, sameChanges]
    exact invariant.alternates
  · rw [sameMap, sameChanges, threads]
    exact invariant.announced

structure CmdDrained (env : Env) (s next : SelectSys) (cmd : CtrlCmd) (rest : List CtrlCmd) : Prop where
  pipe : s.pipe = cmd :: rest
  threads : next.threads = { s.threads with
    info := { s.threads.info with ctrl := Function.update s.threads.info.ctrl .tap rest }
    exited := Function.update s.threads.exited .tap (cmd = .threadExit)
    maps := Function.update s.threads.maps .tap (applyCmd env.growth s.map .tap cmd) }
  ctrlFd : next.ctrlFd = s.ctrlFd
  watched : next.readFdSet = fdSetAfter s.map s.readFdSet cmd
  phase : ∀ rd i, next.phase ≠ .scanning rd i

theorem drainCmd_drained (taken : drainCmd env s = .ok next) :
    ∃ cmd rest, CmdDrained env s next cmd rest := by
  simp only [drainCmd] at taken
  split at taken
  · rename_i rd cmd rest _ isPipe
    simp only [recvCtrlCmd, show s.threads.info.ctrl .tap = cmd :: rest from isPipe] at taken
    split_ifs at taken
    · rename_i exits
      cases taken
      exact ⟨cmd, rest, isPipe, rfl, rfl, rfl, by simp⟩
    · cases taken
      exact ⟨cmd, rest, isPipe, rfl, rfl, rfl, by simp⟩
  · cases taken

theorem WatchInvariant.drain (invariant : WatchInvariant s) {cmd : CtrlCmd} {rest : List CtrlCmd}
    (drained : CmdDrained env s next cmd rest) : WatchInvariant next := by
  obtain ⟨pipe, threads, ctrlFd, watched, _⟩ := drained
  have main : MainSound next.threads := by
    rw [threads]
    exact ⟨invariant.main.keyed, invariant.main.opened, invariant.main.phase⟩
  have announced : next.threads.announced = s.threads.announced := by
    rw [threads]
    rfl
  have map : next.map = applyCmd env.growth s.map .tap cmd := by
    rw [SelectSys.map, threads]
    simp only [Function.update_self]
  have left : next.changes = rest.filterMap CtrlCmd.change := by
    rw [SelectSys.changes, SelectSys.pipe, threads]
    simp only [Function.update_self]
  have ctrl : next.threads.kernel next.ctrlFd = none := by
    rw [threads, ctrlFd]
    exact invariant.ctrl
  have alternates := invariant.alternates
  have settled := invariant.announced
  have spared := invariant.spared
  rw [SelectSys.changes, pipe] at alternates settled spared
  cases isChange : cmd.change with
  | none =>
      rw [List.filterMap_cons_none isChange] at alternates settled spared
      cases cmd with
      | threadExit =>
          refine ⟨main, ?_, ctrl, ?_, ?_, ?_, ?_⟩
          · rw [map]
            exact invariant.keyed
          · rw [left, ctrlFd]
            exact spared
          · rw [map, watched, ctrlFd]
            exact invariant.watched
          · rw [map, left]
            exact alternates
          · rw [map, left, announced]
            exact settled
      | addIf | delIf => cases isChange
  | some change =>
      rw [List.filterMap_cons_some isChange] at alternates settled spared
      obtain ⟨keyed, lookups⟩ := @applyCmd_change env.growth _ _ _ invariant.keyed isChange alternates.1
      refine ⟨main, ?_, ctrl, ?_, ?_, ?_, ?_⟩
      · rw [map]
        exact keyed
      · rw [left, ctrlFd]
        exact fun later member => spared later (List.mem_cons_of_mem _ member)
      · intro fd
        rw [map, watched, lookups, ctrlFd]
        exact fdSetAfter_change invariant.watched isChange (spared change List.mem_cons_self) fd
      · rw [map, left, lookups]
        exact alternates.2
      · rw [map, left, lookups, announced]
        exact settled

def SelectInput.inPass : SelectInput → Bool
  | .visit _ | .skip => true
  | _ => false

inductive SelectMove (env : Env) (s next : SelectSys) : SelectInput → Prop
  | thread {step : TapStep} {threads : TapSys} {reply : Unit} (notDrain : step ≠ .drainTap)
      (notCtrl : step.opens ≠ some s.ctrlFd)
      (taken : tapStep env.growth s.threads step = .ok (reply, threads))
      (isNext : next = { s with threads }) : SelectMove env s next (.thread step)
  | drain {cmd : CtrlCmd} {rest : List CtrlCmd} (drained : CmdDrained env s next cmd rest) :
      SelectMove env s next .drain
  | starts {input : SelectInput} (empty : s.pipe = []) (same : SameWatch s next) :
      SelectMove env s next input
  | pauses {input : SelectInput} (same : SameWatch s next)
      (phase : ∀ rd i, next.phase ≠ .scanning rd i) : SelectMove env s next input
  | goesOn {input : SelectInput} {rd : BitVec 32 → Bool} {i : Nat} (inPass : input.inPass = true)
      (same : SameWatch s next) (scans : s.phase = .scanning rd i) : SelectMove env s next input

theorem silently_ok {outcome : Option SelectSys} {reply : Option SentPacket}
    (taken : silently outcome = .ok (reply, next)) : outcome = some next := by
  cases outcome with
  | none => cases taken
  | some _ =>
      cases taken
      rfl

theorem selectReturns_moves (invariant : WatchInvariant s) {outcome : SelectOutcome}
    (taken : selectReturns s outcome = some next) : SelectMove env s next (.select outcome) := by
  simp only [selectReturns] at taken
  split at taken
  · cases taken
    exact .pauses ⟨rfl, rfl, rfl⟩ (by simp)
  · cases taken
    have isSet : s.readFdSet s.ctrlFd = true := by simp [invariant.watched]
    refine .pauses ⟨rfl, rfl, rfl⟩ ?_
    simp [checkCtrl, isSet]
  · rename_i fds _
    split_ifs at taken with ready
    cases taken
    cases empty : s.pipe.isEmpty with
    | true => exact .starts (List.isEmpty_iff.mp empty) ⟨rfl, rfl, rfl⟩
    | false =>
        have isReady : fds.contains s.ctrlFd = true := by
          rw [ready.2, empty]
          rfl
        refine .pauses ⟨rfl, rfl, rfl⟩ fun rd i => ?_
        rw [checkCtrl, if_pos isReady]
        simp
  · cases taken

theorem scanStarts_moves (taken : scanStarts s = some next) : SelectMove env s next .pipeEmpty := by
  simp only [scanStarts] at taken
  split at taken
  · rename_i empty
    cases taken
    exact .starts empty ⟨rfl, rfl, rfl⟩
  · cases taken

theorem visitFd_moves {input : TapReadable} {reply : Option SentPacket}
    (taken : visitFd env s input = some (reply, next)) : SelectMove env s next (.visit input) := by
  simp only [visitFd] at taken
  split at taken
  · rename_i rd i scans
    split_ifs at taken
    cases taken
    exact .goesOn rfl ⟨rfl, rfl, rfl⟩ scans
  · cases taken

theorem skipFd_moves (taken : skipFd s = some next) : SelectMove env s next .skip := by
  simp only [skipFd] at taken
  split at taken
  · rename_i rd i scans
    split_ifs at taken
    cases taken
    exact .goesOn rfl ⟨rfl, rfl, rfl⟩ scans
  · cases taken

theorem scanEnds_moves (taken : scanEnds s = some next) : SelectMove env s next .scanned := by
  simp only [scanEnds] at taken
  split at taken
  · split_ifs at taken
    cases taken
    exact .pauses ⟨rfl, rfl, rfl⟩ (by simp)
  · cases taken

theorem selectStep_moves (invariant : WatchInvariant s) {input : SelectInput}
    {reply : Option SentPacket} (taken : selectStep env s input = .ok (reply, next)) :
    SelectMove env s next input := by
  cases input with
  | thread step =>
      simp only [selectStep] at taken
      split_ifs at taken with barred
      rw [not_or] at barred
      split at taken
      · cases taken
      · rename_i stepped
        cases taken
        exact .thread barred.1 barred.2 stepped rfl
  | select outcome => exact selectReturns_moves invariant (silently_ok taken)
  | drain =>
      simp only [selectStep] at taken
      split at taken
      · cases taken
      · rename_i drained
        cases taken
        obtain ⟨cmd, rest, isDrained⟩ := drainCmd_drained drained
        exact .drain isDrained
  | pipeEmpty => exact scanStarts_moves (silently_ok taken)
  | visit input =>
      simp only [selectStep] at taken
      split at taken
      · cases taken
      · rename_i visited
        cases taken
        exact visitFd_moves visited
  | skip => exact skipFd_moves (silently_ok taken)
  | scanned => exact scanEnds_moves (silently_ok taken)

theorem tapStep_ctrl {growth : HmapGrowth} {threads after : TapSys} {step : TapStep} {reply : Unit}
    {fd : BitVec 32} (notOpened : step.opens ≠ some fd) (closed : threads.kernel fd = none)
    (taken : tapStep growth threads step = .ok (reply, after)) : after.kernel fd = none := by
  rcases tapStep_kernel taken fd with same | gone | ⟨tapIf, rfl, isFd⟩
  · exact same.trans closed
  · exact gone
  · exact (notOpened (congrArg some isFd)).elim

theorem WatchInvariant.step (invariant : WatchInvariant s) {input : SelectInput}
    (moved : SelectMove env s next input) : WatchInvariant next := by
  cases moved with
  | thread notDrain notCtrl taken isNext =>
      subst isNext
      exact invariant.thread (invariant.main.step notDrain taken)
        (tapStep_ctrl notCtrl invariant.ctrl taken)
  | drain drained => exact invariant.drain drained
  | starts _ same => exact invariant.congr same
  | pauses same => exact invariant.congr same
  | goesOn _ same => exact invariant.congr same

theorem WatchInvariant.of_changes (invariant : WatchInvariant s) (fd : BitVec 32) :
    s.threads.announced fd = getIfEntry s.map fd ∨ (fd, s.threads.announced fd) ∈ s.changes := by
  have settled := applied_eq_or_mem s.changes (getIfEntry s.map) fd
  rw [invariant.announced] at settled
  exact settled

theorem WatchInvariant.opened (invariant : WatchInvariant s) {fd : BitVec 32}
    (known : getIfEntry s.map fd ≠ none) :
    s.threads.kernel fd ≠ none ∨ ∃ portNum, .delIf fd portNum ∈ s.pipe := by
  cases announced : s.threads.announced fd with
  | some entry =>
      left
      rw [open_of_announced invariant.main announced]
      exact Option.some_ne_none _
  | none =>
      right
      rcases invariant.of_changes fd with same | pending
      · exact (known (same.symm.trans announced)).elim
      · rw [announced] at pending
        obtain ⟨cmd, inPipe, isChange⟩ := List.mem_filterMap.mp pending
        cases cmd with
        | threadExit | addIf => cases isChange
        | delIf gone portNum =>
            cases isChange
            exact ⟨portNum, inPipe⟩

theorem WatchInvariant.covers (invariant : WatchInvariant s) {fd : BitVec 32} {entry : TapIfEntry}
    (announced : s.threads.announced fd = some entry) :
    getIfEntry s.map fd = some entry ∨ .addIf entry.name fd entry.portNum entry.mac ∈ s.pipe := by
  rcases invariant.of_changes fd with same | pending
  · left
    rw [← same, announced]
  · right
    rw [announced] at pending
    obtain ⟨cmd, inPipe, isChange⟩ := List.mem_filterMap.mp pending
    cases cmd with
    | threadExit | delIf => cases isChange
    | addIf name added portNum mac =>
        cases isChange
        exact inPipe

theorem announced_of_filed {threads : TapSys} (sound : MainSound threads) {fd : BitVec 32}
    {entry : TapIfEntry} (isFiled : threads.filed fd = some entry) :
    threads.announced fd = some entry ∨
      .addIf entry.name fd entry.portNum entry.mac ∈ threads.main.unsentTo .tap ∨
      ∃ tapIf unsent, threads.main = .deleting tapIf unsent ∧ tapIf.fd = fd := by
  have phase := sound.phase
  rw [FdPhaseSound] at phase
  rw [TapSys.announced]
  cases main : threads.main with
  | idle | opened | closing => exact .inl isFiled
  | adding tapIf unsent =>
      rw [main] at phase
      by_cases waits : .tap ∈ unsent
      · by_cases here : fd = tapIf.fd
        · subst here
          obtain rfl := Option.some.inj (isFiled.symm.trans phase.2)
          right
          left
          simp only [MainPhase.unsentTo, waits, if_true]
          exact List.mem_singleton.mpr rfl
        · left
          simp only [waits, if_true, Function.update_of_ne here]
          exact isFiled
      · left
        simp only [waits, if_false]
        exact isFiled
  | deleting tapIf unsent =>
      by_cases here : fd = tapIf.fd
      · exact .inr (.inr ⟨tapIf, unsent, rfl, here.symm⟩)
      · left
        by_cases waits : .tap ∈ unsent
        · simp only [waits, if_true]
          exact isFiled
        · simp only [waits, if_false, Function.update_of_ne here]
          exact isFiled

theorem WatchInvariant.watchesTaps (invariant : WatchInvariant s) : WatchesTaps s where
  own := by
    intro fd
    rw [invariant.watched, Bool.or_eq_true, decide_eq_true_eq, Option.isSome_iff_ne_none]
  opened := by
    intro fd watched
    rw [invariant.watched, Bool.or_eq_true, decide_eq_true_eq, Option.isSome_iff_ne_none] at watched
    rcases watched with isCtrl | known
    · exact .inl isCtrl
    · exact .inr (invariant.opened known)
  covers := by
    intro fd entry isFiled
    rcases announced_of_filed invariant.main isFiled with announced | unsent | deleting
    · rcases invariant.covers announced with known | waits
      · exact .inl known
      · exact .inr (.inl (List.mem_append_left _ waits))
    · exact .inr (.inl (List.mem_append_right _ unsent))
    · exact .inr (.inr deleting)

/-- The listener's own map names the open TAPs, apart from those that took over an fd since. -/
def ScanSound (trace : List SelectEvent) (s : SelectSys) : Prop :=
  ∀ rd i, s.phase = .scanning rd i → ∀ fd entry, getIfEntry s.map fd = some entry →
    s.threads.kernel fd = some entry.portNum ∨ s.threads.kernel fd = none ∨ fd ∈ handedOut trace

theorem WatchInvariant.scanSound_of_empty (invariant : WatchInvariant s) (empty : s.pipe = [])
    (trace : List SelectEvent) : ScanSound trace s := by
  intro rd i _ fd entry known
  left
  refine open_of_announced invariant.main ?_
  rw [← invariant.announced, SelectSys.changes, empty]
  exact known

theorem handedOut_thread {trace : List SelectEvent} {fd : BitVec 32} (step : TapStep)
    (reply : Option SentPacket) (already : fd ∈ handedOut trace) :
    fd ∈ handedOut (⟨s, .thread step, reply, next⟩ :: trace) := by
  cases step with
  | tunAlloc tapIf => exact List.mem_cons_of_mem _ already
  | _ => exact already

theorem ScanSound.thread {trace : List SelectEvent} (sound : ScanSound trace s) {step : TapStep}
    {threads : TapSys} {reply : Unit} {sent : Option SentPacket}
    (sameMap : threads.maps .tap = s.threads.maps .tap)
    (taken : tapStep env.growth s.threads step = .ok (reply, threads)) :
    ScanSound (⟨s, .thread step, sent, { s with threads }⟩ :: trace) { s with threads } := by
  intro rd i scans fd entry known
  rw [SelectSys.map, sameMap] at known
  rcases tapStep_kernel taken fd with same | closed | ⟨tapIf, rfl, isOpened⟩
  · rcases sound rd i scans fd entry known with isOwn | closed | handed
    · exact .inl (same.trans isOwn)
    · exact .inr (.inl (same.trans closed))
    · exact .inr (.inr (handedOut_thread step sent handed))
  · exact .inr (.inl closed)
  · subst isOpened
    exact .inr (.inr List.mem_cons_self)

theorem ScanSound.step {trace : List SelectEvent} (sound : ScanSound trace s)
    (invariant : WatchInvariant s) {input : SelectInput} {sent : Option SentPacket}
    (moved : SelectMove env s next input) : ScanSound (⟨s, input, sent, next⟩ :: trace) next := by
  have kept := invariant.step moved
  cases moved with
  | thread notDrain _ taken isNext =>
      subst isNext
      exact sound.thread (invariant.main.step notDrain taken).map taken
  | drain drained => exact fun rd i scans => (drained.phase rd i scans).elim
  | starts empty same =>
      refine kept.scanSound_of_empty ?_ _
      rw [SelectSys.pipe, same.threads]
      exact empty
  | pauses _ phase => exact fun rd i scans => (phase rd i scans).elim
  | goesOn inPass same scans =>
      intro _ _ _ fd entry known
      have sameHanded : handedOut (⟨s, input, sent, next⟩ :: trace) = handedOut trace := by
        cases input with
        | visit | skip => rfl
        | thread | select | drain | pipeEmpty | scanned => cases inPass
      rw [SelectSys.map, same.threads] at known
      rw [same.threads, sameHanded]
      exact sound _ _ scans fd entry known

theorem tapReadable_outPort {listener : TapListener} {input : TapReadable} {sent : SentPacket}
    (isSent : (tapReadable env listener input).1 = some sent) :
    ∃ entry, getIfEntry listener.fdToTapIfMap input.fd = some entry ∧
      sent.outPortNum = entry.portNum := by
  simp only [tapReadable] at isSent
  split at isSent
  · cases isSent
  · split at isSent
    · cases isSent
    · split at isSent
      · cases isSent
      · rename_i entry known
        split at isSent
        · cases isSent
        · split at isSent
          · cases isSent
          · cases isSent
            exact ⟨entry, known, rfl⟩

theorem sendsRead_of_got {listener : TapListener} {input : TapReadable} {sent : SentPacket}
    {data : List Byte} {asked : data.length ≤ fpaHalMaxMtuCns}
    (isSent : (tapReadable env listener input).1 = some sent)
    (isRead : readUninterrupted input.reads = some (.got data asked)) (whole : WholeFrame data) :
    SendsRead data sent := by
  obtain ⟨outcome, isOutcome, _, isPacket⟩ := tapReadable_sent isSent
  cases isOutcome.symm.trans isRead
  rw [packet_got] at isPacket
  exact sendsRead_of_whole listener.pbuf asked whole isPacket

theorem ScanSound.sends {trace : List SelectEvent} (sound : ScanSound trace s) {input : SelectInput}
    {reply : Option SentPacket} (taken : selectStep env s input = .ok (reply, next)) :
    SendsByOwnPort trace ⟨s, input, reply, next⟩ := by
  rintro visited data asked sent portNum rfl isRead rfl isOpen
  simp only [selectStep] at taken
  split at taken
  · cases taken
  · rename_i visiting
    cases taken
    simp only [visitFd] at visiting
    split at visiting
    · rename_i rd i scans
      split_ifs at visiting
      rw [Option.some.injEq, Prod.mk.injEq] at visiting
      refine ⟨fun whole => sendsRead_of_got visiting.1 isRead whole, ?_⟩
      obtain ⟨entry, known, isPort⟩ := tapReadable_outPort visiting.1
      rcases sound rd i scans visited.fd entry known with isOwn | closed | handed
      · left
        rw [isPort]
        exact Option.some.inj (isOwn.symm.trans isOpen)
      · cases closed.symm.trans isOpen
      · exact .inr handed
    · cases visiting

end Listener

/-- In every run of the threads `tap_listener` selects on its control pipe and the TAPs of its own
map, each of them open or about to be taken out, and misses none for which it has been sent a
command. -/
theorem watched_fds_follow_taps (env : Env) (start : SelectSys) (trace : List SelectEvent)
    (s : SelectSys) (initial : start.Initial) (run : SelectRun env start trace s) :
    WatchesTaps s := by
  have invariant : WatchInvariant s := by
    induction run with
    | nil => exact initial.watchInvariant
    | cons _ taken ih => exact ih.step (selectStep_moves ih taken)
  exact invariant.watchesTaps

def createTap (tapIf : TapIf) : List SelectInput :=
  [.thread (.tunAlloc tapIf), .thread .insertIf, .thread .sendCmd, .thread .sendCmd]

def deleteTap (fd : BitVec 32) : List SelectInput :=
  [.thread (.findIf fd), .thread .sendCmd, .thread .sendCmd, .thread .removeIf, .thread .closeFd]

def tapIf6 : TapIf := ⟨"6".toList, 8#32, 6#32, 1#48⟩

theorem watched_fds_follow_tap_of_port_5 :
    ∃ trace s, SelectRun idealEnv idleSelect trace s ∧
      s.readFdSet 7 = true ∧ s.threads.kernel 7 = none ∧
      s.readFdSet 8 = false ∧ s.threads.kernel 8 = some 6 ∧ WatchesTaps s := by
  obtain ⟨trace, s, run, watched, closed, unwatched, isOpen⟩ := selectRun_of_check idealEnv
    idleSelect
    (createTap (tapIf5 5#32) ++ [.select (.ready [3]), .drain, .pipeEmpty] ++ deleteTap 7 ++
      createTap tapIf6)
    (fun _ s => s.readFdSet 7 = true ∧ s.threads.kernel 7 = none ∧ s.readFdSet 8 = false ∧
      s.threads.kernel 8 = some 6)
    (by decide +kernel)
  exact ⟨trace, s, run, watched, closed, unwatched, isOpen,
    watched_fds_follow_taps idealEnv idleSelect trace s idleSelect_initial run⟩

/-- In every run of the threads a whole frame that was read from a TAP leaves as it was read, and
every packet by the port of the TAP, unless its fd was another's when the pass began. -/
theorem tap_frames_leave_by_own_port (env : Env) (start : SelectSys) (trace : List SelectEvent)
    (s : SelectSys) (initial : start.Initial) (run : SelectRun env start trace s) :
    Runs.Along SendsByOwnPort trace := by
  have sound : WatchInvariant s ∧ ScanSound trace s ∧ Runs.Along SendsByOwnPort trace := by
    induction run with
    | nil =>
        refine ⟨initial.watchInvariant, ?_, trivial⟩
        intro rd i scans
        cases initial.phase.symm.trans scans
    | cons _ taken ih =>
        obtain ⟨invariant, scan, sends⟩ := ih
        have moved := selectStep_moves invariant taken
        exact ⟨invariant.step moved, scan.step invariant moved, scan.sends taken, sends⟩
  exact sound.2.2

def untaggedRead (fd : BitVec 32) : TapReadable where
  fd := fd
  reads := [.got (List.replicate 6 0xff ++ [0, 0, 0, 0, 0, 1, 0x08, 0x00])
    (by simp [fpaHalMaxMtuCns])]
  initTime := ⟨0, 0⟩
  curTime := ⟨10, 0⟩
  groups := ⟨fun _ => [], []⟩

/-- Ports 5 and 6 have a frame each; before that of port 6 is read its fd goes to port 9. -/
theorem tap_frames_leave_by_ports_5_and_6 :
    ∃ trace s, SelectRun idealEnv idleSelect trace s ∧ s.threads.kernel 8 = some 9 ∧
      (trace.filterMap fun event => event.reply.map SentPacket.outPortNum) = [6, 5] ∧
      Runs.Along SendsByOwnPort trace := by
  obtain ⟨trace, s, run, reused, ports⟩ := selectRun_of_check idealEnv idleSelect
    (createTap (tapIf5 5#32) ++ createTap tapIf6 ++
      [.select (.ready [3]), .drain, .drain, .pipeEmpty] ++ List.replicate fdSetSize .skip ++
      [.scanned, .select (.ready [8, 7])] ++ List.replicate 7 .skip ++
      [.visit (untaggedRead 7)] ++ deleteTap 8 ++
      createTap ⟨"9".toList, 8#32, 9#32, 1#48⟩ ++ [.visit (untaggedRead 8)])
    (fun trace s => s.threads.kernel 8 = some 9 ∧
      (trace.filterMap fun event => event.reply.map SentPacket.outPortNum) = [6, 5])
    (by decide +kernel)
  exact ⟨trace, s, run, reused, ports,
    tap_frames_leave_by_own_port idealEnv idleSelect trace s idleSelect_initial run⟩

end FpaPlugin
