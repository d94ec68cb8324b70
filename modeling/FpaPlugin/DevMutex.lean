import FpaPlugin.DevSpec
import FpaPlugin.System

/-! `fpa_dev_mutex` over whole histories of calls. The early returns of the two TAP calls
keep it. Taking down the device waits for ever for the thread of its learning state; without that
state it locks the mutex twice when there is a TAP interface. -/

namespace FpaPlugin

variable {env : Env} {portName : Nat → Option PortName} {maxEntries : Nat} {s next : DevSys}

/-- The call neither waits for a mutex that its own chain holds nor returns with it. -/
def MutexSound (env : Env) (portName : Nat → Option PortName) (maxEntries : Nat) (s : DevSys)
    (call : DevCall) : Prop :=
  match devStep env portName maxEntries s call with
  | .error fault => fault ≠ .deadlock
  | .ok (_, next) => next.mutex = false

/-- The call does not wait for ever either, for whatever it waits. -/
def GivesMutexBack (env : Env) (portName : Nat → Option PortName) (maxEntries : Nat) (s : DevSys)
    (call : DevCall) : Prop :=
  match devStep env portName maxEntries s call with
  | .error fault => fault ≠ .deadlock ∧ fault ≠ .endlessJoin
  | .ok (_, next) => next.mutex = false

def createSucceeds (dev : FpaDev) (name : CString) (outcome : CreateOutcome) : Bool :=
  dev.tapIfInfo.isSome && decide (0 < (outcome.tunAlloc (name.take (ifNameSize - 1))).1.toInt) &&
    outcome.setNonblocking && outcome.netIfSetup

/-- `ops_fpa_tap_deinit` finds no interface, or aborts at the assertion on the first. -/
def deinitFindsNone (dev : FpaDev) : Bool :=
  dev.tapIfInfo.all fun info => info.fdToTapIfMap.values.head?.all fun entry => entry.fd.toInt ≤ 0

def keepsMutex (s : DevSys) : DevCall → Bool
  | .init _ => true
  | .deinit => s.dev.all fun dev => dev.refCnt ≠ 1 || dev.ml.isSome || deinitFindsNone dev
  | .tapIfCreate _ name _ outcome => s.dev.all fun dev => createSucceeds dev name outcome
  | .tapIfDelete tapFd => decide (tapFd.toInt ≤ 0) || s.dev.all fun dev =>
      dev.tapIfInfo.any fun info => (getIfEntry info.fdToTapIfMap tapFd).isSome

/-- The last reference to a device with learning state is not given back. -/
def joinsNoThread (s : DevSys) : DevCall → Bool
  | .deinit => s.dev.all fun dev => dev.refCnt ≠ 1 || dev.ml.isNone
  | _ => true

section Calls

variable (free : s.mutex = false)

include free

theorem init_mutexSound (outcome : InitOutcome) :
    MutexSound env portName maxEntries s (.init outcome) := by
  rw [MutexSound, devStep, opsFpaDevInit, mutexLock_free free]
  cases known : s.dev with
  | some dev => rfl
  | none =>
      simp only [opsFpaTapInit, getTapInfoBySwitchId, opsFpaDevById]
      by_cases created : macLearningCreated outcome = true
      · simp only [created, if_true]
        rfl
      · simp only [created]
        rfl

theorem create_mutexSound_iff (portNum : BitVec 32) (name : CString) (mac : EthAddr)
    (outcome : CreateOutcome) :
    MutexSound env portName maxEntries s (.tapIfCreate portNum name mac outcome) ↔
      keepsMutex s (.tapIfCreate portNum name mac outcome) = true := by
  rw [MutexSound, devStep, opsFpaTapIfCreate, mutexLock_free free]
  cases known : s.dev with
  | none =>
      simp [getTapInfoBySwitchId, opsFpaDevById, known, keepsMutex]
  | some dev =>
      cases info : dev.tapIfInfo with
      | none =>
          simp [getTapInfoBySwitchId, opsFpaDevById, known, info, keepsMutex, createSucceeds]
      | some tapInfo =>
          simp only [getTapInfoBySwitchId, opsFpaDevById, known, info, keepsMutex, createSucceeds,
            Option.all_some, Option.isSome_some, Bool.true_and]
          by_cases opened : 0 < (outcome.tunAlloc (name.take (ifNameSize - 1))).1.toInt
          · have notFailed : ¬ (outcome.tunAlloc (name.take (ifNameSize - 1))).1.toInt ≤ 0 := by
              omega
            cases nonblocking : outcome.setNonblocking with
            | false => simp [opened, notFailed]
            | true =>
                cases setup : outcome.netIfSetup with
                | false => simp [opened, notFailed]
                | true => simp [opened, notFailed, opsFpaDevMutexUnlock]
          · have failed : (outcome.tunAlloc (name.take (ifNameSize - 1))).1.toInt ≤ 0 := by omega
            simp [opened, failed]

theorem delete_mutexSound_iff (tapFd : BitVec 32) :
    MutexSound env portName maxEntries s (.tapIfDelete tapFd) ↔
      keepsMutex s (.tapIfDelete tapFd) = true := by
  rw [MutexSound, devStep, opsFpaTapIfDelete]
  by_cases valid : 0 < tapFd.toInt
  · have notBad : ¬ tapFd.toInt ≤ 0 := by omega
    rw [if_neg (not_not.mpr valid), mutexLock_free free]
    cases known : s.dev with
    | none => simp [getTapInfoBySwitchId, opsFpaDevById, known, keepsMutex]
    | some dev =>
        cases info : dev.tapIfInfo with
        | none => simp [getTapInfoBySwitchId, opsFpaDevById, known, info, keepsMutex, notBad]
        | some tapInfo =>
            cases found : getIfEntry tapInfo.fdToTapIfMap tapFd with
            | none =>
                simp [getTapInfoBySwitchId, opsFpaDevById, known, info, keepsMutex, found, notBad]
            | some entry =>
                simp [getTapInfoBySwitchId, opsFpaDevById, known, info, keepsMutex, found,
                  opsFpaDevMutexUnlock]
  · have bad : tapFd.toInt ≤ 0 := by omega
    simp [valid, keepsMutex, bad]

end Calls

theorem deleteTapIfs_held (held : s.mutex = true) {info : TapInfo}
    (isMap : s.tapIfMap = info.fdToTapIfMap) :
    deleteTapIfs info s = match info.fdToTapIfMap.values.head? with
      | none => .ok ([], s)
      | some entry =>
          if 0 < entry.fd.toInt then .error .deadlock else .error (.crash .failedAssertion) := by
  rw [deleteTapIfs, Hmap.count, Hmap.values, List.head?_map]
  cases isNodes : info.fdToTapIfMap.nodes with
  | nil => rfl
  | cons node rest =>
      have member : node ∈ s.tapIfMap.nodes := by
        rw [isMap, isNodes]
        exact List.mem_cons_self
      rw [List.length_cons, List.head?_cons, Hmap.forEachSafe, if_pos member]
      by_cases valid : 0 < node.2.fd.toInt
      · simp [deinitTapIf, opsFpaTapIfDelete, valid, opsFpaDevMutexLock, held]
      · simp [deinitTapIf, opsFpaTapIfDelete, valid]

theorem devDeinit_eq (free : s.mutex = false) {dev : FpaDev} (known : s.dev = some dev) :
    opsFpaDevDeinit env portName s =
      if dev.refCnt = 1 then
        if dev.ml.isSome then .error .endlessJoin
        else
          match (dev.tapIfInfo.bind fun info => info.fdToTapIfMap.values.head?) with
          | none => .ok (.ok, ⟨false, none⟩)
          | some entry =>
              if 0 < entry.fd.toInt then .error .deadlock else .error (.crash .failedAssertion)
      else .ok (.ok, ⟨false, some { dev with refCnt := dev.refCnt - 1 }⟩) := by
  rw [opsFpaDevDeinit, mutexLock_free free]
  simp only [opsFpaDevById, known, ne_eq, ite_not, refCnt_pred_eq_zero]
  by_cases last : dev.refCnt = 1
  · simp only [last, if_true]
    cases learning : dev.ml with
    | some ml => simp [opsFpaMacLearningUnref, asicEventsHandlerEnds]
    | none =>
        simp only [macLearningUnref_ok_iff.mpr, Option.isSome_none, Bool.false_eq_true, if_false]
        cases info : dev.tapIfInfo with
        | none => simp [opsFpaTapDeinit, getTapInfoBySwitchId, opsFpaDevById, opsFpaDevMutexUnlock]
        | some tapInfo =>
            simp only [opsFpaTapDeinit, getTapInfoBySwitchId, opsFpaDevById, Option.bind_some]
            rw [deleteTapIfs_held rfl rfl]
            cases tapInfo.fdToTapIfMap.values.head? with
            | none => rfl
            | some entry =>
                by_cases valid : 0 < entry.fd.toInt
                · simp [valid]
                · simp [valid]
  · simp only [last, if_false]
    rfl

theorem deinit_mutexSound_iff (free : s.mutex = false) :
    MutexSound env portName maxEntries s .deinit ↔ keepsMutex s .deinit = true := by
  cases known : s.dev with
  | none =>
      rw [MutexSound, devStep, opsFpaDevDeinit, mutexLock_free free]
      simp [opsFpaDevById, known, keepsMutex]
  | some dev =>
      rw [MutexSound, devStep, devDeinit_eq free known]
      simp only [keepsMutex, known, Option.all_some, deinitFindsNone]
      by_cases last : dev.refCnt = 1
      · cases learning : dev.ml with
        | some ml => simp [last]
        | none =>
            cases info : dev.tapIfInfo with
            | none => simp [last]
            | some tapInfo =>
                cases first : tapInfo.fdToTapIfMap.values.head? with
                | none => simp [last, first]
                | some entry =>
                    by_cases valid : 0 < entry.fd.toInt
                    · simp [last, first, valid]
                    · simp [last, first, valid]
                      omega
      · rw [if_neg last, decide_eq_true last]
        exact iff_of_true rfl rfl

theorem mutexSound_iff (maxEntries : Nat) (free : s.mutex = false) (call : DevCall) :
    MutexSound env portName maxEntries s call ↔ keepsMutex s call = true := by
  cases call with
  | init outcome => exact iff_of_true (init_mutexSound free outcome) rfl
  | deinit => exact deinit_mutexSound_iff free
  | tapIfCreate portNum name mac outcome => exact create_mutexSound_iff free portNum name mac outcome
  | tapIfDelete tapFd => exact delete_mutexSound_iff free tapFd

theorem free_at_end {trace : DevTrace} (run : DevRun env portName maxEntries noDev trace s)
    (free : Runs.Along (fun _ event => event.after.mutex = false) trace) : s.mutex = false := by
  cases run with
  | nil => rfl
  | cons => exact free.1

theorem init_joins (free : s.mutex = false) (outcome : InitOutcome) :
    opsFpaDevInit env maxEntries s outcome ≠ .error .endlessJoin := by
  rw [opsFpaDevInit, mutexLock_free free]
  cases known : s.dev with
  | some dev => simp
  | none =>
      simp only [opsFpaTapInit, getTapInfoBySwitchId, opsFpaDevById]
      by_cases created : macLearningCreated outcome = true
      · simp [created]
      · simp [created]

theorem getTapInfo_joins : getTapInfoBySwitchId s ≠ .error .endlessJoin := by
  intro joins
  rw [getTapInfoBySwitchId, opsFpaDevById] at joins
  cases known : s.dev with
  | none =>
      rw [known] at joins
      cases joins
  | some dev =>
      rw [known] at joins
      cases joins

theorem mutexLock_joins : opsFpaDevMutexLock s ≠ .error .endlessJoin := by
  rw [opsFpaDevMutexLock]
  split
  · simp
  · simp

theorem tapIfCreate_joins {portNum : BitVec 32} {name : CString} {mac : EthAddr}
    {outcome : CreateOutcome} :
    opsFpaTapIfCreate env s portNum name mac outcome ≠ .error .endlessJoin := by
  intro joins
  rw [opsFpaTapIfCreate] at joins
  split at joins
  · rename_i locking
    cases joins
    exact mutexLock_joins locking
  · split at joins
    · rename_i reading
      cases joins
      exact getTapInfo_joins reading
    · cases joins
    · dsimp only at joins
      split_ifs at joins

theorem tapIfDelete_joins {tapFd : BitVec 32} :
    opsFpaTapIfDelete s tapFd ≠ .error .endlessJoin := by
  intro joins
  rw [opsFpaTapIfDelete] at joins
  split at joins
  · cases joins
  · split at joins
    · rename_i locking
      cases joins
      exact mutexLock_joins locking
    · split at joins
      · rename_i reading
        cases joins
        exact getTapInfo_joins reading
      · cases joins
      · split at joins
        · cases joins
        · cases joins

theorem joins_iff (free : s.mutex = false) (call : DevCall) :
    devStep env portName maxEntries s call ≠ .error .endlessJoin ↔ joinsNoThread s call = true := by
  cases call with
  | init outcome => exact iff_of_true (init_joins free outcome) rfl
  | tapIfCreate portNum name mac outcome => exact iff_of_true tapIfCreate_joins rfl
  | tapIfDelete tapFd => exact iff_of_true tapIfDelete_joins rfl
  | deinit =>
      rw [devStep]
      cases known : s.dev with
      | none =>
          rw [opsFpaDevDeinit, mutexLock_free free]
          simp [opsFpaDevById, known, joinsNoThread]
      | some dev =>
          rw [devDeinit_eq free known]
          simp only [joinsNoThread, known, Option.all_some]
          by_cases last : dev.refCnt = 1
          · cases learning : dev.ml with
            | some ml => simp [last]
            | none =>
                simp only [last, if_true, Option.isSome_none, Bool.false_eq_true, if_false]
                split
                · simp
                · split_ifs
                  · simp
                  · simp
          · rw [if_neg last, decide_eq_true last]
            simp

theorem free_of_joins {call : DevCall}
    (joins : devStep env portName maxEntries s call = .error .endlessJoin) : s.mutex = false := by
  cases held : s.mutex with
  | false => rfl
  | true =>
      cases call with
      | tapIfCreate portNum name mac outcome => exact (tapIfCreate_joins joins).elim
      | tapIfDelete tapFd => exact (tapIfDelete_joins joins).elim
      | init outcome => simp [devStep, opsFpaDevInit, opsFpaDevMutexLock, held] at joins
      | deinit => simp [devStep, opsFpaDevDeinit, opsFpaDevMutexLock, held] at joins

theorem givesMutexBack_iff (free : s.mutex = false) (call : DevCall) :
    GivesMutexBack env portName maxEntries s call ↔
      keepsMutex s call = true ∧ joinsNoThread s call = true := by
  rw [← mutexSound_iff maxEntries free call, ← joins_iff free call, GivesMutexBack, MutexSound]
  cases devStep env portName maxEntries s call with
  | error fault => simp
  | ok result => simp

theorem free_iff_kept {trace : DevTrace}
    (run : DevRun env portName maxEntries noDev trace s) :
    Runs.Along (fun _ event => event.after.mutex = false) trace ↔
      Runs.Along (fun _ event => keepsMutex event.before event.input = true) trace := by
  induction run with
  | nil => exact Iff.rfl
  | @cons earlier state input reply next before taken ih =>
      have step : Runs.Along (fun _ event => event.after.mutex = false) earlier →
          (next.mutex = false ↔ keepsMutex state input = true) := by
        intro free
        rw [← mutexSound_iff maxEntries (free_at_end before free) input, MutexSound, taken]
      constructor
      · rintro ⟨freeNow, freeEarlier⟩
        exact ⟨(step freeEarlier).mp freeNow, ih.mp freeEarlier⟩
      · rintro ⟨keepsNow, keptEarlier⟩
        have freeEarlier := ih.mpr keptEarlier
        exact ⟨(step freeEarlier).mpr keepsNow, freeEarlier⟩

/-- In every history of calls the mutex is free between calls and never taken twice exactly
when every call keeps to the ways on which it is given back. A call that keeps to them may still
wait for ever with the mutex: exactly the one that gives back the last reference to a device with
learning state does. -/
theorem mutex_free_iff_kept (env : Env) (portName : Nat → Option PortName) (maxEntries : Nat)
    {trace : DevTrace} {s : DevSys} (run : DevRun env portName maxEntries noDev trace s)
    (call : DevCall) :
    ((Runs.Along (fun _ event => event.after.mutex = false) trace ∧
      MutexSound env portName maxEntries s call) ↔
    (Runs.Along (fun _ event => keepsMutex event.before event.input = true) trace ∧
      keepsMutex s call = true)) ∧
    ((Runs.Along (fun _ event => event.after.mutex = false) trace ∧
      GivesMutexBack env portName maxEntries s call) ↔
    (Runs.Along (fun _ event => keepsMutex event.before event.input = true) trace ∧
      keepsMutex s call = true ∧ joinsNoThread s call = true)) := by
  rw [← free_iff_kept run]
  refine ⟨and_congr_right fun free => ?_, and_congr_right fun free => ?_⟩
  · exact mutexSound_iff maxEntries (free_at_end run free) call
  · exact givesMutexBack_iff (free_at_end run free) call

def opensFd7 : CreateOutcome := ⟨fun name => (7#32, name), true, true⟩

def createPort5 (outcome : CreateOutcome) : DevCall :=
  .tapIfCreate 5#32 "5".toList 1#48 outcome

theorem mutex_free_with_one_interface : ∃ trace s,
    DevRun idealEnv (fun _ => none) 16384 noDev trace s ∧ s.mutex = false ∧
      GivesMutexBack idealEnv (fun _ => none) 16384 s (.tapIfDelete 7#32) := by
  obtain ⟨trace, s, run, kept, keeps⟩ := devRun_of_check idealEnv (fun _ => none) 16384 noDev
    [.init accepted, createPort5 opensFd7]
    (fun trace s => Runs.Along (fun _ event => keepsMutex event.before event.input = true) trace ∧
      keepsMutex s (.tapIfDelete 7#32) = true)
    (by decide +kernel)
  obtain ⟨free, sound⟩ := (mutex_free_iff_kept idealEnv (fun _ => none) 16384 run
    (.tapIfDelete 7#32)).2.mpr ⟨kept, keeps, rfl⟩
  exact ⟨trace, s, run, free_at_end run free, sound⟩

def faultOf (s : DevSys) (call : DevCall) : Option DevFault :=
  match devStep idealEnv (fun _ => none) 16384 s call with
  | .error fault => some fault
  | .ok _ => none

theorem faultOf_some {call : DevCall} {fault : DevFault} (faults : faultOf s call = some fault) :
    devStep idealEnv (fun _ => none) 16384 s call = .error fault := by
  rw [faultOf] at faults
  split at faults
  · rename_i result
    cases faults
    exact result
  · cases faults

theorem not_sound_of_deadlock {call : DevCall} (stuck : faultOf s call = some .deadlock) :
    ¬ MutexSound idealEnv (fun _ => none) 16384 s call := by
  intro sound
  rw [MutexSound, faultOf_some stuck] at sound
  exact sound rfl

/-- A creation whose `tun_alloc` fails returns with the mutex, so that the next call hangs. The
last deinit takes it twice when there is an interface but no learning state, and with learning
state it keeps the mutex for ever. -/
theorem mutex_lost_and_taken_twice :
    (∃ trace s, DevRun idealEnv (fun _ => none) 16384 noDev trace s ∧ s.mutex = true ∧
      ¬ MutexSound idealEnv (fun _ => none) 16384 s (createPort5 opensFd7)) ∧
    (∃ trace s, DevRun idealEnv (fun _ => none) 16384 noDev trace s ∧ s.mutex = false ∧
      ¬ MutexSound idealEnv (fun _ => none) 16384 s .deinit) ∧
    (∃ trace s, DevRun idealEnv (fun _ => none) 16384 noDev trace s ∧ s.mutex = false ∧
      ¬ GivesMutexBack idealEnv (fun _ => none) 16384 s .deinit) := by
  refine ⟨?_, ?_, ?_⟩
  · obtain ⟨trace, s, run, held, stuck⟩ := devRun_of_check idealEnv (fun _ => none) 16384 noDev
      [.init accepted, createPort5 ⟨fun name => (BitVec.ofInt 32 (-1), name), true, true⟩]
      (fun _ s => s.mutex = true ∧ faultOf s (createPort5 opensFd7) = some .deadlock)
      (by decide +kernel)
    exact ⟨trace, s, run, held, not_sound_of_deadlock stuck⟩
  · obtain ⟨trace, s, run, free, stuck⟩ := devRun_of_check idealEnv (fun _ => none) 16384 noDev
      [.init { accepted with agingTimeoutSet := .fail }, createPort5 opensFd7]
      (fun _ s => s.mutex = false ∧ faultOf s .deinit = some .deadlock) (by decide +kernel)
    exact ⟨trace, s, run, free, not_sound_of_deadlock stuck⟩
  · obtain ⟨trace, s, run, free, stuck⟩ := devRun_of_check idealEnv (fun _ => none) 16384 noDev
      [.init accepted]
      (fun _ s => s.mutex = false ∧ faultOf s .deinit = some .endlessJoin) (by decide +kernel)
    refine ⟨trace, s, run, free, fun back => ?_⟩
    rw [GivesMutexBack, devStep, ← devStep, faultOf_some stuck] at back
    exact back.2 rfl

end FpaPlugin
