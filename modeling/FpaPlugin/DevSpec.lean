import FpaPlugin.Dev

/-! What each call does to the device when it returns. -/

namespace FpaPlugin

variable {env : Env} {portName : Nat → Option PortName} {maxEntries : Nat} {s next : DevSys}
  {rc : DevRc}

theorem mutexLock_free (free : s.mutex = false) :
    opsFpaDevMutexLock s = .ok { s with mutex := true } := by
  rw [opsFpaDevMutexLock, free]
  rfl

theorem mutexLock_cases {locked : DevSys} (taken : opsFpaDevMutexLock s = .ok locked) :
    s.mutex = false ∧ locked = { s with mutex := true } := by
  rw [opsFpaDevMutexLock] at taken
  split at taken
  · cases taken
  · rename_i free
    cases taken
    exact ⟨Bool.not_eq_true _ ▸ free, rfl⟩

theorem refCnt_pred_eq_zero {refCnt : BitVec 32} : refCnt - 1 = 0 ↔ refCnt = 1 := by
  constructor
  · intro isZero
    bv_omega
  · intro isOne
    rw [isOne]
    rfl

def firstDev (env : Env) (maxEntries : Nat) (tapIfInfo : Option TapInfo) (outcome : InitOutcome) :
    FpaDev where
  refCnt := 1
  tapIfInfo := tapIfInfo
  ml := if macLearningCreated outcome
    then some (opsFpaMacLearningCreate env maxEntries outcome.extensionFound) else none

theorem devInit_cases {outcome : InitOutcome}
    (taken : opsFpaDevInit env maxEntries s outcome = .ok (rc, next)) :
    (∃ dev, s.dev = some dev ∧ rc = .ok ∧
      next = ⟨false, some { dev with refCnt := dev.refCnt + 1 }⟩) ∨
    (s.dev = none ∧ rc = (if macLearningCreated outcome then .ok else .eagain) ∧
      ∃ tapIfInfo, next = ⟨false, some (firstDev env maxEntries tapIfInfo outcome)⟩) := by
  rw [opsFpaDevInit] at taken
  split at taken
  · cases taken
  · rename_i locking
    obtain ⟨free, rfl⟩ := mutexLock_cases locking
    split at taken
    · rename_i dev known
      cases taken
      exact .inl ⟨dev, known, rfl, rfl⟩
    · rename_i unknown
      refine .inr ⟨unknown, ?_⟩
      split at taken
      · cases taken
      · rename_i tapIfInfo _
        split at taken
        · rename_i created
          cases taken
          exact ⟨by rw [if_pos created], tapIfInfo, by simp [firstDev, created, opsFpaDevMutexUnlock]⟩
        · rename_i failed
          cases taken
          exact ⟨by rw [if_neg failed], tapIfInfo, by simp [firstDev, failed, opsFpaDevMutexUnlock]⟩

theorem devDeinit_cases (taken : opsFpaDevDeinit env portName s = .ok (rc, next)) :
    rc = .ok ∧ next.mutex = false ∧ ∃ dev, s.dev = some dev ∧
      next.dev = if dev.refCnt = 1 then none else some { dev with refCnt := dev.refCnt - 1 } := by
  rw [opsFpaDevDeinit] at taken
  split at taken
  · cases taken
  · rename_i locking
    obtain ⟨free, rfl⟩ := mutexLock_cases locking
    cases known : s.dev with
    | none =>
        simp only [opsFpaDevById, known] at taken
        cases taken
    | some dev =>
        simp only [opsFpaDevById, known, ne_eq, ite_not, refCnt_pred_eq_zero] at taken
        by_cases last : dev.refCnt = 1
        · rw [if_pos last] at taken
          split at taken
          · cases taken
          · split at taken
            · cases taken
            · cases taken
              exact ⟨rfl, rfl, dev, rfl, by rw [if_pos last]; rfl⟩
        · rw [if_neg last] at taken
          cases taken
          exact ⟨rfl, rfl, dev, rfl, by rw [if_neg last]; rfl⟩

/-- The learning state is not given back: the join waits for a thread that does not end. -/
theorem macLearningUnref_ok_iff {ml : Option MacLearning} :
    opsFpaMacLearningUnref env portName ml = .ok () ↔ ml = none := by
  cases ml with
  | none => exact iff_of_true rfl rfl
  | some ml =>
      refine iff_of_false ?_ (Option.some_ne_none ml)
      intro released
      rw [opsFpaMacLearningUnref, asicEventsHandlerEnds] at released
      cases released

def FpaDev.core (dev : FpaDev) : BitVec 32 × Option MacLearning := (dev.refCnt, dev.ml)

theorem core_setTapInfo (info : TapInfo) :
    (setTapInfo s info).dev.map FpaDev.core = s.dev.map FpaDev.core := by
  rw [setTapInfo, Option.map_map]
  rfl

theorem tapIfCreate_core {portNum : BitVec 32} {name : CString} {mac : EthAddr}
    {outcome : CreateOutcome}
    (taken : opsFpaTapIfCreate env s portNum name mac outcome = .ok (rc, next)) :
    next.dev.map FpaDev.core = s.dev.map FpaDev.core := by
  rw [opsFpaTapIfCreate] at taken
  split at taken
  · cases taken
  · rename_i locking
    obtain ⟨free, rfl⟩ := mutexLock_cases locking
    split at taken
    · cases taken
    · cases taken
      rfl
    · dsimp only at taken
      split_ifs at taken
      all_goals cases taken
      · rfl
      · rfl
      · rfl
      · exact core_setTapInfo _

theorem tapIfDelete_core {tapFd : BitVec 32}
    (taken : opsFpaTapIfDelete s tapFd = .ok (rc, next)) :
    next.dev.map FpaDev.core = s.dev.map FpaDev.core := by
  rw [opsFpaTapIfDelete] at taken
  split at taken
  · cases taken
  · split at taken
    · cases taken
    · rename_i locking
      obtain ⟨free, rfl⟩ := mutexLock_cases locking
      split at taken
      · cases taken
      · cases taken
        rfl
      · split at taken
        · cases taken
          rfl
        · cases taken
          exact core_setTapInfo _

/-! The two TAP calls are the steps of the main thread, with no other thread in between. -/

section Threads

variable {threads : TapSys}

theorem addTapIf_steps (growth : HmapGrowth) {tapIf : TapIf} (idle : threads.main = .idle)
    (valid : 0 < tapIf.fd.toInt) (closed : threads.kernel tapIf.fd = none) :
    ∃ trace, TapRun growth threads trace { threads with
      info := addTapIf growth threads.info tapIf
      kernel := Function.update threads.kernel tapIf.fd (some tapIf.portNum)
      main := .idle } := by
  have opens : tapStep growth threads (.tunAlloc tapIf) = .ok ((), { threads with
      kernel := Function.update threads.kernel tapIf.fd (some tapIf.portNum)
      main := .opened tapIf }) := by
    simp [tapStep, tunAllocStep, idle, valid, closed]
  exact ⟨_, (Runs.Run.nil.cons opens).replay [.insertIf, .sendCmd, .sendCmd] rfl⟩

theorem deleteTapIf_steps (growth : HmapGrowth) {fd : BitVec 32} {entry : TapIfEntry}
    (idle : threads.main = .idle) (valid : 0 < fd.toInt)
    (found : getIfEntry threads.info.fdToTapIfMap fd = some entry) :
    ∃ trace, TapRun growth threads trace { threads with
      info := deleteTapIf threads.info ⟨entry.name, fd, entry.portNum, entry.mac⟩
      kernel := Function.update threads.kernel fd none
      main := .idle } := by
  have finds : tapStep growth threads (.findIf fd) = .ok ((), { threads with
      main := .deleting ⟨entry.name, fd, entry.portNum, entry.mac⟩ [.tap, .asic] }) := by
    simp [tapStep, findIfStep, idle, valid, found]
  exact ⟨_, (Runs.Run.nil.cons finds).replay [.sendCmd, .sendCmd, .removeIf, .closeFd] rfl⟩

/-- The threads of the device's `tap_info`, between two calls of the main thread. -/
def HasThreads (s : DevSys) (threads : TapSys) : Prop :=
  threads.main = .idle ∧ ∃ dev, s.dev = some dev ∧ dev.tapIfInfo = some threads.info

theorem hasThreads_setTapInfo {dev : FpaDev} {info : TapInfo} (known : s.dev = some dev)
    (isInfo : threads.info = info) (idle : threads.main = .idle) :
    HasThreads (opsFpaDevMutexUnlock (setTapInfo s info)) threads := by
  refine ⟨idle, { dev with tapIfInfo := some info }, ?_, ?_⟩
  · simp [opsFpaDevMutexUnlock, setTapInfo, known]
  · rw [isInfo]

theorem tapIfCreate_steps {portNum : BitVec 32} {name : CString} {mac : EthAddr}
    {outcome : CreateOutcome} (has : HasThreads s threads)
    (closed : threads.kernel (outcome.tunAlloc (name.take (ifNameSize - 1))).1 = none)
    (taken : opsFpaTapIfCreate env s portNum name mac outcome = .ok (.ok, next)) :
    ∃ trace after, TapRun env.growth threads trace after ∧ HasThreads next after := by
  obtain ⟨idle, dev, known, info⟩ := has
  rw [opsFpaTapIfCreate] at taken
  split at taken
  · cases taken
  · rename_i locking
    obtain ⟨free, rfl⟩ := mutexLock_cases locking
    simp only [getTapInfoBySwitchId, opsFpaDevById, known, info] at taken
    split_ifs at taken with failed
    all_goals cases taken
    have valid : 0 < (outcome.tunAlloc (name.take (ifNameSize - 1))).1.toInt :=
      Int.not_le.mp failed
    obtain ⟨trace, run⟩ := @addTapIf_steps threads env.growth ⟨_, _, portNum, mac⟩ idle valid closed
    exact ⟨trace, _, run, hasThreads_setTapInfo rfl rfl rfl⟩

theorem tapIfDelete_steps (growth : HmapGrowth) {tapFd : BitVec 32} (has : HasThreads s threads)
    (taken : opsFpaTapIfDelete s tapFd = .ok (.ok, next)) :
    ∃ trace after, TapRun growth threads trace after ∧ HasThreads next after := by
  obtain ⟨idle, dev, known, info⟩ := has
  rw [opsFpaTapIfDelete] at taken
  split at taken
  · cases taken
  · rename_i valid
    split at taken
    · cases taken
    · rename_i locking
      obtain ⟨free, rfl⟩ := mutexLock_cases locking
      simp only [getTapInfoBySwitchId, opsFpaDevById, known, info] at taken
      split at taken
      · cases taken
      · rename_i entry found
        cases taken
        obtain ⟨trace, run⟩ := deleteTapIf_steps growth idle (not_not.mp valid) found
        exact ⟨trace, _, run, hasThreads_setTapInfo rfl rfl rfl⟩

end Threads

end FpaPlugin
