import FpaPlugin.DevMutex

/-! The references to the device against the calls that took and gave them. An init that
fails leaves a device behind that the next init counts a reference of, and a complete device is
never freed: the deinit that gives its last reference back does not return. -/

namespace FpaPlugin

variable {env : Env} {portName : Nat → Option PortName} {maxEntries : Nat} {s next : DevSys}

def DevEvent.isInit (event : DevEvent) : Bool :=
  match event.input with
  | .init _ => true
  | _ => false

def DevEvent.isDeinit (event : DevEvent) : Bool :=
  match event.input with
  | .deinit => true
  | _ => false

def successfulInits (trace : DevTrace) : Nat :=
  trace.countP fun event => DevEvent.isInit event && event.reply = .ok

def deinits (trace : DevTrace) : Nat := trace.countP DevEvent.isDeinit

def references (s : DevSys) : Nat :=
  match s.dev with
  | none => 0
  | some dev => dev.refCnt.toNat

/-- An init that fails changes nothing, and one that returns 0 yields a complete device. -/
def InitSound (event : DevEvent) : Prop :=
  DevEvent.isInit event = true →
    (event.reply ≠ .ok → event.after.dev = event.before.dev) ∧
    (event.reply = .ok → ∃ dev, event.after.dev = some dev ∧ dev.ml ≠ none)

structure DevCounted (trace : DevTrace) (s : DevSys) : Prop where
  inits : ∀ event ∈ trace, InitSound event
  counted : references s + deinits trace = successfulInits trace
  freed : s.dev = none ↔ successfulInits trace = deinits trace

/-- A first init gets its learning state, no init overflows the count, and the last reference is
not given back. -/
def callsCompletely (s : DevSys) : DevCall → Bool
  | .init outcome =>
      match s.dev with
      | none => macLearningCreated outcome
      | some dev => dev.refCnt.toNat < 4294967295
  | .deinit => s.dev.all fun dev => dev.refCnt ≠ 1
  | _ => true

structure DevInvariant (trace : DevTrace) (s : DevSys) : Prop where
  inits : ∀ event ∈ trace, InitSound event
  counted : references s + deinits trace = successfulInits trace
  complete : ∀ dev, s.dev = some dev → dev.ml ≠ none ∧ 0 < dev.refCnt.toNat

theorem references_none (free : s.dev = none) : references s = 0 := by
  rw [references, free]

theorem references_some {dev : FpaDev} (known : s.dev = some dev) :
    references s = dev.refCnt.toNat := by
  rw [references, known]

section Events

variable (trace : DevTrace) (before after : DevSys)

theorem successfulInits_init (outcome : InitOutcome) :
    successfulInits (⟨before, .init outcome, .ok, after⟩ :: trace) = successfulInits trace + 1 :=
  List.countP_cons_of_pos rfl

theorem deinits_init (outcome : InitOutcome) (rc : DevRc) :
    deinits (⟨before, .init outcome, rc, after⟩ :: trace) = deinits trace :=
  List.countP_cons_of_neg (by simp [DevEvent.isDeinit])

theorem successfulInits_other {event : DevEvent} (other : DevEvent.isInit event = false) :
    successfulInits (event :: trace) = successfulInits trace :=
  List.countP_cons_of_neg (by simp [other])

theorem deinits_deinit (rc : DevRc) :
    deinits (⟨before, .deinit, rc, after⟩ :: trace) = deinits trace + 1 :=
  List.countP_cons_of_pos rfl

theorem deinits_other {event : DevEvent} (other : DevEvent.isDeinit event = false) :
    deinits (event :: trace) = deinits trace :=
  List.countP_cons_of_neg (by simp [other])

end Events

theorem DevInvariant.devCounted {trace : DevTrace} (invariant : DevInvariant trace s) :
    DevCounted trace s := by
  refine ⟨invariant.inits, invariant.counted, ?_⟩
  have counted := invariant.counted
  cases known : s.dev with
  | none =>
      rw [references_none known] at counted
      simp only [true_iff]
      omega
  | some dev =>
      have positive := (invariant.complete dev known).2
      rw [references_some known] at counted
      simp only [reduceCtorEq, false_iff]
      omega

theorem inits_cons {trace : DevTrace} {event : DevEvent} (earlier : ∀ event ∈ trace, InitSound event)
    (sound : InitSound event) : ∀ other ∈ event :: trace, InitSound other := by
  intro other member
  rcases List.mem_cons.mp member with rfl | old
  · exact sound
  · exact earlier other old

theorem DevInvariant.taken {trace : DevTrace} {outcome : InitOutcome} {dev : FpaDev}
    (invariant : DevInvariant trace s) (live : next.dev = some dev) (complete : dev.ml ≠ none)
    (grown : dev.refCnt.toNat = references s + 1) :
    DevInvariant (⟨s, .init outcome, .ok, next⟩ :: trace) next := by
  have counted := invariant.counted
  refine ⟨inits_cons invariant.inits fun _ => ⟨fun failed => (failed rfl).elim, fun _ => ?_⟩,
    ?_, ?_⟩
  · exact ⟨dev, live, complete⟩
  · rw [references_some live, successfulInits_init, deinits_init]
    omega
  · intro other isOther
    rw [live] at isOther
    cases isOther
    exact ⟨complete, by omega⟩

theorem DevInvariant.init {trace : DevTrace} {outcome : InitOutcome} {rc : DevRc}
    (invariant : DevInvariant trace s) (completely : callsCompletely s (.init outcome) = true)
    (taken : opsFpaDevInit env maxEntries s outcome = .ok (rc, next)) :
    DevInvariant (⟨s, .init outcome, rc, next⟩ :: trace) next := by
  rcases devInit_cases taken with ⟨dev, known, rfl, rfl⟩ | ⟨unknown, isRc, tapIfInfo, rfl⟩
  · simp only [callsCompletely, known, decide_eq_true_eq] at completely
    refine invariant.taken rfl (invariant.complete dev known).1 ?_
    rw [references_some known]
    dsimp only
    bv_omega
  · simp only [callsCompletely, unknown] at completely
    rw [if_pos completely] at isRc
    subst isRc
    refine invariant.taken rfl ?_ ?_
    · simp [firstDev, completely]
    · rw [references_none unknown]
      rfl

theorem DevInvariant.deinit {trace : DevTrace} {rc : DevRc} (invariant : DevInvariant trace s)
    (completely : callsCompletely s .deinit = true)
    (taken : opsFpaDevDeinit env portName s = .ok (rc, next)) :
    DevInvariant (⟨s, .deinit, rc, next⟩ :: trace) next := by
  obtain ⟨rfl, _, dev, known, after⟩ := devDeinit_cases taken
  obtain ⟨hasMl, positive⟩ := invariant.complete dev known
  have counted := invariant.counted
  rw [references_some known] at counted
  have more : dev.refCnt ≠ 1 := by
    simpa [callsCompletely, known] using completely
  have moreThanOne : dev.refCnt.toNat ≠ 1 := by
    intro isOne
    exact more (BitVec.eq_of_toNat_eq isOne)
  have shrunk : (dev.refCnt - 1).toNat = dev.refCnt.toNat - 1 := by
    bv_omega
  rw [if_neg more] at after
  have notInit : InitSound ⟨s, .deinit, .ok, next⟩ := fun absurdity => nomatch absurdity
  refine ⟨inits_cons invariant.inits notInit, ?_, ?_⟩
  · rw [references_some after, deinits_deinit, successfulInits_other trace rfl]
    dsimp only
    omega
  · intro live isLive
    rw [after] at isLive
    cases isLive
    exact ⟨hasMl, by dsimp only; omega⟩

theorem references_of_core (same : next.dev.map FpaDev.core = s.dev.map FpaDev.core) :
    references next = references s := by
  cases known : s.dev with
  | none =>
      rw [known, Option.map_none, Option.map_eq_none_iff] at same
      rw [references_none known, references_none same]
  | some dev =>
      rw [known, Option.map_some] at same
      obtain ⟨live, isLive, sameCore⟩ := Option.map_eq_some_iff.mp same
      have sameCount : live.refCnt = dev.refCnt := congrArg Prod.fst sameCore
      rw [references_some known, references_some isLive, sameCount]

theorem DevInvariant.of_core {trace : DevTrace} {call : DevCall} {rc : DevRc}
    (invariant : DevInvariant trace s)
    (notInit : DevEvent.isInit ⟨s, call, rc, next⟩ = false)
    (notDeinit : DevEvent.isDeinit ⟨s, call, rc, next⟩ = false)
    (same : next.dev.map FpaDev.core = s.dev.map FpaDev.core) :
    DevInvariant (⟨s, call, rc, next⟩ :: trace) next := by
  refine ⟨inits_cons invariant.inits ?_, ?_, ?_⟩
  · intro isInit
    rw [notInit] at isInit
    cases isInit
  · rw [references_of_core same, deinits_other trace notDeinit,
      successfulInits_other trace notInit]
    exact invariant.counted
  · intro live isLive
    rw [isLive, Option.map_some] at same
    obtain ⟨dev, known, sameCore⟩ := Option.map_eq_some_iff.mp same.symm
    have sameCount : dev.refCnt = live.refCnt := congrArg Prod.fst sameCore
    have sameMl : dev.ml = live.ml := congrArg Prod.snd sameCore
    rw [← sameCount, ← sameMl]
    exact invariant.complete dev known

theorem DevInvariant.step {trace : DevTrace} {call : DevCall} {rc : DevRc}
    (invariant : DevInvariant trace s) (completely : callsCompletely s call = true)
    (taken : devStep env portName maxEntries s call = .ok (rc, next)) :
    DevInvariant (⟨s, call, rc, next⟩ :: trace) next := by
  cases call with
  | init outcome => exact invariant.init completely taken
  | deinit => exact invariant.deinit completely taken
  | tapIfCreate portNum name mac outcome =>
      exact invariant.of_core rfl rfl (tapIfCreate_core taken)
  | tapIfDelete tapFd => exact invariant.of_core rfl rfl (tapIfDelete_core taken)

theorem devInvariant_noDev : DevInvariant [] noDev where
  inits := fun _ member => (List.not_mem_nil member).elim
  counted := rfl
  complete := fun _ absurdity => nomatch absurdity

theorem not_joins_of_completely {call : DevCall} (completely : callsCompletely s call = true) :
    devStep env portName maxEntries s call ≠ .error .endlessJoin := by
  intro joins
  have free := free_of_joins joins
  refine (joins_iff free call).mpr ?_ joins
  cases call with
  | deinit =>
      simp only [callsCompletely, Option.all_eq_true, decide_eq_true_eq] at completely
      simp only [joinsNoThread, Option.all_eq_true, Bool.or_eq_true, decide_eq_true_eq]
      exact fun dev known => .inl (completely dev known)
  | init | tapIfCreate | tapIfDelete => rfl

/-- In every history whose first inits get their learning state, the count is that of the
inits that have not been given back, and there is no device exactly when it is 0. No further call
of such a history waits for ever in the join. -/
theorem references_counted (env : Env) (portName : Nat → Option PortName) (maxEntries : Nat)
    {trace : DevTrace} {s : DevSys} (run : DevRun env portName maxEntries noDev trace s)
    (completely : Runs.Along (fun _ event => callsCompletely event.before event.input = true)
      trace) :
    DevCounted trace s ∧ ∀ call, callsCompletely s call = true →
      devStep env portName maxEntries s call ≠ .error .endlessJoin := by
  have invariant : DevInvariant trace s := run.invariant devInvariant_noDev
    (fun _ _ _ _ _ invariant taken allowed => invariant.step allowed taken) completely
  exact ⟨invariant.devCounted, fun _ => not_joins_of_completely⟩

theorem references_counted_two_inits : ∃ trace s,
    DevRun idealEnv (fun _ => none) 16384 noDev trace s ∧ successfulInits trace = 2 ∧
      deinits trace = 1 ∧ s.dev ≠ none ∧ references s = 1 := by
  obtain ⟨trace, s, run, completely, inits, gone⟩ := devRun_of_check idealEnv (fun _ => none)
    16384 noDev [.init accepted, .init accepted, .deinit]
    (fun trace _ => Runs.Along (fun _ event => callsCompletely event.before event.input = true)
      trace ∧ successfulInits trace = 2 ∧ deinits trace = 1)
    (by decide +kernel)
  obtain ⟨sound, _⟩ := references_counted idealEnv (fun _ => none) 16384 run completely
  refine ⟨trace, s, run, inits, gone, ?_, ?_⟩
  · intro freed
    have balanced := sound.freed.mp freed
    omega
  · have counted := sound.counted
    omega

/-- An init without the learning state returns EAGAIN and leaves its device, which the next
init takes as it is: it returns 0, and no one ever creates the learning state. With the learning
state, the deinit that gives the only reference back does not return. -/
theorem failed_init_leaves_device :
    (∃ trace s,
      DevRun idealEnv (fun _ => none) 16384 noDev trace s ∧
        (∃ event ∈ trace, DevEvent.isInit event = true ∧ event.reply = .eagain ∧
          event.before.dev.isNone = true ∧ event.after.dev.isSome = true) ∧
        (∃ event ∈ trace, DevEvent.isInit event = true ∧ event.reply = .ok ∧
          event.after.dev.all (fun dev => dev.ml.isNone) = true) ∧
        successfulInits trace = 1 ∧ deinits trace = 0 ∧ references s = 2 ∧
        ¬ DevCounted trace s) ∧
    (∃ trace s,
      DevRun idealEnv (fun _ => none) 16384 noDev trace s ∧ successfulInits trace = 1 ∧
        deinits trace = 0 ∧ references s = 1 ∧
        devStep idealEnv (fun _ => none) 16384 s .deinit = .error .endlessJoin) := by
  constructor
  · obtain ⟨trace, s, run, failed, incomplete, inits, gone, two⟩ := devRun_of_check idealEnv
      (fun _ => none) 16384 noDev
      [.init { accepted with agingTimeoutSet := .fail }, .init accepted]
      (fun trace s => (∃ event ∈ trace, DevEvent.isInit event = true ∧ event.reply = .eagain ∧
          event.before.dev.isNone = true ∧ event.after.dev.isSome = true) ∧
        (∃ event ∈ trace, DevEvent.isInit event = true ∧ event.reply = .ok ∧
          event.after.dev.all (fun dev => dev.ml.isNone) = true) ∧
        successfulInits trace = 1 ∧ deinits trace = 0 ∧ references s = 2)
      (by decide +kernel)
    refine ⟨trace, s, run, failed, incomplete, inits, gone, two, ?_⟩
    intro sound
    have counted := sound.counted
    omega
  · obtain ⟨trace, s, run, inits, gone, one, stuck⟩ := devRun_of_check idealEnv
      (fun _ => none) 16384 noDev [.init accepted]
      (fun trace s => successfulInits trace = 1 ∧ deinits trace = 0 ∧ references s = 1 ∧
        faultOf s .deinit = some .endlessJoin)
      (by decide +kernel)
    exact ⟨trace, s, run, inits, gone, one, faultOf_some stuck⟩

end FpaPlugin
