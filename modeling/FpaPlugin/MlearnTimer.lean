import FpaPlugin.Ofproto
import FpaPlugin.MlearnMirror

/-! `ops_fpa_ofproto_run` and the timer of the event tables: how long an event waits before its
table is handed to the plugin, whatever else happens in between. -/

namespace FpaPlugin

/-- `OPS_FPA_ML_TIMER_TIMEOUT`, in seconds. -/
def opsFpaMlTimerTimeout : Nat := 30

def mlearnTimeout : Nat := opsFpaMlTimerTimeout * 1000

/-- `now` is `time_msec ()`, and `mlearnTimer` the time from which the timer has expired. -/
structure TimedMl where
  ml : MacLearning
  mlearnTimer : Nat
  now : Nat

inductive TimedCall
  | tick (elapsed : Nat)
  | ofprotoRun (type : OfprotoType) (name : CString)
  | mlCall (input : MlInput)

abbrev TimedEvent := Runs.Event TimedMl TimedCall Unit

section Step

variable (env : Env) (defaultBridge : CString)

def createTimed (maxEntries : Nat) (pluginInterface : Bool) (now : Nat) : TimedMl :=
  ⟨opsFpaMacLearningCreate env maxEntries pluginInterface, now + mlearnTimeout, now⟩

/-- The whole of `ops_fpa_mac_learning_on_mlearn_timer_expired`. -/
def onMlearnTimerExpired (s : TimedMl) : TimedMl :=
  { s with
    ml := opsFpaMacLearningOnMlearnTimerExpired env s.ml
    mlearnTimer := s.now + mlearnTimeout }

def opsFpaOfprotoRun (s : TimedMl) (type : OfprotoType) (name : CString) : TimedMl :=
  if type = .system ∧ name = defaultBridge then
    if s.mlearnTimer ≤ s.now then onMlearnTimerExpired env s else s
  else s

def timedStep (s : TimedMl) : TimedCall → Except Fault (Unit × TimedMl)
  | .tick elapsed => .ok ((), { s with now := s.now + elapsed })
  | .ofprotoRun type name => .ok ((), opsFpaOfprotoRun env defaultBridge s type name)
  | .mlCall input =>
      match input.call with
      | .timerExpired => .ok ((), onMlearnTimerExpired env s)
      | call =>
          match mlStep env input.portName s.ml call with
          | .error fault => .error fault
          | .ok (_, ml) => .ok ((), { s with ml })

abbrev TimedRun (start : TimedMl) : List TimedEvent → TimedMl → Prop :=
  Runs.Run (timedStep env defaultBridge) start

def stampedEvents : List TimedEvent → List (Nat × FdbEvent)
  | [] => []
  | event :: earlier =>
      match event.input with
      | .mlCall input =>
          (fdbEvents env input.portName event.before.ml input.call).reverse.map
            (fun learned => (event.before.now, learned)) ++ stampedEvents earlier
      | _ => stampedEvents earlier

def waiting (trace : List TimedEvent) (s : TimedMl) : List (Nat × FdbEvent) :=
  (stampedEvents env trace).take (recordedSince s.ml.history)

/-- When `ops_fpa_ofproto_run` last ran for the default bridge. -/
def lastRunAt (created : Nat) : List TimedEvent → Nat
  | [] => created
  | event :: earlier =>
      match event.input with
      | .ofprotoRun type name =>
          if type = .system ∧ name = defaultBridge then event.before.now
          else lastRunAt created earlier
      | _ => lastRunAt created earlier

def TimedCall.isOperation : TimedCall → Bool
  | .mlCall input => input.call.isOperation
  | _ => true

/-- Every node of the table in use is of an event that waits, and none waits for long. -/
structure WaitsAtMost (bound : Nat) (trace : List TimedEvent) (s : TimedMl) : Prop where
  each : ∀ stamped ∈ waiting env trace s, s.now ≤ stamped.1 + bound
  nodes : ∀ node ∈ s.ml.inUse.contents, ∃ stamped ∈ waiting env trace s, IsNodeOf node stamped.2

end Step

section Invariant

variable {env : Env} {defaultBridge : CString} {created : Nat} {trace : List TimedEvent}
  {s next : TimedMl}

structure TimedInvariant (env : Env) (defaultBridge : CString) (created : Nat)
    (trace : List TimedEvent) (s : TimedMl) : Prop where
  recorded : Recorded env s.ml ((waiting env trace s).map Prod.snd)
  fdb : s.ml.table.Hashed (hashFdbKey env) fdbKey
  timer : s.mlearnTimer ≤ s.now + mlearnTimeout
  ran : lastRunAt defaultBridge created trace ≤ s.now
  deadline : ∀ stamped ∈ waiting env trace s, s.mlearnTimer ≤ stamped.1 + mlearnTimeout
  missed : ∀ stamped ∈ waiting env trace s, lastRunAt defaultBridge created trace ≤ stamped.1 ∨
    lastRunAt defaultBridge created trace < s.mlearnTimer

theorem TimedInvariant.waitsAtMost (invariant : TimedInvariant env defaultBridge created trace s)
    {period : Nat} (often : s.now ≤ lastRunAt defaultBridge created trace + period) :
    WaitsAtMost env (mlearnTimeout + period) trace s where
  each := by
    intro stamped member
    have deadline := invariant.deadline stamped member
    rcases invariant.missed stamped member with before | missed
    · omega
    · omega
  nodes := by
    intro node member
    rw [contents_eq] at member
    obtain ⟨record, isRecord, rfl⟩ := List.mem_map.mp member
    obtain ⟨event, found, isNode⟩ := invariant.recorded.last record isRecord
    obtain ⟨stamped, isStamped, rfl⟩ := List.mem_map.mp (List.mem_of_find?_eq_some found)
    exact ⟨stamped, isStamped, isNode⟩

theorem Recorded.timerExpired {ml : MacLearning} {events : List FdbEvent}
    (recorded : Recorded env ml (events.take (recordedSince ml.history))) :
    events.take (recordedSince (opsFpaMacLearningOnMlearnTimerExpired env ml).history) = [] := by
  rw [opsFpaMacLearningOnMlearnTimerExpired, processMlearn_eq]
  split
  · exact List.take_zero
  · rename_i idle
    have empty : ml.inUse.table.count = 0 := by
      by_contra holds
      exact idle ⟨recorded.attached, holds⟩
    rw [Hmap.count, List.length_eq_zero_iff] at empty
    refine List.eq_nil_iff_forall_not_mem.mpr fun event member => ?_
    have covered := recorded.covers event member
    rw [recordsIn, empty] at covered
    cases covered

theorem mlStep_recorded_le {portName : Nat → Option PortName} {ml ml' : MacLearning} {call : MlCall}
    {reply : Option Bool} (fdb : ml.table.Hashed (hashFdbKey env) fdbKey)
    (operation : call.isOperation = true)
    (taken : mlStep env portName ml call = .ok (reply, ml')) :
    recordedSince ml'.history ≤
      recordedSince ml.history + (fdbEvents env portName ml call).length := by
  cases call with
  | actionAdd => cases operation
  | asicEvent msg =>
      simp only [mlStep] at taken
      split at taken
      · cases taken
      · rename_i handled
        cases taken
        exact (asicEvent_notes handled).1.recorded_le
  | flush =>
      simp only [mlStep] at taken
      split at taken
      · cases taken
      · rename_i flushed
        cases taken
        have noted := (expireAll_notes fdb flushed).recorded_le
        simpa [fdbEvents, Hmap.values] using noted
  | timerExpired =>
      have isAfter : opsFpaMacLearningProcessMlearn env ml = ml' :=
        congrArg Prod.snd (Except.ok.inj taken)
      rw [← isAfter, processMlearn_eq]
      split
      · exact Nat.zero_le _
      · exact Nat.le_add_right _ _
  | hmapGet =>
      cases taken
      exact Nat.le_refl _

theorem map_waiting (env : Env) (trace : List TimedEvent) (s : TimedMl) :
    (waiting env trace s).map Prod.snd =
      ((stampedEvents env trace).map Prod.snd).take (recordedSince s.ml.history) :=
  List.map_take

theorem TimedInvariant.kept (invariant : TimedInvariant env defaultBridge created trace s)
    {event : TimedEvent} (same : next.ml = s.ml)
    (stamped : stampedEvents env (event :: trace) = stampedEvents env trace)
    (sameTimer : next.mlearnTimer = s.mlearnTimer) (later : s.now ≤ next.now)
    (ran : lastRunAt defaultBridge created (event :: trace) = lastRunAt defaultBridge created trace ∨
      lastRunAt defaultBridge created (event :: trace) ≤ next.now ∧
        lastRunAt defaultBridge created (event :: trace) < s.mlearnTimer) :
    TimedInvariant env defaultBridge created (event :: trace) next := by
  have sameWaiting : waiting env (event :: trace) next = waiting env trace s := by
    rw [waiting, stamped, same]
    rfl
  have timer := invariant.timer
  have ranBefore := invariant.ran
  constructor
  · rw [sameWaiting, same]
    exact invariant.recorded
  · rw [same]
    exact invariant.fdb
  · omega
  · omega
  · rw [sameWaiting, sameTimer]
    exact invariant.deadline
  · intro waits member
    rw [sameWaiting] at member
    rw [sameTimer]
    rcases ran with sameRun | ⟨_, missed⟩
    · rw [sameRun]
      exact invariant.missed waits member
    · exact .inr missed

theorem TimedInvariant.expired (invariant : TimedInvariant env defaultBridge created trace s)
    (positive : 0 < env.bufferSize) {event : TimedEvent}
    (stamped : stampedEvents env (event :: trace) = stampedEvents env trace)
    (ran : lastRunAt defaultBridge created (event :: trace) ≤ s.now) :
    TimedInvariant env defaultBridge created (event :: trace) (onMlearnTimerExpired env s) := by
  have recorded := invariant.recorded
  rw [map_waiting] at recorded
  have none : waiting env (event :: trace) (onMlearnTimerExpired env s) = [] := by
    have nothing := recorded.timerExpired
    rw [← List.map_eq_nil_iff (f := Prod.snd), map_waiting, stamped]
    exact nothing
  constructor
  · rw [map_waiting, stamped]
    exact recorded.swap positive
  · have kept : (onMlearnTimerExpired env s).ml.table = s.ml.table := processMlearn_table s.ml
    rw [kept]
    exact invariant.fdb
  · exact Nat.le_refl _
  · exact ran
  · rw [none]
    intro waits member
    cases member
  · rw [none]
    intro waits member
    cases member

theorem TimedInvariant.call (invariant : TimedInvariant env defaultBridge created trace s)
    (positive : 0 < env.bufferSize) {input : MlInput} {reply : Option Bool} {ml : MacLearning}
    (operation : input.call.isOperation = true)
    (taken : mlStep env input.portName s.ml input.call = .ok (reply, ml)) :
    TimedInvariant env defaultBridge created
      (⟨s, .mlCall input, (), { s with ml }⟩ :: trace) { s with ml } := by
  have recorded := invariant.recorded
  rw [map_waiting] at recorded
  have stamped : stampedEvents env (⟨s, .mlCall input, (), { s with ml }⟩ :: trace) =
      (fdbEvents env input.portName s.ml input.call).reverse.map (fun learned => (s.now, learned)) ++
        stampedEvents env trace := rfl
  have ran := invariant.ran
  have timer := invariant.timer
  -- what waits is new, or has waited before the step
  have waits : ∀ stamp ∈ waiting env (⟨s, .mlCall input, (), { s with ml }⟩ :: trace) { s with ml },
      stamp.1 = s.now ∨ stamp ∈ waiting env trace s := by
    intro stamp member
    have atMost := mlStep_recorded_le invariant.fdb operation taken
    have near := List.take_subset_take_left _ atMost member
    rw [stamped, Nat.add_comm, List.take_append, List.mem_append] at near
    rcases near with new | old
    · obtain ⟨learned, _, rfl⟩ := List.mem_map.mp (List.mem_of_mem_take new)
      exact .inl rfl
    · simp only [List.length_map, List.length_reverse, Nat.add_sub_cancel_left] at old
      exact .inr old
  constructor
  · rw [map_waiting, stamped, List.map_append, List.map_map]
    have after := mlStep_recorded recorded positive invariant.fdb operation taken
    simpa [Function.comp_def] using after
  · exact mlStep_hashed invariant.fdb taken
  · exact timer
  · exact ran
  · intro stamp member
    rcases waits stamp member with new | old
    · rw [new]
      exact timer
    · exact invariant.deadline stamp old
  · intro stamp member
    rcases waits stamp member with new | old
    · rw [new]
      exact .inl ran
    · exact invariant.missed stamp old

theorem TimedInvariant.step (invariant : TimedInvariant env defaultBridge created trace s)
    (positive : 0 < env.bufferSize) {input : TimedCall} {reply : Unit}
    (taken : timedStep env defaultBridge s input = .ok (reply, next))
    (operation : input.isOperation = true) :
    TimedInvariant env defaultBridge created (⟨s, input, reply, next⟩ :: trace) next := by
  cases input with
  | tick elapsed =>
      cases taken
      exact invariant.kept rfl rfl rfl (Nat.le_add_right _ _) (.inl rfl)
  | ofprotoRun type name =>
      have isNext : opsFpaOfprotoRun env defaultBridge s type name = next :=
        congrArg Prod.snd (Except.ok.inj taken)
      subst isNext
      rw [opsFpaOfprotoRun]
      by_cases isDefault : type = .system ∧ name = defaultBridge
      · have ran : lastRunAt defaultBridge created (⟨s, .ofprotoRun type name, reply,
            opsFpaOfprotoRun env defaultBridge s type name⟩ :: trace) = s.now := if_pos isDefault
        rw [if_pos isDefault]
        rw [opsFpaOfprotoRun, if_pos isDefault] at ran
        by_cases due : s.mlearnTimer ≤ s.now
        · rw [if_pos due]
          rw [if_pos due] at ran
          exact invariant.expired positive rfl (Nat.le_of_eq ran)
        · rw [if_neg due]
          rw [if_neg due] at ran
          refine invariant.kept rfl rfl rfl (Nat.le_refl _) (.inr ⟨Nat.le_of_eq ran, ?_⟩)
          rw [ran]
          exact Nat.lt_of_not_le due
      · rw [if_neg isDefault]
        exact invariant.kept rfl rfl rfl (Nat.le_refl _) (.inl (if_neg isDefault))
  | mlCall input =>
      simp only [timedStep] at taken
      split at taken
      · rename_i isTimer
        have isNext : onMlearnTimerExpired env s = next := congrArg Prod.snd (Except.ok.inj taken)
        subst isNext
        refine invariant.expired positive ?_ invariant.ran
        simp [stampedEvents, isTimer, fdbEvents]
      · split at taken
        · cases taken
        · rename_i called
          cases taken
          exact invariant.call positive operation called

theorem create_timedInvariant (env : Env) (positive : 0 < env.bufferSize) (defaultBridge : CString)
    (maxEntries created : Nat) :
    TimedInvariant env defaultBridge created [] (createTimed env maxEntries true created) where
  recorded := (create_pluginInvariant env positive maxEntries).recorded
  fdb := (create_pluginInvariant env positive maxEntries).fdb
  timer := Nat.le_refl _
  ran := Nat.le_refl _
  deadline := by
    intro stamped member
    cases member
  missed := by
    intro stamped member
    cases member

/-- Where `ops_fpa_ofproto_run` runs for the default bridge at least once in `period`
milliseconds, every event reaches the plugin's table within the timeout and one period. -/
theorem events_wait_bounded (env : Env) (positive : 0 < env.bufferSize) (defaultBridge : CString)
    (maxEntries created period : Nat) (trace : List TimedEvent) (s : TimedMl)
    (run : TimedRun env defaultBridge (createTimed env maxEntries true created) trace s)
    (operations : Runs.Along (fun _ event => event.input.isOperation) trace)
    (often : s.now ≤ lastRunAt defaultBridge created trace + period) :
    WaitsAtMost env (mlearnTimeout + period) trace s := by
  have invariant : TimedInvariant env defaultBridge created trace s := by
    refine Runs.Run.invariant (create_timedInvariant env positive defaultBridge maxEntries created)
      ?_ run operations
    intro earlier before input reply after invariant taken operation
    exact invariant.step positive taken operation
  exact invariant.waitsAtMost often

end Invariant

section Bridge

theorem timedRun_of_check (env : Env) (defaultBridge : CString) (start : TimedMl)
    (calls : List TimedCall) (check : List TimedEvent → TimedMl → Prop)
    [∀ trace s, Decidable (check trace s)]
    (passed : (Runs.replay (timedStep env defaultBridge) [] start calls).any
      (fun result => check result.1 result.2) = true) :
    ∃ trace s, TimedRun env defaultBridge start trace s ∧ check trace s :=
  Runs.Run.of_check calls check passed

theorem event_waits_whole_bound :
    ∃ trace s, TimedRun idealEnv "br0".toList (createTimed idealEnv 16384 true 0) trace s ∧
      (waiting idealEnv trace s).map Prod.fst = [30000] ∧ s.now = 60500 ∧
      WaitsAtMost idealEnv (mlearnTimeout + 600) trace s := by
  obtain ⟨trace, s, run, waits, now, operations, often⟩ := timedRun_of_check idealEnv "br0".toList
    (createTimed idealEnv 16384 true 0)
    [.tick 30000, .ofprotoRun .system "br0".toList, .mlCall (learnedAt 10 5#48 1), .tick 29900,
      .ofprotoRun .system "br0".toList, .tick 90, .ofprotoRun .vrf "vrf".toList, .tick 510]
    (fun trace s => (waiting idealEnv trace s).map Prod.fst = [30000] ∧ s.now = 60500 ∧
      Runs.Along (fun _ event => event.input.isOperation = true) trace ∧
      s.now ≤ lastRunAt "br0".toList 0 trace + 600) (by decide +kernel)
  exact ⟨trace, s, run, waits, now,
    events_wait_bounded idealEnv (by decide) "br0".toList 16384 0 600 trace s run operations often⟩

end Bridge

end FpaPlugin
