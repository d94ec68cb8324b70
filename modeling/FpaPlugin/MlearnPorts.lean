import FpaPlugin.PortLookup
import FpaPlugin.FdbMap

/-! The assertion that an FDB entry still resolves to a port when it is aged or flushed. An
entry is accepted when the bucket of its port number is not empty; that bucket may hold
another port, and may be empty once the map has grown. -/

namespace FpaPlugin

variable {env : Env}

/-- A port is linked once, and an address is learned on a port that is linked. -/
def learnsOnLinkedPort (env : Env) (earlier : Trace) (event : Event) : Bool :=
  match event.input with
  | .addressMsg msg =>
      msg.type ≠ .updateNew || (opsFpaGetOfportByPid event.before msg.portNum).isNone ||
        (registered env earlier).any fun port => port.2 = msg.portNum
  | .bundleSet _ _ (some _) =>
      (registration env event).all fun port => port.1 ∉ (registered env earlier).map Prod.fst
  | _ => true

def AssertionHolds (env : Env) (s : Sys) : Prop :=
  (∀ msg, step env s (.addressMsg msg) ≠ .error .failedAssertion) ∧
    step env s .fdbFlush ≠ .error .failedAssertion

section Frame

variable {s next : Sys} {up : OfprotoRef} {aux : Aux} {rc : Rc}

theorem bundleSet_ml {set : Option BundleSettings}
    (taken : opsFpaOfprotoBundleSet env s up aux set = .ok (rc, next)) : next.ml = s.ml := by
  rcases bundleSet_cases taken with ⟨_, removed⟩ | ⟨_, _, _, _, rfl⟩ |
    ⟨settings, slave, ensured, bundle, _, _, created, found, configured⟩
  · exact (rmBundle_frame removed).2.2.2.2
  · rfl
  · exact (bundleSet_frame found configured).2.trans (ensureBundle_frame created).2.2.2.2

/-- The FDB changes by address messages and flushes alone. -/
theorem step_ml {call : Call} (taken : step env s call = .ok (rc, next)) :
    next.ml = s.ml ∨
    (∃ msg, call = .addressMsg msg ∧ macLearningAsicEvent env (portNameByPid s) s.ml msg = .ok next.ml) ∨
    (call = .fdbFlush ∧ opsFpaMacLearningFlush env (portNameByPid s) s.ml = .ok next.ml) := by
  cases call with
  | bundleSet up aux set => exact .inl (bundleSet_ml taken)
  | setVlan up vid add =>
      obtain ⟨_, done, _, rfl⟩ := setVlan_cases taken
      exact .inl (setVlanOnPorts_frame _ _ done).2.2.2.2
  | addL3Host up aux isIpv6Addr ipAddr nextHopMacAddr =>
      obtain ⟨_, added⟩ := step_addL3Host taken
      exact .inl (addL3HostEntry_frame added).2.2
  | deleteL3Host up aux isIpv6Addr ipAddr => exact .inl (deleteL3HostEntry_frame taken).2.2
  | routeAction action route =>
      simp only [step, Except.ok.injEq] at taken
      obtain ⟨fpa, rfl⟩ := l3RouteAction_frame taken
      exact .inl rfl
  | portConstruct up ofpPort ref netdev mtu =>
      cases taken
      exact .inl rfl
  | portDestruct up ofpPort =>
      cases taken
      simp only [opsFpaOfprotoPortDestruct]
      split
      · exact .inl rfl
      · exact .inl rfl
  | addressMsg msg =>
      obtain ⟨_, handled, rfl, rfl⟩ := step_addressMsg taken
      exact .inr (.inl ⟨msg, rfl, handled⟩)
  | fdbFlush =>
      obtain ⟨_, flushed, rfl, rfl⟩ := step_fdbFlush taken
      exact .inr (.inr ⟨rfl, flushed⟩)

end Frame

section Faults

variable {portName : Nat → Option PortName} {ml : MacLearning}

theorem actionAdd_fault {entry : AddressMsg} {hash : Nat} {event : MacEvent}
    (failed : opsFpaMacLearningMlearnActionAdd env portName ml entry hash event =
      .error .failedAssertion) :
    portName entry.portNum = none := by
  simp only [opsFpaMacLearningMlearnActionAdd] at failed
  split at failed
  · rename_i unfilled
    split at unfilled
    · cases unfilled
    · cases filled : portName entry.portNum with
      | none => rfl
      | some name =>
          simp only [mlearnEntryFillData, filled] at unfilled
          cases name with
          | named => cases unfilled
          | freed =>
              cases unfilled
              cases failed
  · split at failed
    · cases failed
    · cases failed

theorem expireAll_fault {rest : List (Nat × AddressMsg)}
    (failed : expireAll env portName rest ml = .error .failedAssertion) :
    ∃ node ∈ rest, portName node.2.portNum = none := by
  induction rest generalizing ml with
  | nil => cases failed
  | cons node rest ih =>
      simp only [expireAll] at failed
      split at failed
      · rename_i expired
        cases failed
        exact ⟨node, List.mem_cons_self, actionAdd_fault expired⟩
      · obtain ⟨later, member, unknown⟩ := ih failed
        exact ⟨later, List.mem_cons_of_mem _ member, unknown⟩

/-- Only for an entry of the FDB whose port number is in an empty bucket the assertion fails. -/
theorem asicEvent_fault {msg : AddressMsg}
    (failed : macLearningAsicEvent env portName ml msg = .error .failedAssertion) :
    ∃ entry ∈ ml.table.values, portName entry.portNum = none := by
  simp only [macLearningAsicEvent] at failed
  cases type : msg.type with
  | other =>
      rw [type] at failed
      cases failed
  | updateNew =>
      simp only [type, opsFpaMacLearningLearn] at failed
      cases port : portName msg.portNum with
      | none =>
          simp only [port] at failed
          cases failed
      | some name =>
          simp only [port, opsFpaMacLearningInsert] at failed
          by_cases full : ml.maxEntries ≤ ml.table.count
          · simp only [full, if_true] at failed
            cases failed
          · simp only [full, if_false] at failed
            generalize outcome : opsFpaMacLearningMlearnActionAdd env portName _ msg
              (fpaHashFdbEntry env msg) .mlearnAdd = result at failed
            cases result with
            | error fault =>
                cases failed
                rw [actionAdd_fault outcome] at port
                cases port
            | ok noted => cases failed
  | updateAged =>
      simp only [type, opsFpaMacLearningAgeByEntry] at failed
      cases found : opsFpaMacLearningLookup env ml msg with
      | none =>
          rw [found] at failed
          cases failed
      | some entry =>
          simp only [found] at failed
          have member := Hmap.mem_withHash.mp (List.mem_of_find?_eq_some found)
          exact ⟨entry, Hmap.mem_values.mpr ⟨_, member⟩, actionAdd_fault failed⟩

end Faults

section Invariant

variable {s state : Sys} {trace : Trace}

def FdbOnLinkedPorts (env : Env) (trace : Trace) (s : Sys) : Prop :=
  ∀ entry ∈ s.ml.table.values, ∃ port ∈ registered env trace, port.2 = entry.portNum

theorem registered_mono {event : Event} {port : OfportRef × Int}
    (member : port ∈ registered env trace) : port ∈ registered env (event :: trace) :=
  List.mem_append_right _ member

theorem step_fdbOnLinkedPorts {call : Call} {rc : Rc} {next : Sys}
    (linked : FdbOnLinkedPorts env trace s) (taken : step env s call = .ok (rc, next))
    (learns : learnsOnLinkedPort env trace ⟨s, call, rc, next⟩ = true) :
    FdbOnLinkedPorts env (⟨s, call, rc, next⟩ :: trace) next := by
  have kept : ∀ entry ∈ s.ml.table.values,
      ∃ port ∈ registered env (⟨s, call, rc, next⟩ :: trace), port.2 = entry.portNum := by
    intro entry member
    obtain ⟨port, isPort, isPid⟩ := linked entry member
    exact ⟨port, registered_mono isPort, isPid⟩
  intro entry member
  rcases step_ml taken with same | ⟨msg, rfl, handled⟩ | ⟨rfl, flushed⟩
  · rw [same] at member
    exact kept entry member
  · cases asicEvent_fdbStep handled with
    | refused _ _ same | unknown _ _ same | kept _ _ same =>
        rw [same] at member
        exact kept entry member
    | aged _ _ removed =>
        rw [removed] at member
        obtain ⟨hash, inNodes⟩ := Hmap.mem_values.mp member
        exact kept entry (Hmap.mem_values.mpr ⟨hash, Hmap.mem_nodes_remove inNodes⟩)
    | learned isNew inserted =>
        by_cases unlinked : opsFpaGetOfportByPid s msg.portNum = none
        · have same : next.ml = s.ml := by
            simp only [macLearningAsicEvent, isNew, opsFpaMacLearningLearn, portNameByPid, unlinked,
              Option.map_none, Except.ok.injEq] at handled
            exact handled.symm
          rw [same] at member
          exact kept entry member
        · rw [inserted] at member
          rcases List.mem_cons.mp ((Hmap.values_insert_perm _ _ _ _).mem_iff.mp member) with rfl | old
          · have isLinked : (registered env trace).any (fun port => port.2 = entry.portNum) = true := by
              simpa [learnsOnLinkedPort, isNew, unlinked] using learns
            obtain ⟨port, isPort, isPid⟩ := List.any_eq_true.mp isLinked
            exact ⟨port, registered_mono isPort, of_decide_eq_true isPid⟩
          · exact kept entry old
  · have empty := expireAll_nodes flushed (List.Perm.refl _)
    rw [Hmap.values, empty] at member
    cases member

theorem registered_once {event : Event} (once : ((registered env trace).map Prod.fst).Nodup)
    (learns : learnsOnLinkedPort env trace event = true) :
    ((registered env (event :: trace)).map Prod.fst).Nodup := by
  rw [registered]
  cases isNew : registration env event with
  | none => exact once
  | some port =>
      have fresh : port.1 ∉ (registered env trace).map Prod.fst := by
        obtain ⟨before, input, reply, after⟩ := event
        cases input with
        | bundleSet up aux set =>
            cases set with
            | none => cases isNew
            | some settings =>
                simp only [learnsOnLinkedPort, isNew, Option.all_some, decide_eq_true_eq] at learns
                exact learns
        | setVlan | addL3Host | deleteL3Host | routeAction | portConstruct | portDestruct |
            addressMsg | fdbFlush => cases isNew
      exact List.nodup_cons.mpr ⟨fresh, once⟩

theorem assertionHolds_of_linked {view : Hmap OfportRef}
    (holds : Registers env state (registered env trace) view)
    (linked : FdbOnLinkedPorts env trace state) : AssertionHolds env state := by
  have resolves : ∀ entry ∈ state.ml.table.values, portNameByPid state entry.portNum ≠ none := by
    intro entry member unresolved
    obtain ⟨port, isPort, isPid⟩ := linked entry member
    have found : opsFpaGetOfportByPid state port.2 ≠ none := holds.lookup_unregistered isPort rfl
    rw [portNameByPid, Option.map_eq_none_iff, ← isPid] at unresolved
    exact found unresolved
  constructor
  · intro msg failed
    simp only [step] at failed
    split at failed
    · rename_i faulted
      cases failed
      obtain ⟨entry, member, unresolved⟩ := asicEvent_fault faulted
      exact resolves entry member unresolved
    · cases failed
  · intro failed
    simp only [step] at failed
    split at failed
    · rename_i faulted
      cases failed
      obtain ⟨node, member, unresolved⟩ := expireAll_fault faulted
      exact resolves node.2 (List.mem_map_of_mem member) unresolved
    · cases failed

end Invariant

/-- In every run in which a port is linked once and addresses are learned on linked ports, each
entry of the FDB still resolves to a port when it is aged or flushed. -/
theorem entries_resolve_on_linked_ports (env : Env) {start : Sys} (initial : Initial start)
    (emptyFdb : start.ml.table.nodes = []) {trace : Trace} {state : Sys}
    (run : Run env start trace state)
    (learns : Runs.Along (fun earlier event => learnsOnLinkedPort env earlier event) trace) :
    AssertionHolds env state := by
  obtain ⟨linked, once⟩ : FdbOnLinkedPorts env trace state ∧
      ((registered env trace).map Prod.fst).Nodup := by
    refine @Runs.Run.invariant _ _ _ _ _ _ _ (fun trace state => FdbOnLinkedPorts env trace state ∧
      ((registered env trace).map Prod.fst).Nodup) ⟨?_, List.nodup_nil⟩ ?_ _ _ run learns
    · intro entry member
      rw [Hmap.values, emptyFdb] at member
      cases member
    · rintro trace state call rc next ⟨linked, once⟩ taken learns
      exact ⟨step_fdbOnLinkedPorts linked taken learns, registered_once once learns⟩
  obtain ⟨view, holds⟩ := run_registers initial run once
  exact assertionHolds_of_linked holds linked

def linkedPort (ofpPort : Nat) (pid : Int) : List Call :=
  [.portConstruct 1 ofpPort (ofpPort * 10) (systemNetdev pid) 1500,
    .bundleSet 1 (100 + ofpPort) (some { idleSettings with slaves := [ofpPort] })]

theorem entries_resolve_two_ports : ∃ trace state, Run idealEnv idealSys trace state ∧
    state.ml.table.count = 1 ∧ AssertionHolds idealEnv state := by
  obtain ⟨trace, state, run, count, learns⟩ := run_of_check idealEnv idealSys
    (linkedPort 1 1 ++ linkedPort 2 2 ++ [.addressMsg ⟨.updateNew, 2, 10, 5#48⟩])
    (fun trace state => state.ml.table.count = 1 ∧
      Runs.Along (fun earlier event => learnsOnLinkedPort idealEnv earlier event = true) trace)
    (by decide +kernel)
  exact ⟨trace, state, run, count,
    entries_resolve_on_linked_ports idealEnv idealSys_initial (Hmap.nodes_empty 0) run learns⟩

/-- A station is learned on port 6, which is not linked, because port 1 is in its bucket. The
bucket is empty once port 3 has been linked, and the flush aborts. -/
theorem unlinked_entry_fails_assertion : ∃ trace state, Run idealEnv idealSys trace state ∧
    state.ml.table.count = 1 ∧ step idealEnv state .fdbFlush = .error .failedAssertion ∧
    ¬ AssertionHolds idealEnv state := by
  obtain ⟨trace, state, run, count, fails⟩ := run_of_check idealEnv idealSys
    (linkedPort 1 1 ++ [.addressMsg ⟨.updateNew, 6, 10, 5#48⟩] ++ linkedPort 2 3)
    (fun _ state => state.ml.table.count = 1 ∧
      (step idealEnv state .fdbFlush).map (fun _ => ()) = .error .failedAssertion)
    (by decide +kernel)
  have aborts : step idealEnv state .fdbFlush = .error .failedAssertion := by
    cases taken : step idealEnv state .fdbFlush with
    | error fault =>
        rw [taken] at fails
        cases fails
        rfl
    | ok result =>
        rw [taken] at fails
        cases fails
  exact ⟨trace, state, run, count, aborts, fun holds => holds.2 aborts⟩

end FpaPlugin
