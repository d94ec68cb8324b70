import FpaPlugin.Lib.ChangeLog
import FpaPlugin.MlearnRecords

/-! The copy of the FDB that the plugin builds from the event tables it is handed. Taking in the
two tables brings it to what all the events of the run say, and to the FDB itself. -/

namespace FpaPlugin

open ChangeLog

def nodeChange (node : MlearnHmapNode) : FdbKey × Option Nat :=
  (nodeKey node, match node.oper with
    | .mlearnAdd => some node.port
    | .mlearnDel => none)

def eventChange (event : FdbEvent) : FdbKey × Option Nat :=
  (fdbKey event.1, match event.2 with
    | .mlearnAdd => some event.1.portNum
    | .mlearnDel => none)

def tableChanges (mhmap : MlearnHmap) : List (FdbKey × Option Nat) :=
  mhmap.contents.map nodeChange

def MacLearning.offered (ml : MacLearning) : MlearnHmap :=
  ml.mlearnEventTables !ml.currMlearnTableInUse

/-- The plugin takes in each table when it is handed over. -/
def pluginMap : List MlEvent → FdbKey → Option Nat
  | [] => fun _ => none
  | event :: earlier =>
      match event.input.call, event.reply with
      | .hmapGet, some table =>
          replay (tableChanges (event.before.mlearnEventTables table)) (pluginMap earlier)
      | _, _ => pluginMap earlier

/-- The plugin's map once it has taken in the table offered and the one in use. -/
def caughtUp (trace : List MlEvent) (ml : MacLearning) : FdbKey → Option Nat :=
  replay (tableChanges ml.inUse) (replay (tableChanges ml.offered) (pluginMap trace))

def eventMap (env : Env) (trace : List MlEvent) : FdbKey → Option Nat :=
  replay ((eventsAlong env trace).map eventChange) fun _ => none

/-- No two addresses share a hash that the step touches, or that were touched since the tables
last changed roles. -/
def touchesApart (env : Env) (earlier : List MlEvent) (event : MlEvent) : Prop :=
  ToldApart env ((fdbEvents env event.input.portName event.before event.input.call).reverse ++
    touched env earlier event.before)

structure PluginFollows (env : Env) (trace : List MlEvent) (ml : MacLearning) : Prop where
  caughtUp : caughtUp trace ml = eventMap env trace
  nothingWaits : ml.inUse.contents = [] → readSince (!ml.currMlearnTableInUse) ml.history = true →
    pluginMap trace = eventMap env trace

section Operations

variable {env : Env} {portName : Nat → Option PortName} {ml ml' : MacLearning}

/-- What a call does to the event tables: one `mlearn_action_add` for each of its events. -/
inductive Notes (env : Env) (portName : Nat → Option PortName) :
    MacLearning → List FdbEvent → MacLearning → Prop
  | nil {ml : MacLearning} : Notes env portName ml [] ml
  | cons {ml mid ml' : MacLearning} {event : FdbEvent} {rest : List FdbEvent} (table : Hmap AddressMsg) :
      opsFpaMacLearningMlearnActionAdd env portName { ml with table } event.1
        (fpaHashFdbEntry env event.1) event.2 = .ok mid →
      Notes env portName mid rest ml' → Notes env portName ml (event :: rest) ml'

def hashedKey (env : Env) (event : FdbEvent) : Nat × FdbKey :=
  (fpaHashFdbEntry env event.1, fdbKey event.1)

theorem expireAll_notes {rest : List (Nat × AddressMsg)}
    (hashed : ∀ node ∈ rest, node.1 = fpaHashFdbEntry env node.2)
    (expired : expireAll env portName rest ml = .ok ml') :
    Notes env portName ml (rest.map fun node => (node.2, .mlearnDel)) ml' := by
  induction rest generalizing ml with
  | nil =>
      cases expired
      exact .nil
  | cons node rest ih =>
      obtain ⟨hash, entry⟩ := node
      have isHash : hash = fpaHashFdbEntry env entry := hashed _ List.mem_cons_self
      simp only [expireAll] at expired
      split at expired
      · cases expired
      · rename_i mid isExpired
        subst isHash
        exact .cons _ isExpired (ih (fun node member => hashed node (List.mem_cons_of_mem _ member))
          expired)

theorem asicEvent_notes {msg : AddressMsg}
    (handled : macLearningAsicEvent env portName ml msg = .ok ml') :
    Notes env portName ml (fdbEvents env portName ml (.asicEvent msg)) ml' ∧
      eventsOf env portName ml (.asicEvent msg) =
        (fdbEvents env portName ml (.asicEvent msg)).map (hashedKey env) := by
  simp only [macLearningAsicEvent] at handled
  simp only [fdbEvents, eventsOf]
  cases type : msg.type with
  | other =>
      rw [type] at handled
      cases handled
      exact ⟨.nil, rfl⟩
  | updateAged =>
      simp only [type, opsFpaMacLearningAgeByEntry] at handled
      cases found : opsFpaMacLearningLookup env ml msg with
      | none =>
          rw [found] at handled
          cases handled
          exact ⟨.nil, rfl⟩
      | some entry =>
          simp only [found] at handled
          have matched := List.find?_some found
          simp only [sameAddress, Bool.and_eq_true, decide_eq_true_eq] at matched
          have isHash : fpaHashFdbEntry env msg = fpaHashFdbEntry env entry := by
            rw [fpaHashFdbEntry, fpaHashFdbEntry, matched.1, matched.2]
          rw [isHash] at handled
          refine ⟨.cons _ handled .nil, ?_⟩
          simp [hashedKey, isHash]
  | updateNew =>
      simp only [type, opsFpaMacLearningLearn] at handled
      cases port : portName msg.portNum with
      | none =>
          simp only [port] at handled
          cases handled
          exact ⟨by simpa using .nil, by simp⟩
      | some name =>
          simp only [port, opsFpaMacLearningInsert] at handled
          by_cases full : ml.maxEntries ≤ ml.table.count
          · simp only [full, if_true] at handled
            cases handled
            have noRoom : ¬ ml.table.count < ml.maxEntries := by omega
            exact ⟨by simpa [noRoom] using .nil, by simp [noRoom]⟩
          · simp only [full, if_false] at handled
            have room : ml.table.count < ml.maxEntries := by omega
            generalize outcome : opsFpaMacLearningMlearnActionAdd env portName _ msg
              (fpaHashFdbEntry env msg) .mlearnAdd = result at handled
            cases result with
            | error fault => cases handled
            | ok noted =>
                cases handled
                have noted : Notes env portName ml [(msg, .mlearnAdd)] ml' := .cons _ outcome .nil
                exact ⟨by simpa [room] using noted, by simp [room, hashedKey]⟩

theorem actionAdd_recordedSince {entry : AddressMsg} {hash : Nat} {event : MacEvent}
    (added : opsFpaMacLearningMlearnActionAdd env portName ml entry hash event = .ok ml') :
    recordedSince ml'.history ≤ recordedSince ml.history + 1 := by
  obtain ⟨noted, rfl, outcome⟩ := actionAdd_cases added
  have since : recordedSince noted.history ≤ recordedSince ml.history + 1 := by
    rcases outcome with ⟨rfl, _⟩ | ⟨node, _, rfl, _⟩
    · exact Nat.le_succ _
    · exact Nat.le_refl _
  rw [processMlearn_eq]
  split
  · split
    · exact Nat.zero_le _
    · exact since
  · exact since

theorem Notes.recorded_le {es : List FdbEvent} (notes : Notes env portName ml es ml') :
    recordedSince ml'.history ≤ recordedSince ml.history + es.length := by
  induction notes with
  | nil => exact Nat.le_refl _
  | @cons ml mid ml' event rest table added _ ih =>
      have first : recordedSince mid.history ≤ recordedSince ml.history + 1 :=
        @actionAdd_recordedSince _ _ { ml with table } _ _ _ _ added
      rw [List.length_cons]
      omega

end Operations

section Mirror

variable {env : Env} {portName : Nat → Option PortName} {ml ml' : MacLearning}
  {b : EventBuffers FdbKey} {events : List FdbEvent} {map : FdbKey → Option Nat}

theorem ToldApart.subset {other : List FdbEvent} (apart : ToldApart env events)
    (inside : other ⊆ events) : ToldApart env other :=
  fun event member next nextMember => apart event (inside member) next (inside nextMember)

theorem key_tableChanges (mhmap : MlearnHmap) :
    (tableChanges mhmap).map Prod.fst = (eventsIn mhmap).map Prod.snd := by
  rw [tableChanges, List.map_map, keys_eventsIn]
  rfl

theorem Recorded.replayed (recorded : Recorded env ml events) (apart : ToldApart env events) :
    replay (tableChanges ml.inUse) = replay (events.map eventChange) := by
  have last := recorded.recordsLast apart
  refine replay_congr fun key => ?_
  rw [tableChanges, List.find?_map, List.find?_map, Option.map_map, Option.map_map]
  change Option.map _ (ml.inUse.contents.find? fun node => nodeKey node = key) =
    Option.map _ (events.find? fun event => fdbKey event.1 = key)
  cases found : events.find? fun event => fdbKey event.1 = key with
  | some event =>
      obtain ⟨node, only, isPort, isOper⟩ := last key event found
      have isNode : ml.inUse.contents.find? (fun node => nodeKey node = key) = some node := by
        rw [← List.head?_filter, only]
        rfl
      rw [isNode, Option.map_some, Option.map_some]
      simp only [Function.comp_apply, nodeChange, eventChange, isPort, isOper]
  | none =>
      have absent : ml.inUse.contents.find? (fun node => nodeKey node = key) = none := by
        rw [List.find?_eq_none]
        intro node member here
        rw [contents_eq] at member
        obtain ⟨record, isRecord, rfl⟩ := List.mem_map.mp member
        obtain ⟨event, latest, isNode⟩ := recorded.last record isRecord
        refine List.find?_eq_none.mp found event (List.mem_of_find?_eq_some latest) ?_
        rw [decide_eq_true_eq] at here ⊢
        exact isNode.key.symm.trans here
      rw [absent]
      rfl

/-- `told` is about the table in use, the others about what the plugin has still to take in. -/
structure PluginMirrors (ml : MacLearning) (events : List FdbEvent) (map : FdbKey → Option Nat) : Prop where
  told : replay (tableChanges ml.inUse) =
    replay ((events.take (recordedSince ml.history)).map eventChange)
  offered : replay (tableChanges ml.offered) map =
    replay ((events.drop (recordedSince ml.history)).map eventChange) fun _ => none
  read : readSince (!ml.currMlearnTableInUse) ml.history = true →
    replay (tableChanges ml.offered) map = map
  replaced : ∀ key, replacedSince (!ml.currMlearnTableInUse) key ml.history = true →
    key ∈ ((events.take (recordedSince ml.history)).map eventChange).map Prod.fst

theorem PluginMirrors.all (mirrors : PluginMirrors ml events map) :
    replay (tableChanges ml.inUse) (replay (tableChanges ml.offered) map) =
      replay (events.map eventChange) fun _ => none := by
  rw [mirrors.told, mirrors.offered, ← replay_append, ← List.map_append, List.take_append_drop]

theorem PluginMirrors.exchange (mirrors : PluginMirrors ml events map) (models : Models env ml b)
    (settled : b.unread = []) : PluginMirrors (rolesExchanged env ml) events map := by
  have cleared : (rolesExchanged env ml).inUse.contents = [] := by
    simp [MacLearning.inUse, rolesExchanged, MlearnHmap.contents, MlearnHmap.clear, Hmap.values]
  have swapped : (rolesExchanged env ml).offered = ml.inUse := by
    simp [MacLearning.offered, MacLearning.inUse, rolesExchanged]
  have since : recordedSince (rolesExchanged env ml).history = 0 := rfl
  constructor
  · rw [tableChanges, cleared, since]
    rfl
  · rw [swapped, since, List.drop_zero, ← mirrors.all]
    by_cases read : readSince (!ml.currMlearnTableInUse) ml.history = true
    · rw [mirrors.read read]
    · refine (replay_covered fun key present => ?_).symm
      -- nothing is unread, so that a key of a table never read was recorded again
      rw [key_tableChanges] at present
      refine mem_of_replay_eq mirrors.told.symm (mirrors.replaced key ?_)
      by_contra unreplaced
      have unread := (models.unread key).mpr ⟨present, by simpa using read, by simpa using unreplaced⟩
      rw [settled] at unread
      cases unread
  · intro read
    simp [rolesExchanged, readSince] at read
  · intro key replaced
    simp [rolesExchanged, replacedSince] at replaced

theorem PluginMirrors.swap (mirrors : PluginMirrors ml events map) (models : Models env ml b)
    (safe : b.safeToSwap = true) :
    PluginMirrors (opsFpaMacLearningProcessMlearn env ml) events map := by
  rw [processMlearn_eq]
  split
  · rename_i swaps
    rw [← models.attached, ne_eq, models.pending_eq_nil_iff] at swaps
    simp only [EventBuffers.safeToSwap, swaps.1, swaps.2, Bool.not_true, Bool.false_or,
      decide_false, decide_eq_true_eq] at safe
    exact mirrors.exchange models safe
  · exact mirrors

theorem PluginMirrors.withTable (mirrors : PluginMirrors ml events map) (table : Hmap AddressMsg) :
    PluginMirrors { ml with table } events map :=
  ⟨mirrors.told, mirrors.offered, mirrors.read, mirrors.replaced⟩

/-- The table in use after one more event, judged as if its buffer were larger: it may be full. -/
theorem Recorded.noted (recorded : Recorded env ml events) {event : FdbEvent}
    {node : MlearnHmapNode} (isNode : IsNodeOf node event)
    (taken : (ml.mlearnEventTables ml.currMlearnTableInUse).table.firstWithHash
        (fpaHashFdbEntry env event.1) ≠ none ∨
      (ml.mlearnEventTables ml.currMlearnTableInUse).actualSize <
        (ml.mlearnEventTables ml.currMlearnTableInUse).size)
    (apart : ToldApart env (event :: events)) :
    replay (tableChanges (eventRecorded env ml (fpaHashFdbEntry env event.1) event.1 node).inUse) =
      replay ((event :: events).map eventChange) := by
  have records := @mem_recordEvent env _ _ node recorded.sound taken
  obtain ⟨sound, _, _⟩ := @recordEvent_records env _ _ node recorded.sound taken
  generalize isTable : recordEvent env ml.inUse (fpaHashFdbEntry env event.1) node = mhmap
    at records sound
  have inUse : (eventRecorded env ml (fpaHashFdbEntry env event.1) event.1 node).inUse = mhmap := by
    rw [← isTable]
    simp [MacLearning.inUse, eventRecorded]
  let larger : MlearnHmap := { mhmap with size := mhmap.actualSize + 1 }
  let enlarged : MacLearning := { ml with mlearnEventTables := fun _ => larger }
  have filled : Recorded env enlarged (event :: events) :=
    @Recorded.fill env ml enlarged events recorded event node isNode larger
      ⟨sound.hashes, sound.slots, sound.below, sound.filled⟩ (Nat.lt_succ_self _) records rfl rfl
  rw [inUse]
  exact filled.replayed apart

theorem PluginMirrors.noted (mirrors : PluginMirrors ml events map) {event : FdbEvent} {node : MlearnHmapNode}
    (told : replay (tableChanges
        (eventRecorded env ml (fpaHashFdbEntry env event.1) event.1 node).inUse) =
      replay ((event :: events.take (recordedSince ml.history)).map eventChange)) :
    PluginMirrors (eventRecorded env ml (fpaHashFdbEntry env event.1) event.1 node) (event :: events)
      map := by
  have since : recordedSince (eventRecorded env ml (fpaHashFdbEntry env event.1) event.1 node).history =
      recordedSince ml.history + 1 := rfl
  have offered : (eventRecorded env ml (fpaHashFdbEntry env event.1) event.1 node).offered =
      ml.offered := by
    simp [MacLearning.offered, eventRecorded]
  constructor
  · rw [told, since, List.take_succ_cons]
  · rw [offered, since, List.drop_succ_cons]
    exact mirrors.offered
  · intro read
    rw [offered]
    exact mirrors.read read
  · intro key replaced
    rw [since, List.take_succ_cons, List.map_cons, List.map_cons, List.mem_cons]
    simp only [eventRecorded, replacedSince, Bool.or_eq_true, decide_eq_true_eq] at replaced
    rcases replaced with here | before
    · exact .inl here.symm
    · exact .inr (mirrors.replaced key before)

theorem PluginMirrors.record (mirrors : PluginMirrors ml events map) (models : Models env ml b)
    (recorded : Recorded env ml (events.take (recordedSince ml.history))) {event : FdbEvent}
    (added : opsFpaMacLearningMlearnActionAdd env portName ml event.1
      (fpaHashFdbEntry env event.1) event.2 = .ok ml')
    (safe : b.safeToNote (fpaHashFdbEntry env event.1) (fdbKey event.1) = true)
    (apart : ToldApart env (event :: events.take (recordedSince ml.history))) :
    PluginMirrors ml' (event :: events) map := by
  have roomBefore := recorded.room
  obtain ⟨noted, rfl, ⟨rfl, _, full⟩ | ⟨node, filled, rfl, taken⟩⟩ := actionAdd_cases added
  · have noRoom : noted.inUse.size ≤ noted.inUse.actualSize := full
    omega
  · obtain ⟨isKey, isPort, isOper⟩ := fillData_node filled
    have after := mirrors.noted (recorded.noted ⟨isKey, isPort, isOper⟩ taken apart)
    have modelsAfter := models.noted isKey taken
    have isFull := modelsAfter.isFull_iff
    split
    · rename_i full
      refine after.swap modelsAfter ?_
      have reached := isFull.mp full
      have sizeEq := modelsAfter.size.trans models.size.symm
      rw [sizeEq] at reached
      simpa [EventBuffers.safeToNote, reached] using safe
    · exact after

theorem Notes.mirrors {es : List FdbEvent} (notes : Notes env portName ml es ml')
    (positive : 0 < env.bufferSize) (mirrors : PluginMirrors ml events map) (models : Models env ml b)
    (recorded : Recorded env ml (events.take (recordedSince ml.history)))
    (safe : b.safeToRecord (es.map (hashedKey env)) = true)
    (apart : ToldApart env (es.reverse ++ events.take (recordedSince ml.history))) :
    PluginMirrors ml' (es.reverse ++ events) map := by
  induction notes generalizing b events with
  | nil => exact mirrors
  | @cons ml mid ml' event rest table added _ ih =>
      rw [List.map_cons, hashedKey, EventBuffers.safeToRecord, Bool.and_eq_true] at safe
      have together : ToldApart env (event :: events.take (recordedSince ml.history)) := by
        refine apart.subset fun other member => ?_
        rcases List.mem_cons.mp member with rfl | old
        · simp
        · exact List.mem_append_right _ old
      have after := (mirrors.withTable table).record (models.withTable table)
        (recorded.withTable table) added safe.1 together
      have since : recordedSince mid.history ≤ recordedSince ml.history + 1 :=
        @actionAdd_recordedSince _ _ { ml with table } _ _ _ _ added
      have modelsAfter := ((models.withTable table).record added).1
      have recordedAfter := Recorded.note (recorded.withTable table) positive added
      have later := ih after modelsAfter recordedAfter safe.2 ?_
      · simpa using later
      · refine apart.subset fun other member => ?_
        rw [List.mem_append] at member
        rcases member with new | old
        · simp only [List.reverse_cons, List.append_assoc, List.mem_append]
          exact .inl new
        · have near := (List.take_subset_take_left (event :: events) since) old
          rw [List.take_succ_cons] at near
          simp only [List.reverse_cons, List.append_assoc, List.mem_append, List.singleton_append]
          exact .inr near

theorem PluginMirrors.handOver (mirrors : PluginMirrors ml events map) :
    PluginMirrors (opsFpaMlHmapGet ml).2 events (match (opsFpaMlHmapGet ml).1 with
      | some table => replay (tableChanges (ml.mlearnEventTables table)) map
      | none => map) := by
  have offered : (opsFpaMlHmapGet ml).2.offered = ml.offered := rfl
  have since : recordedSince (opsFpaMlHmapGet ml).2.history = recordedSince ml.history := rfl
  simp only [opsFpaMlHmapGet] at offered since ⊢
  by_cases holds : (ml.mlearnEventTables !ml.currMlearnTableInUse).table.count ≠ 0
  · simp only [holds, ne_eq, not_false_eq_true, if_true]
    have twice := replay_twice (tableChanges ml.offered) map
    refine ⟨mirrors.told, ?_, fun _ => twice, mirrors.replaced⟩
    exact twice.trans mirrors.offered
  · simp only [holds, if_false]
    refine ⟨mirrors.told, mirrors.offered, fun _ => ?_, mirrors.replaced⟩
    have empty : ml.offered.contents = [] := by
      rw [ne_eq, not_not, Hmap.count, List.length_eq_zero_iff] at holds
      simp [MacLearning.offered, MlearnHmap.contents, Hmap.values, holds]
    change replay (tableChanges ml.offered) map = map
    rw [tableChanges, empty]
    rfl

end Mirror

section Run

variable {env : Env} {trace : List MlEvent} {ml : MacLearning}

structure PluginInvariant (env : Env) (trace : List MlEvent) (ml : MacLearning) : Prop where
  models : Models env ml (buffersOf ml)
  recorded : Recorded env ml (touched env trace ml)
  fdb : ml.table.Hashed (hashFdbKey env) fdbKey
  mirrors : PluginMirrors ml (eventsAlong env trace) (pluginMap trace)

theorem PluginInvariant.follows (invariant : PluginInvariant env trace ml) :
    PluginFollows env trace ml where
  caughtUp := invariant.mirrors.all
  nothingWaits := by
    intro empty read
    have all := invariant.mirrors.all
    rw [tableChanges, empty, invariant.mirrors.read read] at all
    exact all

theorem create_pluginInvariant (env : Env) (positive : 0 < env.bufferSize) (maxEntries : Nat) :
    PluginInvariant env [] (opsFpaMacLearningCreate env maxEntries true) where
  models := models_buffersOf (fun _ => .empty _ _ _) fun _ => rfl
  recorded := Recorded.of_empty rfl positive (by simp [MacLearning.inUse, opsFpaMacLearningCreate,
    emptyMlearnHmap]) rfl rfl
  fdb := (Hmap.Keyed.empty 0).hashed
  mirrors := by
    have nothing : ∀ table, tableChanges ((opsFpaMacLearningCreate env maxEntries
        true).mlearnEventTables table) = [] := by
      intro table
      simp [opsFpaMacLearningCreate, emptyMlearnHmap, tableChanges, MlearnHmap.contents, Hmap.values]
    refine ⟨?_, ?_, ?_, ?_⟩
    · rw [MacLearning.inUse, nothing]
      rfl
    · rw [MacLearning.offered, nothing]
      rfl
    · intro read
      cases read
    · intro key replaced
      cases replaced

theorem PluginInvariant.step (positive : 0 < env.bufferSize) (event : MlEvent)
    (invariant : PluginInvariant env trace event.before)
    (taken : mlStep env event.input.portName event.before event.input.call =
      .ok (event.reply, event.after))
    (operation : event.input.call.isOperation = true) (safe : swapsSafely env event = true)
    (apart : touchesApart env trace event) : PluginInvariant env (event :: trace) event.after := by
  obtain ⟨⟨_, models⟩, _⟩ := mlStep_lossless event invariant.models taken
  refine ⟨models_buffersOf models.sound models.sizes,
    mlStep_recorded invariant.recorded positive invariant.fdb operation taken,
    mlStep_hashed invariant.fdb taken, ?_⟩
  obtain ⟨before, ⟨portName, call⟩, reply, after⟩ := event
  cases call with
  | actionAdd => cases operation
  | asicEvent msg =>
      simp only [mlStep] at taken
      split at taken
      · cases taken
      · rename_i handled
        cases taken
        obtain ⟨notes, hashed⟩ := asicEvent_notes handled
        have recordsSafely : (buffersOf before).safeToRecord
            ((fdbEvents env portName before (.asicEvent msg)).map (hashedKey env)) = true := by
          rw [← hashed]
          exact safe
        exact notes.mirrors positive invariant.mirrors invariant.models invariant.recorded
          recordsSafely apart
  | flush =>
      simp only [mlStep] at taken
      split at taken
      · cases taken
      · rename_i flushed
        cases taken
        have notes := expireAll_notes invariant.fdb flushed
        have values : before.table.nodes.map (fun node => (node.2, MacEvent.mlearnDel)) =
            fdbEvents env portName before .flush := by
          rw [fdbEvents, Hmap.values, List.map_map]
          rfl
        have hashed : eventsOf env portName before .flush =
            (fdbEvents env portName before .flush).map (hashedKey env) := by
          rw [← values, List.map_map, eventsOf]
          refine List.map_congr_left fun node member => ?_
          rw [invariant.fdb node member]
          rfl
        have recordsSafely : (buffersOf before).safeToRecord
            ((fdbEvents env portName before .flush).map (hashedKey env)) = true := by
          rw [← hashed]
          exact safe
        exact (values ▸ notes).mirrors positive invariant.mirrors invariant.models
          invariant.recorded recordsSafely apart
  | timerExpired =>
      have isAfter : opsFpaMacLearningProcessMlearn env before = after :=
        congrArg Prod.snd (Except.ok.inj taken)
      subst isAfter
      exact invariant.mirrors.swap invariant.models safe
  | hmapGet =>
      have isAfter := Except.ok.inj taken
      have handed := invariant.mirrors.handOver
      rw [isAfter] at handed
      cases reply with
      | none => exact handed
      | some table => exact handed

theorem run_pluginInvariant (positive : 0 < env.bufferSize) {maxEntries : Nat}
    (run : MlRun env (opsFpaMacLearningCreate env maxEntries true) trace ml)
    (operations : Runs.Along (fun _ event => event.input.call.isOperation) trace)
    (safe : Runs.Along (fun _ event => swapsSafely env event) trace)
    (apart : Runs.Along (fun earlier event => touchesApart env earlier event) trace) :
    PluginInvariant env trace ml := by
  refine Runs.Run.invariant (create_pluginInvariant env positive maxEntries) ?_ run
    (operations.and (safe.and apart))
  intro earlier before input reply after invariant taken allowed
  exact invariant.step positive ⟨before, input, reply, after⟩ taken allowed.1 allowed.2.1 allowed.2.2

/-- With a plugin that reads every table before it is taken back into use, the plugin's map is
what all events of the run say as soon as it has taken in what the two tables still hold. -/
theorem plugin_map_follows_events (env : Env) (positive : 0 < env.bufferSize) (maxEntries : Nat)
    (trace : List MlEvent) (ml : MacLearning)
    (run : MlRun env (opsFpaMacLearningCreate env maxEntries true) trace ml)
    (operations : Runs.Along (fun _ event => event.input.call.isOperation) trace)
    (safe : Runs.Along (fun _ event => swapsSafely env event) trace)
    (apart : Runs.Along (fun earlier event => touchesApart env earlier event) trace) :
    PluginFollows env trace ml :=
  (run_pluginInvariant positive run operations safe apart).follows

theorem eventMap_eq {maxEntries : Nat} {pluginInterface : Bool}
    (run : MlRun env (opsFpaMacLearningCreate env maxEntries pluginInterface) trace ml)
    (operations : Runs.Along (fun _ event => event.input.call.isOperation) trace)
    (room : Runs.Along (fun _ event => learnsWithRoom event) trace)
    (unknown : Runs.Along (fun earlier event => learnsUnknown earlier event) trace) :
    eventMap env trace = fdbSpec trace := by
  induction run with
  | nil => rfl
  | @cons trace before input reply after run taken ih =>
      have earlier := ih operations.2 room.2 unknown.2
      have invariant := run_fdbInvariant run room.2 unknown.2
      obtain ⟨portName, call⟩ := input
      funext key
      have before_key : replay ((eventsAlong env trace).map eventChange) (fun _ => none) key =
          fdbSpec trace key := congrFun earlier key
      rw [eventMap, eventsAlong, List.map_append, replay_append]
      cases call with
      | actionAdd => cases operations.1
      | asicEvent msg =>
          have hasRoom := room.1
          simp only [learnsWithRoom] at hasRoom
          simp only [fdbEvents, fdbSpec]
          cases type : msg.type with
          | other => exact before_key
          | updateNew =>
              simp only [type, Bool.and_eq_true, decide_eq_true_eq] at hasRoom
              rw [if_pos hasRoom, List.reverse_singleton, List.map_singleton, replay_cons]
              exact if_congr Iff.rfl rfl before_key
          | updateAged =>
              simp only
              have agrees := invariant.agrees (fdbKey msg)
              rw [← lookup_eq invariant.keyed] at agrees
              cases found : opsFpaMacLearningLookup env before msg with
              | none =>
                  rw [found, Option.map_none] at agrees
                  simp only [List.reverse_nil, List.map_nil, replay_nil]
                  split
                  · rename_i here
                    rw [before_key, ← here, ← agrees]
                  · exact before_key
              | some entry =>
                  have isKey : fdbKey entry = fdbKey msg := by
                    rw [lookup_eq invariant.keyed] at found
                    exact (Hmap.lookup_some found).2
                  simp only [List.reverse_singleton, List.map_singleton, replay_cons, eventChange,
                    isKey]
                  exact if_congr Iff.rfl rfl before_key
      | flush =>
          simp only [fdbEvents, fdbSpec]
          have keys : ((before.table.values.map fun entry => (entry, MacEvent.mlearnDel)).reverse.map
              eventChange).map Prod.fst = (before.table.values.map fdbKey).reverse := by
            simp [eventChange, Function.comp_def]
          by_cases present : key ∈ before.table.values.map fdbKey
          · refine replay_removed ?_ (by rwa [keys, List.mem_reverse])
            intro change member
            simp only [List.map_reverse, List.mem_reverse, List.mem_map] at member
            obtain ⟨_, ⟨entry, _, rfl⟩, rfl⟩ := member
            rfl
          · rw [replay_of_notMem (by rwa [keys, List.mem_reverse]), before_key, ← invariant.agrees,
              Option.map_eq_none_iff]
            cases found : before.table.lookup (hashFdbKey env) fdbKey key with
            | none => rfl
            | some entry =>
                obtain ⟨member, isKey⟩ := Hmap.lookup_some found
                exact (present (List.mem_map.mpr ⟨entry, member, isKey⟩)).elim
      | timerExpired => exact before_key
      | hmapGet => exact before_key

/-- What a lookup in the FDB finds is what the plugin finds in its map, once that has taken in the
two tables. -/
theorem plugin_map_is_fdb (env : Env) (positive : 0 < env.bufferSize) (maxEntries : Nat)
    (trace : List MlEvent) (ml : MacLearning)
    (run : MlRun env (opsFpaMacLearningCreate env maxEntries true) trace ml)
    (operations : Runs.Along (fun _ event => event.input.call.isOperation) trace)
    (safe : Runs.Along (fun _ event => swapsSafely env event) trace)
    (apart : Runs.Along (fun earlier event => touchesApart env earlier event) trace)
    (room : Runs.Along (fun _ event => learnsWithRoom event) trace)
    (unknown : Runs.Along (fun earlier event => learnsUnknown earlier event) trace)
    (wanted : AddressMsg) :
    (opsFpaMacLearningLookup env ml wanted).map AddressMsg.portNum =
      caughtUp trace ml (fdbKey wanted) := by
  have follows := (run_pluginInvariant positive run operations safe apart).follows
  rw [follows.caughtUp, eventMap_eq run operations room unknown]
  exact (run_fdbInvariant run room unknown).refines.lookup wanted

end Run

section Station

instance (env : Env) (earlier : List MlEvent) (event : MlEvent) :
    Decidable (touchesApart env earlier event) :=
  inferInstanceAs (Decidable (ToldApart _ _))

/-- A station is learned, read, aged and learned on another port; the third event fills a table. -/
def movingStation : List MlInput :=
  [learnedAt 10 5#48 1, learnedAt 20 5#48 1, ⟨twoPorts, .hmapGet⟩,
    ⟨twoPorts, .asicEvent ⟨.updateAged, 1, 10, 5#48⟩⟩, ⟨twoPorts, .timerExpired⟩,
    ⟨twoPorts, .hmapGet⟩, learnedAt 10 5#48 2]

theorem plugin_map_follows_moving_station :
    ∃ trace ml, MlRun idealEnv (opsFpaMacLearningCreate idealEnv 16384 true) trace ml ∧
      pluginMap trace (10, 5#48) = none ∧ caughtUp trace ml (10, 5#48) = some 2 ∧
      PluginFollows idealEnv trace ml := by
  obtain ⟨trace, ml, run, now, later, operations, safe, apart⟩ := mlRun_of_check idealEnv
    (opsFpaMacLearningCreate idealEnv 16384 true) movingStation
    (fun trace ml => pluginMap trace (10, 5#48) = none ∧ caughtUp trace ml (10, 5#48) = some 2 ∧
      Runs.Along (fun _ event => event.input.call.isOperation = true) trace ∧
      Runs.Along (fun _ event => swapsSafely idealEnv event = true) trace ∧
      Runs.Along (fun earlier event => touchesApart idealEnv earlier event) trace)
    (by decide +kernel)
  exact ⟨trace, ml, run, now, later,
    plugin_map_follows_events idealEnv (by decide) 16384 trace ml run operations safe apart⟩

theorem plugin_map_is_fdb_moving_station :
    ∃ trace ml, MlRun idealEnv (opsFpaMacLearningCreate idealEnv 16384 true) trace ml ∧
      pluginMap trace (20, 5#48) = some 1 ∧
      (opsFpaMacLearningLookup idealEnv ml ⟨.updateAged, 0, 10, 5#48⟩).map AddressMsg.portNum =
        caughtUp trace ml (10, 5#48) := by
  obtain ⟨trace, ml, run, other, operations, safe, apart, room, unknown⟩ := mlRun_of_check idealEnv
    (opsFpaMacLearningCreate idealEnv 16384 true) movingStation
    (fun trace _ => pluginMap trace (20, 5#48) = some 1 ∧
      Runs.Along (fun _ event => event.input.call.isOperation = true) trace ∧
      Runs.Along (fun _ event => swapsSafely idealEnv event = true) trace ∧
      Runs.Along (fun earlier event => touchesApart idealEnv earlier event) trace ∧
      Runs.Along (fun _ event => learnsWithRoom event) trace ∧
      Runs.Along (fun earlier event => learnsUnknown earlier event) trace) (by decide +kernel)
  exact ⟨trace, ml, run, other, plugin_map_is_fdb idealEnv (by decide) 16384 trace ml run
    operations safe apart room unknown ⟨.updateAged, 0, 10, 5#48⟩⟩

end Station

end FpaPlugin
