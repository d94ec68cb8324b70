import FpaPlugin.MlearnBuffers

/-! The storage of the two event tables: the map links exactly the filled slots of its buffer,
and with a plugin the table in use always has room for one more event. -/

namespace FpaPlugin

/-- The slot of `buffer.nodes` that `ops_fpa_mac_learning_mlearn_action_add` writes. -/
def storedSlot (mhmap : MlearnHmap) (hash : Nat) : Option Nat :=
  (mhmap.table.firstWithHash hash).or
    (if mhmap.actualSize < mhmap.size then some mhmap.actualSize else none)

def MacLearning.tableInUse (ml : MacLearning) : MlearnHmap :=
  ml.mlearnEventTables ml.currMlearnTableInUse

/-- The states in which a call enters `ops_fpa_mac_learning_mlearn_action_add`, with the hash it
passes, up to the end of the call or to the assertion that stops it. -/
inductive EntersActionAdd (env : Env) (portName : Nat → Option PortName) (ml : MacLearning) :
    MlCall → MacLearning → Nat → Prop
  | called (entry : AddressMsg) (hash : Nat) (event : MacEvent) :
      EntersActionAdd env portName ml (.actionAdd entry hash event) ml hash
  | learned (msg : AddressMsg) (isNew : msg.type = .updateNew)
      (isPort : (portName msg.portNum).isSome) (room : ml.table.count < ml.maxEntries) :
      EntersActionAdd env portName ml (.asicEvent msg)
        { ml with table := ml.table.insert env.growth (fpaHashFdbEntry env msg) msg }
        (fpaHashFdbEntry env msg)
  | aged (msg entry : AddressMsg) (isAged : msg.type = .updateAged)
      (found : opsFpaMacLearningLookup env ml msg = some entry) :
      EntersActionAdd env portName ml (.asicEvent msg)
        { ml with table := ml.table.remove (fpaHashFdbEntry env msg) entry }
        (fpaHashFdbEntry env msg)
  | flushed (expired rest : List (Nat × AddressMsg)) (hash : Nat) (entry : AddressMsg)
      (mid : MacLearning) (order : ml.table.nodes = expired ++ (hash, entry) :: rest)
      (reached : expireAll env portName expired ml = .ok mid) :
      EntersActionAdd env portName ml .flush
        { mid with table := mid.table.remove hash entry } hash

structure TablesHold (env : Env) (ml : MacLearning) : Prop where
  linked : ∀ table, (ml.mlearnEventTables table).table.values.Perm
    (List.range (ml.mlearnEventTables table).actualSize)
  hashes : ∀ table, ((ml.mlearnEventTables table).table.nodes.map Prod.fst).Nodup
  bounded : ∀ table, (ml.mlearnEventTables table).actualSize ≤ (ml.mlearnEventTables table).size
  sizes : ∀ table, (ml.mlearnEventTables table).size = env.bufferSize

structure TableFits (env : Env) (mhmap : MlearnHmap) : Prop extends TableSound mhmap where
  size : mhmap.size = env.bufferSize
  bounded : mhmap.actualSize ≤ env.bufferSize

/-- The invariant of the runs; `room` is what the exchange of the tables maintains. -/
structure TablesFit (env : Env) (plugin : Bool) (ml : MacLearning) : Prop where
  each : ∀ table, TableFits env (ml.mlearnEventTables table)
  attached : ml.pluginInterface = plugin
  room : plugin = true → ml.tableInUse.actualSize < env.bufferSize

variable {env : Env} {plugin : Bool} {portName : Nat → Option PortName} {ml ml' : MacLearning}
  {mhmap : MlearnHmap} {hash : Nat}

section Table

theorem TableSound.linked (sound : TableSound mhmap) :
    mhmap.table.values.Perm (List.range mhmap.actualSize) := by
  have inside : mhmap.table.values ⊆ List.range mhmap.actualSize := by
    intro slot member
    exact List.mem_range.mpr (sound.below slot member)
  have length : mhmap.table.values.length = mhmap.actualSize := by
    rw [Hmap.values, List.length_map]
    exact sound.filled
  refine (sound.slots.subperm inside).perm_of_length_le ?_
  rw [List.length_range, length]

theorem TableFits.empty (mask : Nat) (nodes : Nat → MlearnHmapNode) :
    TableFits env ⟨Hmap.empty mask, nodes, 0, env.bufferSize⟩ :=
  ⟨.empty _ _ _, rfl, Nat.zero_le _⟩

theorem TableFits.record (fits : TableFits env mhmap) (node : MlearnHmapNode)
    (taken : mhmap.table.firstWithHash hash ≠ none ∨ mhmap.actualSize < mhmap.size) :
    TableFits env (recordEvent env mhmap hash node) := by
  obtain ⟨sound, size, records⟩ := recordEvent_records node fits.toTableSound taken
  refine ⟨sound, size.trans fits.size, ?_⟩
  have before := fits.bounded
  have isSize := fits.size
  rcases records with ⟨_, same, _⟩ | ⟨_, space, grown, _⟩
  · omega
  · omega

theorem TableFits.storedSlot_lt (fits : TableFits env mhmap) {slot : Nat}
    (stored : storedSlot mhmap hash = some slot) : slot < env.bufferSize := by
  have bounded := fits.bounded
  have isSize := fits.size
  rw [storedSlot] at stored
  cases found : mhmap.table.firstWithHash hash with
  | some old =>
      rw [found, Option.some_or, Option.some.injEq] at stored
      have filed := fits.below old (List.mem_map_of_mem (firstWithHash_mem found))
      omega
  | none =>
      rw [found, Option.none_or] at stored
      split at stored
      · cases stored
        omega
      · cases stored

theorem recordEvent_nodes {slot : Nat} (node : MlearnHmapNode) (other : storedSlot mhmap hash ≠ some slot) :
    (recordEvent env mhmap hash node).nodes slot = mhmap.nodes slot := by
  rw [storedSlot] at other
  rw [recordEvent]
  cases found : mhmap.table.firstWithHash hash with
  | some old =>
      rw [found, Option.some_or, ne_eq, Option.some.injEq] at other
      exact Function.update_of_ne (Ne.symm other) _ _
  | none =>
      rw [found, Option.none_or] at other
      by_cases space : mhmap.actualSize < mhmap.size
      · rw [if_pos space, ne_eq, Option.some.injEq] at other
        simp only [space, if_true]
        exact Function.update_of_ne (Ne.symm other) _ _
      · simp only [space, if_false]

end Table

theorem TablesFit.hold (fit : TablesFit env plugin ml) : TablesHold env ml where
  linked := fun table => (fit.each table).linked
  hashes := fun table => (fit.each table).hashes
  bounded := fun table => by rw [(fit.each table).size]; exact (fit.each table).bounded
  sizes := fun table => (fit.each table).size

theorem TablesFit.create (nonempty : 1 ≤ env.bufferSize) (maxEntries : Nat) (plugin : Bool) :
    TablesFit env plugin (opsFpaMacLearningCreate env maxEntries plugin) where
  each := fun _ => .empty _ _
  attached := rfl
  room := fun _ => nonempty

theorem TablesFit.withTable (fit : TablesFit env plugin ml) (table : Hmap AddressMsg) :
    TablesFit env plugin { ml with table } :=
  ⟨fit.each, fit.attached, fit.room⟩

theorem fits_update {tables : Bool → MlearnHmap} {changed : Bool} (written : TableFits env mhmap)
    (kept : ∀ table, TableFits env (tables table)) (table : Bool) :
    TableFits env (Function.update tables changed mhmap table) := by
  by_cases same : table = changed
  · rw [same, Function.update_self]
    exact written
  · rw [Function.update_of_ne same]
    exact kept table

theorem TablesFit.exchanged (nonempty : 1 ≤ env.bufferSize)
    (each : ∀ table, TableFits env (ml.mlearnEventTables table))
    (attached : ml.pluginInterface = plugin) : TablesFit env plugin (rolesExchanged env ml) where
  each := fits_update (.empty _ _) each
  attached := attached
  room := by
    intro _
    simp only [MacLearning.tableInUse, rolesExchanged, Function.update_self]
    exact nonempty

theorem TablesFit.process (nonempty : 1 ≤ env.bufferSize) (fit : TablesFit env plugin ml) :
    TablesFit env plugin (opsFpaMacLearningProcessMlearn env ml) := by
  rw [processMlearn_eq]
  split
  · exact .exchanged nonempty fit.each fit.attached
  · exact fit

theorem TablesFit.actionAdd (nonempty : 1 ≤ env.bufferSize) (fit : TablesFit env plugin ml)
    {entry : AddressMsg} {event : MacEvent}
    (added : opsFpaMacLearningMlearnActionAdd env portName ml entry hash event = .ok ml') :
    TablesFit env plugin ml' := by
  obtain ⟨noted, rfl, outcome⟩ := actionAdd_cases added
  rcases outcome with ⟨rfl, _, _⟩ | ⟨node, _, rfl, taken⟩
  · split
    · exact fit.process nonempty
    · exact fit
  · have each : ∀ table, TableFits env ((eventRecorded env ml hash entry node).mlearnEventTables table) :=
      fits_update ((fit.each _).record node taken) fit.each
    have used := each ml.currMlearnTableInUse
    split
    · rename_i full
      rw [MlearnHmap.isFull, decide_eq_true_eq, used.size] at full
      rw [processMlearn_eq]
      split
      · exact .exchanged nonempty each fit.attached
      · rename_i stays
        refine ⟨each, fit.attached, fun isPlugin => (stays ⟨fit.attached.trans isPlugin, ?_⟩).elim⟩
        have filled : (eventRecorded env ml hash entry node).tableInUse.table.count = _ := used.filled
        rw [MacLearning.tableInUse] at filled
        omega
    · rename_i space
      rw [MlearnHmap.isFull, decide_eq_true_eq, used.size] at space
      refine ⟨each, fit.attached, fun _ => ?_⟩
      have bounded := used.bounded
      change ((eventRecorded env ml hash entry node).mlearnEventTables
        ml.currMlearnTableInUse).actualSize < env.bufferSize
      omega

theorem TablesFit.expireAll (nonempty : 1 ≤ env.bufferSize) {rest : List (Nat × AddressMsg)}
    (fit : TablesFit env plugin ml) (expired : expireAll env portName rest ml = .ok ml') :
    TablesFit env plugin ml' := by
  induction rest generalizing ml with
  | nil =>
      cases expired
      exact fit
  | cons node rest ih =>
      simp only [FpaPlugin.expireAll] at expired
      split at expired
      · cases expired
      · rename_i next isExpired
        exact ih ((fit.withTable _).actionAdd nonempty isExpired) expired

theorem TablesFit.enters (nonempty : 1 ≤ env.bufferSize) (fit : TablesFit env plugin ml)
    {call : MlCall} {state : MacLearning} (enters : EntersActionAdd env portName ml call state hash) :
    TablesFit env plugin state := by
  cases enters with
  | called => exact fit
  | learned => exact fit.withTable _
  | aged => exact fit.withTable _
  | flushed expired rest hash entry mid order reached =>
      exact (fit.expireAll nonempty reached).withTable _

theorem TablesFit.asicEvent (nonempty : 1 ≤ env.bufferSize) (fit : TablesFit env plugin ml)
    {msg : AddressMsg} (handled : macLearningAsicEvent env portName ml msg = .ok ml') :
    TablesFit env plugin ml' := by
  simp only [macLearningAsicEvent] at handled
  split at handled
  · split at handled
    · cases handled
    · rename_i learned
      cases handled
      simp only [opsFpaMacLearningLearn, opsFpaMacLearningInsert] at learned
      split at learned
      · cases learned
        exact fit
      · split at learned
        · cases learned
          exact fit
        · split at learned
          · cases learned
          · rename_i added
            cases learned
            exact (fit.withTable _).actionAdd nonempty added
  · simp only [opsFpaMacLearningAgeByEntry] at handled
    split at handled
    · cases handled
      exact fit
    · exact (fit.withTable _).actionAdd nonempty handled
  · cases handled
    exact fit

theorem TablesFit.step (nonempty : 1 ≤ env.bufferSize) (fit : TablesFit env plugin ml)
    {call : MlCall} {reply : Option Bool} (taken : mlStep env portName ml call = .ok (reply, ml')) :
    TablesFit env plugin ml' := by
  cases call with
  | actionAdd entry hash event =>
      simp only [mlStep] at taken
      split at taken
      · cases taken
      · rename_i added
        cases taken
        exact fit.actionAdd nonempty added
  | asicEvent msg =>
      simp only [mlStep] at taken
      split at taken
      · cases taken
      · rename_i handled
        cases taken
        exact fit.asicEvent nonempty handled
  | flush =>
      simp only [mlStep] at taken
      split at taken
      · cases taken
      · rename_i flushed
        cases taken
        exact fit.expireAll nonempty flushed
  | timerExpired =>
      cases taken
      exact fit.process nonempty
  | hmapGet =>
      cases taken
      exact ⟨fit.each, fit.attached, fit.room⟩

theorem run_tablesFit (nonempty : 1 ≤ env.bufferSize) {maxEntries : Nat} {trace : List MlEvent}
    (run : MlRun env (opsFpaMacLearningCreate env maxEntries plugin) trace ml) :
    TablesFit env plugin ml := by
  induction run with
  | nil => exact .create nonempty maxEntries plugin
  | cons run taken ih => exact ih.step nonempty taken

/-- After any run, and wherever a call enters `ops_fpa_mac_learning_mlearn_action_add`, the maps
link the filled slots, every store stays inside the buffer, and with a plugin there is room. -/
theorem mlearn_tables_hold (env : Env) (nonempty : 1 ≤ env.bufferSize) (maxEntries : Nat)
    (plugin : Bool) (trace : List MlEvent) (ml : MacLearning)
    (run : MlRun env (opsFpaMacLearningCreate env maxEntries plugin) trace ml) :
    TablesHold env ml ∧
      ∀ portName call state hash, EntersActionAdd env portName ml call state hash →
        TablesHold env state ∧
        (∀ slot, storedSlot state.tableInUse hash = some slot → slot < env.bufferSize) ∧
        (∀ slot node, storedSlot state.tableInUse hash ≠ some slot →
          (recordEvent env state.tableInUse hash node).nodes slot = state.tableInUse.nodes slot) ∧
        (plugin = true → state.tableInUse.isFull = false) := by
  have fit := run_tablesFit nonempty run
  refine ⟨fit.hold, fun portName call state hash enters => ?_⟩
  have entered := fit.enters nonempty enters
  have used : TableFits env state.tableInUse := entered.each _
  refine ⟨entered.hold, fun slot stored => used.storedSlot_lt stored,
    fun slot node other => recordEvent_nodes node other, fun isPlugin => ?_⟩
  have room := entered.room isPlugin
  have size := used.size
  rw [MlearnHmap.isFull, decide_eq_false_iff_not]
  omega

theorem mlearn_tables_hold_flushed : 1 ≤ idealEnv.bufferSize ∧
    ∃ trace ml, MlRun idealEnv (opsFpaMacLearningCreate idealEnv 16384 true) trace ml ∧
      trace.length = 4 ∧ ml.history.length = 12 ∧ TablesHold idealEnv ml := by
  obtain ⟨trace, ml, run, four, exchanges⟩ := mlRun_of_check idealEnv
    (opsFpaMacLearningCreate idealEnv 16384 true)
    [⟨twoPorts, .asicEvent ⟨.updateNew, 1, 10, 5#48⟩⟩, ⟨twoPorts, .asicEvent ⟨.updateNew, 1, 20, 5#48⟩⟩,
      ⟨twoPorts, .asicEvent ⟨.updateNew, 1, 30, 5#48⟩⟩, ⟨twoPorts, .flush⟩]
    (fun trace ml => trace.length = 4 ∧ ml.history.length = 12) (by decide +kernel)
  exact ⟨by decide, trace, ml, run, four, exchanges,
    (mlearn_tables_hold idealEnv (by decide) 16384 true trace ml run).1⟩

end FpaPlugin
