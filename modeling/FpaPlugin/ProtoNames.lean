import FpaPlugin.DevSpec
import FpaPlugin.Protos
import FpaPlugin.System

/-! What `protos` answers against the ofprotos that were constructed and not yet
destructed. -/

namespace FpaPlugin

variable {env : Env} {portName : Nat → Option PortName} {maxEntries : Nat} {s next : ProtoSys}
  {trace : ProtoTrace} {ref : OfprotoRef} {texts : ProtoTexts} {rc : DevRc}

def liveProtos : ProtoTrace → List (OfprotoRef × ProtoTexts)
  | [] => []
  | ⟨_, .create ref texts _, rc, _⟩ :: earlier =>
      if rc = .ok then (ref, texts) :: liveProtos earlier else liveProtos earlier
  | ⟨_, .destroy ref, _, _⟩ :: earlier => (liveProtos earlier).filter fun entry => entry.1 ≠ ref

/-- Both readers of the registry return, and with what the live ofprotos say. -/
structure NamesExact (env : Env) (trace : ProtoTrace) (s : ProtoSys) : Prop where
  enumerated : ∀ type, ∃ names, opsFpaOfprotoEnumerateNames s type ∅ = .ok names ∧
    ∀ name, name ∈ names ↔
      ∃ entry ∈ liveProtos trace, entry.2.type = type ∧ entry.2.name = name
  found : ∀ name, ∃ result, opsFpaOfprotoLookup env s name = .ok result ∧
    (∀ ref, result = some ref → ∃ texts, (ref, texts) ∈ liveProtos trace ∧ texts.name = name) ∧
    (result.isSome ↔ ∃ entry ∈ liveProtos trace, entry.2.name = name)

def getsDevice (s : ProtoSys) : ProtoCall → Bool
  | .create _ _ outcome => s.devs.dev.isSome || macLearningCreated outcome
  | .destroy _ => true

def namedLikeType : ProtoCall → Bool
  | .create _ texts _ => texts.name = texts.type
  | .destroy _ => true

structure ProtoInvariant (env : Env) (trace : ProtoTrace) (s : ProtoSys) : Prop where
  linked : ∀ hash ref, (hash, ref) ∈ s.protos.nodes ↔
    ∃ texts, s.memory ref = some texts ∧ hash = env.hashString texts.name
  once : s.protos.values.Nodup
  recorded : ∀ ref texts, (ref, texts) ∈ liveProtos trace ↔ s.memory ref = some texts

section Calls

theorem linkProto_ok {linked : ProtoSys} (taken : linkProto env s ref texts = .ok linked) :
    ref ∉ s.protos.values ∧ linked =
      { s with protos := s.protos.insert env.growth (env.hashString texts.name) ref } := by
  rw [linkProto] at taken
  split at taken
  · cases taken
  · rename_i fresh
    split at taken
    · cases taken
    · cases taken
      exact ⟨fresh, rfl⟩

theorem unlinkProto_ok {unlinked : ProtoSys} (taken : unlinkProto env s ref texts = .ok unlinked) :
    unlinked = { s with protos := s.protos.remove (env.hashString texts.name) ref } := by
  rw [unlinkProto] at taken
  split at taken
  · cases taken
  · split at taken
    · cases taken
    · cases taken
      rfl

theorem create_cases {outcome : InitOutcome}
    (taken : ofprotoCreate env maxEntries s ref texts outcome = .ok (rc, next)) :
    s.memory ref = none ∧ ref ∉ s.protos.values ∧
    next.protos = s.protos.insert env.growth (env.hashString texts.name) ref ∧
    next.memory = Function.update s.memory ref (if rc = .ok then some texts else none) ∧
    (rc = .ok ↔ getsDevice s (.create ref texts outcome) = true) := by
  rw [ofprotoCreate, opsFpaOfprotoAlloc] at taken
  cases unused : s.memory ref with
  | some old =>
      simp only [unused] at taken
      cases taken
  | none =>
      simp only [unused, opsFpaOfprotoConstruct] at taken
      cases linking : linkProto env
        { s with memory := Function.update s.memory ref (some texts) } ref texts with
      | error fault =>
          simp only [linking] at taken
          cases taken
      | ok linked =>
          obtain ⟨fresh, rfl⟩ := linkProto_ok linking
          simp only [linking] at taken
          cases initing : opsFpaDevInit env maxEntries s.devs outcome with
          | error fault =>
              simp only [initing] at taken
              cases taken
          | ok result =>
              obtain ⟨answer, devs⟩ := result
              simp only [initing, Except.ok.injEq, Prod.mk.injEq] at taken
              obtain ⟨rfl, rfl⟩ := taken
              have answers : answer = .ok ↔ getsDevice s (.create ref texts outcome) = true := by
                rcases devInit_cases initing with ⟨dev, known, rfl, _⟩ | ⟨unknown, isRc, _⟩
                · simp [getsDevice, known]
                · rw [isRc]
                  by_cases created : macLearningCreated outcome = true
                  · simp [getsDevice, unknown, created]
                  · simp [getsDevice, unknown, created]
              refine ⟨rfl, fresh, ?_, ?_, answers⟩
              · split_ifs
                · rfl
                · rfl
              · by_cases good : answer = .ok
                · simp [good]
                · simp [good, opsFpaOfprotoDealloc]

theorem destroy_cases (taken : ofprotoDestroy env portName s ref = .ok (rc, next)) :
    ∃ texts, s.memory ref = some texts ∧
      next.protos = s.protos.remove (env.hashString texts.name) ref ∧
      next.memory = Function.update s.memory ref none := by
  rw [ofprotoDestroy, opsFpaOfprotoDestruct] at taken
  cases used : s.memory ref with
  | none =>
      simp only [used] at taken
      cases taken
  | some texts =>
      cases unlinking : unlinkProto env s ref texts with
      | error fault =>
          simp only [used, unlinking] at taken
          cases taken
      | ok unlinked =>
          have isUnlinked := unlinkProto_ok unlinking
          subst isUnlinked
          simp only [used, unlinking] at taken
          cases giving : opsFpaDevDeinit env portName s.devs with
          | error fault =>
              simp only [giving] at taken
              cases taken
          | ok result =>
              simp only [giving, Except.ok.injEq, Prod.mk.injEq] at taken
              obtain ⟨_, rfl⟩ := taken
              exact ⟨texts, rfl, rfl, rfl⟩

end Calls

section Readers

theorem enumerateNamesIn_spec (type : CString) :
    ∀ (refs : List OfprotoRef) (names : Finset CString), (∀ ref ∈ refs, s.readable ref = true) →
    ∃ result, enumerateNamesIn s type refs names = .ok result ∧
      ∀ name, name ∈ result ↔ name ∈ names ∨ (name = type ∧
        ∃ ref ∈ refs, ∃ texts, s.memory ref = some texts ∧ texts.type = type) := by
  intro refs
  induction refs with
  | nil =>
      intro names _
      exact ⟨names, rfl, by simp⟩
  | cons ref rest ih =>
      intro names readable
      obtain ⟨texts, here⟩ := Option.isSome_iff_exists.mp (readable ref List.mem_cons_self)
      obtain ⟨result, returned, members⟩ := ih
        (if type = texts.type then insert texts.type names else names)
        fun other member => readable other (List.mem_cons_of_mem _ member)
      refine ⟨result, by simp only [enumerateNamesIn, here]; exact returned, ?_⟩
      intro name
      rw [members name]
      by_cases same : type = texts.type
      · rw [if_pos same, Finset.mem_insert]
        constructor
        · rintro ((rfl | old) | ⟨rfl, other, member, rest⟩)
          · exact .inr ⟨same.symm, ref, List.mem_cons_self, texts, here, same.symm⟩
          · exact .inl old
          · exact .inr ⟨rfl, other, List.mem_cons_of_mem _ member, rest⟩
        · rintro (old | ⟨rfl, _⟩)
          · exact .inl (.inr old)
          · exact .inl (.inl same)
      · rw [if_neg same]
        simp only [List.exists_mem_cons_iff, here, Option.some.injEq, exists_eq_left']
        have other : ¬ texts.type = type := fun back => same back.symm
        simp only [other, false_or]

theorem enumerateNamesIn_freed (type : CString) (freed : s.memory ref = none) :
    ∀ (refs : List OfprotoRef) (names : Finset CString), ref ∈ refs →
      ∀ result, enumerateNamesIn s type refs names ≠ .ok result := by
  intro refs
  induction refs with
  | nil => exact fun _ member => nomatch member
  | cons first rest ih =>
      intro names member result returned
      simp only [enumerateNamesIn] at returned
      split at returned
      · cases returned
      · rename_i texts here
        rcases List.mem_cons.mp member with rfl | later
        · rw [freed] at here
          cases here
        · exact ih _ later result returned

theorem lookupIn_spec (name : CString) (hash : Nat) : ∀ (chain : List (Nat × OfprotoRef)),
    (∀ node ∈ chain, s.readable node.2 = true) →
    ∃ result, lookupIn s name hash chain = .ok result ∧
      (∀ ref, result = some ref → ∃ texts, s.memory ref = some texts ∧ texts.name = name) ∧
      (result = none → ∀ ref texts, (hash, ref) ∈ chain → s.memory ref = some texts →
        texts.name ≠ name) := by
  intro chain
  induction chain with
  | nil =>
      intro _
      exact ⟨none, rfl, nofun, fun _ _ _ member => (List.not_mem_nil member).elim⟩
  | cons node rest ih =>
      intro readable
      obtain ⟨nodeHash, ref⟩ := node
      obtain ⟨texts, here⟩ := Option.isSome_iff_exists.mp (readable _ List.mem_cons_self)
      obtain ⟨result, returned, matching, missing⟩ := ih
        fun other member => readable other (List.mem_cons_of_mem _ member)
      by_cases hit : nodeHash = hash ∧ texts.name = name
      · refine ⟨some ref, by simp only [lookupIn, here, if_pos hit], ?_, nofun⟩
        rintro other ⟨⟩
        exact ⟨texts, here, hit.2⟩
      · refine ⟨result, by simp only [lookupIn, here, if_neg hit]; exact returned, matching, ?_⟩
        intro isNone other otherTexts member known
        rcases List.mem_cons.mp member with same | later
        · cases same
          rw [here] at known
          cases known
          exact fun sameName => hit ⟨rfl, sameName⟩
        · exact missing isNone other otherTexts later known

variable (invariant : ProtoInvariant env trace s)

include invariant

theorem ProtoInvariant.readable {node : Nat × OfprotoRef} (member : node ∈ s.protos.nodes) :
    s.readable node.2 = true := by
  obtain ⟨texts, here, _⟩ := (invariant.linked node.1 node.2).mp member
  rw [ProtoSys.readable, here]
  rfl

theorem ProtoInvariant.mem_values :
    ref ∈ s.protos.values ↔ ∃ texts, s.memory ref = some texts := by
  rw [Hmap.mem_values]
  constructor
  · rintro ⟨hash, member⟩
    obtain ⟨texts, here, _⟩ := (invariant.linked hash ref).mp member
    exact ⟨texts, here⟩
  · rintro ⟨texts, here⟩
    exact ⟨_, (invariant.linked _ ref).mpr ⟨texts, here, rfl⟩⟩

theorem ProtoInvariant.enumerateNames (type : CString) :
    ∃ names, opsFpaOfprotoEnumerateNames s type ∅ = .ok names ∧
      ∀ name, name ∈ names ↔ name = type ∧ ∃ entry ∈ liveProtos trace, entry.2.type = type := by
  obtain ⟨names, returned, members⟩ := enumerateNamesIn_spec type s.protos.values ∅ (by
    intro ref member
    obtain ⟨texts, here⟩ := invariant.mem_values.mp member
    rw [ProtoSys.readable, here]
    rfl)
  refine ⟨names, returned, fun name => ?_⟩
  rw [members name]
  simp only [Finset.notMem_empty, false_or, and_congr_right_iff]
  intro _
  constructor
  · rintro ⟨ref, _, texts, here, sameType⟩
    exact ⟨(ref, texts), (invariant.recorded ref texts).mpr here, sameType⟩
  · rintro ⟨⟨ref, texts⟩, live, sameType⟩
    have here := (invariant.recorded ref texts).mp live
    exact ⟨ref, invariant.mem_values.mpr ⟨texts, here⟩, texts, here, sameType⟩

theorem ProtoInvariant.lookup (name : CString) :
    ∃ result, opsFpaOfprotoLookup env s name = .ok result ∧
      (∀ ref, result = some ref → ∃ texts, (ref, texts) ∈ liveProtos trace ∧ texts.name = name) ∧
      (result.isSome ↔ ∃ entry ∈ liveProtos trace, entry.2.name = name) := by
  have chained : ∀ node ∈ s.protos.chain (env.hashString name &&& s.protos.mask),
      node ∈ s.protos.nodes := by
    intro node member
    have placed := s.protos.placed _ node member
    exact Hmap.mem_nodes.mpr (placed ▸ member)
  obtain ⟨result, returned, matching, missing⟩ := lookupIn_spec name
    (env.hashString name) (s.protos.chain (env.hashString name &&& s.protos.mask))
    fun node member => invariant.readable (chained node member)
  have matched : ∀ ref, result = some ref →
      ∃ texts, (ref, texts) ∈ liveProtos trace ∧ texts.name = name := by
    intro ref isRef
    obtain ⟨texts, here, sameName⟩ := matching ref isRef
    exact ⟨texts, (invariant.recorded ref texts).mpr here, sameName⟩
  refine ⟨result, returned, matched, ?_⟩
  constructor
  · intro isSome
    obtain ⟨ref, isRef⟩ := Option.isSome_iff_exists.mp isSome
    obtain ⟨texts, live, sameName⟩ := matched ref isRef
    exact ⟨(ref, texts), live, sameName⟩
  · rintro ⟨⟨ref, texts⟩, live, sameName⟩
    have here := (invariant.recorded ref texts).mp live
    have inNodes := (invariant.linked (env.hashString name) ref).mpr
      ⟨texts, here, congrArg env.hashString sameName.symm⟩
    cases isResult : result with
    | some found => rfl
    | none => exact (missing isResult ref texts (Hmap.mem_nodes.mp inNodes) here sameName).elim

theorem ProtoInvariant.namesExact_iff :
    NamesExact env trace s ↔ ∀ entry ∈ liveProtos trace, entry.2.name = entry.2.type := by
  constructor
  · intro exact entry live
    obtain ⟨names, returned, members⟩ := invariant.enumerateNames entry.2.type
    obtain ⟨others, alsoReturned, wanted⟩ := exact.enumerated entry.2.type
    rw [returned] at alsoReturned
    cases alsoReturned
    have member := (wanted entry.2.name).mpr ⟨entry, live, rfl, rfl⟩
    exact ((members entry.2.name).mp member).1
  · intro named
    refine ⟨fun type => ?_, invariant.lookup⟩
    obtain ⟨names, returned, members⟩ := invariant.enumerateNames type
    refine ⟨names, returned, fun name => ?_⟩
    rw [members name]
    constructor
    · rintro ⟨rfl, entry, live, sameType⟩
      exact ⟨entry, live, sameType, (named entry live).trans sameType⟩
    · rintro ⟨entry, live, sameType, sameName⟩
      exact ⟨sameName.symm.trans ((named entry live).trans sameType), entry, live, sameType⟩

end Readers

section Steps

theorem update_memory_eq_some {memory : OfprotoRef → Option ProtoTexts} {other : OfprotoRef}
    {value : Option ProtoTexts} {found : ProtoTexts} :
    Function.update memory ref value other = some found ↔
      (other = ref ∧ value = some found) ∨ (other ≠ ref ∧ memory other = some found) := by
  by_cases same : other = ref
  · subst same
    simp
  · simp [same]

theorem ProtoInvariant.create {outcome : InitOutcome} (invariant : ProtoInvariant env trace s)
    (taken : ofprotoCreate env maxEntries s ref texts outcome = .ok (.ok, next)) :
    ProtoInvariant env (⟨s, .create ref texts outcome, .ok, next⟩ :: trace) next := by
  obtain ⟨unused, fresh, protos, memory, _⟩ := create_cases taken
  rw [if_pos rfl] at memory
  refine ⟨?_, ?_, ?_⟩
  · intro hash other
    rw [protos, Hmap.mem_nodes_insert, invariant.linked, memory]
    simp only [update_memory_eq_some, Prod.mk.injEq]
    constructor
    · rintro (⟨rfl, rfl⟩ | ⟨found, here, rfl⟩)
      · exact ⟨texts, .inl ⟨rfl, rfl⟩, rfl⟩
      · refine ⟨found, .inr ⟨?_, here⟩, rfl⟩
        rintro rfl
        rw [unused] at here
        cases here
    · rintro ⟨found, ⟨rfl, ⟨⟩⟩ | ⟨_, here⟩, rfl⟩
      · exact .inl ⟨rfl, rfl⟩
      · exact .inr ⟨found, here, rfl⟩
  · rw [protos, (Hmap.values_insert_perm env.growth s.protos _ ref).nodup_iff]
    exact List.nodup_cons.mpr ⟨fresh, invariant.once⟩
  · intro other found
    rw [liveProtos, if_pos rfl, List.mem_cons, invariant.recorded, memory, update_memory_eq_some]
    simp only [Prod.mk.injEq, Option.some.injEq]
    constructor
    · rintro (⟨rfl, rfl⟩ | here)
      · exact .inl ⟨rfl, rfl⟩
      · refine .inr ⟨?_, here⟩
        rintro rfl
        rw [unused] at here
        cases here
    · rintro (⟨rfl, rfl⟩ | ⟨_, here⟩)
      · exact .inl ⟨rfl, rfl⟩
      · exact .inr here

theorem ProtoInvariant.destroy (invariant : ProtoInvariant env trace s)
    (taken : ofprotoDestroy env portName s ref = .ok (rc, next)) :
    ProtoInvariant env (⟨s, .destroy ref, rc, next⟩ :: trace) next := by
  obtain ⟨texts, used, protos, memory⟩ := destroy_cases taken
  have linked := (invariant.linked (env.hashString texts.name) ref).mpr ⟨texts, used, rfl⟩
  have values := Hmap.values_remove_perm linked
  have nodup := List.nodup_cons.mp (values.nodup_iff.mpr invariant.once)
  refine ⟨?_, ?_, ?_⟩
  · intro hash other
    rw [protos, memory]
    simp only [update_memory_eq_some, reduceCtorEq, and_false, false_or]
    constructor
    · intro member
      obtain ⟨found, here, isHash⟩ := (invariant.linked hash other).mp (Hmap.mem_nodes_remove member)
      refine ⟨found, ⟨?_, here⟩, isHash⟩
      rintro rfl
      exact nodup.1 (Hmap.mem_values.mpr ⟨hash, member⟩)
    · rintro ⟨found, ⟨notRef, here⟩, isHash⟩
      have member := (invariant.linked hash other).mpr ⟨found, here, isHash⟩
      refine (Hmap.nodes_remove_perm s.protos _ ref).mem_iff.mpr
        ((List.mem_erase_of_ne ?_).mpr member)
      intro same
      exact notRef (congrArg Prod.snd same)
  · rw [protos]
    exact nodup.2
  · intro other found
    rw [liveProtos, List.mem_filter, invariant.recorded, memory, update_memory_eq_some]
    simp only [decide_eq_true_eq, reduceCtorEq, and_false, false_or]
    exact and_comm

theorem protoInvariant_noProtos (env : Env) : ProtoInvariant env [] noProtos where
  linked := by
    intro hash ref
    simp [noProtos]
  once := by simp [noProtos, Hmap.values]
  recorded := by
    intro ref texts
    simp [liveProtos, noProtos]

theorem ProtoInvariant.step {call : ProtoCall} (invariant : ProtoInvariant env trace s)
    (gets : getsDevice s call = true)
    (taken : protoStep env portName maxEntries s call = .ok (rc, next)) :
    ProtoInvariant env (⟨s, call, rc, next⟩ :: trace) next := by
  cases call with
  | create ref texts outcome =>
      have good := (create_cases taken).2.2.2.2.mpr gets
      subst good
      exact invariant.create taken
  | destroy ref => exact invariant.destroy taken

theorem protoInvariant_of_run (run : ProtoRun env portName maxEntries noProtos trace s)
    (gets : Runs.Along (fun _ event => getsDevice event.before event.input = true) trace) :
    ProtoInvariant env trace s :=
  run.invariant (protoInvariant_noProtos env)
    (fun _ _ _ _ _ invariant taken allowed => invariant.step allowed taken) gets

theorem not_namesExact_of_failed {outcome : InitOutcome} {later : ProtoTrace}
    (failed : getsDevice s (.create ref texts outcome) = false)
    (taken : ofprotoCreate env maxEntries s ref texts outcome = .ok (rc, next)) :
    ¬ NamesExact env later next := by
  intro exact
  obtain ⟨_, _, protos, memory, good⟩ := create_cases taken
  rw [failed] at good
  have notGood : rc ≠ .ok := fun isGood => nomatch good.mp isGood
  rw [if_neg notGood] at memory
  have freed : next.memory ref = none := by
    rw [memory, Function.update_self]
  have linked : ref ∈ next.protos.values := by
    rw [protos]
    exact (Hmap.values_insert_perm env.growth s.protos _ ref).mem_iff.mpr List.mem_cons_self
  obtain ⟨names, returned, _⟩ := exact.enumerated []
  exact enumerateNamesIn_freed [] freed next.protos.values ∅ linked names returned

end Steps

theorem named_of_along (run : ProtoRun env portName maxEntries noProtos trace s)
    (named : Runs.Along (fun _ event => namedLikeType event.input = true) trace) :
    ∀ entry ∈ liveProtos trace, entry.2.name = entry.2.type := by
  induction run with
  | nil => exact fun _ member => nomatch member
  | @cons earlier state call reply next _ _ ih =>
      intro entry live
      cases call with
      | create ref texts outcome =>
          rw [liveProtos] at live
          split at live
          · rcases List.mem_cons.mp live with rfl | old
            · exact of_decide_eq_true named.1
            · exact ih named.2 entry old
          · exact ih named.2 entry live
      | destroy ref =>
          rw [liveProtos] at live
          exact ih named.2 entry (List.mem_filter.mp live).1

def keepsNames (s : ProtoSys) (call : ProtoCall) : Bool := getsDevice s call && namedLikeType call

theorem namesExact_step_iff {call : ProtoCall}
    (before : ProtoRun env portName maxEntries noProtos trace s)
    (kept : Runs.Along (fun _ event => keepsNames event.before event.input = true) trace)
    (taken : protoStep env portName maxEntries s call = .ok (rc, next)) :
    NamesExact env (⟨s, call, rc, next⟩ :: trace) next ↔ keepsNames s call = true := by
  have both := kept.mono fun _ _ keeps => Bool.and_eq_true_iff.mp keeps
  have invariant := protoInvariant_of_run before (both.mono fun _ _ keeps => keeps.1)
  have named := both.mono fun _ _ keeps => keeps.2
  rw [keepsNames, Bool.and_eq_true]
  by_cases gets : getsDevice s call = true
  · rw [(invariant.step gets taken).namesExact_iff]
    constructor
    · intro allNamed
      refine ⟨gets, ?_⟩
      cases call with
      | create ref texts outcome =>
          have good := (create_cases taken).2.2.2.2.mpr gets
          subst good
          exact decide_eq_true (allNamed (ref, texts) List.mem_cons_self)
      | destroy ref => rfl
    · intro keeps
      exact named_of_along (before.cons taken) ⟨keeps.2, named⟩
  · refine iff_of_false ?_ fun keeps => gets keeps.1
    cases call with
    | create ref texts outcome => exact not_namesExact_of_failed (Bool.not_eq_true _ ▸ gets) taken
    | destroy ref => exact (gets rfl).elim

/-- In every history the registry answers for the live ofprotos after each call exactly when
every construction gets its device and every ofproto is named like its type. -/
theorem names_exact_iff_named_like_type (env : Env) (portName : Nat → Option PortName)
    (maxEntries : Nat) {trace : ProtoTrace} {s : ProtoSys}
    (run : ProtoRun env portName maxEntries noProtos trace s) :
    Runs.Along (fun earlier event => NamesExact env (event :: earlier) event.after) trace ↔
      Runs.Along (fun _ event => keepsNames event.before event.input = true) trace := by
  induction run with
  | nil => exact Iff.rfl
  | cons before taken ih =>
      constructor
      · rintro ⟨exactNow, exactEarlier⟩
        have kept := ih.mp exactEarlier
        exact ⟨(namesExact_step_iff before kept taken).mp exactNow, kept⟩
      · rintro ⟨keepsNow, kept⟩
        exact ⟨(namesExact_step_iff before kept taken).mpr keepsNow, ih.mpr kept⟩

def createProto (ref : OfprotoRef) (name type : String) (agingTimeoutSet : Status) : ProtoCall :=
  .create ref ⟨name.toList, type.toList⟩ { accepted with agingTimeoutSet }

theorem names_exact_of_bridge_and_vrf : ∃ trace s,
    ProtoRun idealEnv (fun _ => none) 16384 noProtos trace s ∧ trace.length = 3 ∧
      Runs.Along (fun earlier event => NamesExact idealEnv (event :: earlier) event.after)
        trace := by
  obtain ⟨trace, s, run, three, kept⟩ := protoRun_of_check idealEnv (fun _ => none) 16384 noProtos
    [createProto 0 "system" "system" .ok, createProto 1 "vrf" "vrf" .fail, .destroy 0]
    (fun trace _ => trace.length = 3 ∧
      Runs.Along (fun _ event => keepsNames event.before event.input = true) trace)
    (by decide +kernel)
  exact ⟨trace, s, run, three,
    (names_exact_iff_named_like_type idealEnv (fun _ => none) 16384 run).mpr kept⟩

/-- The bridge `bridge_normal` of type `system` is enumerated as `system`; and after a
failed construction both readers read freed memory. -/
theorem bridge_enumerated_by_type :
    (∃ trace s, ProtoRun idealEnv (fun _ => none) 16384 noProtos trace s ∧
      (0, ⟨"bridge_normal".toList, "system".toList⟩) ∈ liveProtos trace ∧
      (opsFpaOfprotoEnumerateNames s "system".toList ∅).toOption = some {"system".toList} ∧
      ¬ NamesExact idealEnv trace s) ∧
    (∃ trace s, ProtoRun idealEnv (fun _ => none) 16384 noProtos trace s ∧
      liveProtos trace = [] ∧
      (opsFpaOfprotoEnumerateNames s "system".toList ∅).toOption = none ∧
      (opsFpaOfprotoLookup idealEnv s "bridge_normal".toList).toOption = none ∧
      ¬ NamesExact idealEnv trace s) := by
  constructor
  · obtain ⟨trace, s, run, live, returned⟩ := protoRun_of_check idealEnv (fun _ => none) 16384
      noProtos [createProto 0 "bridge_normal" "system" .ok]
      (fun trace s => (0, ⟨"bridge_normal".toList, "system".toList⟩) ∈ liveProtos trace ∧
        (opsFpaOfprotoEnumerateNames s "system".toList ∅).toOption = some {"system".toList})
      (by decide +kernel)
    refine ⟨trace, s, run, live, returned, ?_⟩
    intro exact
    obtain ⟨names, isNames, members⟩ := exact.enumerated "system".toList
    rw [isNames] at returned
    cases returned
    have listed := (members "bridge_normal".toList).mpr ⟨_, live, rfl, rfl⟩
    exact absurd listed (by decide)
  · obtain ⟨trace, s, run, none, enumerates, looks⟩ := protoRun_of_check idealEnv (fun _ => none)
      16384 noProtos [createProto 0 "bridge_normal" "system" .fail]
      (fun trace s => liveProtos trace = [] ∧
        (opsFpaOfprotoEnumerateNames s "system".toList ∅).toOption = none ∧
        (opsFpaOfprotoLookup idealEnv s "bridge_normal".toList).toOption = none)
      (by decide +kernel)
    refine ⟨trace, s, run, none, enumerates, looks, ?_⟩
    intro exact
    obtain ⟨names, isNames, _⟩ := exact.enumerated "system".toList
    rw [isNames] at enumerates
    cases enumerates

end FpaPlugin
