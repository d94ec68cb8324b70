import FpaPlugin.PortRegistry

/-! `ops_fpa_get_ofport_by_pid` returns the head of a bucket whatever its hash. For a set
of ports and a pid the answer is right in every order of registration exactly when no
other port of the set falls into the bucket of the pid. -/

namespace FpaPlugin

variable {env : Env}

def rightPort (ports : List (OfportRef × Int)) (pid : Int) : Option OfportRef :=
  (ports.find? fun port => port.2 = pid).map Prod.fst

def registersPorts (_ : Trace) (event : Event) : Bool :=
  match event.input with
  | .portConstruct _ _ ref _ _ => (event.before.ofports ref).isNone
  | .bundleSet _ _ (some _) => true
  | _ => false

def registryBucket (env : Env) (count : Nat) (pid : Int) : Nat :=
  hashOfPid pid &&& registryMask env.growth count

section Lookup

variable {s : Sys} {ports : List (OfportRef × Int)} {view : Hmap OfportRef}

theorem Registers.lookup_eq (holds : Registers env s ports view) (pid : Int) :
    opsFpaGetOfportByPid s pid =
      ((view.chain (registryBucket env ports.length pid)).head?).map Prod.snd := by
  rw [opsFpaGetOfportByPid, holds.represents.firstInBucket, Hmap.firstInBucket_eq, holds.mask,
    registryBucket]

theorem Registers.mem_chain (holds : Registers env s ports view) {bucket : Nat}
    {node : Nat × OfportRef} (member : node ∈ view.chain bucket) :
    ∃ port ∈ ports, node = (hashOfPid port.2, port.1) ∧
      registryBucket env ports.length port.2 = bucket := by
  have placed := view.placed bucket node member
  have inNodes : node ∈ view.nodes := Hmap.mem_nodes.mpr (by rwa [placed])
  obtain ⟨port, isPort, isNode⟩ := List.mem_map.mp (holds.nodes.mem_iff.mp inNodes)
  refine ⟨port, isPort, isNode.symm, ?_⟩
  rw [registryBucket, ← holds.mask, ← placed, ← isNode]

theorem Registers.chain_of_mem (holds : Registers env s ports view) {port : OfportRef × Int}
    (member : port ∈ ports) :
    (hashOfPid port.2, port.1) ∈ view.chain (registryBucket env ports.length port.2) := by
  have inNodes : (hashOfPid port.2, port.1) ∈ view.nodes :=
    holds.nodes.mem_iff.mpr (List.mem_map.mpr ⟨port, member, rfl⟩)
  have inChain := Hmap.mem_nodes.mp inNodes
  rwa [holds.mask] at inChain

theorem rightPort_eq_some {ref : OfportRef} {pid : Int} (pids : (ports.map Prod.snd).Nodup)
    (member : (ref, pid) ∈ ports) : rightPort ports pid = some ref := by
  induction ports with
  | nil => cases member
  | cons port rest ih =>
      obtain ⟨absent, unique⟩ := List.nodup_cons.mp pids
      rw [rightPort, List.find?_cons]
      rcases List.mem_cons.mp member with rfl | later
      · simp
      · have different : port.2 ≠ pid := by
          intro same
          exact absent (List.mem_map.mpr ⟨(ref, pid), later, same.symm⟩)
        have skipped : decide (port.2 = pid) = false := by simpa using different
        rw [skipped]
        exact ih unique later

theorem rightPort_eq_none {pid : Int} (absent : ∀ port ∈ ports, port.2 ≠ pid) :
    rightPort ports pid = none := by
  rw [rightPort, Option.map_eq_none_iff, List.find?_eq_none]
  intro port member
  simpa using absent port member

theorem rightPort_perm {other : List (OfportRef × Int)} (pids : (ports.map Prod.snd).Nodup)
    (perm : other.Perm ports) (pid : Int) : rightPort other pid = rightPort ports pid := by
  have otherPids := (perm.map Prod.snd).nodup_iff.mpr pids
  by_cases known : ∃ ref, (ref, pid) ∈ ports
  · obtain ⟨ref, member⟩ := known
    rw [rightPort_eq_some pids member, rightPort_eq_some otherPids (perm.mem_iff.mpr member)]
  · have absent : ∀ port ∈ ports, port.2 ≠ pid := by
      rintro ⟨ref, _⟩ member rfl
      exact known ⟨ref, member⟩
    rw [rightPort_eq_none absent,
      rightPort_eq_none fun port member => absent port (perm.mem_iff.mp member)]

theorem Registers.lookup_right (holds : Registers env s ports view)
    (pids : (ports.map Prod.snd).Nodup) {pid : Int}
    (apart : ∀ port ∈ ports, port.2 ≠ pid →
      registryBucket env ports.length port.2 ≠ registryBucket env ports.length pid) :
    opsFpaGetOfportByPid s pid = rightPort ports pid := by
  rw [holds.lookup_eq]
  cases chain : view.chain (registryBucket env ports.length pid) with
  | nil =>
      refine (rightPort_eq_none ?_).symm
      rintro port member rfl
      have inChain := holds.chain_of_mem member
      rw [chain] at inChain
      cases inChain
  | cons node rest =>
      have inChain : node ∈ view.chain (registryBucket env ports.length pid) := by
        rw [chain]
        exact List.mem_cons_self
      obtain ⟨port, member, isNode, sameBucket⟩ := holds.mem_chain inChain
      have isPid : port.2 = pid := by
        by_contra different
        exact apart port member different sameBucket
      subst isPid
      rw [rightPort_eq_some pids member, isNode]
      rfl

theorem Registers.lookup_unregistered (holds : Registers env s ports view) {pid : Int}
    {port : OfportRef × Int} (member : port ∈ ports)
    (collide : registryBucket env ports.length port.2 = registryBucket env ports.length pid) :
    opsFpaGetOfportByPid s pid ≠ none := by
  have inChain := holds.chain_of_mem member
  rw [collide] at inChain
  rw [holds.lookup_eq]
  cases chain : view.chain (registryBucket env ports.length pid) with
  | nil =>
      rw [chain] at inChain
      cases inChain
  | cons node rest => simp

end Lookup

theorem registryMask_nested (growth : HmapGrowth) : ∀ {count more : Nat}, count ≤ more →
    registryMask growth count &&& growth.calcMask more = registryMask growth count := by
  intro count
  induction count with
  | zero => exact fun _ => Nat.zero_and _
  | succ count ih =>
      intro more ordered
      rw [registryMask, Hmap.nextMask]
      split
      · exact growth.nested ordered
      · exact ih (by omega)

/-! Any order of registration happens: each port is constructed in ofproto 0 under the
next free number, and a bundle without VLANs or routing is created for it. -/

section Registering

variable {s state : Sys} {trace : Trace}

def quietSettings (state : Sys) (slave : Nat) : BundleSettings :=
  { idleSettings with slaves := [slave], name := (state.ofprotos 0).name }

structure ReadyFor (env : Env) (state : Sys) (done : List (OfportRef × Int)) : Prop where
  keyed : BundlesKeyed env state
  free : ∀ aux, done.length ≤ aux → opsFpaFindBundle env state 0 aux = none
  memory : ∀ ref, ref ∉ done.map Prod.fst → state.ofports ref = none

theorem bundleSet_quiet {slave aux : Nat} {ref : OfportRef} {port : Ofport} {ensured : Sys}
    (keyed : BundlesKeyed env s) (absent : opsFpaFindBundle env s 0 aux = none)
    (isRef : ofprotoGetPort s 0 slave = some ref) (isPort : s.ofports ref = some port)
    (isSystem : port.netdev.type = .system)
    (created : ensureBundle env s 0 aux slave (s.ofprotos 0).name = .ok ensured) :
    opsFpaOfprotoBundleSet env s 0 aux (some (quietSettings s slave)) = .ok (.ok, ensured) := by
  obtain ⟨old, origin, nowFound⟩ := findBundle_ensureBundle keyed created
  have found := nowFound 0 aux
  rw [if_pos ⟨rfl, rfl⟩] at found
  have isNew : old = newBundle s 0 aux slave := by
    rcases origin with wasFound | ⟨_, isNew⟩
    · rw [absent] at wasFound
      cases wasFound
    · exact isNew
  subst isNew
  obtain ⟨_, sameName, samePorts, _⟩ := ensureBundle_ofproto created 0
  have sameOfports : ensured.ofports = s.ofports := (ensureBundle_frame created).2.2.2.1
  simp only [opsFpaOfprotoBundleSet, quietSettings, created, found]
  cases (ensured.ofprotos 0).type with
  | system =>
      simp only [configureL2, sameName]
      split
      · rfl
      · simp
  | vrf =>
      have slavePort : (ofprotoGetPort ensured 0 slave).bind ensured.ofports = some port := by
        rw [ofprotoGetPort, samePorts, sameOfports, ← ofprotoGetPort, isRef]
        exact isPort
      simp [configureVrf, slavePort, isSystem, routedVlanId, idleSettings, overrunsRouting,
        configureRouting,
        disableIdleRouting, newBundle, bundleIpReconfigure, found]

theorem ReadyFor.register {order : List (OfportRef × Int)} (ready : ReadyFor env state order)
    {ref : OfportRef} {pid : Int} {name : CString} {ensured : Sys}
    (keyed : BundlesKeyed env (opsFpaOfprotoPortConstruct state 0 order.length ref
      (systemNetdev pid) 0))
    (created : ensureBundle env (opsFpaOfprotoPortConstruct state 0 order.length ref
      (systemNetdev pid) 0) 0 order.length order.length name = .ok ensured) :
    ReadyFor env ensured ((ref, pid) :: order) where
  keyed := ensureBundle_keyed keyed created
  free := by
    intro aux beyond
    obtain ⟨_, _, nowFound⟩ := findBundle_ensureBundle keyed created
    rw [List.length_cons] at beyond
    have different : ¬((0 : OfprotoRef) = 0 ∧ aux = order.length) := by omega
    rw [nowFound, if_neg different, findBundle_portConstruct]
    exact ready.free aux (by omega)
  memory := by
    intro other notListed
    have sameOfports := (ensureBundle_frame created).2.2.2.1
    rw [List.map_cons, List.mem_cons, not_or] at notListed
    rw [sameOfports]
    simpa [opsFpaOfprotoPortConstruct, Function.update_of_ne notListed.1] using
      ready.memory other notListed.2

theorem register_next (initial : Initial s) (run : Run env s trace state)
    (registers : Runs.Along (fun earlier event => registersPorts earlier event) trace)
    (ready : ReadyFor env state (registered env trace)) {ref : OfportRef} {pid : Int}
    (once : ((registered env trace).map Prod.fst).Nodup)
    (fresh : ref ∉ (registered env trace).map Prod.fst) (valid : pid ≠ fpaInvalidIntfId) :
    ∃ longer next view, Run env s longer next ∧
      Runs.Along (fun earlier event => registersPorts earlier event) longer ∧
      registered env longer = (ref, pid) :: registered env trace ∧
      ReadyFor env next (registered env longer) ∧
      Registers env state (registered env trace) view ∧
      Registers env next (registered env longer)
        (view.insert env.growth (hashOfPid pid) ref) := by
  obtain ⟨view, holds⟩ := run_registers initial run once
  let count := (registered env trace).length
  let port : Ofport := ⟨count, systemNetdev pid, 0, Bitmap.zero⟩
  let constructed := opsFpaOfprotoPortConstruct state 0 count ref (systemNetdev pid) 0
  have taken : step env state (.portConstruct 0 count ref (systemNetdev pid) 0) =
      .ok (.ok, constructed) := rfl
  have keyed : BundlesKeyed env constructed := step_keyed ready.keyed taken
  have absent : opsFpaFindBundle env constructed 0 count = none := by
    rw [findBundle_portConstruct]
    exact ready.free count le_rfl
  have isRef : ofprotoGetPort constructed 0 count = some ref := by
    simp [constructed, ofprotoGetPort, opsFpaOfprotoPortConstruct]
  have isPort : constructed.ofports ref = some port := by
    simp [constructed, port, opsFpaOfprotoPortConstruct]
  have isPid : netdevGetIfindex port.netdev = pid := rfl
  have unlinked : ref ∉ view.values := fun member => fresh (holds.values.mem_iff.mp member)
  obtain ⟨after, inserted, _⟩ := holds.represents.insert env.growth unlinked (hashOfPid pid)
  obtain ⟨ensured, created⟩ : ∃ ensured,
      ensureBundle env constructed 0 count count (constructed.ofprotos 0).name = .ok ensured := by
    have samePorts : constructed.portsByPid = state.portsByPid := rfl
    simp [ensureBundle, absent, createBundle, isRef, isPort, isPid, valid, samePorts, inserted]
  have quiet := bundleSet_quiet keyed absent isRef isPort rfl created
  have isNew : registration env ⟨constructed, .bundleSet 0 count (some (quietSettings constructed count)),
      .ok, ensured⟩ = some (ref, pid) := by
    simp [registration, quietSettings, absent, isRef, isPort, isPid, valid]
  have linked : state.portsByPid.insert env.growth ref (hashOfPid pid) = some ensured.portsByPid := by
    rcases bundleSet_registration quiet with ⟨none, _⟩ | ⟨newRef, newPid, same, linked⟩
    · rw [isNew] at none
      cases none
    · rw [isNew] at same
      cases same
      exact linked
  let event : Event := ⟨state, .portConstruct 0 count ref (systemNetdev pid) 0, .ok, constructed⟩
  let event' : Event := ⟨constructed, .bundleSet 0 count (some (quietSettings constructed count)),
    .ok, ensured⟩
  have isRegistered : registered env (event' :: event :: trace) =
      (ref, pid) :: registered env trace := by
    rw [registered, isNew]
    rfl
  refine ⟨event' :: event :: trace, ensured, view, (run.cons taken).cons quiet, ?_, isRegistered,
    ?_, holds, ?_⟩
  · have unused : state.ofports ref = none := ready.memory ref fresh
    exact ⟨rfl, by simp [registersPorts, event, unused], registers⟩
  · rw [isRegistered]
    exact ready.register keyed created
  · rw [isRegistered]
    exact holds.insert fresh linked

theorem exists_registering_run (initial : Initial s) : ∀ (order : List (OfportRef × Int)),
    (order.map Prod.fst).Nodup → (∀ port ∈ order, port.2 ≠ fpaInvalidIntfId) →
    ∃ trace state, Run env s trace state ∧
      Runs.Along (fun earlier event => registersPorts earlier event) trace ∧
      registered env trace = order ∧ ReadyFor env state order := by
  intro order
  induction order with
  | nil =>
      intro _ _
      refine ⟨[], s, .nil, trivial, rfl, initial.bundlesKeyed, ?_, ?_⟩
      · intro aux _
        exact initial.findBundle_none 0 aux
      · intro ref _
        rw [initial.ofports]
  | cons port rest ih =>
      intro once valid
      obtain ⟨fresh, restOnce⟩ := List.nodup_cons.mp once
      obtain ⟨trace, state, run, registers, isRegistered, ready⟩ :=
        ih restOnce fun other member => valid other (List.mem_cons_of_mem _ member)
      rw [← isRegistered] at ready restOnce fresh
      obtain ⟨longer, next, _, run', registers', isLonger, ready', _⟩ :=
        register_next initial run registers ready restOnce fresh (valid port List.mem_cons_self)
      rw [isRegistered] at isLonger
      exact ⟨longer, next, run', registers', isLonger, isLonger ▸ ready'⟩

end Registering

section Collision

variable {s : Sys} {ports : List (OfportRef × Int)}

/-- Two ports that collide can be registered so that the second is not found under its
own id: it comes first and is covered, or it comes last and growth puts it behind. -/
theorem collision_misleads (initial : Initial s) {port foreign : OfportRef × Int}
    (once : ((port :: foreign :: ports).map Prod.fst).Nodup)
    (valid : ∀ known ∈ port :: foreign :: ports, known.2 ≠ fpaInvalidIntfId)
    (collide : registryBucket env (ports.length + 2) foreign.2 =
      registryBucket env (ports.length + 2) port.2) :
    ∃ trace state, Run env s trace state ∧
      Runs.Along (fun earlier event => registersPorts earlier event) trace ∧
      (registered env trace).Perm (port :: foreign :: ports) ∧
      opsFpaGetOfportByPid state port.2 ≠ some port.1 := by
  have mask : registryMask env.growth (ports.length + 2) =
      Hmap.nextMask env.growth (registryMask env.growth (ports.length + 1)) (ports.length + 2) := rfl
  rw [registryBucket, registryBucket, mask, Hmap.nextMask] at collide
  by_cases grows : registryMask env.growth (ports.length + 1) < (ports.length + 2) / 2 ∧
      registryMask env.growth (ports.length + 1) < env.growth.calcMask (ports.length + 2)
  · rw [if_pos grows] at collide
    obtain ⟨fresh, restOnce⟩ := List.nodup_cons.mp once
    obtain ⟨trace, state, run, registers, isRegistered, ready⟩ :=
      exists_registering_run initial (foreign :: ports) restOnce
        fun known member => valid known (List.mem_cons_of_mem _ member)
    rw [← isRegistered] at ready fresh restOnce
    obtain ⟨longer, next, view, run', registers', isLonger, _, holds, holds'⟩ :=
      register_next initial run registers ready restOnce fresh (valid port List.mem_cons_self)
    rw [isRegistered] at isLonger holds
    refine ⟨longer, next, run', registers', isLonger ▸ List.Perm.refl _, ?_⟩
    have represents := holds'.represents
    have grown := represents.once
    rw [opsFpaGetOfportByPid, represents.firstInBucket]
    rw [Hmap.insert_eq, holds.count, holds.mask, List.length_cons, if_pos grows] at grown ⊢
    have member : (hashOfPid foreign.2, foreign.1) ∈ view.nodes :=
      holds.nodes.mem_iff.mpr (by simp)
    refine Hmap.firstInBucket_resize_ne view ?_ ?_ member collide
    · rw [holds.mask]
      exact registryMask_nested env.growth (by simp)
    · have unlinked : port.1 ∉ view.values := by
        intro member
        rw [isRegistered] at fresh
        exact fresh (holds.values.mem_iff.mp member)
      exact (holds.represents.insertFast unlinked (hashOfPid port.2)).once
  · rw [if_neg grows] at collide
    have swapped : ((foreign :: port :: ports).map Prod.fst).Nodup :=
      ((List.Perm.swap port foreign ports).map Prod.fst).nodup_iff.mpr once
    have valid' : ∀ known ∈ foreign :: port :: ports, known.2 ≠ fpaInvalidIntfId :=
      fun known member => valid known ((List.Perm.swap port foreign ports).mem_iff.mp member)
    obtain ⟨fresh, restOnce⟩ := List.nodup_cons.mp swapped
    obtain ⟨trace, state, run, registers, isRegistered, ready⟩ :=
      exists_registering_run initial (port :: ports) restOnce
        fun known member => valid' known (List.mem_cons_of_mem _ member)
    rw [← isRegistered] at ready fresh restOnce
    obtain ⟨longer, next, view, run', registers', isLonger, _, holds, holds'⟩ :=
      register_next initial run registers ready restOnce fresh (valid' foreign List.mem_cons_self)
    rw [isRegistered] at isLonger holds
    refine ⟨longer, next, run', registers', isLonger ▸ List.Perm.swap _ _ _, ?_⟩
    rw [opsFpaGetOfportByPid, holds'.represents.firstInBucket, Hmap.insert_eq, holds.count,
      holds.mask, List.length_cons, if_neg grows, Hmap.firstInBucket_insertFast]
    · intro same
      rw [isRegistered] at fresh
      exact fresh (by simp [Option.some.inj same])
    · rw [holds.mask]
      exact collide.symm

end Collision

/-- For distinct ports and any id, the lookup is right after every order of registration
if and only if no other of the ports shares the bucket of the id. -/
theorem lookup_right_iff_no_collision (env : Env) {s : Sys} (initial : Initial s)
    (ports : List (OfportRef × Int)) (refs : (ports.map Prod.fst).Nodup)
    (pids : (ports.map Prod.snd).Nodup) (valid : ∀ port ∈ ports, port.2 ≠ fpaInvalidIntfId)
    (pid : Int) :
    (∀ trace state, Run env s trace state →
      Runs.Along (fun earlier event => registersPorts earlier event) trace →
      (registered env trace).Perm ports →
      opsFpaGetOfportByPid state pid = rightPort ports pid) ↔
    ∀ port ∈ ports, port.2 ≠ pid →
      registryBucket env ports.length port.2 ≠ registryBucket env ports.length pid := by
  constructor
  · intro right foreign member different collide
    by_cases known : ∃ ref, (ref, pid) ∈ ports
    · obtain ⟨ref, isKnown⟩ := known
      obtain ⟨others, perm⟩ : ∃ others, ports.Perm ((ref, pid) :: foreign :: others) := by
        have first := List.perm_cons_erase isKnown
        have second : foreign ∈ ports.erase (ref, pid) := by
          refine (List.mem_erase_of_ne ?_).mpr member
          rintro rfl
          exact different rfl
        exact ⟨_, first.trans ((List.perm_cons_erase second).cons _)⟩
      have lengths : ports.length = others.length + 2 := perm.length_eq
      rw [lengths] at collide
      obtain ⟨trace, state, run, registers, isPerm, wrong⟩ :=
        collision_misleads initial ((perm.map Prod.fst).nodup_iff.mp refs)
          (fun port isPort => valid port (perm.mem_iff.mpr isPort)) collide
      have answer := right trace state run registers (isPerm.trans perm.symm)
      rw [rightPort_eq_some pids isKnown] at answer
      exact wrong answer
    · have absent : ∀ port ∈ ports, port.2 ≠ pid := by
        rintro ⟨ref, _⟩ isPort rfl
        exact known ⟨ref, isPort⟩
      obtain ⟨trace, state, run, registers, isRegistered, _⟩ :=
        exists_registering_run initial ports refs valid
      have once := refs
      rw [← isRegistered] at once
      obtain ⟨view, holds⟩ := run_registers initial run once
      have answer := right trace state run registers (isRegistered ▸ List.Perm.refl _)
      rw [rightPort_eq_none absent] at answer
      rw [isRegistered] at holds
      exact holds.lookup_unregistered member collide answer
  · intro apart trace state run _ perm
    have once := ((perm.map Prod.fst).nodup_iff.mpr refs)
    have distinct := ((perm.map Prod.snd).nodup_iff.mpr pids)
    obtain ⟨view, holds⟩ := run_registers initial run once
    rw [← rightPort_perm pids perm]
    refine holds.lookup_right distinct ?_
    intro port member different
    rw [perm.length_eq]
    exact apart port (perm.mem_iff.mp member) different

theorem lookup_right_two_ports :
    ((∀ trace state, Run idealEnv idealSys trace state →
      Runs.Along (fun earlier event => registersPorts earlier event) trace →
      (registered idealEnv trace).Perm [(10, 1), (20, 2)] →
      opsFpaGetOfportByPid state 2 = rightPort [(10, 1), (20, 2)] 2) ↔
    ∀ port ∈ [((10 : OfportRef), (1 : Int)), (20, 2)], port.2 ≠ 2 →
      registryBucket idealEnv 2 port.2 ≠ registryBucket idealEnv 2 2) ∧
    ∀ port ∈ [((10 : OfportRef), (1 : Int)), (20, 2)], port.2 ≠ 2 →
      registryBucket idealEnv 2 port.2 ≠ registryBucket idealEnv 2 2 :=
  ⟨lookup_right_iff_no_collision idealEnv idealSys_initial [(10, 1), (20, 2)] (by decide) (by decide)
    (by decide) 2, by decide +kernel⟩

theorem lookup_wrong_on_collision : ∃ trace state, Run idealEnv idealSys trace state ∧
    Runs.Along (fun earlier event => registersPorts earlier event) trace ∧
    registered idealEnv trace = [(20, 5), (10, 1)] ∧
    opsFpaGetOfportByPid state 5 ≠ rightPort (registered idealEnv trace) 5 :=
  run_of_check idealEnv idealSys
    [.portConstruct 1 1 10 (systemNetdev 1) 1500, .portConstruct 1 2 20 (systemNetdev 5) 1500,
      .bundleSet 1 100 (some idleSettings),
      .bundleSet 1 101 (some { idleSettings with slaves := [2] })]
    (fun trace state => Runs.Along (fun earlier event => registersPorts earlier event) trace ∧
      registered idealEnv trace = [(20, 5), (10, 1)] ∧
      opsFpaGetOfportByPid state 5 ≠ rightPort (registered idealEnv trace) 5) (by decide +kernel)

end FpaPlugin
