import FpaPlugin.TapMaps

/-! Where `asic_listener` writes. It trusts the fd of its map from the moment it has seen
its control pipe empty until the write; the main thread closes fds and opens new ones in
between without waiting for it. -/

namespace FpaPlugin

variable {growth : HmapGrowth} {s next : TapSys}

def OwnOrClosed (s : TapSys) (portNum fd : BitVec 32) : Prop :=
  s.kernel fd = some portNum ∨ s.kernel fd = none

/-- The write that `asic_listener` is about to make goes to the TAP of the packet's port, or
nowhere. -/
def WritesOwn (s : TapSys) : Prop :=
  ∀ portNum fd, s.asic = .found portNum fd → OwnOrClosed s portNum fd

/-- The fd that `asic_listener` writes its packet to, once it reads no more commands. -/
def committedFd (s : TapSys) : Option (BitVec 32 × BitVec 32) :=
  match s.asic with
  | .drained portNum => (getIfEntry (s.maps .asic) portNum).map fun entry => (portNum, entry.fd)
  | .found portNum fd => some (portNum, fd)
  | _ => none

/-- No new TAP gets the fd that `asic_listener` is about to write another port's packet to. -/
def sparesCommittedFd (s : TapSys) : TapStep → Bool
  | .tunAlloc tapIf => (committedFd s).all fun committed =>
      committed.2 ≠ tapIf.fd || committed.1 = tapIf.portNum
  | _ => true

def CommittedSound (s : TapSys) : Prop :=
  ∀ portNum fd, committedFd s = some (portNum, fd) → OwnOrClosed s portNum fd

theorem CommittedSound.writesOwn (sound : CommittedSound s) : WritesOwn s := by
  intro portNum fd isFound
  apply sound portNum fd
  rw [committedFd, isFound]

theorem TapInvariant.kernel_of_found (invariant : TapInvariant growth s)
    (empty : s.info.ctrl .asic = []) {portNum : BitVec 32} {entry : TapIfEntry}
    (found : getIfEntry (s.maps .asic) portNum = some entry) :
    s.kernel entry.fd = some portNum := by
  have files := invariant.files .asic
  have arrived : s.arrived growth .asic = s.maps .asic := by
    rw [TapSys.arrived, empty]
    rfl
  rw [arrived] at files
  have isNode := Hmap.firstWithHash_some found
  have bound := files.bounded _ isNode rfl
  have small : portNum.toNat < 2147483648 := by
    have width := portNum.isLt
    rw [sizeOfInt_eq] at bound
    split_ifs at bound <;> omega
  have sameHash : sizeOfInt portNum = portNum.toNat := by
    rw [sizeOfInt_eq, if_pos small]
  have isFindable : findable .asic (sizeOfInt portNum, entry) = true := by
    rw [sameHash]
    exact decide_eq_true small
  have filed := files.found.mem_iff.mp (List.mem_filter.mpr ⟨isNode, isFindable⟩)
  obtain ⟨tapIf, isTold, sameNode⟩ := List.mem_map.mp (List.mem_filter.mp filed).1
  simp only [TapIf.node, Prod.mk.injEq] at sameNode
  obtain ⟨samePort, rfl⟩ := sameNode
  have isPort : tapIf.portNum = portNum := by
    apply BitVec.eq_of_toNat_eq
    rw [samePort, sameHash]
  rw [← isPort]
  exact invariant.opened tapIf (TapSys.mem_interfaces_of_told isTold)

theorem CommittedSound.congr (sound : CommittedSound s) (sameAsic : next.asic = s.asic)
    (sameMap : next.maps .asic = s.maps .asic) (sameKernel : next.kernel = s.kernel) :
    CommittedSound next := by
  intro portNum fd committed
  rw [committedFd, sameAsic, sameMap] at committed
  rw [OwnOrClosed, sameKernel]
  exact sound portNum fd committed

theorem CommittedSound.tunAlloc (sound : CommittedSound s) {tapIf : TapIf} {phase : MainPhase}
    (spares : sparesCommittedFd s (.tunAlloc tapIf) = true) :
    CommittedSound
      { s with
        kernel := Function.update s.kernel tapIf.fd (some tapIf.portNum)
        main := phase } := by
  intro portNum fd committed
  have isCommitted : committedFd s = some (portNum, fd) := committed
  simp only [sparesCommittedFd, isCommitted, Option.all_some, Bool.or_eq_true,
    decide_eq_true_eq] at spares
  by_cases here : fd = tapIf.fd
  · have isOwn := spares.resolve_left fun different => different here
    simp only [OwnOrClosed, here, isOwn, Function.update_self, true_or]
  · simp only [OwnOrClosed, Function.update_of_ne here]
    exact sound portNum fd isCommitted

theorem CommittedSound.closeFd (sound : CommittedSound s) {closed : BitVec 32}
    {phase : MainPhase} :
    CommittedSound { s with kernel := Function.update s.kernel closed none, main := phase } := by
  intro portNum fd committed
  by_cases here : fd = closed
  · simp only [OwnOrClosed, here, Function.update_self, or_true]
  · simp only [OwnOrClosed, Function.update_of_ne here]
    exact sound portNum fd committed

theorem CommittedSound.moves (sound : CommittedSound s) (invariant : TapInvariant growth s)
    {step : TapStep} (spares : sparesCommittedFd s step = true) (moved : Moves growth s step next) :
    CommittedSound next := by
  cases moved with
  | tunAlloc => exact sound.tunAlloc spares
  | closeFd => exact sound.closeFd
  | insertIf | sendAdd | sendDel | findIf | removeIf => exact sound.congr rfl rfl rfl
  | @recv _ listener _ _ _ draining =>
      cases listener with
      | tap => exact sound.congr rfl rfl rfl
      | asic =>
          -- while commands are being read no fd has been settled on
          obtain ⟨packet, isDraining⟩ := draining rfl
          intro portNum fd committed
          simp only [committedFd, isDraining] at committed
          cases committed
  | await | receive =>
      intro portNum fd committed
      cases committed
  | @pipeEmpty portNum _ empty =>
      intro port fd committed
      obtain ⟨entry, found, isPair⟩ := Option.map_eq_some_iff.mp committed
      cases isPair
      exact .inl (invariant.kernel_of_found empty found)
  | @findPort portNum entry drained found =>
      intro port fd committed
      apply sound port fd
      rw [committedFd, drained]
      cases committed
      simp only [found, Option.map_some]

structure WriteInvariant (growth : HmapGrowth) (s : TapSys) : Prop where
  maps : TapInvariant growth s
  committed : CommittedSound s

theorem TapSys.Initial.writeInvariant (initial : s.Initial) : WriteInvariant growth s := by
  refine ⟨initial.tapInvariant, fun portNum fd committed => ?_⟩
  rw [committedFd, initial.asic] at committed
  cases committed

/-- A packet goes to the TAP of its own port, or nowhere, as long as no new TAP takes over
the fd that `asic_listener` has settled on. -/
theorem packets_reach_own_tap (growth : HmapGrowth) {start s : TapSys} {trace : TapTrace}
    (initial : start.Initial) (run : TapRun growth start trace s)
    (distinct : Runs.Along (fun _ event => createsNewPort event.before event.input = true) trace)
    (spares : Runs.Along (fun _ event => sparesCommittedFd event.before event.input = true) trace) :
    WritesOwn s := by
  have invariant : WriteInvariant growth s := by
    refine Runs.Run.stateInvariant initial.writeInvariant ?_ run (distinct.and spares)
    intro _ _ _ _ _ kept taken allowed
    have moved := tapStep_moves taken
    exact ⟨kept.maps.moves allowed.1 moved, kept.committed.moves kept.maps allowed.2 moved⟩
  exact invariant.committed.writesOwn

def packetForPort5 : List TapStep :=
  [.tunAlloc (tapIf5 5#32), .insertIf, .sendCmd, .sendCmd, .receive (some 5#32), .drainAsic,
    .pipeEmpty, .findPort]

theorem packets_reach_port_5 : ∃ trace s, TapRun ovsGrowth idleTap trace s ∧
    s.asic = .found 5#32 7#32 ∧ WritesOwn s := by
  obtain ⟨trace, s, run, isFound, distinct, spares⟩ := tapRun_of_check ovsGrowth idleTap
    packetForPort5
    (fun trace s => s.asic = .found 5#32 7#32 ∧
      Runs.Along (fun _ event => createsNewPort event.before event.input = true) trace ∧
      Runs.Along (fun _ event => sparesCommittedFd event.before event.input = true) trace)
    (by decide +kernel)
  exact ⟨trace, s, run, isFound, packets_reach_own_tap ovsGrowth idleTap_initial run distinct spares⟩

/-- Fd 7 is closed and handed to port 6 before the packet of port 5 is written to it. -/
theorem packet_written_to_reused_fd : ∃ trace s, TapRun ovsGrowth idleTap trace s ∧
    Runs.Along (fun _ event => createsNewPort event.before event.input = true) trace ∧
    s.asic = .found 5#32 7#32 ∧ s.kernel 7#32 = some 6#32 ∧ ¬ WritesOwn s := by
  obtain ⟨trace, s, run, distinct, isFound, reused⟩ := tapRun_of_check ovsGrowth idleTap
    (packetForPort5 ++ [.findIf 7#32, .sendCmd, .sendCmd, .removeIf, .closeFd,
      .tunAlloc ⟨"6".toList, 7#32, 6#32, 1#48⟩])
    (fun trace s =>
      Runs.Along (fun _ event => createsNewPort event.before event.input = true) trace ∧
        s.asic = .found 5#32 7#32 ∧ s.kernel 7#32 = some 6#32)
    (by decide +kernel)
  refine ⟨trace, s, run, distinct, isFound, reused, fun own => ?_⟩
  rcases own 5#32 7#32 isFound with isOwn | closed
  · rw [reused] at isOwn
    exact absurd isOwn (by decide)
  · rw [reused] at closed
    cases closed

end FpaPlugin
