import FpaPlugin.Lib.LastWrite
import FpaPlugin.NetdevLinks

/-! What the network devices write to the ports of the switch. Each field of a port is a register
with its own writers: `set_hw_intf_config` and `update_flags` for the administrative state,
`set_advertisements` for what is advertised. -/

namespace FpaPlugin

section Definitions

variable (env : NetdevEnv) (sid pid : Int)

def writesPort (s : NetdevSys) (name : CString) : Bool :=
  match s.find name with
  | none => false
  | some netdev =>
      (netdev.type = .system || netdev.type = .vlansubint) && netdev.sid = sid && netdev.pid = pid

def adminWrite (event : NetdevEvent) : Option Bool :=
  match event.input with
  | .setHwIntfConfig name args _ _ =>
      if event.reply.rc = .ok && writesPort sid pid event.before name then some args.enable
      else none
  | .updateFlags name off on _ _ =>
      if event.reply.rc = .ok && writesPort sid pid event.before name && (on || off) then some on
      else none
  | _ => none

/-- What an event makes a port advertise, as far as Open vSwitch can tell. -/
def advertWrite (event : NetdevEvent) : Option (BitVec 32) :=
  match event.input with
  | .setAdvertisements name advertise _ =>
      if event.reply.rc = .ok && writesPort sid pid event.before name then
        some (advertise &&& knownNetdevFeatures env.bits)
      else none
  | _ => none

/-- Nobody else administers a port, and whoever reads its configuration is told so by the
library. -/
def administersAlone (s : NetdevSys) : NetdevCall → Bool
  | .updateFlags _ _ _ answer _ => answer.all fun flags => flags .config
  | .portChanged sid pid port => isDown env port.config = isDown env (s.ports sid pid).config
  | _ => true

def advertisesAlone (s : NetdevSys) : NetdevCall → Bool
  | .portChanged sid pid port => port.advertBmp = (s.ports sid pid).advertBmp
  | _ => true

/-- A port runs at one speed at most, and only with what it supports. -/
def FeaturesSound (bits : FeatureBits) (port : PortValues) : Prop :=
  port.featuresBmp &&& port.supportedBmp = port.featuresBmp ∧
    ∀ feature ∈ speedFeatures, ∀ second ∈ speedFeatures,
      port.featuresBmp.getLsbD (bits.fpa feature) = true →
        port.featuresBmp.getLsbD (bits.fpa second) = true → feature = second

instance (bits : FeatureBits) (port : PortValues) : Decidable (FeaturesSound bits port) :=
  inferInstanceAs (Decidable (_ ∧ _))

def changesSoundly (call : NetdevCall) : Prop :=
  match call with
  | .portChanged _ _ port => FeaturesSound env.bits port
  | _ => True

instance (call : NetdevCall) : Decidable (changesSoundly env call) := by
  unfold changesSoundly
  split <;> infer_instance

def justPolled (name : CString) : List NetdevEvent → Bool
  | [] => false
  | event :: _ =>
      match event.input with
      | .run answers => (answers name).isSome
      | _ => false

end Definitions

section Moves

variable {env : NetdevEnv} {devEnv : Env} {portName : Nat → Option PortName} {maxEntries : Nat}
  {s next : NetdevSys}

inductive PortMove (env : NetdevEnv) (s next : NetdevSys) (reply : NetdevReply) : NetdevCall → Prop
  | kept {call : NetdevCall} (isNext : next.ports = s.ports)
      (noAdmin : ∀ sid pid, adminWrite sid pid ⟨s, call, reply, next⟩ = none)
      (noAdvert : ∀ sid pid, advertWrite env sid pid ⟨s, call, reply, next⟩ = none) :
      PortMove env s next reply call
  | configured {name : CString} {args : HwIntfConfig} {flags : PropertyFlag → Bool}
      {netdev : FpaNetdev} (found : s.find name = some netdev)
      (hasPort : netdev.type = .system ∨ netdev.type = .vlansubint) (accepted : reply.rc = .ok)
      (isNext : next.ports = setPort s.ports netdev.sid netdev.pid
        ((s.ports netdev.sid netdev.pid).write
          (configProperties env { s.ports netdev.sid netdev.pid with flags } args))) :
      PortMove env s next reply (.setHwIntfConfig name args (some flags) .ok)
  | flagged {name : CString} {off on : Bool} {flags : PropertyFlag → Bool} {config : BitVec 32}
      {netdev : FpaNetdev} (found : s.find name = some netdev)
      (hasPort : netdev.type = .system ∨ netdev.type = .vlansubint) (accepted : reply.rc = .ok)
      (asked : (on || off) = true) (isConfig : isDown env config = !on)
      (isNext : next.ports = setPort s.ports netdev.sid netdev.pid
        ((s.ports netdev.sid netdev.pid).write
          { s.ports netdev.sid netdev.pid with config, flags })) :
      PortMove env s next reply (.updateFlags name off on (some flags) .ok)
  | advertised {name : CString} {advertise : BitVec 32} {props : PortProperties}
      {netdev : FpaNetdev} (found : s.find name = some netdev) (isSystem : netdev.type = .system)
      (accepted : reply.rc = .ok)
      (isAdvert : props.advertBmp = netdevToFpaFeatures env.bits advertise)
      (isFlags : ∀ flag, props.flags flag = decide (flag = PropertyFlag.advertised))
      (isNext : next.ports = setPort s.ports netdev.sid netdev.pid
        ((s.ports netdev.sid netdev.pid).write props)) :
      PortMove env s next reply (.setAdvertisements name advertise .ok)
  | changed {sid pid : Int} {port : PortValues} (isNext : next.ports = setPort s.ports sid pid port) :
      PortMove env s next reply (.portChanged sid pid port)

theorem isDown_and_not (env : NetdevEnv) (config : BitVec 32) :
    isDown env (config &&& ~~~env.portConfigDown) = false := by
  have none : config &&& ~~~env.portConfigDown &&& env.portConfigDown = 0#32 := by
    ext i
    simp only [BitVec.getElem_and, BitVec.getElem_not, BitVec.getElem_zero]
    cases config[i] <;> cases env.portConfigDown[i] <;> rfl
  simp [isDown, none]

theorem isDown_or (env : NetdevEnv) (config : BitVec 32) :
    isDown env (config ||| env.portConfigDown) = true := by
  have all : (config ||| env.portConfigDown) &&& env.portConfigDown = env.portConfigDown := by
    ext i
    simp only [BitVec.getElem_and, BitVec.getElem_or]
    cases config[i] <;> cases env.portConfigDown[i] <;> rfl
  simpa [isDown, all] using env.portConfigDown_ne

theorem writesPort_of_found {name : CString} {netdev : FpaNetdev} (sid pid : Int)
    (found : s.find name = some netdev)
    (hasPort : netdev.type = .system ∨ netdev.type = .vlansubint) :
    writesPort sid pid s name = decide (netdev.sid = sid ∧ netdev.pid = pid) := by
  rw [writesPort, found]
  rcases hasPort with isSystem | isVlan
  · simp [isSystem]
  · simp [isVlan]

theorem adminWrite_refused {call : NetdevCall} {reply : NetdevReply} (sid pid : Int)
    (refused : reply.rc ≠ .ok) : adminWrite sid pid ⟨s, call, reply, next⟩ = none := by
  cases call <;> simp [adminWrite, refused]

theorem setHwIntfConfig_portMove {name : CString} {netdev : FpaNetdev} {args : HwIntfConfig}
    {answer : PortAnswer} {status : Status} (found : s.find name = some netdev)
    (hasPort : netdev.type = .system ∨ netdev.type = .vlansubint) {rc : NetdevRc}
    {record : FpaNetdev} {ports : PortTable}
    (called : opsFpaNetdevSetHwIntfConfig env s.ports netdev args answer status =
      (rc, record, ports)) :
    PortMove env s ({ s with ports }.put record) ⟨rc, none⟩
      (.setHwIntfConfig name args answer status) := by
  rw [opsFpaNetdevSetHwIntfConfig] at called
  split_ifs at called
  · cases called
    exact .kept rfl (fun sid pid => adminWrite_refused sid pid (by simp)) fun _ _ => rfl
  · cases answer with
    | none =>
        simp only [fpaLibPortPropertiesGet, Option.map_none] at called
        cases called
        exact .kept rfl (fun sid pid => adminWrite_refused sid pid (by simp)) fun _ _ => rfl
    | some flags =>
        simp only [fpaLibPortPropertiesGet, Option.map_some] at called
        cases status with
        | fail =>
            cases called
            exact .kept rfl (fun sid pid => adminWrite_refused sid pid (by simp)) fun _ _ => rfl
        | ok =>
            cases called
            exact .configured found hasPort rfl rfl

theorem updateFlags_portMove {name : CString} {netdev : FpaNetdev} {off on : Bool}
    {answer : PortAnswer} {status : Status} (found : s.find name = some netdev)
    (hasPort : netdev.type = .system ∨ netdev.type = .vlansubint) {rc : NetdevRc}
    {old : Option Bool} {ports : PortTable}
    (called : opsFpaNetdevUpdateFlags env s.ports netdev off on answer status = (rc, old, ports)) :
    PortMove env s { s with ports } ⟨rc, old⟩ (.updateFlags name off on answer status) := by
  rw [opsFpaNetdevUpdateFlags] at called
  split at called
  · cases called
    exact .kept rfl (fun sid pid => adminWrite_refused sid pid (by simp)) fun _ _ => rfl
  · cases answer with
    | none =>
        simp only [fpaLibPortPropertiesGet, Option.map_none] at called
        cases called
        exact .kept rfl (fun sid pid => adminWrite_refused sid pid (by simp)) fun _ _ => rfl
    | some flags =>
        simp only [fpaLibPortPropertiesGet, Option.map_some] at called
        by_cases asked : (on || off) = true
        · rw [if_pos asked] at called
          cases status with
          | fail =>
              cases called
              exact .kept rfl (fun sid pid => adminWrite_refused sid pid (by simp)) fun _ _ => rfl
          | ok =>
              cases called
              refine .flagged found hasPort rfl asked ?_ rfl
              cases on with
              | true => exact isDown_and_not env _
              | false => exact isDown_or env _
        · rw [if_neg asked] at called
          cases called
          have unasked : (on || off) = false := Bool.not_eq_true _ ▸ asked
          exact .kept rfl (fun sid pid => by simp [adminWrite, unasked]) fun _ _ => rfl

theorem netdevStep_portMove {call : NetdevCall} {reply : NetdevReply}
    (taken : netdevStep env devEnv portName maxEntries s call = .ok (reply, next)) :
    PortMove env s next reply call := by
  cases call with
  | construct name type =>
      simp only [netdevStep] at taken
      split at taken
      · cases taken
      · cases taken
        exact .kept rfl (fun _ _ => rfl) fun _ _ => rfl
  | destruct name =>
      obtain ⟨netdev, _, called⟩ := onNetdev_ok taken
      split at called
      · cases called
      · cases called
        exact .kept rfl (fun _ _ => rfl) fun _ _ => rfl
  | setHwIntfInfo name args outcome bridgeCreated =>
      obtain ⟨netdev, _, called⟩ := onNetdev_ok taken
      have samePorts : next.ports = s.ports := by
        rw [setHwIntfInfoStep] at called
        split at called
        · split at called
          · cases called
          · cases called
            rfl
        · split at called
          · cases called
          · cases called
            rfl
        · cases called
          rfl
        · cases called
          rfl
      exact .kept samePorts (fun _ _ => rfl) fun _ _ => rfl
  | setHwIntfConfig name args answer status =>
      obtain ⟨netdev, found, called⟩ := onNetdev_ok taken
      replace called := Except.ok.inj called
      rw [setHwIntfConfigStep] at called
      split at called
      · rename_i isSystem
        cases called
        exact setHwIntfConfig_portMove found (.inl isSystem) rfl
      · rename_i isVlan
        cases called
        exact setHwIntfConfig_portMove found (.inr isVlan) rfl
      · rename_i isInternal
        cases called
        refine .kept rfl (fun sid pid => ?_) fun _ _ => rfl
        simp [adminWrite, writesPort, found, isInternal]
      · cases called
        exact .kept rfl (fun sid pid => adminWrite_refused sid pid (by simp)) fun _ _ => rfl
  | setEtheraddr name mac =>
      obtain ⟨netdev, _, called⟩ := onNetdev_ok taken
      cases called
      exact .kept rfl (fun _ _ => rfl) fun _ _ => rfl
  | setAdvertisements name advertise status =>
      obtain ⟨netdev, found, called⟩ := onNetdev_ok taken
      replace called := Except.ok.inj called
      rw [setAdvertisementsStep] at called
      split at called
      · rename_i isSystem
        cases status with
        | ok =>
            cases called
            exact .advertised found isSystem rfl rfl (fun _ => rfl) rfl
        | fail =>
            cases called
            exact .kept rfl (fun _ _ => rfl) fun sid pid => by simp [advertWrite]
      · cases called
        exact .kept rfl (fun _ _ => rfl) fun sid pid => by simp [advertWrite]
  | updateFlags name off on answer status =>
      obtain ⟨netdev, found, called⟩ := onNetdev_ok taken
      replace called := Except.ok.inj called
      rw [updateFlagsStep] at called
      split at called
      · rename_i isSystem
        cases called
        exact updateFlags_portMove found (.inl isSystem) rfl
      · rename_i isVlan
        cases called
        exact updateFlags_portMove found (.inr isVlan) rfl
      · rename_i isInternal
        cases called
        refine .kept rfl (fun sid pid => ?_) fun _ _ => rfl
        simp [adminWrite, writesPort, found, isInternal]
      · rename_i isLoopback
        cases called
        refine .kept rfl (fun sid pid => ?_) fun _ _ => rfl
        simp [adminWrite, writesPort, found, isLoopback]
  | run answers =>
      cases taken
      exact .kept rfl (fun _ _ => rfl) fun _ _ => rfl
  | devInit outcome =>
      simp only [netdevStep] at taken
      split at taken
      · cases taken
      · cases taken
        exact .kept rfl (fun _ _ => rfl) fun _ _ => rfl
  | devDeinit =>
      simp only [netdevStep] at taken
      split at taken
      · cases taken
      · cases taken
        exact .kept rfl (fun _ _ => rfl) fun _ _ => rfl
  | portChanged sid pid port =>
      cases taken
      exact .changed rfl

/-! Each register after one call. -/

section Registers

variable {sid pid : Int} {call : NetdevCall} {reply : NetdevReply}

theorem setPort_apply (ports : PortTable) (sid pid sid' pid' : Int) (port : PortValues) :
    setPort ports sid pid port sid' pid' =
      if sid = sid' ∧ pid = pid' then port else ports sid' pid' := by
  rw [setPort]
  by_cases sameSid : sid = sid'
  · subst sameSid
    by_cases samePid : pid = pid'
    · subst samePid
      simp
    · simp [samePid, Function.update_of_ne (Ne.symm samePid)]
  · simp [sameSid, Function.update_of_ne (Ne.symm sameSid)]

theorem isDown_configProperties (port : PortProperties) (args : HwIntfConfig) :
    isDown env (configProperties env port args).config = !args.enable := by
  rw [configProperties]
  cases args.enable with
  | true => simp [isDown]
  | false => simpa [isDown] using env.portConfigDown_ne

theorem configProperties_flags (port : PortProperties) (args : HwIntfConfig) :
    (configProperties env port args).flags .config = true ∧
      (configProperties env port args).flags .advertised = false := by
  rw [configProperties]
  split <;> simp

theorem PortMove.admin (moves : PortMove env s next reply call)
    (alone : administersAlone env s call = true) :
    portUp env next.ports sid pid =
      (adminWrite sid pid ⟨s, call, reply, next⟩).getD (portUp env s.ports sid pid) := by
  cases moves with
  | kept isNext noAdmin _ => rw [noAdmin, portUp, portUp, isNext, Option.getD_none]
  | @configured name args flags netdev found hasPort accepted isNext =>
      rw [portUp, isNext, setPort_apply]
      simp only [adminWrite, accepted, decide_true, Bool.true_and,
        writesPort_of_found sid pid found hasPort, decide_eq_true_eq]
      split_ifs
      · simp [PortValues.write, configProperties_flags, isDown_configProperties]
      · rfl
  | @flagged name off on flags config netdev found hasPort accepted asked isConfig isNext =>
      have isFlagged : flags .config = true := alone
      rw [portUp, isNext, setPort_apply]
      simp only [adminWrite, accepted, decide_true, Bool.true_and,
        writesPort_of_found sid pid found hasPort, asked, Bool.and_true, decide_eq_true_eq]
      split_ifs
      · simp [PortValues.write, isFlagged, isConfig]
      · rfl
  | @advertised name advertise props netdev found isSystem accepted isAdvert isFlags isNext =>
      rw [portUp, isNext, setPort_apply]
      split_ifs with same
      · obtain ⟨rfl, rfl⟩ := same
        simp [PortValues.write, isFlags, adminWrite, portUp]
      · rfl
  | @changed sid' pid' port isNext =>
      have kept : isDown env port.config = isDown env (s.ports sid' pid').config :=
        of_decide_eq_true alone
      rw [portUp, isNext, setPort_apply]
      split_ifs with same
      · obtain ⟨rfl, rfl⟩ := same
        rw [kept]
        rfl
      · rfl

theorem PortMove.advert (moves : PortMove env s next reply call)
    (alone : advertisesAlone s call = true) :
    fpaToNetdevFeatures env.bits (next.ports sid pid).advertBmp =
      (advertWrite env sid pid ⟨s, call, reply, next⟩).getD
        (fpaToNetdevFeatures env.bits (s.ports sid pid).advertBmp) := by
  cases moves with
  | kept isNext _ noAdvert => rw [noAdvert, isNext, Option.getD_none]
  | @configured name args flags netdev found hasPort accepted isNext =>
      rw [isNext, setPort_apply]
      split_ifs with same
      · obtain ⟨rfl, rfl⟩ := same
        simp [PortValues.write, configProperties_flags, advertWrite]
      · rfl
  | @flagged name off on flags config netdev found hasPort accepted asked isConfig isNext =>
      rw [isNext, setPort_apply]
      split_ifs with same
      · obtain ⟨rfl, rfl⟩ := same
        simp [PortValues.write, advertWrite]
      · rfl
  | @advertised name advertise props netdev found isSystem accepted isAdvert isFlags isNext =>
      rw [isNext, setPort_apply]
      simp only [advertWrite, accepted, decide_true, Bool.true_and,
        writesPort_of_found sid pid found (.inl isSystem), decide_eq_true_eq]
      split_ifs
      · simp [PortValues.write, isFlags, isAdvert, netdev_features_come_back]
      · rfl
  | @changed sid' pid' port isNext =>
      have kept : port.advertBmp = (s.ports sid' pid').advertBmp := of_decide_eq_true alone
      rw [isNext, setPort_apply]
      split_ifs with same
      · obtain ⟨rfl, rfl⟩ := same
        rw [kept]
        rfl
      · rfl

theorem configProperties_sound {port : PortProperties} {args : HwIntfConfig}
    (writes : (configProperties env port args).flags .features = true) :
    FeaturesSound env.bits
      { port.toPortValues with featuresBmp := (configProperties env port args).featuresBmp } := by
  rw [configProperties] at writes ⊢
  split at writes
  · rename_i enabled
    rw [if_pos enabled]
    refine ⟨?_, ?_⟩
    · dsimp only
      rw [BitVec.and_assoc, BitVec.and_self]
    · intro feature isSpeed second isSecond isSet secondSet
      rw [BitVec.getLsbD_and, Bool.and_eq_true] at isSet secondSet
      rw [requested_speed isSpeed isSet.1, requested_speed isSecond secondSet.1]
  · simp at writes

theorem PortMove.features (moves : PortMove env s next reply call)
    (soundly : changesSoundly env call)
    (sound : ∀ sid pid, FeaturesSound env.bits (s.ports sid pid)) :
    ∀ sid pid, FeaturesSound env.bits (next.ports sid pid) := by
  intro sid pid
  cases moves with
  | kept isNext _ _ =>
      rw [isNext]
      exact sound sid pid
  | @configured name args flags netdev found hasPort accepted isNext =>
      rw [isNext, setPort_apply]
      split_ifs
      · rw [PortValues.write]
        by_cases writes : (configProperties env
            { s.ports netdev.sid netdev.pid with flags } args).flags .features = true
        · rw [if_pos writes]
          exact configProperties_sound writes
        · rw [if_neg writes]
          exact sound netdev.sid netdev.pid
      · exact sound sid pid
  | @flagged name off on flags config netdev found hasPort accepted asked isConfig isNext =>
      rw [isNext, setPort_apply]
      split_ifs
      · rw [PortValues.write]
        dsimp only
        rw [ite_self]
        exact sound netdev.sid netdev.pid
      · exact sound sid pid
  | @advertised name advertise props netdev found isSystem accepted isAdvert isFlags isNext =>
      rw [isNext, setPort_apply]
      split_ifs
      · have same : FeaturesSound env.bits ((s.ports netdev.sid netdev.pid).write props) =
            FeaturesSound env.bits (s.ports netdev.sid netdev.pid) := by
          simp [FeaturesSound, PortValues.write, isFlags]
        rw [same]
        exact sound netdev.sid netdev.pid
      · exact sound sid pid
  | @changed sid' pid' port isNext =>
      rw [isNext, setPort_apply]
      split_ifs
      · exact soundly
      · exact sound sid pid

end Registers

theorem pollNetdev_port (env : NetdevEnv) (ports : PortTable) (netdev : FpaNetdev)
    (answer : PortAnswer) :
    (pollNetdev env ports netdev answer).toNetdev = netdev.toNetdev ∧
      (pollNetdev env ports netdev answer).sid = netdev.sid := by
  rw [pollNetdev]
  split
  · exact ⟨rfl, rfl⟩
  · dsimp only
    split_ifs
    · exact ⟨rfl, rfl⟩
    · exact ⟨rfl, rfl⟩
    · exact ⟨rfl, rfl⟩

theorem pollNetdev_status (env : NetdevEnv) (ports : PortTable) (netdev : FpaNetdev)
    (flags : PropertyFlag → Bool) :
    (pollNetdev env ports netdev (some flags)).linkStatus = portUp env ports netdev.sid netdev.pid := by
  simp only [pollNetdev, fpaLibPortPropertiesGet, Option.map_some]
  split_ifs with changed
  · rfl
  · rfl
  · exact (not_not.mp changed).symm

theorem polled_status {trace : List NetdevEvent} {ports : PortTable}
    (run : NetdevRun env devEnv portName maxEntries (noNetdevs ports) trace s)
    {netdev : FpaNetdev} (member : netdev ∈ s.netdevs) (isSystem : netdev.type = .system)
    (polled : justPolled netdev.name trace = true) :
    netdev.linkStatus = portUp env s.ports netdev.sid netdev.pid := by
  cases run with
  | nil => cases member
  | @cons trace before input reply after _ taken =>
      cases input with
      | run answers =>
          cases taken
          obtain ⟨old, isOld, rfl⟩ := List.mem_map.mp member
          by_cases wasSystem : old.type = .system
          · rw [if_pos wasSystem] at polled ⊢
            obtain ⟨sameNetdev, sameSid⟩ := pollNetdev_port env before.ports old (answers old.name)
            obtain ⟨flags, answered⟩ := Option.isSome_iff_exists.mp polled
            rw [sameNetdev] at answered
            rw [sameSid, sameNetdev, answered, pollNetdev_status]
            rfl
          · rw [if_neg wasSystem] at isSystem
            exact (wasSystem isSystem).elim
      | _ => cases polled

end Moves

/-- In every run in which nobody else administers the ports, what a poll finds is the last
administrative call that the port took, and nothing of the link itself. -/
theorem carrier_shows_last_admin_call (env : NetdevEnv) (devEnv : Env)
    (portName : Nat → Option PortName) (maxEntries : Nat) (ports : PortTable)
    (trace : List NetdevEvent) (s : NetdevSys)
    (run : NetdevRun env devEnv portName maxEntries (noNetdevs ports) trace s)
    (alone : Runs.Along (fun _ event => administersAlone env event.before event.input = true) trace) :
    ∀ netdev ∈ s.netdevs, netdev.type = .system → justPolled netdev.name trace = true →
      netdev.linkStatus = Runs.lastWrite (adminWrite netdev.sid netdev.pid)
        (portUp env ports netdev.sid netdev.pid) trace := by
  intro netdev member isSystem polled
  rw [polled_status run member isSystem polled]
  have kept : ∀ (trace : List NetdevEvent) before call reply after,
      netdevStep env devEnv portName maxEntries before call = .ok (reply, after) →
      administersAlone env before call = true →
      portUp env after.ports netdev.sid netdev.pid =
        (adminWrite netdev.sid netdev.pid ⟨before, call, reply, after⟩).getD
          (portUp env before.ports netdev.sid netdev.pid) := by
    intro _ before call reply after taken alone
    exact (netdevStep_portMove taken).admin alone
  exact Runs.Run.register kept run alone

/-- Port 5 supports 10 Gb/s and autonegotiation. It is configured with more than that, told to
advertise, and taken down. -/
def administered : List NetdevCall :=
  [.devInit accepted, .construct "5".toList .system,
    .setHwIntfInfo "5".toList (portInfo "5".toList) (opensFd 7#32) true,
    .setHwIntfConfig "5".toList ⟨true, true, some "10000".toList, true, .rxtx⟩
      (some fun _ => true) .ok,
    .run fun _ => some fun _ => true,
    .setAdvertisements "5".toList 0x1000ffff#32 .ok,
    .updateFlags "5".toList true false (some fun flag => flag = .config) .ok,
    .run fun _ => some fun _ => true]

def tenGigPorts : PortTable := fun _ _ => ⟨1, 0, 0, 0x8080, 0⟩

theorem carrier_shows_port_5_down :
    ∃ trace s, NetdevRun plainNetdevEnv idealEnv (fun _ => none) 16384 (noNetdevs tenGigPorts)
        trace s ∧
      s.netdevs.map FpaNetdev.linkStatus = [false] ∧
      ∀ netdev ∈ s.netdevs, netdev.linkStatus = Runs.lastWrite (adminWrite netdev.sid netdev.pid)
        (portUp plainNetdevEnv tenGigPorts netdev.sid netdev.pid) trace := by
  obtain ⟨trace, s, run, down, alone, polled⟩ := netdevRun_of_check plainNetdevEnv idealEnv
    (fun _ => none) 16384 (noNetdevs tenGigPorts) administered
    (fun trace s => s.netdevs.map FpaNetdev.linkStatus = [false] ∧
      Runs.Along (fun _ event =>
        administersAlone plainNetdevEnv event.before event.input = true) trace ∧
      ∀ netdev ∈ s.netdevs, netdev.type = .system ∧ justPolled netdev.name trace = true)
    (by decide +kernel)
  refine ⟨trace, s, run, down, fun netdev member => ?_⟩
  exact carrier_shows_last_admin_call plainNetdevEnv idealEnv (fun _ => none) 16384 tenGigPorts
    trace s run alone netdev member (polled netdev member).1 (polled netdev member).2

/-- In every run in which nobody else changes what the ports advertise, a netdev reads back the
advertisement that its port took last, as far as Open vSwitch names features at all. -/
theorem advertised_features_read_back (env : NetdevEnv) (devEnv : Env)
    (portName : Nat → Option PortName) (maxEntries : Nat) (ports : PortTable)
    (trace : List NetdevEvent) (s : NetdevSys)
    (run : NetdevRun env devEnv portName maxEntries (noNetdevs ports) trace s)
    (alone : Runs.Along (fun _ event => advertisesAlone event.before event.input = true) trace)
    (netdev : FpaNetdev) (answer : PortAnswer) (features : NetdevFeatures)
    (read : opsFpaNetdevGetFeatures env s.ports netdev answer = some features)
    (valid : answer.all (fun flags => flags .advertised) = true) :
    features.advertised = Runs.lastWrite (advertWrite env netdev.sid netdev.pid)
      (fpaToNetdevFeatures env.bits (ports netdev.sid netdev.pid).advertBmp) trace := by
  have kept : ∀ (trace : List NetdevEvent) before call reply after,
      netdevStep env devEnv portName maxEntries before call = .ok (reply, after) →
      advertisesAlone before call = true →
      fpaToNetdevFeatures env.bits (after.ports netdev.sid netdev.pid).advertBmp =
        (advertWrite env netdev.sid netdev.pid ⟨before, call, reply, after⟩).getD
          (fpaToNetdevFeatures env.bits (before.ports netdev.sid netdev.pid).advertBmp) := by
    intro _ before call reply after taken alone
    exact (netdevStep_portMove taken).advert alone
  have register := Runs.Run.register kept run alone
  cases answer with
  | none => cases read
  | some flags =>
      have isValid : flags .advertised = true := valid
      simp only [opsFpaNetdevGetFeatures, fpaLibPortPropertiesGet, Option.map_some, isValid,
        if_true, Option.some.injEq] at read
      rw [← read]
      exact register

theorem advertised_features_of_port_5 :
    ∃ trace s, NetdevRun plainNetdevEnv idealEnv (fun _ => none) 16384 (noNetdevs tenGigPorts)
        trace s ∧
      s.netdevs.map (fun netdev => netdev.pid) = [5] ∧
      ∀ netdev ∈ s.netdevs, ∀ features,
        opsFpaNetdevGetFeatures plainNetdevEnv s.ports netdev (some fun _ => true) = some features →
        features.advertised = 0xffff#32 := by
  obtain ⟨trace, s, run, one, alone, last⟩ := netdevRun_of_check plainNetdevEnv idealEnv
    (fun _ => none) 16384 (noNetdevs tenGigPorts) administered
    (fun trace s => s.netdevs.map (fun netdev => netdev.pid) = [5] ∧
      Runs.Along (fun _ event => advertisesAlone event.before event.input = true) trace ∧
      ∀ netdev ∈ s.netdevs, Runs.lastWrite (advertWrite plainNetdevEnv netdev.sid netdev.pid)
        (fpaToNetdevFeatures plainNetdevEnv.bits (tenGigPorts netdev.sid netdev.pid).advertBmp)
          trace = 0xffff#32)
    (by decide +kernel)
  refine ⟨trace, s, run, one, fun netdev member features read => ?_⟩
  rw [← last netdev member]
  exact advertised_features_read_back plainNetdevEnv idealEnv (fun _ => none) 16384 tenGigPorts
    trace s run alone netdev _ features read rfl

/-- No run brings a port to two speeds or to a feature that it does not support, whatever the
words of the configurations are. -/
theorem port_features_stay_sound (env : NetdevEnv) (devEnv : Env)
    (portName : Nat → Option PortName) (maxEntries : Nat) (ports : PortTable)
    (trace : List NetdevEvent) (s : NetdevSys)
    (run : NetdevRun env devEnv portName maxEntries (noNetdevs ports) trace s)
    (initially : ∀ sid pid, FeaturesSound env.bits (ports sid pid))
    (soundly : Runs.Along (fun _ event => changesSoundly env event.input) trace) :
    ∀ sid pid, FeaturesSound env.bits (s.ports sid pid) := by
  induction run with
  | nil => exact initially
  | cons _ taken ih => exact (netdevStep_portMove taken).features soundly.1 (ih soundly.2)

theorem port_features_of_port_5 :
    ∃ trace s, NetdevRun plainNetdevEnv idealEnv (fun _ => none) 16384 (noNetdevs tenGigPorts)
        trace s ∧
      (s.ports 0 5).featuresBmp = 0x8080#32 ∧
      ∀ sid pid, FeaturesSound orderedBits (s.ports sid pid) := by
  obtain ⟨trace, s, run, runs, soundly⟩ := netdevRun_of_check plainNetdevEnv idealEnv
    (fun _ => none) 16384 (noNetdevs tenGigPorts) administered
    (fun trace s => (s.ports 0 5).featuresBmp = 0x8080#32 ∧
      Runs.Along (fun _ event => changesSoundly plainNetdevEnv event.input) trace)
    (by decide +kernel)
  have initially : ∀ sid pid, FeaturesSound orderedBits (tenGigPorts sid pid) :=
    fun _ _ => ⟨BitVec.zero_and, fun _ _ _ _ isSet => by simp [tenGigPorts] at isSet⟩
  exact ⟨trace, s, run, runs, port_features_stay_sound plainNetdevEnv idealEnv (fun _ => none) 16384
    tenGigPorts trace s run initially soundly⟩

end FpaPlugin
