import FpaPlugin.PortRegistry
import FpaPlugin.VlanSync

/-! What waits in the pending map of a port. Entries get there from the settings of a bundle and
from what the switch reads back when a VLAN is disabled, and leave it when the VLAN is enabled.
Nothing is assumed of the switch here: every call into the plugin runs against answers of its
own. -/

namespace FpaPlugin

/-- A call, and what the FPA library answers while it runs. -/
structure AnsweredCall where
  verdict : List (FpaCall × Status) → FpaCall → Asic → Status
  readback : List (FpaCall × Status) → Asic → Asic
  call : Call

def Env.answering (env : Env) (input : AnsweredCall) : Env :=
  { env with verdict := input.verdict, readback := input.readback }

abbrev AnsweredEvent := Runs.Event Sys AnsweredCall Rc

abbrev AnsweredTrace := List AnsweredEvent

abbrev AnsweredRun (env : Env) (start : Sys) : AnsweredTrace → Sys → Prop :=
  Runs.Run (fun s input => step (env.answering input) s input.call) start

def createdSlave (env : Env) (event : AnsweredEvent) (up : OfprotoRef) (aux : Aux) : Option Nat :=
  match event.input.call with
  | .bundleSet other wanted (some set) =>
      if other = up ∧ wanted = aux ∧ opsFpaFindBundle env event.before up aux = none then
        match set.slaves with
        | [slave] => some slave
        | _ => none
      else none
  | _ => none

def ownPort (env : Env) : AnsweredTrace → OfprotoRef → Aux → Option OfportRef
  | [], _, _ => none
  | event :: earlier, up, aux =>
      match createdSlave env event up aux with
      | some slave => ofprotoGetPort event.before up slave
      | none => ownPort env earlier up aux

/-- A bundle without a hardware port is resolved to none, any other to its own. -/
def ResolvesOwnPorts (env : Env) (trace : AnsweredTrace) (s : Sys) : Prop :=
  ∀ up aux bundle, opsFpaFindBundle env s up aux = some bundle →
    opsFpaGetOfportByPid s bundle.intfId =
      if bundle.intfId = fpaInvalidIntfId then none else ownPort env trace up aux

/-- Ports are newly allocated when they are constructed, and bundles are those of a bridge. -/
def changesBridge (s : Sys) : Call → Prop
  | .portConstruct _ _ ref _ _ => s.ofports ref = none
  | .bundleSet up _ _ => (s.ofprotos up).type = .system
  | .setVlan _ _ _ => True
  | _ => False

/-- Also, no bundle with a hardware port is created under the name of its ofproto: the settings
of such a bundle are not looked at. -/
def changesL2 (env : Env) (s : Sys) : Call → Prop
  | .portConstruct _ _ ref _ _ => s.ofports ref = none
  | .bundleSet up aux set => (s.ofprotos up).type = .system ∧
      ∀ settings slave, set = some settings → settings.slaves = [slave] →
        opsFpaFindBundle env s up aux = none → settings.name = (s.ofprotos up).name →
        (newBundle s up aux slave).intfId = fpaInvalidIntfId
  | .setVlan _ _ _ => True
  | _ => False

def OnlyDisabled (vlans vmap : Bitmap) : Prop :=
  ∀ vidx, vidx < vmapBits → vmap vidx = true → vlans (vidxVid vidx) = false

def PendingDisabled (env : Env) (s : Sys) : Prop :=
  ∀ up aux bundle ref port, opsFpaFindBundle env s up aux = some bundle →
    opsFpaGetOfportByPid s bundle.intfId = some ref → s.ofports ref = some port →
    OnlyDisabled (s.ofprotos up).vlans port.vmap

section Passes

variable {env : Env} {hw : Hw} {vlans desired vmap : Bitmap} {pid : Int} {vid vidx : Nat}

theorem applyDiff_vmap (inside : vidx < vmapBits) :
    (applyDiff env hw vlans desired pid).2 vidx =
      (!opsFpaVlanFetch env hw.fpa pid vidx && desired vidx && !vlans (vidxVid vidx)) := by
  rw [applyDiff]
  refine Bitmap.forEach1_bit Prod.snd inside ?_ ?_ ?_
  · intro visited state other
    simp only [applyDiffBit]
    split_ifs
    · rfl
    · rfl
    · simp [other]
    · rfl
  · intro state start differs
    have unset : state.2 vidx = false := start
    clear inside start
    simp only [applyDiffBit]
    cases isUp : vlans (vidxVid vidx) with
    | true => cases isDesired : desired vidx <;> simp [unset]
    | false =>
        cases isDesired : desired vidx with
        | true => simpa [isDesired] using differs
        | false => simp [unset]
  · intro _ _ same
    clear inside
    cases isDesired : desired vidx with
    | true =>
        have isFetched : opsFpaVlanFetch env hw.fpa pid vidx = true := by simpa [isDesired] using same
        simp [isFetched]
    | false => simp

theorem applyDiff_onlyDisabled (env : Env) (hw : Hw) (vlans desired : Bitmap) (pid : Int) :
    OnlyDisabled vlans (applyDiff env hw vlans desired pid).2 := by
  intro vidx inside isPending
  rw [applyDiff_vmap inside, Bool.and_eq_true] at isPending
  simpa using isPending.2

theorem enableVlanOnPort_vmap (inside : vidx < vmapBits) :
    (enableVlanOnPort env hw vmap pid vid).2 vidx = (vmap vidx && decide (vidxVid vidx ≠ vid)) := by
  rw [enableVlanOnPort]
  refine Bitmap.forEach1_bit Prod.snd inside ?_ ?_ ?_
  · intro visited state other
    split_ifs
    · simp [other]
    · rfl
  · intro state start pending
    by_cases isVid : vidxVid vidx = vid
    · simp [isVid]
    · simp [isVid, start]
  · intro state start clear
    have unset : vmap vidx = false := start.symm.trans clear
    simp [unset]

theorem disableVlanOnPort_vmap {ofpPort : Nat} (inside : vidx < vmapBits) :
    (disableVlanOnPort env hw vmap ofpPort pid vid).2 vidx =
      (vmap vidx || opsFpaVlanFetch env hw.fpa ofpPort vidx && decide (vidxVid vidx = vid)) := by
  rw [disableVlanOnPort]
  refine Bitmap.forEach1_bit Prod.snd inside ?_ ?_ ?_
  · intro visited state other
    split_ifs
    · simp [other]
    · rfl
  · intro state start fetched
    by_cases isVid : vidxVid vidx = vid
    · simp [isVid, fetched]
    · simp [isVid, start]
  · intro state start clear
    simp [clear]

end Passes

section Ports

variable {env : Env} {s next : Sys} {vid : Nat} {add : Bool}

/-- A bit set after the visit to a port was set before, and of another VLAN when the VLAN is
enabled, or it is one of the VLAN that is disabled. -/
theorem setVlanOnPort_vmap {hw : Hw} {port : Ofport} {vidx : Nat} (inside : vidx < vmapBits)
    (isPending : (setVlanOnPort env hw port vid add).2 vidx = true) :
    port.vmap vidx = true ∧ (add = true → vidxVid vidx ≠ vid) ∨
      add = false ∧ vidxVid vidx = vid := by
  rw [setVlanOnPort] at isPending
  cases add with
  | true =>
      rw [if_pos rfl, enableVlanOnPort_vmap inside, Bool.and_eq_true, decide_eq_true_eq] at isPending
      exact .inl ⟨isPending.1, fun _ => isPending.2⟩
  | false =>
      rw [if_neg Bool.false_ne_true, disableVlanOnPort_vmap inside, Bool.or_eq_true,
        Bool.and_eq_true, decide_eq_true_eq] at isPending
      rcases isPending with before | ⟨_, isVid⟩
      · exact .inl ⟨before, fun enabling => (Bool.false_ne_true enabling).elim⟩
      · exact .inr ⟨rfl, isVid⟩

theorem getOfportByPid_setVmap (ref : OfportRef) (port : Ofport) (result : Hw × Bitmap)
    (pid : Int) : opsFpaGetOfportByPid (setVmap s ref port result) pid = opsFpaGetOfportByPid s pid :=
  rfl

theorem vmap_setVmap {ref : OfportRef} {port after : Ofport} {result : Hw × Bitmap}
    (isAfter : (setVmap s ref port result).ofports ref = some after) : after.vmap = result.2 := by
  simp only [setVmap, Function.update_self, Option.some.injEq] at isAfter
  rw [← isAfter]

theorem setVlanOnPorts_elsewhere {ref : OfportRef} : ∀ (bundles : List Bundle) (state : Sys),
    setVlanOnPorts env vid add bundles state = .ok next →
    (∀ bundle ∈ bundles, opsFpaGetOfportByPid state bundle.intfId ≠ some ref) →
    next.ofports ref = state.ofports ref := by
  intro bundles
  induction bundles with
  | nil =>
      intro state done _
      cases done
      rfl
  | cons bundle rest ih =>
      intro state done elsewhere
      have later := fun other member => elsewhere other (List.mem_cons_of_mem bundle member)
      rcases setVlanOnPorts_cons done with ⟨_, finished⟩ | ⟨visited, port, resolved, _, finished⟩
      · exact ih state finished later
      · rw [ih _ finished later]
        have different : ref ≠ visited := by
          rintro rfl
          exact elsewhere bundle List.mem_cons_self resolved
        exact Function.update_of_ne different _ _

theorem setVlanOnPorts_vmap {ref : OfportRef} : ∀ (bundles : List Bundle) (state : Sys),
    setVlanOnPorts env vid add bundles state = .ok next →
    ∀ port, next.ofports ref = some port → ∃ before, state.ofports ref = some before ∧
      ∀ vidx, vidx < vmapBits → port.vmap vidx = true →
        before.vmap vidx = true ∨ add = false ∧ vidxVid vidx = vid := by
  intro bundles
  induction bundles with
  | nil =>
      intro state done port isPort
      cases done
      exact ⟨port, isPort, fun _ _ isPending => .inl isPending⟩
  | cons bundle rest ih =>
      intro state done port isPort
      rcases setVlanOnPorts_cons done with ⟨_, finished⟩ | ⟨visited, old, _, isOld, finished⟩
      · exact ih state finished port isPort
      · generalize isResult : setVlanOnPort env state.hw old vid add = result at finished
        obtain ⟨between, isBetween, pending⟩ := ih _ finished port isPort
        by_cases here : ref = visited
        · subst here
          refine ⟨old, isOld, ?_⟩
          intro vidx inside isPending
          rcases pending vidx inside isPending with passed | fresh
          · rw [vmap_setVmap isBetween, ← isResult] at passed
            exact (setVlanOnPort_vmap inside passed).imp_left And.left
          · exact .inr fresh
        · simp only [setVmap, Function.update_of_ne here] at isBetween
          exact ⟨between, isBetween, pending⟩

theorem setVlanOnPorts_enabled {ref : OfportRef} : ∀ (bundles : List Bundle) (state : Sys),
    setVlanOnPorts env vid true bundles state = .ok next →
    (∃ bundle ∈ bundles, opsFpaGetOfportByPid state bundle.intfId = some ref) →
    ∀ port, next.ofports ref = some port →
      ∀ vidx, vidx < vmapBits → port.vmap vidx = true → vidxVid vidx ≠ vid := by
  intro bundles
  induction bundles with
  | nil =>
      rintro _ _ ⟨_, member, _⟩
      cases member
  | cons bundle rest ih =>
      rintro state done ⟨visited, member, resolved⟩ port isPort vidx inside isPending
      rcases List.mem_cons.mp member with rfl | later
      · rcases setVlanOnPorts_cons done with ⟨unknown, _⟩ | ⟨other, old, found, _, finished⟩
        · rw [resolved] at unknown
          cases unknown
        · obtain rfl : ref = other := Option.some.inj (resolved.symm.trans found)
          generalize isResult : setVlanOnPort env state.hw old vid true = result at finished
          obtain ⟨between, isBetween, pending⟩ := setVlanOnPorts_vmap rest _ finished port isPort
          rcases pending vidx inside isPending with passed | ⟨disabling, _⟩
          · rw [vmap_setVmap isBetween, ← isResult] at passed
            rcases setVlanOnPort_vmap inside passed with ⟨_, other⟩ | ⟨disabling, _⟩
            · exact other rfl
            · cases disabling
          · cases disabling
      · rcases setVlanOnPorts_cons done with ⟨_, finished⟩ | ⟨_, _, _, _, finished⟩
        · exact ih _ finished ⟨visited, later, resolved⟩ port isPort vidx inside isPending
        · rw [← getOfportByPid_setVmap] at resolved
          exact ih _ finished ⟨visited, later, resolved⟩ port isPort vidx inside isPending

end Ports

section Invariant

variable {env : Env} {trace : AnsweredTrace} {s next : Sys} {event : AnsweredEvent}

/-- The ofproto that the port was constructed in. -/
def portHome : AnsweredTrace → OfportRef → Option OfprotoRef
  | [], _ => none
  | event :: earlier, ref =>
      match event.input.call with
      | .portConstruct up _ built _ _ => if built = ref then some up else portHome earlier ref
      | _ => portHome earlier ref

/-- `pending` says of a bundle's own port what is claimed of the one it is resolved to. A port
belongs to one ofproto, so that no other VLANs than those of the bundle's own reach its map. -/
structure PendingInvariant (env : Env) (trace : AnsweredTrace) (s : Sys) : Prop where
  keyed : BundlesKeyed env s
  ports : ∀ up ofpPort ref, ofprotoGetPort s up ofpPort = some ref → portHome trace ref = some up
  live : ∀ up ref, portHome trace ref = some up → netdevAt s ref ≠ none
  own : ∀ up aux bundle ref, opsFpaFindBundle env s up aux = some bundle →
    ownPort env trace up aux = some ref → portHome trace ref = some up
  pending : ∀ up aux bundle ref port, opsFpaFindBundle env s up aux = some bundle →
    bundle.intfId ≠ fpaInvalidIntfId → ownPort env trace up aux = some ref →
    s.ofports ref = some port → OnlyDisabled (s.ofprotos up).vlans port.vmap

theorem ownPort_kept (notSet : ∀ up aux set, event.input.call ≠ .bundleSet up aux set)
    (up : OfprotoRef) (aux : Aux) : ownPort env (event :: trace) up aux = ownPort env trace up aux := by
  have uncreated : createdSlave env event up aux = none := by
    rw [createdSlave]
    split
    · rename_i isSet
      exact (notSet _ _ _ isSet).elim
    · rfl
  rw [ownPort, uncreated]

theorem ownPort_old {up : OfprotoRef} {aux : Aux} {bundle : Bundle}
    (found : opsFpaFindBundle env event.before up aux = some bundle) :
    ownPort env (event :: trace) up aux = ownPort env trace up aux := by
  have uncreated : createdSlave env event up aux = none := by
    rw [createdSlave]
    split
    · simp [found]
    · rfl
  rw [ownPort, uncreated]

theorem PendingInvariant.portConstruct (invariant : PendingInvariant env trace s)
    {up : OfprotoRef} {ofpPort mtu : Nat} {ref : OfportRef} {netdev : Netdev}
    (isCall : event.input.call = .portConstruct up ofpPort ref netdev mtu)
    (fresh : s.ofports ref = none) :
    PendingInvariant env (event :: trace)
      (opsFpaOfprotoPortConstruct s up ofpPort ref netdev mtu) := by
  have sameOwn : ∀ other aux, ownPort env (event :: trace) other aux = ownPort env trace other aux :=
    ownPort_kept (by simp [isCall])
  have isHome : ∀ other, portHome (event :: trace) other =
      if ref = other then some up else portHome trace other := by
    intro other
    rw [portHome, isCall]
  have notHome : ∀ other home, portHome trace other = some home → ref ≠ other := by
    rintro other home isOld rfl
    exact invariant.live home ref isOld (by rw [netdevAt, fresh]; rfl)
  have sameOfproto := portConstruct_ofproto s up ofpPort ref netdev mtu
  refine ⟨?_, ?_, ?_, ?_, ?_⟩
  · intro other
    rw [(sameOfproto other).2.1]
    exact invariant.keyed other
  · intro other number built isBuilt
    by_cases here : other = up ∧ number = ofpPort
    · obtain ⟨rfl, rfl⟩ := here
      have isRef : ref = built := by
        simpa [ofprotoGetPort, opsFpaOfprotoPortConstruct] using isBuilt
      rw [isHome, if_pos isRef]
    · have wasBuilt : ofprotoGetPort s other number = some built := by
        rw [← isBuilt]
        by_cases same : other = up
        · have otherNumber : number ≠ ofpPort := fun isNumber => here ⟨same, isNumber⟩
          simp [ofprotoGetPort, opsFpaOfprotoPortConstruct, same, otherNumber]
        · simp [ofprotoGetPort, opsFpaOfprotoPortConstruct, same]
      have wasHome := invariant.ports other number built wasBuilt
      rw [isHome, if_neg (notHome built other wasHome)]
      exact wasHome
  · intro other built isBuilt
    rw [isHome] at isBuilt
    by_cases here : ref = built
    · subst here
      simp [netdevAt, opsFpaOfprotoPortConstruct]
    · rw [if_neg here] at isBuilt
      simp only [netdevAt, opsFpaOfprotoPortConstruct, Function.update_of_ne (Ne.symm here)]
      exact invariant.live other built isBuilt
  · intro other aux bundle built found isOwn
    rw [findBundle_portConstruct] at found
    rw [sameOwn] at isOwn
    have wasHome := invariant.own other aux bundle built found isOwn
    rw [isHome, if_neg (notHome built other wasHome)]
    exact wasHome
  · intro other aux bundle built port found valid isOwn isPort
    rw [findBundle_portConstruct] at found
    rw [sameOwn] at isOwn
    have different := notHome built other (invariant.own other aux bundle built found isOwn)
    simp only [opsFpaOfprotoPortConstruct, Function.update_of_ne (Ne.symm different)] at isPort
    rw [(sameOfproto other).2.2]
    exact invariant.pending other aux bundle built port found valid isOwn isPort

theorem setVlanOnPorts_onlyDisabled {bundles : List Bundle} {vid : Fin 4096} {add : Bool}
    {ref : OfportRef} {port : Ofport} {vlans : Bitmap}
    (finished : setVlanOnPorts env vid add bundles s = .ok next)
    (visited : ∃ bundle ∈ bundles, opsFpaGetOfportByPid s bundle.intfId = some ref)
    (isPort : next.ofports ref = some port)
    (disabled : ∀ before, s.ofports ref = some before → OnlyDisabled vlans before.vmap) :
    OnlyDisabled (vlans.set vid add) port.vmap := by
  obtain ⟨before, isBefore, moved⟩ := setVlanOnPorts_vmap bundles s finished port isPort
  intro vidx inside isPending
  rw [Bitmap.set_apply]
  by_cases isVid : vidxVid vidx = vid
  · rw [if_pos isVid]
    cases add with
    | true =>
        have cleared := setVlanOnPorts_enabled bundles s finished visited port isPort
        exact (cleared vidx inside isPending isVid).elim
    | false => rfl
  · rw [if_neg isVid]
    rcases moved vidx inside isPending with was | ⟨_, same⟩
    · exact disabled before isBefore vidx inside was
    · exact (isVid same).elim

theorem ResolvesOwnPorts.of_resolved {up : OfprotoRef} {aux : Aux} {bundle : Bundle} {ref : OfportRef}
    (resolves : ResolvesOwnPorts env trace s) (found : opsFpaFindBundle env s up aux = some bundle)
    (isRef : opsFpaGetOfportByPid s bundle.intfId = some ref) :
    bundle.intfId ≠ fpaInvalidIntfId ∧ ownPort env trace up aux = some ref := by
  rw [resolves up aux bundle found] at isRef
  split at isRef
  · cases isRef
  · rename_i valid
    exact ⟨valid, isRef⟩

theorem PendingInvariant.of_kept (invariant : PendingInvariant env trace s)
    (keyed : BundlesKeyed env next)
    (notBuilt : ∀ up ofpPort ref netdev mtu,
      event.input.call ≠ .portConstruct up ofpPort ref netdev mtu)
    (samePorts : ∀ up, (next.ofprotos up).ports = (s.ofprotos up).ports)
    (sameNetdevs : ∀ ref, netdevAt next ref = netdevAt s ref)
    (own : ∀ up aux bundle ref, opsFpaFindBundle env next up aux = some bundle →
      ownPort env (event :: trace) up aux = some ref → portHome trace ref = some up)
    (pending : ∀ up aux bundle ref port, opsFpaFindBundle env next up aux = some bundle →
      bundle.intfId ≠ fpaInvalidIntfId → ownPort env (event :: trace) up aux = some ref →
      next.ofports ref = some port → OnlyDisabled (next.ofprotos up).vlans port.vmap) :
    PendingInvariant env (event :: trace) next := by
  have sameHome : ∀ ref, portHome (event :: trace) ref = portHome trace ref := by
    intro ref
    rw [portHome]
    split
    · rename_i isBuilt
      exact (notBuilt _ _ _ _ _ isBuilt).elim
    · rfl
  refine ⟨keyed, ?_, ?_, ?_, pending⟩
  · intro up ofpPort ref isRef
    rw [ofprotoGetPort, samePorts] at isRef
    rw [sameHome]
    exact invariant.ports up ofpPort ref isRef
  · intro up ref isHome
    rw [sameHome] at isHome
    rw [sameNetdevs]
    exact invariant.live up ref isHome
  · intro up aux bundle ref found isOwn
    rw [sameHome]
    exact own up aux bundle ref found isOwn

theorem PendingInvariant.setVlan (invariant : PendingInvariant env trace s)
    {up : OfprotoRef} {vid : Fin 4096} {add : Bool} {rc : Rc}
    (isCall : event.input.call = .setVlan up vid add) (resolves : ResolvesOwnPorts env trace s)
    (taken : opsFpaOfprotoSetVlan (env.answering event.input) s up vid add = .ok (rc, next)) :
    PendingInvariant env (event :: trace) next := by
  have sameOwn : ∀ other aux, ownPort env (event :: trace) other aux = ownPort env trace other aux :=
    ownPort_kept (by simp [isCall])
  have kept := setVlan_ofproto taken
  have sameBundles : ∀ other aux, opsFpaFindBundle env next other aux =
      opsFpaFindBundle env s other aux := by
    intro other aux
    rw [opsFpaFindBundle, (kept other).2.1, opsFpaFindBundle]
  obtain ⟨visited, done, _, isNext⟩ := setVlan_cases taken
  have samePorts : next.ofports = visited.ofports := by rw [isNext]
  refine invariant.of_kept ?_ (by simp [isCall]) (fun other => (kept other).2.2.1) ?_ ?_ ?_
  · intro other
    rw [(kept other).2.1]
    exact invariant.keyed other
  · intro ref
    rw [netdevAt_congr samePorts, netdevAt_setVlanOnPorts ref _ _ done]
  · intro other aux bundle ref found isOwn
    rw [sameBundles] at found
    rw [sameOwn] at isOwn
    exact invariant.own other aux bundle ref found isOwn
  · intro other aux bundle ref port found valid isOwn isPort
    rw [sameBundles] at found
    rw [sameOwn] at isOwn
    rw [samePorts] at isPort
    have before := fun old isOld =>
      invariant.pending other aux bundle ref old found valid isOwn isOld
    rw [(kept other).2.2.2]
    by_cases here : other = up
    · subst here
      have isRef : opsFpaGetOfportByPid s bundle.intfId = some ref := by
        rw [resolves other aux bundle found, if_neg valid, isOwn]
      rw [if_pos rfl]
      exact setVlanOnPorts_onlyDisabled done ⟨bundle, (Hmap.lookup_some found).1, isRef⟩ isPort before
    · have isHome := invariant.own other aux bundle ref found isOwn
      -- a bundle that is visited is resolved to a port of the ofproto whose VLAN is set
      have elsewhere : ∀ owner ∈ (s.ofprotos up).bundles.values,
          opsFpaGetOfportByPid s owner.intfId ≠ some ref := by
        intro owner member isRef
        have isOwner : opsFpaFindBundle env s up owner.aux = some owner :=
          (invariant.keyed up).lookup_eq_some_iff.mpr ⟨member, rfl⟩
        have isUp := invariant.own up owner.aux owner ref isOwner
          (resolves.of_resolved isOwner isRef).2
        rw [isHome, Option.some.injEq] at isUp
        exact here isUp
      rw [setVlanOnPorts_elsewhere _ _ done elsewhere] at isPort
      rw [if_neg here]
      exact before port isPort

theorem ownPort_created {up : OfprotoRef} {aux : Aux} {settings : BundleSettings} {slave : Nat}
    (isCall : event.input.call = .bundleSet up aux (some settings))
    (single : settings.slaves = [slave])
    (absent : opsFpaFindBundle env event.before up aux = none) :
    ownPort env (event :: trace) up aux = ofprotoGetPort event.before up slave := by
  have created : createdSlave env event up aux = some slave := by
    simp [createdSlave, isCall, absent, single]
  rw [ownPort, created]

theorem configureL2_frame {up : OfprotoRef} {bundle : Bundle} {set : BundleSettings} {rc : Rc}
    (configured : configureL2 env s up bundle set = .ok (rc, next)) :
    next.ofprotos = s.ofprotos ∧ next.portsByPid = s.portsByPid := by
  rcases (configureL2_cases configured).2 with ⟨rfl, _⟩ | ⟨ref, port, _, _, _, _, rfl⟩
  · exact ⟨rfl, rfl⟩
  · exact ⟨(setVmap_frame _ _ _ _).2.2.2.1, (setVmap_frame _ _ _ _).2.2.1⟩

theorem bundleSet_origin {up other : OfprotoRef} {aux wanted : Aux} {set : Option BundleSettings}
    {rc : Rc} {bundle : Bundle} (keyed : BundlesKeyed env s)
    (isSystem : (s.ofprotos up).type = .system)
    (taken : opsFpaOfprotoBundleSet env s up aux set = .ok (rc, next))
    (found : opsFpaFindBundle env next other wanted = some bundle) :
    (∃ old, opsFpaFindBundle env s other wanted = some old ∧ old.intfId = bundle.intfId) ∨
      other = up ∧ wanted = aux ∧ opsFpaFindBundle env s up aux = none ∧
        ∃ settings slave, set = some settings ∧ settings.slaves = [slave] ∧
          bundle = { newBundle s up aux slave with name := some settings.name } := by
  rcases bundleSet_cases taken with ⟨_, removed⟩ | ⟨_, _, _, _, rfl⟩ |
    ⟨settings, slave, ensured, _, isSet, single, created, _, configured⟩
  · rw [findBundle_rmBundle keyed removed] at found
    split at found
    · cases found
    · exact .inl ⟨bundle, found, rfl⟩
  · exact .inl ⟨bundle, found, rfl⟩
  · rcases configured with ⟨isVrf, _⟩ | ⟨_, bridge⟩
    · rw [(ensureBundle_ofproto created up).1, isSystem] at isVrf
      cases isVrf
    · obtain ⟨base, origin, after⟩ := findBundle_ensureBundle keyed created
      rw [findBundle_congr (configureL2_frame bridge).1, after] at found
      split at found
      · rename_i here
        cases found
        rcases origin with old | ⟨absent, rfl⟩
        · exact .inl ⟨base, by rw [here.1, here.2, old], rfl⟩
        · exact .inr ⟨here.1, here.2, absent, settings, slave, isSet, single, rfl⟩
      · exact .inl ⟨bundle, found, rfl⟩

def WritesOwnMap (env : Env) (s next : Sys) (up : OfprotoRef) (aux : Aux) : Prop :=
  ∃ bundle ref, ∃ port : Ofport, opsFpaFindBundle env next up aux = some bundle ∧
    opsFpaGetOfportByPid next bundle.intfId = some ref ∧
    next.ofports = Function.update s.ofports ref (some port) ∧
    OnlyDisabled (s.ofprotos up).vlans port.vmap

theorem WritesOwnMap.of_setVmap {up : OfprotoRef} {aux : Aux} {bundle : Bundle} {ref : OfportRef}
    {port : Ofport} {result : Hw × Bitmap} (samePorts : next.ofports = s.ofports)
    (found : opsFpaFindBundle env next up aux = some bundle)
    (resolved : opsFpaGetOfportByPid next bundle.intfId = some ref)
    (disabled : OnlyDisabled (s.ofprotos up).vlans result.2) :
    WritesOwnMap env s (setVmap next ref port result) up aux := by
  refine ⟨bundle, ref, { port with vmap := result.2 }, found, resolved, ?_, disabled⟩
  rw [setVmap, samePorts]

theorem bundleSet_maps {up : OfprotoRef} {aux : Aux} {set : Option BundleSettings} {rc : Rc}
    (isSystem : (s.ofprotos up).type = .system)
    (taken : opsFpaOfprotoBundleSet env s up aux set = .ok (rc, next)) :
    (next.ofports = s.ofports ∧ ∀ settings slave, set = some settings → settings.slaves = [slave] →
      ∃ bundle, opsFpaFindBundle env next up aux = some bundle ∧
        (bundle.intfId = fpaInvalidIntfId ∨ bundle.name = some (s.ofprotos up).name)) ∨
    WritesOwnMap env s next up aux := by
  rcases bundleSet_cases taken with ⟨rfl, removed⟩ | ⟨settings, rfl, several, _, rfl⟩ |
    ⟨settings, slave, ensured, bundle, isSet, single, created, found, configured⟩
  · exact .inl ⟨(rmBundle_frame removed).2.2.2.1, by rintro _ _ ⟨⟩⟩
  · refine .inl ⟨rfl, ?_⟩
    rintro _ slave ⟨⟩ single
    exact (several slave single).elim
  · obtain ⟨sameType, sameName, _, sameVlans⟩ := ensureBundle_ofproto created up
    have samePorts := (ensureBundle_frame created).2.2.2.1
    rcases configured with ⟨isVrf, _⟩ | ⟨_, bridge⟩
    · rw [sameType, isSystem] at isVrf
      cases isVrf
    · rcases (configureL2_cases bridge).2 with ⟨rfl, skipped⟩ |
        ⟨ref, port, _, _, resolved, _, rfl⟩
      · rw [sameName] at skipped
        exact .inl ⟨samePorts, fun _ _ _ _ => ⟨bundle, found, skipped⟩⟩
      · refine .inr (.of_setVmap samePorts found resolved ?_)
        rw [← sameVlans]
        exact applyDiff_onlyDisabled env ensured.hw _ (vnew settings) _

theorem PendingInvariant.bundleSet_own (invariant : PendingInvariant env trace s)
    {up other : OfprotoRef} {aux wanted : Aux} {set : Option BundleSettings} {rc : Rc}
    {bundle : Bundle} {ref : OfportRef} (isCall : event.input.call = .bundleSet up aux set)
    (isBefore : event.before = s) (isSystem : (s.ofprotos up).type = .system)
    (taken : opsFpaOfprotoBundleSet (env.answering event.input) s up aux set = .ok (rc, next))
    (found : opsFpaFindBundle env next other wanted = some bundle)
    (isOwn : ownPort env (event :: trace) other wanted = some ref) :
    portHome trace ref = some other := by
  have keyed : BundlesKeyed (env.answering event.input) s := invariant.keyed
  rcases bundleSet_origin keyed isSystem taken found with ⟨old, wasFound, _⟩ |
    ⟨rfl, rfl, absent, settings, slave, rfl, single, _⟩
  · rw [ownPort_old (isBefore ▸ wasFound)] at isOwn
    exact invariant.own other wanted old ref wasFound isOwn
  · rw [ownPort_created isCall single (isBefore ▸ absent), isBefore] at isOwn
    exact invariant.ports other slave ref isOwn

theorem PendingInvariant.bundleSet (invariant : PendingInvariant env trace s)
    {up : OfprotoRef} {aux : Aux} {set : Option BundleSettings} {rc : Rc}
    (isCall : event.input.call = .bundleSet up aux set) (isBefore : event.before = s)
    (allowed : changesL2 env s (.bundleSet up aux set))
    (resolves : ResolvesOwnPorts env (event :: trace) next)
    (taken : opsFpaOfprotoBundleSet (env.answering event.input) s up aux set = .ok (rc, next)) :
    PendingInvariant env (event :: trace) next := by
  obtain ⟨isSystem, internal⟩ := allowed
  have keyed : BundlesKeyed (env.answering event.input) s := invariant.keyed
  have keyedNext : BundlesKeyed (env.answering event.input) next := bundleSet_keyed keyed taken
  have sameOfprotos := bundleSet_ofproto taken
  have own : ∀ other wanted bundle ref, opsFpaFindBundle env next other wanted = some bundle →
      ownPort env (event :: trace) other wanted = some ref → portHome trace ref = some other :=
    fun _ _ _ _ => invariant.bundleSet_own isCall isBefore isSystem taken
  refine invariant.of_kept keyedNext (by simp [isCall]) (fun other => (sameOfprotos other).2.2.1)
    (netdevAt_bundleSet taken) own ?_
  intro other wanted bundle ref port found valid isOwn isPort
  rw [(sameOfprotos other).2.2.2]
  have untouched : ∀ old, opsFpaFindBundle env s other wanted = some old →
      old.intfId = bundle.intfId → s.ofports ref = some port →
      OnlyDisabled (s.ofprotos other).vlans port.vmap := by
    intro old wasFound sameIntf wasPort
    rw [ownPort_old (isBefore ▸ wasFound)] at isOwn
    exact invariant.pending other wanted old ref port wasFound (sameIntf ▸ valid) isOwn wasPort
  rcases bundleSet_maps isSystem taken with ⟨samePorts, skipped⟩ |
    ⟨written, target, after, isWritten, resolved, isAfter, disabled⟩
  · rw [samePorts] at isPort
    rcases bundleSet_origin keyed isSystem taken found with ⟨old, wasFound, sameIntf⟩ |
      ⟨rfl, rfl, absent, settings, slave, rfl, single, isNew⟩
    · exact untouched old wasFound sameIntf isPort
    · obtain ⟨live, isLive, why⟩ := skipped settings slave rfl single
      obtain rfl : bundle = live := Option.some.inj (found.symm.trans isLive)
      rcases why with invalid | isNamed
      · exact (valid invalid).elim
      · rw [isNew, Option.some.injEq] at isNamed
        rw [isNew] at valid
        exact (valid (internal settings slave rfl single absent isNamed)).elim
  · have isTarget := (resolves.of_resolved isWritten resolved).2
    rw [isAfter] at isPort
    by_cases here : ref = target
    · subst here
      rw [Function.update_self, Option.some.injEq] at isPort
      have isUp := own up aux written ref isWritten isTarget
      rw [own other wanted bundle ref found isOwn, Option.some.injEq] at isUp
      rw [isUp, ← isPort]
      exact disabled
    · rw [Function.update_of_ne here] at isPort
      rcases bundleSet_origin keyed isSystem taken found with ⟨old, wasFound, sameIntf⟩ |
        ⟨rfl, rfl, _⟩
      · exact untouched old wasFound sameIntf isPort
      · rw [isOwn, Option.some.injEq] at isTarget
        exact (here isTarget).elim

theorem PendingInvariant.step {input : AnsweredCall} {rc : Rc}
    (invariant : PendingInvariant env trace s) (before : ResolvesOwnPorts env trace s)
    (taken : FpaPlugin.step (env.answering input) s input.call = .ok (rc, next))
    (allowed : changesL2 env s input.call)
    (after : ResolvesOwnPorts env (⟨s, input, rc, next⟩ :: trace) next) :
    PendingInvariant env (⟨s, input, rc, next⟩ :: trace) next := by
  cases isCall : input.call with
  | bundleSet up aux set =>
      rw [isCall] at taken allowed
      exact invariant.bundleSet isCall rfl allowed after taken
  | setVlan up vid add =>
      rw [isCall] at taken
      exact invariant.setVlan isCall before taken
  | portConstruct up ofpPort ref netdev mtu =>
      rw [isCall] at taken allowed
      cases taken
      exact invariant.portConstruct isCall allowed
  | _ =>
      rw [isCall] at allowed
      exact allowed.elim

theorem Initial.pendingInvariant (initial : Initial s) : PendingInvariant env [] s := by
  refine ⟨initial.bundlesKeyed, ?_, ?_, ?_, ?_⟩
  · intro up ofpPort ref isRef
    rw [ofprotoGetPort, initial.ports] at isRef
    cases isRef
  · rintro _ _ ⟨⟩
  · rintro _ _ _ _ _ ⟨⟩
  · rintro _ _ _ _ _ _ _ ⟨⟩

theorem Initial.resolvesOwnPorts (initial : Initial s) : ResolvesOwnPorts env [] s := by
  intro up aux bundle found
  rw [initial.findBundle_none] at found
  cases found

theorem PendingInvariant.pendingDisabled (invariant : PendingInvariant env trace s)
    (resolves : ResolvesOwnPorts env trace s) : PendingDisabled env s := by
  intro up aux bundle ref port found isRef isPort
  obtain ⟨valid, isOwn⟩ := resolves.of_resolved found isRef
  exact invariant.pending up aux bundle ref port found valid isOwn isPort

theorem run_pendingInvariant (initial : Initial s) (run : AnsweredRun env s trace next)
    (bridged : Runs.Along (fun _ event => changesL2 env event.before event.input.call) trace)
    (resolved : Runs.Along (fun earlier event => ResolvesOwnPorts env (event :: earlier) event.after)
      trace) : PendingInvariant env trace next ∧ ResolvesOwnPorts env trace next := by
  induction run with
  | nil => exact ⟨initial.pendingInvariant, initial.resolvesOwnPorts⟩
  | cons _ taken ih =>
      obtain ⟨invariant, before⟩ := ih bridged.2 resolved.2
      exact ⟨invariant.step before taken bridged.1 resolved.1, resolved.1⟩

end Invariant

/-- Whatever the switch accepts and reads back, no VLAN that is up stays pending on the port of a
bundle. -/
theorem pending_vlans_disabled (env : Env) {start : Sys} (initial : Initial start)
    {trace : AnsweredTrace} {s : Sys} (run : AnsweredRun env start trace s)
    (bridged : Runs.Along (fun _ event => changesL2 env event.before event.input.call) trace)
    (resolved : Runs.Along (fun earlier event => ResolvesOwnPorts env (event :: earlier) event.after)
      trace) : PendingDisabled env s := by
  obtain ⟨invariant, resolves⟩ := run_pendingInvariant initial run bridged resolved
  exact invariant.pendingDisabled resolves

section Refusing

def obeyed (call : Call) : AnsweredCall := ⟨idealEnv.verdict, idealEnv.readback, call⟩

/-- The answers of a switch that refuses every call and reads back nothing. -/
def refused (call : Call) : AnsweredCall := ⟨fun _ _ _ => .fail, fun _ _ => ⟨fun _ => [], []⟩, call⟩

def accessOnPort : Sys :=
  match ensureBundle idealEnv onePort 0 100 1 "1".toList with
  | .ok ensured => ensured
  | .error _ => onePort

theorem accessPort_onPort : AccessPort accessOnPort Bitmap.zero Bitmap.zero :=
  ⟨rfl, rfl, rfl, rfl, rfl, rfl, rfl⟩

variable {s : Sys} {vlans vmap : Bitmap}

theorem AccessPort.withVlans (access : AccessPort s vlans vmap) (enabled : Bitmap) :
    AccessPort { s with
      ofprotos := Function.update s.ofprotos 0 { s.ofprotos 0 with vlans := enabled } }
      enabled vmap where
  isSystem := by simpa using access.isSystem
  isName := by simpa using access.isName
  isVlans := by simp
  bundles := by simpa using access.bundles
  found := by simpa [opsFpaFindBundle] using access.found
  lookedUp := access.lookedUp
  isPort := access.isPort

theorem AccessPort.setVlan (access : AccessPort s vlans vmap) (env : Env) (vid : Fin 4096)
    (add : Bool) :
    ∃ after left, step env s (.setVlan 0 vid add) = .ok (.ok, after) ∧
      AccessPort after (vlans.set vid add) left ∧
      left = (setVlanOnPort env s.hw (accessPort vmap) vid add).2 := by
  have visits : setVlanOnPorts env vid add (s.ofprotos 0).bundles.values s =
      .ok (setVmap s 10 (accessPort vmap) (setVlanOnPort env s.hw (accessPort vmap) vid add)) := by
    have isPid : accessBundle.intfId = 1 := rfl
    rw [access.bundles]
    simp only [setVlanOnPorts, isPid, access.lookedUp, derefOfport, access.isPort]
    rfl
  have visited := access.visited (setVlanOnPort env s.hw (accessPort vmap) vid add)
  generalize setVlanOnPort env s.hw (accessPort vmap) vid add = result at visits visited
  simp only [step, opsFpaOfprotoSetVlan, visits]
  refine ⟨_, result.2, rfl, ?_, rfl⟩
  rw [visited.isVlans]
  exact visited.withVlans _

def OnlyAccess (s : Sys) : Prop :=
  ∀ up aux bundle, opsFpaFindBundle idealEnv s up aux = some bundle →
    up = 0 ∧ aux = 100 ∧ bundle = accessBundle

theorem ensured_onPort : ensureBundle idealEnv onePort 0 100 1 "1".toList = .ok accessOnPort := rfl

theorem onePort_keyed : BundlesKeyed idealEnv onePort :=
  step_keyed idealSys_initial.bundlesKeyed
    (rfl : step idealEnv idealSys (.portConstruct 0 1 10 (systemNetdev 1) 1500) = .ok (.ok, onePort))

theorem onlyAccess_onPort : OnlyAccess accessOnPort := by
  obtain ⟨_, _, after⟩ := findBundle_ensureBundle onePort_keyed ensured_onPort
  intro up aux bundle found
  have isBundle := found
  rw [after] at isBundle
  split at isBundle
  · rename_i here
    rw [here.1, here.2, accessPort_onPort.found, Option.some.injEq] at found
    exact ⟨here.1, here.2, found.symm⟩
  · rw [onePort, findBundle_portConstruct, idealSys_initial.findBundle_none] at isBundle
    cases isBundle

theorem OnlyAccess.resolves {trace : AnsweredTrace} (only : OnlyAccess s)
    (access : AccessPort s vlans vmap) (isOwn : ownPort idealEnv trace 0 100 = some 10) :
    ResolvesOwnPorts idealEnv trace s := by
  intro up aux bundle found
  obtain ⟨rfl, rfl, rfl⟩ := only up aux bundle found
  rw [if_neg (by decide), isOwn]
  exact access.lookedUp

theorem OnlyAccess.congr {next : Sys} (only : OnlyAccess s)
    (same : ∀ up, (next.ofprotos up).bundles = (s.ofprotos up).bundles) : OnlyAccess next := by
  intro up aux bundle found
  rw [opsFpaFindBundle, same] at found
  exact only up aux bundle found

theorem configured_pending : (applyDiff idealEnv accessOnPort.hw Bitmap.zero
    (vnew (accessSettings 200)) 1).2 (vidxIngress 200 false) = true := by
  have unfetched : opsFpaVlanFetch idealEnv accessOnPort.hw.fpa 1 (vidxIngress 200 false) = false :=
    rfl
  rw [applyDiff_vmap (by decide), unfetched]
  decide

theorem refused_run {result : Hw × Bitmap} (waits : result.2 (vidxIngress 200 false) = true)
    (configured : step idealEnv onePort (.bundleSet 0 100 (some (accessSettings 200))) =
      .ok (.ok, setVmap accessOnPort 10 (accessPort Bitmap.zero) result)) :
    ∃ trace s left, AnsweredRun idealEnv idealSys trace s ∧ s.ofports 10 = some (accessPort left) ∧
      left (vidxIngress 200 false) = true ∧ (s.ofprotos 0).vlans 100 = true ∧
      Runs.Along (fun _ event => changesL2 idealEnv event.before event.input.call) trace ∧
      Runs.Along (fun earlier event => ResolvesOwnPorts idealEnv (event :: earlier) event.after)
        trace := by
  have access := accessPort_onPort.visited result
  obtain ⟨after, left, enabled, accessAfter, isLeft⟩ :=
    access.setVlan (idealEnv.answering (refused (.setVlan 0 100 true))) 100 true
  have isOwn : ∀ trace before, ownPort idealEnv
      (⟨onePort, obeyed (.bundleSet 0 100 (some (accessSettings 200))), .ok, before⟩ :: trace) 0 100 =
        some 10 := by
    intro trace before
    rw [ownPort_created rfl rfl]
    · rfl
    · rfl
  have only : OnlyAccess (setVmap accessOnPort 10 (accessPort Bitmap.zero) result) :=
    onlyAccess_onPort.congr fun _ => rfl
  have external : (accessSettings 200).name ≠ (onePort.ofprotos 0).name := by decide
  refine ⟨[⟨setVmap accessOnPort 10 (accessPort Bitmap.zero) result, refused (.setVlan 0 100 true),
      .ok, after⟩,
    ⟨onePort, obeyed (.bundleSet 0 100 (some (accessSettings 200))), .ok,
      setVmap accessOnPort 10 (accessPort Bitmap.zero) result⟩,
    ⟨idealSys, obeyed (.portConstruct 0 1 10 (systemNetdev 1) 1500), .ok, onePort⟩],
    after, left, ?_, accessAfter.isPort, ?_, ?_, ?_, ?_⟩
  · refine Runs.Run.cons (Runs.Run.cons (Runs.Run.cons Runs.Run.nil ?_) ?_) ?_
    · rfl
    · exact configured
    · exact enabled
  · rw [isLeft, setVlanOnPort, if_pos rfl, enableVlanOnPort_vmap (by decide), Bool.and_eq_true]
    exact ⟨waits, by decide⟩
  · rw [accessAfter.isVlans]
    decide
  · refine ⟨trivial, ⟨rfl, ?_⟩, rfl, trivial⟩
    rintro _ _ ⟨⟩ _ _ sameName
    exact (external sameName).elim
  · refine ⟨?_, ?_, ?_, trivial⟩
    · refine (only.congr fun up => (setVlan_ofproto enabled up).2.1).resolves accessAfter ?_
      rw [ownPort_kept (by simp [refused])]
      exact isOwn _ _
    · exact only.resolves access (isOwn _ _)
    · intro up aux bundle found
      rw [onePort, findBundle_portConstruct, idealSys_initial.findBundle_none] at found
      cases found

theorem pending_vlans_disabled_when_refused :
    ∃ trace s left, AnsweredRun idealEnv idealSys trace s ∧ s.ofports 10 = some (accessPort left) ∧
      left (vidxIngress 200 false) = true ∧ (s.ofprotos 0).vlans 100 = true ∧
      PendingDisabled idealEnv s := by
  obtain ⟨trace, s, left, run, isPort, waits, isUp, bridged, resolved⟩ :=
    refused_run configured_pending (accessPort_onPort.bundleSet ensured_onPort 200)
  exact ⟨trace, s, left, run, isPort, waits, isUp,
    pending_vlans_disabled idealEnv idealSys_initial run bridged resolved⟩

end Refusing

section Renaming

variable {result : Hw × Bitmap} {portsByPid : LinkedHmap OfportRef}

def internalSettings : BundleSettings := { idleSettings with name := "br0".toList }

/-- The bundle of VLAN 200 is gone, its port is not. -/
def portLeft (result : Hw × Bitmap) : Sys :=
  { setVmap accessOnPort 10 (accessPort Bitmap.zero) result with
    ofprotos := Function.update accessOnPort.ofprotos 0
      { accessOnPort.ofprotos 0 with
        bundles := (accessOnPort.ofprotos 0).bundles.remove 100 accessBundle } }

def enabledLeft (result : Hw × Bitmap) : Sys := withVlan (portLeft result) 200

def unnamedBundle : Bundle := ⟨100, none, 1, none, none, []⟩

def internalOnPort (result : Hw × Bitmap) (portsByPid : LinkedHmap OfportRef) : Sys :=
  named { withBundle idealEnv (enabledLeft result) 0 unnamedBundle with portsByPid } 0 100
    "br0".toList

theorem rmBundle_left : opsFpaRmBundle idealEnv
    (setVmap accessOnPort 10 (accessPort Bitmap.zero) result) 0 100 = (.ok, portLeft result) := by
  have access : AccessPort _ Bitmap.zero result.2 := accessPort_onPort.visited result
  simp only [opsFpaRmBundle, access.found]
  rfl

theorem enabledLeft_keyed : BundlesKeyed idealEnv (enabledLeft result) := by
  have filled : BundlesKeyed idealEnv (setVmap accessOnPort 10 (accessPort Bitmap.zero) result) :=
    (ensureBundle_keyed onePort_keyed ensured_onPort).congr rfl
  intro up
  have sameBundles : ((enabledLeft result).ofprotos up).bundles =
      ((portLeft result).ofprotos up).bundles := by
    by_cases here : up = 0
    · simp [enabledLeft, withVlan, here]
    · simp [enabledLeft, withVlan, here]
  rw [sameBundles]
  exact rmBundle_keyed filled rmBundle_left up

theorem portLeft_noBundle (up : OfprotoRef) (aux : Aux) :
    opsFpaFindBundle idealEnv (portLeft result) up aux = none := by
  have filled : BundlesKeyed idealEnv (setVmap accessOnPort 10 (accessPort Bitmap.zero) result) :=
    (ensureBundle_keyed onePort_keyed ensured_onPort).congr rfl
  have only : OnlyAccess (setVmap accessOnPort 10 (accessPort Bitmap.zero) result) :=
    onlyAccess_onPort.congr fun _ => rfl
  rw [findBundle_rmBundle filled rmBundle_left]
  split
  · rfl
  · rename_i elsewhere
    rw [Option.eq_none_iff_forall_ne_some]
    intro bundle found
    obtain ⟨isUp, isAux, _⟩ := only up aux bundle found
    exact elsewhere ⟨isUp, isAux⟩

theorem setVlan_left : step idealEnv (portLeft result) (.setVlan 0 200 true) =
    .ok (.ok, enabledLeft result) := by
  have noBundles : ((portLeft result).ofprotos 0).bundles.values = [] := rfl
  simp only [step, opsFpaOfprotoSetVlan, noBundles, setVlanOnPorts]
  rfl

theorem enabledLeft_noBundle (up : OfprotoRef) (aux : Aux) :
    opsFpaFindBundle idealEnv (enabledLeft result) up aux = none := by
  rw [opsFpaFindBundle, (setVlan_ofproto setVlan_left up).2.1]
  exact portLeft_noBundle up aux

theorem internal_found (up : OfprotoRef) (aux : Aux) :
    opsFpaFindBundle idealEnv (internalOnPort result portsByPid) up aux =
      if up = 0 ∧ aux = 100 then some { unnamedBundle with name := some "br0".toList }
      else none := by
  have created : ∀ other wanted, opsFpaFindBundle idealEnv
      { withBundle idealEnv (enabledLeft result) 0 unnamedBundle with portsByPid } other wanted =
        if other = 0 ∧ wanted = 100 then some unnamedBundle else none := by
    intro other wanted
    rw [← @enabledLeft_noBundle result other wanted]
    exact findBundle_withBundle enabledLeft_keyed (enabledLeft_noBundle 0 100) other wanted
  rw [internalOnPort, findBundle_named, created, created]
  split
  · rfl
  · rfl

theorem linkedAgain : ∃ portsByPid, portsByPid.firstInBucket (hashOfPid 1) = some 10 ∧
    accessOnPort.portsByPid.insert idealEnv.growth 10 (hashOfPid 1) = some portsByPid := by
  have again : (accessOnPort.portsByPid.insert idealEnv.growth 10 (hashOfPid 1)).any
      (fun portsByPid => portsByPid.firstInBucket (hashOfPid 1) = some 10) = true := by
    decide +kernel
  obtain ⟨portsByPid, linked, isFirst⟩ := (Option.any_eq_true _ _).mp again
  exact ⟨portsByPid, of_decide_eq_true isFirst, linked⟩

theorem bundleSet_internal
    (linked : accessOnPort.portsByPid.insert idealEnv.growth 10 (hashOfPid 1) = some portsByPid) :
    step idealEnv (enabledLeft result) (.bundleSet 0 100 (some internalSettings)) =
      .ok (.ok, internalOnPort result portsByPid) := by
  have slave : ofprotoGetPort (enabledLeft result) 0 1 = some 10 := rfl
  have isPort : (enabledLeft result).ofports 10 = some (accessPort result.2) := rfl
  have isPid : netdevGetIfindex (accessPort result.2).netdev = 1 := rfl
  have valid : (1 : Int) ≠ fpaInvalidIntfId := by decide
  have samePorts : (enabledLeft result).portsByPid = accessOnPort.portsByPid := rfl
  have created : createBundle idealEnv (enabledLeft result) 0 100 1 =
      .ok { withBundle idealEnv (enabledLeft result) 0 unnamedBundle with portsByPid } := by
    simp only [createBundle, slave, Option.bind_some, isPort, Option.map_some, isPid, if_neg valid,
      samePorts, linked]
    rfl
  have ensured : ensureBundle idealEnv (enabledLeft result) 0 100 1 "br0".toList =
      .ok (internalOnPort result portsByPid) := by
    simp only [ensureBundle, enabledLeft_noBundle, created]
    rfl
  have isSystem : ((internalOnPort result portsByPid).ofprotos 0).type = .system := rfl
  have isName : ((internalOnPort result portsByPid).ofprotos 0).name = "br0".toList := rfl
  have slaves : internalSettings.slaves = [1] := rfl
  have isNamed : internalSettings.name = "br0".toList := rfl
  have isIntf : unnamedBundle.intfId = 1 := rfl
  simp only [step, opsFpaOfprotoBundleSet, slaves, isNamed, ensured, internal_found, and_self,
    if_true, isSystem, configureL2, isIntf, if_neg valid, isName]

/-- The port waits for VLAN 200 while it has no bundle, and VLAN 200 is enabled then. -/
theorem internal_run (waits : result.2 (vidxIngress 200 false) = true)
    (configured : step idealEnv onePort (.bundleSet 0 100 (some (accessSettings 200))) =
      .ok (.ok, setVmap accessOnPort 10 (accessPort Bitmap.zero) result)) :
    ∃ trace s, AnsweredRun idealEnv idealSys trace s ∧
      Runs.Along (fun _ event => changesBridge event.before event.input.call) trace ∧
      Runs.Along (fun earlier event => ResolvesOwnPorts idealEnv (event :: earlier) event.after)
        trace ∧
      ¬ PendingDisabled idealEnv s := by
  obtain ⟨portsByPid, isFirst, linked⟩ := linkedAgain
  have configuredEvent : ownPort idealEnv
      [⟨onePort, obeyed (.bundleSet 0 100 (some (accessSettings 200))), .ok,
          setVmap accessOnPort 10 (accessPort Bitmap.zero) result⟩,
        ⟨idealSys, obeyed (.portConstruct 0 1 10 (systemNetdev 1) 1500), .ok, onePort⟩] 0 100 =
        some 10 := by
    rw [ownPort_created rfl rfl rfl]
    rfl
  refine ⟨[⟨enabledLeft result, obeyed (.bundleSet 0 100 (some internalSettings)), .ok,
      internalOnPort result portsByPid⟩,
    ⟨portLeft result, obeyed (.setVlan 0 200 true), .ok, enabledLeft result⟩,
    ⟨setVmap accessOnPort 10 (accessPort Bitmap.zero) result, obeyed (.bundleSet 0 100 none), .ok,
      portLeft result⟩,
    ⟨onePort, obeyed (.bundleSet 0 100 (some (accessSettings 200))), .ok,
      setVmap accessOnPort 10 (accessPort Bitmap.zero) result⟩,
    ⟨idealSys, obeyed (.portConstruct 0 1 10 (systemNetdev 1) 1500), .ok, onePort⟩],
    internalOnPort result portsByPid, ?_, ?_, ?_, ?_⟩
  · refine Runs.Run.cons (Runs.Run.cons (Runs.Run.cons (Runs.Run.cons (Runs.Run.cons
      Runs.Run.nil ?_) ?_) ?_) ?_) ?_
    · rfl
    · exact configured
    · exact congrArg Except.ok rmBundle_left
    · exact setVlan_left
    · exact bundleSet_internal linked
  · exact ⟨rfl, trivial, rfl, rfl, rfl, trivial⟩
  · refine ⟨?_, ?_, ?_, ?_, ?_, trivial⟩
    · intro up aux bundle found
      rw [internal_found] at found
      split at found
      · rename_i here
        obtain ⟨rfl, rfl⟩ := here
        cases found
        rw [if_neg (by decide), ownPort_created rfl rfl (enabledLeft_noBundle 0 100)]
        exact isFirst
      · cases found
    · intro up aux bundle found
      rw [enabledLeft_noBundle] at found
      cases found
    · intro up aux bundle found
      rw [portLeft_noBundle] at found
      cases found
    · have only : OnlyAccess (setVmap accessOnPort 10 (accessPort Bitmap.zero) result) :=
        onlyAccess_onPort.congr fun _ => rfl
      exact only.resolves (accessPort_onPort.visited result) configuredEvent
    · intro up aux bundle found
      rw [onePort, findBundle_portConstruct, idealSys_initial.findBundle_none] at found
      cases found
  · intro pending
    have found : opsFpaFindBundle idealEnv (internalOnPort result portsByPid) 0 100 =
        some { unnamedBundle with name := some "br0".toList } := by
      rw [internal_found, if_pos ⟨rfl, rfl⟩]
    have isUp := pending 0 100 _ 10 (accessPort result.2) found isFirst rfl
      (vidxIngress 200 false) (by decide) waits
    have isEnabled : ((internalOnPort result portsByPid).ofprotos 0).vlans 200 = true := rfl
    have isVid : vidxVid (vidxIngress 200 false) = 200 := by decide
    rw [isVid, isEnabled] at isUp
    cases isUp

theorem enabled_vlan_stays_pending : ∃ trace s, AnsweredRun idealEnv idealSys trace s ∧
    Runs.Along (fun _ event => changesBridge event.before event.input.call) trace ∧
    Runs.Along (fun earlier event => ResolvesOwnPorts idealEnv (event :: earlier) event.after)
      trace ∧
    ¬ PendingDisabled idealEnv s :=
  internal_run configured_pending (accessPort_onPort.bundleSet ensured_onPort 200)

end Renaming

end FpaPlugin
