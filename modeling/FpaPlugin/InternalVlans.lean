import FpaPlugin.System
import FpaPlugin.VlanSpec

/-! The map of internal VLANs against the routed interfaces that are live: whatever FPA
refuses on the way, a VLAN is internal exactly while one interface has it. -/

namespace FpaPlugin

variable {env : Env}

/-- The switch with the `fpa_l3_intf` objects that were allocated; a reference counts
allocations. -/
structure RoutingSys where
  hw : Hw
  intfs : Nat → Option L3Intf
  allocated : Nat

inductive RoutingCall
  | enableRoutingInterface (portNum : Int) (vlanId : Fin 4096) (mac : EthAddr)
  | enableRoutingVlan (vlanId : Fin 4096) (mac : EthAddr)
  | disableRouting (ref : Nat)

def RoutingSys.enabled (s : RoutingSys) (hw : Hw) : Option L3Intf → Option Nat × RoutingSys
  | none => (none, { s with hw })
  | some l3Intf =>
      (some s.allocated,
        { hw
          intfs := Function.update s.intfs s.allocated (some l3Intf)
          allocated := s.allocated + 1 })

def routingStep (env : Env) (s : RoutingSys) : RoutingCall → Except Fault (Option Nat × RoutingSys)
  | .enableRoutingInterface portNum vlanId mac =>
      let (l3Intf, hw) := opsFpaEnableRoutingInterface env s.hw portNum vlanId mac
      .ok (s.enabled hw l3Intf)
  | .enableRoutingVlan vlanId mac =>
      let (l3Intf, fpa) := opsFpaEnableRoutingVlan env s.hw.fpa vlanId mac
      .ok (s.enabled { s.hw with fpa } l3Intf)
  | .disableRouting ref =>
      match s.intfs ref with
      | none => .error .freedMemory
      | some l3Intf =>
          .ok (none,
            { s with
              hw := opsFpaDisableRouting env s.hw l3Intf
              intfs := Function.update s.intfs ref none })

def RoutingSys.HasVlan (s : RoutingSys) (ref vlanId : Nat) : Prop :=
  ∃ l3Intf, s.intfs ref = some l3Intf ∧ l3Intf.vlanIntf = true ∧ l3Intf.vlanId = vlanId

section Operations

theorem vlanAddInternal_cases {hw after : Hw} {pid : Int} {vid : Nat} {status : Status}
    (added : opsFpaVlanAddInternal env hw pid vid = (status, after)) :
    status = .fail ∧ after.internalVlans = hw.internalVlans ∨
    status = .ok ∧ hw.internalVlans vid = false ∧
      after.internalVlans = hw.internalVlans.set1 vid := by
  have first := @internalVlans_vlanAdd env hw pid (vidxIngress vid false)
  simp only [opsFpaVlanAddInternal] at added
  split at added
  · rename_i failed
    cases added
    rw [failed] at first
    exact .inl ⟨rfl, first⟩
  · rename_i one isOne
    rw [isOne] at first
    have second := @internalVlans_vlanAdd env one pid (vidxEgress vid false)
    split at added
    · rename_i failed
      cases added
      rw [failed] at second
      refine .inl ⟨rfl, ?_⟩
      rw [internalVlans_vlanDel, second, first]
    · rename_i both isBoth
      rw [isBoth] at second
      split at added
      · cases added
        exact .inl ⟨rfl, second.trans first⟩
      · rename_i notInternal
        cases added
        rw [opsFpaVlanInternal, second, first, Bool.not_eq_true] at notInternal
        exact .inr ⟨rfl, notInternal, congrArg (fun vlans => vlans.set1 vid) (second.trans first)⟩

theorem internalVlans_vlanDelInternal (hw : Hw) (pid : Int) (vid : Nat) :
    (opsFpaVlanDelInternal env hw pid vid).2.internalVlans = hw.internalVlans.set0 vid := by
  simp only [opsFpaVlanDelInternal, internalVlans_vlanDel]

theorem enableRoutingVlan_cases {fpa after : Fpa} {vlanId : Nat} {mac : EthAddr} {l3Intf : L3Intf}
    (enabled : opsFpaEnableRoutingVlan env fpa vlanId mac = (some l3Intf, after)) :
    l3Intf.vlanIntf = false ∧ l3Intf.vlanId = vlanId := by
  simp only [opsFpaEnableRoutingVlan] at enabled
  repeat' split at enabled
  all_goals cases enabled
  exact ⟨rfl, rfl⟩

theorem enableRoutingInterface_cases {hw after : Hw} {pid : Int} {vlanId : Nat} {mac : EthAddr}
    {result : Option L3Intf}
    (enabled : opsFpaEnableRoutingInterface env hw pid vlanId mac = (result, after)) :
    result = none ∧ after.internalVlans = hw.internalVlans ∨
    ∃ l3Intf, result = some l3Intf ∧ l3Intf.vlanIntf = true ∧ l3Intf.vlanId = vlanId ∧
      hw.internalVlans vlanId = false ∧ after.internalVlans = hw.internalVlans.set1 vlanId := by
  simp only [opsFpaEnableRoutingInterface] at enabled
  split at enabled
  · rename_i added
    cases enabled
    rcases vlanAddInternal_cases added with ⟨_, same⟩ | ⟨absurdity, _⟩
    · exact .inl ⟨rfl, same⟩
    · cases absurdity
  · rename_i internal added
    rcases vlanAddInternal_cases added with ⟨absurdity, _⟩ | ⟨_, free, marked⟩
    · cases absurdity
    · split at enabled
      · cases enabled
        refine .inl ⟨rfl, ?_⟩
        -- the unwinding clears the bit that this very call has set
        funext vid
        rw [internalVlans_vlanDelInternal, Bitmap.set0_apply]
        simp only [marked, Bitmap.set1_apply]
        by_cases here : vid = vlanId
        · rw [here, free, bne_self_eq_false, Bool.false_and]
        · rw [beq_eq_false_iff_ne.mpr here, bne_iff_ne.mpr here]
          rfl
      · rename_i routed
        cases enabled
        obtain ⟨_, isVlan⟩ := enableRoutingVlan_cases routed
        exact .inr ⟨_, rfl, rfl, isVlan, free, marked⟩

theorem internalVlans_disableRouting (hw : Hw) (l3Intf : L3Intf) :
    (opsFpaDisableRouting env hw l3Intf).internalVlans =
      if l3Intf.vlanIntf then hw.internalVlans.set0 l3Intf.vlanId else hw.internalVlans := by
  have flows : (opsFpaDisableRouting env hw l3Intf).internalVlans =
      (if l3Intf.vlanIntf then (opsFpaVlanDelInternal env hw l3Intf.intfId l3Intf.vlanId).2
        else hw).internalVlans := by
    simp only [opsFpaDisableRouting]
    repeat' split
    all_goals rfl
  rw [flows]
  split
  · exact internalVlans_vlanDelInternal hw _ _
  · rfl

end Operations

section Invariant

structure InternalSound (s : RoutingSys) : Prop where
  fresh : ∀ ref, s.allocated ≤ ref → s.intfs ref = none
  marked : ∀ vlanId, s.hw.internalVlans vlanId = true ↔ ∃ ref, s.HasVlan ref vlanId
  once : ∀ vlanId ref other, s.HasVlan ref vlanId → s.HasVlan other vlanId → ref = other

variable {s next : RoutingSys}

structure RoutingSys.Initial (s : RoutingSys) : Prop where
  internalVlans : s.hw.internalVlans = Bitmap.zero
  intfs : s.intfs = fun _ => none

theorem RoutingSys.Initial.internalSound (initial : s.Initial) : InternalSound s where
  fresh := fun _ _ => by rw [initial.intfs]
  marked := by
    intro vlanId
    rw [initial.internalVlans]
    refine iff_of_false Bool.false_ne_true ?_
    rintro ⟨ref, l3Intf, live, _⟩
    rw [initial.intfs] at live
    cases live
  once := by
    rintro vlanId ref other ⟨l3Intf, live, _⟩
    rw [initial.intfs] at live
    cases live

theorem InternalSound.unmarked (sound : InternalSound s) {hw : Hw}
    (same : hw.internalVlans = s.hw.internalVlans) : InternalSound { s with hw } where
  fresh := sound.fresh
  marked := by
    intro vlanId
    simp only [same]
    exact sound.marked vlanId
  once := sound.once

theorem InternalSound.hasVlan_allocate (sound : InternalSound s) {hw : Hw} {l3Intf : L3Intf}
    (ref vlanId : Nat) :
    (s.enabled hw (some l3Intf)).2.HasVlan ref vlanId ↔
      s.HasVlan ref vlanId ∨ ref = s.allocated ∧ l3Intf.vlanIntf = true ∧
        l3Intf.vlanId = vlanId := by
  simp only [RoutingSys.HasVlan, RoutingSys.enabled]
  by_cases here : ref = s.allocated
  · subst here
    have absent := sound.fresh s.allocated (Nat.le_refl _)
    simp [absent]
  · simp [here]

theorem InternalSound.fresh_allocate (sound : InternalSound s) {hw : Hw} {l3Intf : L3Intf}
    (ref : Nat) (later : s.allocated + 1 ≤ ref) :
    (s.enabled hw (some l3Intf)).2.intfs ref = none := by
  have different : ref ≠ s.allocated := by omega
  exact (Function.update_of_ne different _ _).trans (sound.fresh ref (by omega))

theorem InternalSound.allocateVlan (sound : InternalSound s) {hw : Hw} {l3Intf : L3Intf}
    (same : hw.internalVlans = s.hw.internalVlans) (notInternal : l3Intf.vlanIntf = false) :
    InternalSound (s.enabled hw (some l3Intf)).2 where
  fresh := sound.fresh_allocate
  marked := by
    intro vlanId
    simp only [sound.hasVlan_allocate, notInternal, Bool.false_eq_true, false_and, and_false,
      or_false]
    exact same ▸ sound.marked vlanId
  once := by
    intro vlanId ref other
    simp only [sound.hasVlan_allocate, notInternal, Bool.false_eq_true, false_and, and_false,
      or_false]
    exact sound.once vlanId ref other

theorem InternalSound.allocateInternal (sound : InternalSound s) {hw : Hw} {l3Intf : L3Intf}
    (isInternal : l3Intf.vlanIntf = true) (free : s.hw.internalVlans l3Intf.vlanId = false)
    (marks : hw.internalVlans = s.hw.internalVlans.set1 l3Intf.vlanId) :
    InternalSound (s.enabled hw (some l3Intf)).2 where
  fresh := sound.fresh_allocate
  marked := by
    intro vlanId
    have isMarked : (s.enabled hw (some l3Intf)).2.hw.internalVlans vlanId = true ↔
        vlanId = l3Intf.vlanId ∨ s.hw.internalVlans vlanId = true := by
      simp only [RoutingSys.enabled, marks, Bitmap.set1_apply, Bool.or_eq_true, beq_iff_eq]
    rw [isMarked, sound.marked]
    simp only [sound.hasVlan_allocate, isInternal, true_and]
    constructor
    · rintro (rfl | ⟨ref, old⟩)
      · exact ⟨s.allocated, .inr ⟨rfl, rfl⟩⟩
      · exact ⟨ref, .inl old⟩
    · rintro ⟨ref, old | ⟨_, same⟩⟩
      · exact .inr ⟨ref, old⟩
      · exact .inl same.symm
  once := by
    -- the VLAN of the new interface was not internal, so that no other interface has it
    have noOther : ∀ ref, ¬ s.HasVlan ref l3Intf.vlanId := by
      intro ref old
      rw [(sound.marked _).mpr ⟨ref, old⟩] at free
      cases free
    intro vlanId ref other
    simp only [sound.hasVlan_allocate, isInternal, true_and]
    rintro (old | ⟨rfl, rfl⟩) (otherOld | ⟨rfl, same⟩)
    · exact sound.once vlanId ref other old otherOld
    · exact (noOther ref (same ▸ old)).elim
    · exact (noOther other otherOld).elim
    · rfl

theorem InternalSound.release (sound : InternalSound s) {ref : Nat} {l3Intf : L3Intf} {hw : Hw}
    (live : s.intfs ref = some l3Intf)
    (cleared : hw.internalVlans =
      if l3Intf.vlanIntf then s.hw.internalVlans.set0 l3Intf.vlanId else s.hw.internalVlans) :
    InternalSound { s with hw, intfs := Function.update s.intfs ref none } := by
  have hasVlan : ∀ other vlanId, RoutingSys.HasVlan
      { s with hw, intfs := Function.update s.intfs ref none } other vlanId ↔
        other ≠ ref ∧ s.HasVlan other vlanId := by
    intro other vlanId
    simp only [RoutingSys.HasVlan]
    by_cases here : other = ref
    · simp [here]
    · simp [here]
  refine ⟨fun other unallocated => ?_, fun vlanId => ?_, fun vlanId one other => ?_⟩
  · by_cases here : other = ref
    · rw [here]
      exact Function.update_self _ _ _
    · exact (Function.update_of_ne here _ _).trans (sound.fresh other unallocated)
  · simp only [hasVlan, cleared]
    constructor
    · intro isMarked
      have wasMarked : s.hw.internalVlans vlanId = true ∧
          (l3Intf.vlanIntf = true → vlanId ≠ l3Intf.vlanId) := by
        split at isMarked
        · rw [Bitmap.set0_apply, Bool.and_eq_true, bne_iff_ne] at isMarked
          exact ⟨isMarked.2, fun _ => isMarked.1⟩
        · rename_i notInternal
          exact ⟨isMarked, fun isInternal => (notInternal isInternal).elim⟩
      obtain ⟨owner, has⟩ := (sound.marked vlanId).mp wasMarked.1
      refine ⟨owner, ?_, has⟩
      rintro rfl
      obtain ⟨its, isLive, isInternal, isVlan⟩ := has
      rw [live, Option.some.injEq] at isLive
      subst isLive
      exact wasMarked.2 isInternal isVlan.symm
    · rintro ⟨owner, different, has⟩
      have wasMarked := (sound.marked vlanId).mpr ⟨owner, has⟩
      split
      · rename_i isInternal
        rw [Bitmap.set0_apply, wasMarked, Bool.and_true, bne_iff_ne]
        rintro rfl
        exact different (sound.once _ owner ref has ⟨l3Intf, live, isInternal, rfl⟩)
      · exact wasMarked
  · simp only [hasVlan]
    rintro ⟨_, has⟩ ⟨_, otherHas⟩
    exact sound.once vlanId one other has otherHas

theorem InternalSound.step {call : RoutingCall} {reply : Option Nat} (sound : InternalSound s)
    (taken : routingStep env s call = .ok (reply, next)) : InternalSound next := by
  cases call with
  | enableRoutingInterface portNum vlanId mac =>
      simp only [routingStep, Except.ok.injEq] at taken
      generalize outcome : opsFpaEnableRoutingInterface env s.hw portNum vlanId mac = result at taken
      obtain ⟨l3Intf, hw⟩ := result
      have isNext : next = (s.enabled hw l3Intf).2 := by rw [taken]
      rw [isNext]
      rcases enableRoutingInterface_cases outcome with ⟨rfl, same⟩ |
        ⟨l3Intf, rfl, isInternal, isVlan, free, marks⟩
      · exact sound.unmarked same
      · rw [← isVlan] at free marks
        exact sound.allocateInternal isInternal free marks
  | enableRoutingVlan vlanId mac =>
      simp only [routingStep, Except.ok.injEq] at taken
      generalize outcome : opsFpaEnableRoutingVlan env s.hw.fpa vlanId mac = result at taken
      obtain ⟨l3Intf, fpa⟩ := result
      have isNext : next = (s.enabled { s.hw with fpa } l3Intf).2 := by rw [taken]
      rw [isNext]
      cases l3Intf with
      | none => exact sound.unmarked rfl
      | some l3Intf => exact sound.allocateVlan rfl (enableRoutingVlan_cases outcome).1
  | disableRouting ref =>
      simp only [routingStep] at taken
      split at taken
      · cases taken
      · rename_i l3Intf live
        cases taken
        exact sound.release live (internalVlans_disableRouting s.hw l3Intf)

end Invariant

/-- In every run, with any outcome of the FPA calls, a VLAN is internal exactly when one live
interface has it, and no two ever have it. -/
theorem internal_iff_one_interface (env : Env) {start : RoutingSys} (initial : start.Initial)
    {trace : List (Runs.Event RoutingSys RoutingCall (Option Nat))} {state : RoutingSys}
    (run : Runs.Run (routingStep env) start trace state) (vlanId : Fin 4096) :
    (opsFpaVlanInternal state.hw vlanId = true ↔ ∃! ref, state.HasVlan ref vlanId) ∧
      ∀ ref other, state.HasVlan ref vlanId → state.HasVlan other vlanId → ref = other := by
  have sound : InternalSound state := by
    induction run with
    | nil => exact initial.internalSound
    | cons _ taken ih => exact ih.step taken
  refine ⟨?_, sound.once vlanId⟩
  rw [opsFpaVlanInternal, sound.marked]
  constructor
  · rintro ⟨ref, has⟩
    exact ⟨ref, has, fun other otherHas => sound.once vlanId other ref otherHas has⟩
  · rintro ⟨ref, has, _⟩
    exact ⟨ref, has⟩

theorem internal_iff_one_interface_refused : ∃ trace state,
    Runs.Run (routingStep idealEnv) ⟨bareSys.hw, fun _ => none, 0⟩ trace state ∧
      state.allocated = 1 ∧ ∃! ref, state.HasVlan ref (1024 : Fin 4096) := by
  have checked : ∃ trace state,
      Runs.Run (routingStep idealEnv) ⟨bareSys.hw, fun _ => none, 0⟩ trace state ∧
        state.allocated = 1 ∧ opsFpaVlanInternal state.hw (1024 : Fin 4096) = true :=
    Runs.Run.of_check
      [RoutingCall.enableRoutingInterface 1 1024 1#48, .enableRoutingInterface 2 1024 2#48]
      (fun _ state => RoutingSys.allocated state = 1 ∧ opsFpaVlanInternal state.hw (1024 : Fin 4096) = true)
      (by decide +kernel)
  obtain ⟨trace, state, run, allocated, isInternal⟩ := checked
  exact ⟨trace, state, run, allocated,
    (internal_iff_one_interface idealEnv ⟨rfl, rfl⟩ run 1024).1.mp isInternal⟩

end FpaPlugin
