import FpaPlugin.RoutingFlows
import FpaPlugin.InternalVlans

/-! `ops_fpa_enable_routing_interface` when it gives up: the port's flow and group on the
internal VLAN are taken back by cookie and by group identifier, with whatever else goes
under them, and not at all when the VLAN turns out to be internal already. -/

namespace FpaPlugin

variable {env : Env}

def UnwindsInterface (env : Env) (hw : Hw) (pid : Int) (vid : Nat) (mac : EthAddr) : Prop :=
  ∀ fpa, hw.fpa.issue env (.flowEntryAdd .vlan (vlanFlow pid vid false)) = (.ok, fpa) →
    match opsFpaRouteAddL2Group env fpa pid vid false with
    | (none, _) =>
        ¬ hw.fpa.asic.Carries .vlan (opsFpaVlanCookie pid vid false) ∧
          UnwindsL2Group env fpa pid vid false
    | (some group, fpa) =>
        hw.internalVlans vid = false ∧
          ∀ flow, refusedFlow env fpa vid mac = some flow →
            ¬ hw.fpa.asic.Carries .vlan (opsFpaVlanCookie pid vid false) ∧
            hw.fpa.asic.hasGroup group = false ∧
            ∀ table, ∀ cookie ∈ flow.unwound vid table, ¬ hw.fpa.asic.Carries table cookie

section Ports

variable {hw after : Hw} {pid : Int} {vid : Nat}

theorem vlanDel_ingress_asic (deletes : env.CookieDeletesSucceed) (bound : vid < 4096)
    (tagged : Bool) : (opsFpaVlanDel env hw pid (vidxIngress vid tagged)).2.fpa.asic =
      hw.fpa.asic.apply (.flowTableCookieDelete .vlan (opsFpaVlanCookie pid vid tagged)) := by
  simp only [opsFpaVlanDel, vidxIsEgress_ingress bound, vidxVid_ingress bound,
    vidxArg_ingress bound, Bool.false_eq_true, if_false, fpa_observe]
  exact asic_of_delete deletes _ _ _

theorem vlanDel_egress_asic (deletes : env.DeletesSucceed) (bound : vid < 4096) (popTag : Bool)
    {group : Nat}
    (built : fpaLibGroupIdentifierBuild env (.l2Interface (portNum pid) vid) = some group) :
    (opsFpaVlanDel env hw pid (vidxEgress vid popTag)).2.fpa.asic =
      hw.fpa.asic.apply (.groupTableEntryDelete group) := by
  simp only [opsFpaVlanDel, vidxIsEgress_egress bound, vidxVid_egress bound, built, if_true,
    fpa_observe]
  exact issue_delete deletes _ _

theorem vlanDelInternal_asic (flowDeletes : env.CookieDeletesSucceed)
    (groupDeletes : env.DeletesSucceed) (bound : vid < 4096) {group : Nat}
    (built : fpaLibGroupIdentifierBuild env (.l2Interface (portNum pid) vid) = some group) :
    (opsFpaVlanDelInternal env hw pid vid).2.fpa.asic =
      (hw.fpa.asic.apply (.flowTableCookieDelete .vlan (opsFpaVlanCookie pid vid false))).apply
        (.groupTableEntryDelete group) := by
  simp only [opsFpaVlanDelInternal]
  rw [vlanDel_egress_asic groupDeletes bound false built, vlanDel_ingress_asic flowDeletes bound]

theorem vlanAddInternal_outcome (deletes : env.CookieDeletesSucceed) (bound : vid < 4096)
    {status : Status} (added : opsFpaVlanAddInternal env hw pid vid = (status, after)) :
    (∃ fpa, hw.fpa.issue env (.flowEntryAdd .vlan (vlanFlow pid vid false)) = (.fail, fpa) ∧
      status = .fail ∧ after.fpa = fpa) ∨
    ∃ fpa, hw.fpa.issue env (.flowEntryAdd .vlan (vlanFlow pid vid false)) = (.ok, fpa) ∧
      ((∃ refused, opsFpaRouteAddL2Group env fpa pid vid false = (none, refused) ∧
        status = .fail ∧ after.fpa.asic = refused.asic.apply
          (.flowTableCookieDelete .vlan (opsFpaVlanCookie pid vid false))) ∨
      ∃ group both, opsFpaRouteAddL2Group env fpa pid vid false = (some group, both) ∧
        status = (if hw.internalVlans vid then .fail else .ok) ∧ after.fpa = both) := by
  simp only [opsFpaVlanAddInternal] at added
  have ingress : opsFpaVlanAdd env hw pid (vidxIngress vid false) =
      ((hw.fpa.issue env (.flowEntryAdd .vlan (vlanFlow pid vid false))).1,
        { hw with fpa := (hw.fpa.issue env (.flowEntryAdd .vlan (vlanFlow pid vid false))).2 }.observe
          pid (vidxIngress vid false) true
          (hw.fpa.issue env (.flowEntryAdd .vlan (vlanFlow pid vid false))).1) := by
    simp only [opsFpaVlanAdd, vidxIsEgress_ingress bound, vidxVid_ingress bound,
      vidxArg_ingress bound, Bool.false_eq_true, if_false]
  cases issued : hw.fpa.issue env (.flowEntryAdd .vlan (vlanFlow pid vid false)) with
  | mk first fpa =>
  rw [issued] at ingress
  rw [ingress] at added
  cases first with
  | fail =>
      cases added
      exact .inl ⟨fpa, rfl, rfl, rfl⟩
  | ok =>
      refine .inr ⟨fpa, rfl, ?_⟩
      dsimp only at added
      generalize isOne : { hw with fpa := fpa }.observe pid (vidxIngress vid false) true .ok = one
        at added
      have oneFpa : one.fpa = fpa := by rw [← isOne, fpa_observe]
      have oneVlans : one.internalVlans = hw.internalVlans := by
        rw [← isOne, internalVlans_observe]
      cases grouped : opsFpaRouteAddL2Group env fpa pid vid false with
      | mk result both =>
      cases result with
      | none =>
          have egress : opsFpaVlanAdd env one pid (vidxEgress vid false) =
              (.fail, { one with fpa := both }) := by
            simp only [opsFpaVlanAdd, vidxIsEgress_egress bound, vidxVid_egress bound,
              vidxArg_egress bound, if_true, oneFpa, grouped]
          rw [egress] at added
          cases added
          exact .inl ⟨both, rfl, rfl, vlanDel_ingress_asic deletes bound false⟩
      | some group =>
          have egress : opsFpaVlanAdd env one pid (vidxEgress vid false) =
              (.ok, { one with fpa := both }.observe pid (vidxEgress vid false) true .ok) := by
            simp only [opsFpaVlanAdd, vidxIsEgress_egress bound, vidxVid_egress bound,
              vidxArg_egress bound, if_true, oneFpa, grouped]
          rw [egress] at added
          dsimp only at added
          rw [opsFpaVlanInternal, internalVlans_observe] at added
          dsimp only at added
          rw [oneVlans] at added
          refine .inr ⟨group, both, rfl, ?_⟩
          split at added
          · rename_i isInternal
            cases added
            exact ⟨by rw [if_pos isInternal], by rw [fpa_observe]⟩
          · rename_i notInternal
            cases added
            refine ⟨by rw [if_neg notInternal], ?_⟩
            dsimp only
            rw [fpa_observe]

end Ports

section Restored

variable {pid : Int} {vid group : Nat}

theorem Asic.eq_iff {asic other : Asic} :
    other = asic ↔ (∀ table, other.flows table = asic.flows table) ∧ other.groups = asic.groups := by
  constructor
  · rintro rfl
    exact ⟨fun _ => rfl, rfl⟩
  · rintro ⟨flows, groups⟩
    exact Asic.ext_flows flows groups

theorem filter_vlanFlow (asic : Asic) :
    (asic.flows .vlan ++ [vlanFlow pid vid false]).filter
      (fun flow => flow.cookie ≠ opsFpaVlanCookie pid vid false) = asic.flows .vlan ↔
      ¬ asic.Carries .vlan (opsFpaVlanCookie pid vid false) := by
  rw [← filter_cookie_iff, List.filter_append]
  simp [vlanFlow]

theorem restored_ingress_iff {asic refused : Asic}
    (flows : refused.flows = (asic.apply (.flowEntryAdd .vlan (vlanFlow pid vid false))).flows) :
    refused.apply (.flowTableCookieDelete .vlan (opsFpaVlanCookie pid vid false)) = asic ↔
      ¬ asic.Carries .vlan (opsFpaVlanCookie pid vid false) ∧ refused.groups = asic.groups := by
  rw [Asic.eq_iff, Asic.groups_cookieDelete]
  refine and_congr ?_ Iff.rfl
  rw [← filter_vlanFlow]
  constructor
  · intro same
    have onVlan := same .vlan
    rwa [Asic.flows_cookieDelete, flows, Asic.flows_flowEntryAdd] at onVlan
  · intro onVlan table
    by_cases here : table = .vlan
    · subst here
      rwa [Asic.flows_cookieDelete, flows, Asic.flows_flowEntryAdd]
    · rw [Asic.flows_cookieDelete_ne _ _ here, flows, Asic.flows_flowEntryAdd_ne _ _ here]

def Asic.takenBack (asic : Asic) (pid : Int) (vid group : Nat) (bucket : Bucket)
    (flow : RoutingFlow) : Asic :=
  (((((asic.apply (.flowEntryAdd .vlan (vlanFlow pid vid false))).apply
    (.groupTableEntryAdd group)).apply (.groupEntryBucketAdd group bucket)).without
    (flow.unwound vid)).apply
    (.flowTableCookieDelete .vlan (opsFpaVlanCookie pid vid false))).apply
    (.groupTableEntryDelete group)

variable (asic : Asic) (flow : RoutingFlow) (bucket : Bucket)

theorem takenBack_vlan : (asic.takenBack pid vid group bucket flow).flows .vlan =
    (asic.flows .vlan ++ [vlanFlow pid vid false]).filter fun flow =>
      flow.cookie ≠ opsFpaVlanCookie pid vid false := by
  have untouched : flow.unwound vid .vlan = [] := by cases flow <;> rfl
  simp [Asic.takenBack, Asic.flows_cookieDelete, Asic.without, Asic.flows_flowEntryAdd, untouched]

theorem takenBack_flows {table : FlowTableType} (elsewhere : table ≠ .vlan) :
    (asic.takenBack pid vid group bucket flow).flows table =
      (asic.without (flow.unwound vid)).flows table := by
  simp only [Asic.takenBack, Asic.flows_groupTableEntryDelete,
    Asic.flows_cookieDelete_ne _ _ elsewhere, Asic.without, Asic.flows_groupEntryBucketAdd,
    Asic.flows_groupTableEntryAdd, Asic.flows_flowEntryAdd_ne _ _ elsewhere]

theorem takenBack_groups : (asic.takenBack pid vid group bucket flow).groups =
    asic.groups.filter fun entry => entry.groupIdentifier ≠ group := by
  have entered := filter_groupTableEntryAdd
    (asic.apply (.flowEntryAdd .vlan (vlanFlow pid vid false))) group
  exact (filter_groupEntryBucketAdd _ group bucket).trans entered

theorem restored_interface_iff : asic.takenBack pid vid group bucket flow = asic ↔
    ¬ asic.Carries .vlan (opsFpaVlanCookie pid vid false) ∧ asic.hasGroup group = false ∧
      ∀ table, ∀ cookie ∈ flow.unwound vid table, ¬ asic.Carries table cookie := by
  rw [Asic.eq_iff, takenBack_groups, filter_groups_iff, ← filter_vlanFlow]
  constructor
  · rintro ⟨flows, groups⟩
    refine ⟨(takenBack_vlan asic flow bucket).symm.trans (flows .vlan), groups, fun table => ?_⟩
    rw [← flows_without_iff]
    by_cases here : table = .vlan
    · subst here
      cases flow <;> simp [Asic.without, RoutingFlow.unwound]
    · rw [← takenBack_flows asic flow bucket here]
      exact flows table
  · rintro ⟨onVlan, groups, absent⟩
    refine ⟨fun table => ?_, groups⟩
    by_cases here : table = .vlan
    · subst here
      rw [takenBack_vlan, onVlan]
    · rw [takenBack_flows asic flow bucket here, flows_without_iff]
      exact absent table

end Restored

/-- An interface that cannot be routed leaves the switch as it was exactly when the call
unwinds as `UnwindsInterface` says. -/
theorem refused_interface_restores_iff (env : Env) (flowDeletes : env.CookieDeletesSucceed)
    (groupDeletes : env.DeletesSucceed) (hw : Hw) (pid : Int) (vlanId : Fin 4096) (mac : EthAddr)
    {result : Option L3Intf} {after : Hw}
    (enabled : opsFpaEnableRoutingInterface env hw pid vlanId mac = (result, after)) :
    (result = none →
      after.fpa.asic = hw.fpa.asic ∧ after.internalVlans = hw.internalVlans) ↔
      UnwindsInterface env hw pid vlanId mac := by
  have bound := vlanId.isLt
  have onTables : (result = none →
      after.fpa.asic = hw.fpa.asic ∧ after.internalVlans = hw.internalVlans) ↔
      (result = none → after.fpa.asic = hw.fpa.asic) := by
    refine ⟨fun restored isNone => (restored isNone).1, fun restored isNone => ⟨restored isNone, ?_⟩⟩
    rcases enableRoutingInterface_cases enabled with ⟨_, same⟩ | ⟨l3Intf, isSome, _⟩
    · exact same
    · rw [isSome] at isNone
      cases isNone
  rw [onTables, UnwindsInterface]
  simp only [opsFpaEnableRoutingInterface] at enabled
  cases added : opsFpaVlanAddInternal env hw pid vlanId with
  | mk status internal =>
  simp only [added] at enabled
  rcases vlanAddInternal_outcome flowDeletes bound added with ⟨fpa, refused, rfl, isFpa⟩ |
    ⟨fpa, accepted, ⟨refused, ungrouped, rfl, isAsic⟩ | ⟨group, both, grouped, rfl, isFpa⟩⟩
  · cases enabled
    refine iff_of_true (fun _ => ?_) (fun other absurdity => ?_)
    · rw [isFpa, asic_of_issue refused, if_neg (by decide)]
    · rw [refused] at absurdity
      cases absurdity
  · cases enabled
    have afterAdd := asic_of_issue accepted
    rw [if_pos rfl] at afterAdd
    obtain ⟨flows, groups⟩ := addL2Group_refused groupDeletes ungrouped
    simp only [accepted, Prod.mk.injEq, true_and, forall_eq', ungrouped]
    rw [← groups, afterAdd, Asic.groups_flowEntryAdd, isAsic]
    rw [afterAdd] at flows
    rw [← restored_ingress_iff flows]
    exact ⟨fun restored => restored trivial, fun restored _ => restored⟩
  · have afterAdd := asic_of_issue accepted
    rw [if_pos rfl] at afterAdd
    obtain ⟨built, afterGroup⟩ := addL2Group_added grouped
    rw [afterAdd] at afterGroup
    simp only [accepted, Prod.mk.injEq, true_and, forall_eq', grouped]
    by_cases isInternal : hw.internalVlans vlanId = true
    · rw [if_pos isInternal] at enabled
      cases enabled
      refine iff_of_false (fun restored => ?_) (fun free => ?_)
      · have same := congrArg (fun asic => (Asic.flows asic .vlan).length) (restored rfl)
        rw [isFpa, afterGroup] at same
        simp [Asic.flows_flowEntryAdd] at same
      · rw [isInternal] at free
        cases free.1
    · rw [if_neg isInternal] at enabled
      rw [Bool.not_eq_true] at isInternal
      cases routed : opsFpaEnableRoutingVlan env internal.fpa vlanId mac with
      | mk l3Intf fpaRouted =>
      simp only [routed] at enabled
      rcases enableRoutingVlan_outcome routed with ⟨none, rfl, _⟩ | ⟨flow, isRefused, rfl, unwound⟩
      · cases enabled
        rw [isFpa] at none
        refine iff_of_true (fun absurdity => by cases absurdity) ⟨isInternal, fun flow isRefused => ?_⟩
        rw [none] at isRefused
        cases isRefused
      · cases enabled
        rw [isFpa] at isRefused unwound
        simp only [isRefused, Option.some.injEq, forall_eq', isInternal, true_and]
        rw [vlanDelInternal_asic flowDeletes groupDeletes bound built, unwound flowDeletes,
          afterGroup]
        rw [← Asic.takenBack, restored_interface_iff]
        exact ⟨fun restored => restored trivial, fun restored _ => restored⟩

/-- FPA has no room left in the termination table. -/
def unterminatedEnv : Env :=
  { idealEnv with
    verdict := fun _ call _ =>
      match call with
      | .flowEntryAdd .termination _ => .fail
      | _ => .ok }

theorem refused_interface_restores_bare : ∃ after,
    opsFpaEnableRoutingInterface unterminatedEnv bareSys.hw 1 1024 1#48 = (none, after) ∧
      after.fpa.asic = bareSys.hw.fpa.asic ∧ after.internalVlans = bareSys.hw.internalVlans := by
  have restores := refused_interface_restores_iff unterminatedEnv (fun _ _ _ _ => rfl)
    (fun _ _ _ => rfl) bareSys.hw 1 1024 1#48 rfl
  refine ⟨_, Prod.ext rfl rfl, restores.mpr ?_ rfl⟩
  intro fpa accepted
  cases accepted
  refine ⟨rfl, fun flow _ => ⟨?_, rfl, ?_⟩⟩
  · rintro ⟨old, member, _⟩
    cases member
  · rintro table cookie _ ⟨old, member, _⟩
    cases member

def internalOnPortOne : Hw := (opsFpaEnableRoutingInterface idealEnv bareSys.hw 1 1024 1#48).2

/-- The flow and the group of a second port on an internal VLAN stay in the tables although the
call is refused. -/
theorem second_interface_leaves_entries : idealEnv.CookieDeletesSucceed ∧
    idealEnv.DeletesSucceed ∧
    (opsFpaEnableRoutingInterface idealEnv bareSys.hw 1 1024 1#48).1.isSome ∧
    ∃ after, opsFpaEnableRoutingInterface idealEnv internalOnPortOne 2 1024 2#48 = (none, after) ∧
      after.fpa.asic.groups ≠ internalOnPortOne.fpa.asic.groups ∧
      ¬ (after.fpa.asic = internalOnPortOne.fpa.asic ∧
        after.internalVlans = internalOnPortOne.internalVlans) := by
  have grown : (opsFpaEnableRoutingInterface idealEnv internalOnPortOne 2 1024 2#48).2.fpa.asic.groups ≠
      internalOnPortOne.fpa.asic.groups := by decide
  refine ⟨fun _ _ _ _ => rfl, fun _ _ _ => rfl, rfl, _, Prod.ext rfl rfl, grown, ?_⟩
  rintro ⟨same, _⟩
  exact grown (congrArg Asic.groups same)

end FpaPlugin
