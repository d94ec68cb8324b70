import FpaPlugin.HwSpec

/-! VLAN membership on a switch that accepts every call: which L2-interface groups exist,
and which memberships are installed, after each of the operations that change them. -/

namespace FpaPlugin

variable {env : Env}

theorem isL2Group_inj {pid other : Int} {vid otherVid group : Nat}
    (first : isL2Group env pid vid group) (second : isL2Group env other otherVid group) :
    portNum other = portNum pid ∧ otherVid = vid := by
  obtain ⟨_, _, isGroup⟩ := l2Group_eq first
  obtain ⟨_, _, isOther⟩ := l2Group_eq second
  omega

theorem isL2Group_eq_iff {pid : Int} {vid group built : Nat}
    (isBuilt : fpaLibGroupIdentifierBuild env (.l2Interface (portNum pid) vid) = some built) :
    isL2Group env pid vid group ↔ group = built := by
  rw [isL2Group, isBuilt]
  constructor
  · intro same
    exact (Option.some.inj same).symm
  · intro same
    rw [same]

def installable (env : Env) (pid : Int) (vidx : Nat) : Bool :=
  !vidxIsEgress vidx || buildsGroup env pid (vidxVid vidx)

theorem members_observe (hw : Hw) (pid : Int) (vidx : Nat) (installed : Bool) (port other : Nat) :
    (hw.observe pid vidx installed .ok).members port other =
      if port = portNum pid ∧ other = vidx then installed else hw.members port other := by
  by_cases here : port = portNum pid
  · subst here
    simp [Hw.observe, Bitmap.set_apply]
  · simp [Hw.observe, here]

structure Grows (env : Env) (hw after : Hw) : Prop where
  groups : ∀ group, hw.fpa.asic.hasGroup group = true → after.fpa.asic.hasGroup group = true
  members : ∀ port vid pop group,
    fpaLibGroupIdentifierBuild env (.l2Interface port vid) = some group →
    after.members port (vidxEgress vid pop) = true →
    hw.members port (vidxEgress vid pop) = true ∨ after.fpa.asic.hasGroup group = true

theorem Grows.refl (hw : Hw) : Grows env hw hw := ⟨fun _ => id, fun _ _ _ _ _ => .inl⟩

theorem Grows.trans {hw between after : Hw} (first : Grows env hw between)
    (second : Grows env between after) : Grows env hw after where
  groups := fun group present => second.groups group (first.groups group present)
  members := by
    intro port vid pop group built member
    rcases second.members port vid pop group built member with older | present
    · rcases first.members port vid pop group built older with oldest | present
      · exact .inl oldest
      · exact .inr (second.groups group present)
    · exact .inr present

theorem Issues.sameGroups {start fpa : Fpa} (issued : Issues env FlowCall start fpa) (group : Nat) :
    fpa.asic.hasGroup group = start.asic.hasGroup group := by
  refine issued.invariant
    (fun asic => asic.hasGroup group = start.asic.hasGroup group) ?_ rfl
  intro asic call isFlow same
  cases call with
  | flowEntryInit | flowEntryAdd | flowTableCookieDelete => exact same
  | groupTableEntryAdd | groupTableEntryDelete | groupEntryBucketAdd => exact isFlow.elim

theorem enableRoutingVlan_intf {fpa after : Fpa} {vlanId : Nat} {mac : EthAddr} {l3Intf : L3Intf}
    (enabled : opsFpaEnableRoutingVlan env fpa vlanId mac = (some l3Intf, after)) :
    l3Intf.vlanId = vlanId ∧ l3Intf.vlanIntf = false := by
  simp only [opsFpaEnableRoutingVlan] at enabled
  repeat' split at enabled
  all_goals cases enabled
  exact ⟨rfl, rfl⟩

theorem disableRouting_members (hw : Hw) (l3Intf : L3Intf) :
    (opsFpaDisableRouting env hw l3Intf).members =
      (internalVlanReleased env hw l3Intf).members := by
  simp only [opsFpaDisableRouting]
  rw [← internalVlanReleased]
  repeat' split
  all_goals rfl

theorem foldl_set1_iff {α : Type} (marks : α → Nat → Prop) (step : Bitmap → α → Bitmap)
    (steps : ∀ bits entry vidx, step bits entry vidx = true ↔ marks entry vidx ∨ bits vidx = true)
    (entries : List α) (bits : Bitmap) (vidx : Nat) :
    entries.foldl step bits vidx = true ↔
      (∃ entry ∈ entries, marks entry vidx) ∨ bits vidx = true := by
  induction entries generalizing bits with
  | nil => simp
  | cons entry rest ih =>
      rw [List.foldl_cons, ih, steps]
      simp only [List.mem_cons, exists_eq_or_imp]
      rw [or_left_comm, or_assoc]

def flowMarks (pid : Int) (flow : FlowEntry .vlan) (vidx : Nat) : Prop :=
  portNum pid = flow.data.inPort ∧
    vidx = vidxIngress flow.data.vlanId (flow.data.vlanIdMask = .tag)

def groupMarks (env : Env) (pid : Int) (group : Group) (vidx : Nat) : Prop :=
  portNum pid = opsFpaGidPort group.groupIdentifier ∧ ∃ bucket, group.bucket = some bucket ∧
    vidx = vidxEgress (opsFpaGidVlan group.groupIdentifier) (popVlanTagAction env bucket)

theorem fetchFlow_iff (pid : Int) (bits : Bitmap) (flow : FlowEntry .vlan) (vidx : Nat) :
    fetchFlow pid bits flow vidx = true ↔ flowMarks pid flow vidx ∨ bits vidx = true := by
  rw [fetchFlow, flowMarks]
  split
  · rename_i here
    simp [here]
  · rename_i elsewhere
    simp [elsewhere]

theorem fetchGroup_iff (env : Env) (pid : Int) (bits : Bitmap) (group : Group) (vidx : Nat) :
    fetchGroup env pid bits group vidx = true ↔
      groupMarks env pid group vidx ∨ bits vidx = true := by
  rw [fetchGroup, groupMarks]
  split
  · rename_i here
    cases filled : group.bucket with
    | none => simp
    | some bucket => simp [here]
  · rename_i elsewhere
    simp [elsewhere]

/-- `ops_fpa_vlan_fetch` reports what the tables hold for the port, and nothing else. -/
theorem fetch_iff (fpa : Fpa) (pid : Int) (vidx : Nat) :
    opsFpaVlanFetch env fpa pid vidx = true ↔
      (∃ group ∈ (fpa.read env).groups, groupMarks env pid group vidx) ∨
        ∃ flow ∈ (fpa.read env).flows .vlan, flowMarks pid flow vidx := by
  simp only [opsFpaVlanFetch]
  rw [foldl_set1_iff (groupMarks env pid) _ (fetchGroup_iff env pid),
    foldl_set1_iff (flowMarks pid) _ (fetchFlow_iff pid)]
  simp

structure Fewer (asic other : Asic) : Prop where
  groups : ∀ group ∈ other.groups, group ∈ asic.groups
  flows : ∀ flow ∈ other.flows .vlan, flow ∈ asic.flows .vlan

theorem Fewer.refl (asic : Asic) : Fewer asic asic := ⟨fun _ => id, fun _ => id⟩

theorem Fewer.trans {asic between other : Asic} (first : Fewer asic between)
    (second : Fewer between other) : Fewer asic other where
  groups := fun group member => first.groups group (second.groups group member)
  flows := fun flow member => first.flows flow (second.flows flow member)

theorem fetch_fewer (readsBack : env.ReadsBack) {fpa other : Fpa} (fewer : Fewer fpa.asic other.asic)
    {pid : Int} {vidx : Nat} (fetched : opsFpaVlanFetch env other pid vidx = true) :
    opsFpaVlanFetch env fpa pid vidx = true := by
  rw [fetch_iff, Fpa.read, readsBack] at fetched ⊢
  rcases fetched with ⟨group, member, marks⟩ | ⟨flow, member, marks⟩
  · exact .inl ⟨group, fewer.groups group member, marks⟩
  · exact .inr ⟨flow, fewer.flows flow member, marks⟩

theorem vlanDel_fewer (hw : Hw) (pid : Int) (vidx : Nat) :
    Fewer hw.fpa.asic (opsFpaVlanDel env hw pid vidx).2.fpa.asic := by
  simp only [opsFpaVlanDel]
  split
  · split
    · exact Fewer.refl _
    · simp only [fpa_observe, Fpa.issue]
      split
      · exact ⟨fun _ => List.mem_of_mem_filter, fun _ => id⟩
      · exact Fewer.refl _
  · simp only [fpa_observe, Fpa.issue]
    split
    · refine ⟨fun _ => id, fun flow member => ?_⟩
      rw [Asic.flows_cookieDelete] at member
      exact List.mem_of_mem_filter member
    · exact Fewer.refl _

def vidxChanges (vlans fetched desired : Bitmap) (vidx : Nat) : Bool :=
  vlans (vidxVid vidx) && (fetched vidx ^^ desired vidx)

/-- Whether the group of a VLAN is there once the changes below `count` are made: the
entries that keep the tag come first in VIDX order, and the last change decides. -/
def groupAfter (changes desired : Bitmap) (vid : Nat) (before : Bool) (count : Nat) : Bool :=
  if vidxEgress vid true < count && changes (vidxEgress vid true) then
    desired (vidxEgress vid true)
  else if vidxEgress vid false < count && changes (vidxEgress vid false) then
    desired (vidxEgress vid false)
  else before

theorem groupAfter_step {changes desired : Bitmap} {vid : Nat} {before : Bool} {count : Nat}
    (bound : vid < 4096) (egress : vidxIsEgress count = true) (isVid : vidxVid count = vid)
    (inside : count < vmapBits) (changed : changes count = true) :
    groupAfter changes desired vid before (count + 1) = desired count := by
  have decoded := vidx_decode inside
  rw [egress, if_pos rfl, isVid] at decoded
  have isTrue := vidxEgress_eq bound true
  have isFalse := vidxEgress_eq bound false
  simp only [Bool.toNat_true, Bool.toNat_false] at isTrue isFalse
  rw [groupAfter]
  cases pop : vidxArg count with
  | true =>
      rw [pop] at decoded
      simp [← decoded, changed]
  | false =>
      rw [pop] at decoded
      have later : ¬ vidxEgress vid true < count + 1 := by omega
      simp [← decoded, changed, later]

theorem groupAfter_skip {changes desired : Bitmap} {vid : Nat} {before : Bool} {count : Nat}
    (bound : vid < 4096)
    (other : changes count = false ∨ vidxIsEgress count = false ∨ vidxVid count ≠ vid) :
    groupAfter changes desired vid before (count + 1) =
      groupAfter changes desired vid before count := by
  have same : ∀ pop, (decide (vidxEgress vid pop < count + 1) && changes (vidxEgress vid pop)) =
      (decide (vidxEgress vid pop < count) && changes (vidxEgress vid pop)) := by
    intro pop
    by_cases here : count = vidxEgress vid pop
    · rcases other with unchanged | ingress | otherVid
      · rw [← here, unchanged]
        simp
      · rw [here, vidxIsEgress_egress bound] at ingress
        cases ingress
      · rw [here, vidxVid_egress bound] at otherVid
        exact (otherVid rfl).elim
    · congr 1
      rw [decide_eq_decide]
      omega
  rw [groupAfter, groupAfter, same, same]

section Effects

variable (succeeds : env.AllSucceed)

include succeeds

theorem vlanAdd_hasGroup (hw : Hw) (pid : Int) (vidx group : Nat) :
    (opsFpaVlanAdd env hw pid vidx).2.fpa.asic.hasGroup group = true ↔
      (vidxIsEgress vidx = true ∧ isL2Group env pid (vidxVid vidx) group) ∨
        hw.fpa.asic.hasGroup group = true := by
  simp only [opsFpaVlanAdd]
  split
  · rename_i egress
    cases built : fpaLibGroupIdentifierBuild env (.l2Interface (portNum pid) (vidxVid vidx)) with
    | none =>
        simp [opsFpaRouteAddL2Group, built, isL2Group]
    | some added =>
        obtain ⟨calls, done⟩ := addL2Group_ok succeeds hw.fpa (vidxArg vidx) built
        rw [done, isL2Group_eq_iff built]
        simp [egress]
  · rename_i ingress
    simp only [Bool.not_eq_true] at ingress
    simp only [fpa_observe, Fpa.issue_ok succeeds, ingress, Bool.false_eq_true, false_and, false_or]
    rw [Asic.hasGroup_congr (Asic.groups_flowEntryAdd _ _ _)]

theorem vlanDel_hasGroup (hw : Hw) (pid : Int) (vidx group : Nat) :
    (opsFpaVlanDel env hw pid vidx).2.fpa.asic.hasGroup group = true ↔
      ¬ (vidxIsEgress vidx = true ∧ isL2Group env pid (vidxVid vidx) group) ∧
        hw.fpa.asic.hasGroup group = true := by
  simp only [opsFpaVlanDel]
  split
  · rename_i egress
    split
    · rename_i refused
      simp [egress, isL2Group, refused]
    · rename_i deleted built
      rw [isL2Group_eq_iff built]
      simp [egress, Fpa.issue_ok succeeds]
  · rename_i ingress
    simp only [Bool.not_eq_true] at ingress
    simp only [fpa_observe, Fpa.issue_ok succeeds, ingress, Bool.false_eq_true, false_and,
      not_false_eq_true, true_and]
    rw [Asic.hasGroup_congr (Asic.groups_cookieDelete _ _ _)]

theorem vlanAdd_members (hw : Hw) (pid : Int) (vidx port other : Nat) :
    (opsFpaVlanAdd env hw pid vidx).2.members port other =
      if port = portNum pid ∧ other = vidx ∧ installable env pid vidx then true
      else hw.members port other := by
  simp only [opsFpaVlanAdd, installable]
  split
  · rename_i egress
    cases built : fpaLibGroupIdentifierBuild env (.l2Interface (portNum pid) (vidxVid vidx)) with
    | none => simp [opsFpaRouteAddL2Group, built, egress, buildsGroup]
    | some added =>
        obtain ⟨calls, done⟩ := addL2Group_ok succeeds hw.fpa (vidxArg vidx) built
        rw [done]
        simp only [members_observe]
        simp [buildsGroup, built]
  · rename_i ingress
    simp only [Fpa.issue_ok succeeds, members_observe]
    simp [ingress]

theorem vlanDel_members (hw : Hw) (pid : Int) (vidx port other : Nat) :
    (opsFpaVlanDel env hw pid vidx).2.members port other =
      if port = portNum pid ∧ other = vidx ∧ installable env pid vidx then false
      else hw.members port other := by
  simp only [opsFpaVlanDel, installable]
  split
  · rename_i egress
    split
    · rename_i refused
      simp [egress, buildsGroup, refused]
    · rename_i deleted built
      simp only [Fpa.issue_ok succeeds, members_observe]
      simp [buildsGroup, built]
  · rename_i ingress
    simp only [Fpa.issue_ok succeeds, members_observe]
    simp [ingress]

theorem vlanAdd_grows (hw : Hw) (pid : Int) (vidx : Nat) :
    Grows env hw (opsFpaVlanAdd env hw pid vidx).2 where
  groups := fun group present => (vlanAdd_hasGroup succeeds hw pid vidx group).mpr (.inr present)
  members := by
    intro port vid pop group built member
    rw [vlanAdd_members succeeds] at member
    split at member
    · rename_i here
      obtain ⟨isPort, isVidx, _⟩ := here
      have bound := (l2Group_eq built).2.1
      rw [isPort] at built
      refine .inr ((vlanAdd_hasGroup succeeds hw pid vidx group).mpr (.inl ?_))
      rw [← isVidx, vidxIsEgress_egress bound, vidxVid_egress bound]
      exact ⟨rfl, built⟩
    · exact .inl member

theorem vlanDel_ingress_grows (hw : Hw) (pid : Int) {vidx : Nat}
    (ingress : vidxIsEgress vidx = false) : Grows env hw (opsFpaVlanDel env hw pid vidx).2 where
  groups := by
    intro group present
    rw [vlanDel_hasGroup succeeds, ingress]
    exact ⟨by simp, present⟩
  members := by
    intro port other pop group _ member
    rw [vlanDel_members succeeds] at member
    split at member
    · cases member
    · exact .inl member

theorem vlanAddInternal_grows (hw : Hw) (pid : Int) {vid : Nat}
    (fits : overrunsInternalVlans env hw pid vid = false) :
    Grows env hw (opsFpaVlanAddInternal env hw pid vid).2 ∧
      ((opsFpaVlanAddInternal env hw pid vid).1 = .ok → vid < 4096 ∧
        ∀ group, isL2Group env pid vid group →
          (opsFpaVlanAddInternal env hw pid vid).2.fpa.asic.hasGroup group = true) := by
  have ingress := vlanAdd_grows succeeds hw pid (vidxIngress vid false)
  simp only [opsFpaVlanAddInternal]
  split
  · rename_i failed
    rw [failed] at ingress
    exact ⟨ingress, fun done => by cases done⟩
  · rename_i between added
    rw [added] at ingress
    have both := ingress.trans (vlanAdd_grows succeeds between pid (vidxEgress vid false))
    split
    · rename_i failed
      rw [failed] at both
      -- only the group identifier can have failed, so that the first entry was a flow
      have isFlow : vidxIsEgress (vidxIngress vid false) = false := by
        rw [Bool.eq_false_iff]
        intro isGroup
        have built := vlanAdd_builds (congrArg Prod.fst added) isGroup
        rw [vidxVid_ingress_egress] at built
        have accepted := vlanAdd_ok succeeds between fun _ => built
        rw [failed] at accepted
        cases accepted
      exact ⟨both.trans (vlanDel_ingress_grows succeeds _ pid isFlow), fun done => by cases done⟩
    · rename_i after addedBoth
      have bound := internalVlans_lt fits added (congrArg Prod.fst addedBoth)
      have present := fun group isGroup =>
        (vlanAdd_hasGroup succeeds between pid (vidxEgress vid false) group).mpr
          (.inl ⟨vidxIsEgress_egress bound false, isGroup⟩)
      rw [vidxVid_egress bound, addedBoth] at present
      rw [addedBoth] at both
      split
      · exact ⟨both, fun done => by cases done⟩
      · exact ⟨⟨both.groups, both.members⟩, fun _ => ⟨bound, present⟩⟩

theorem enableRouting_grows (hw : Hw) (type : NetdevType) (intfId : Int) {vlanId : Nat}
    (mac : EthAddr) (fits : type = .system → overrunsInternalVlans env hw intfId vlanId = false) :
    Grows env hw (enableRouting env hw type intfId vlanId mac).2 ∧
      ∀ l3Intf, (enableRouting env hw type intfId vlanId mac).1 = some l3Intf →
        l3Intf.vlanId = vlanId ∧ (l3Intf.vlanIntf = true → vlanId < 4096 ∧
          ∀ group, isL2Group env l3Intf.intfId l3Intf.vlanId group →
            (enableRouting env hw type intfId vlanId mac).2.fpa.asic.hasGroup group = true) := by
  have onVlan : ∀ between : Hw, Grows env between
      { between with fpa := (opsFpaEnableRoutingVlan env between.fpa vlanId mac).2 } := by
    intro between
    refine ⟨fun group present => ?_, fun _ _ _ _ _ => .inl⟩
    rw [(enableRoutingVlan_issues between.fpa vlanId mac).sameGroups]
    exact present
  cases type with
  | system =>
      obtain ⟨grows, added⟩ := vlanAddInternal_grows succeeds hw intfId (fits rfl)
      simp only [enableRouting, opsFpaEnableRoutingInterface]
      split
      · rename_i failed
        rw [failed] at grows
        exact ⟨grows, fun _ absurdity => by cases absurdity⟩
      · rename_i between ok
        rw [ok] at grows added
        obtain ⟨bound, present⟩ := added rfl
        obtain ⟨l3Intf, after, enabled⟩ := enableRoutingVlan_ok succeeds between.fpa vlanId mac
        have routed := onVlan between
        rw [enabled] at routed
        rw [enabled]
        refine ⟨grows.trans routed, ?_⟩
        intro intf isIntf
        cases isIntf
        obtain ⟨isVlan, _⟩ := enableRoutingVlan_intf enabled
        refine ⟨isVlan, fun _ => ⟨bound, fun group isGroup => ?_⟩⟩
        refine routed.groups group (present group ?_)
        rw [← isVlan]
        exact isGroup
  | internal | vlansubint | loopback =>
      refine ⟨onVlan hw, ?_⟩
      intro l3Intf isIntf
      obtain ⟨isVlan, noVlanIntf⟩ := enableRoutingVlan_intf
        (Prod.ext isIntf rfl : opsFpaEnableRoutingVlan env hw.fpa vlanId mac = (some l3Intf, _))
      refine ⟨isVlan, ?_⟩
      rw [noVlanIntf]
      intro absurdity
      cases absurdity

theorem disableRouting_effect (hw : Hw) {l3Intf : L3Intf}
    (bounded : l3Intf.vlanIntf = true → l3Intf.vlanId < 4096) :
    (∀ group, (opsFpaDisableRouting env hw l3Intf).fpa.asic.hasGroup group = true ↔
      ¬ (l3Intf.vlanIntf = true ∧ isL2Group env l3Intf.intfId l3Intf.vlanId group) ∧
        hw.fpa.asic.hasGroup group = true) ∧
    ∀ port vid pop, vid < 4096 →
      (opsFpaDisableRouting env hw l3Intf).members port (vidxEgress vid pop) = true →
      hw.members port (vidxEgress vid pop) = true ∧
        ¬ (l3Intf.vlanIntf = true ∧ buildsGroup env l3Intf.intfId l3Intf.vlanId = true ∧
          port = portNum l3Intf.intfId ∧
          vidxEgress vid pop = vidxEgress l3Intf.vlanId false) := by
  have groups : ∀ group, (opsFpaDisableRouting env hw l3Intf).fpa.asic.hasGroup group =
      (internalVlanReleased env hw l3Intf).fpa.asic.hasGroup group :=
    fun group => (disableRouting_flows hw l3Intf).sameGroups group
  simp only [groups, disableRouting_members, internalVlanReleased]
  by_cases vlanIntf : l3Intf.vlanIntf = true
  · have bound := bounded vlanIntf
    simp only [vlanIntf, if_true, opsFpaVlanDelInternal, true_and]
    constructor
    · intro group
      rw [vlanDel_hasGroup succeeds, vlanDel_hasGroup succeeds, vidxIsEgress_egress bound,
        vidxVid_egress bound, vidxIsEgress_ingress bound]
      simp
    · intro port vid pop vidBound member
      rw [vlanDel_members succeeds] at member
      split at member
      · cases member
      · rename_i elsewhere
        rw [vlanDel_members succeeds] at member
        split at member
        · cases member
        · refine ⟨member, ?_⟩
          rintro ⟨builds, isPort, isVidx⟩
          refine elsewhere ⟨isPort, isVidx, ?_⟩
          simp [installable, vidxVid_egress bound, builds]
  · simp only [vlanIntf, Bool.false_eq_true, if_false, false_and, not_false_eq_true, true_and,
      implies_true, and_true]
    exact fun _ _ _ _ => id

structure DiffApplied (env : Env) (hw : Hw) (changes desired : Bitmap) (pid : Int) (count : Nat)
    (after : Hw) : Prop where
  members : ∀ port vidx, after.members port vidx =
    if port = portNum pid ∧ vidx < count ∧ changes vidx ∧ installable env pid vidx then desired vidx
    else hw.members port vidx
  groups : ∀ vid group, isL2Group env pid vid group → after.fpa.asic.hasGroup group =
    groupAfter changes desired vid (hw.fpa.asic.hasGroup group) count
  others : ∀ group, (∀ vid, ¬ isL2Group env pid vid group) →
    after.fpa.asic.hasGroup group = hw.fpa.asic.hasGroup group

omit succeeds in
theorem DiffApplied.skip {hw after : Hw} {changes desired : Bitmap} {pid : Int} {count : Nat}
    (applied : DiffApplied env hw changes desired pid count after)
    (unchanged : changes count = false) :
    DiffApplied env hw changes desired pid (count + 1) after where
  members := by
    intro port vidx
    rw [applied.members]
    by_cases here : vidx = count
    · subst here
      simp [unchanged]
    · have same : vidx < count + 1 ↔ vidx < count := by omega
      simp only [same]
  groups := by
    intro vid group isGroup
    rw [applied.groups vid group isGroup, groupAfter_skip (l2Group_eq isGroup).2.1]
    exact .inl unchanged
  others := applied.others

theorem DiffApplied.change {hw after : Hw} {changes desired : Bitmap} {pid : Int} {count : Nat}
    (applied : DiffApplied env hw changes desired pid count after) (inside : count < vmapBits)
    (changed : changes count = true) :
    DiffApplied env hw changes desired pid (count + 1)
      (if desired count then (opsFpaVlanAdd env after pid count).2
        else (opsFpaVlanDel env after pid count).2) := by
  have members : ∀ port vidx, (if desired count then (opsFpaVlanAdd env after pid count).2
      else (opsFpaVlanDel env after pid count).2).members port vidx =
      if port = portNum pid ∧ vidx = count ∧ installable env pid count then desired count
      else after.members port vidx := by
    intro port vidx
    cases wanted : desired count with
    | true => simp only [if_true, vlanAdd_members succeeds]
    | false => simp only [Bool.false_eq_true, if_false, vlanDel_members succeeds]
  have hit : ∀ group, vidxIsEgress count = true → isL2Group env pid (vidxVid count) group →
      (if desired count then (opsFpaVlanAdd env after pid count).2
        else (opsFpaVlanDel env after pid count).2).fpa.asic.hasGroup group = desired count := by
    intro group egress isGroup
    cases wanted : desired count with
    | true =>
        simp only [if_true]
        exact (vlanAdd_hasGroup succeeds after pid count group).mpr (.inl ⟨egress, isGroup⟩)
    | false =>
        simp only [Bool.false_eq_true, if_false]
        rw [Bool.eq_false_iff, ne_eq, vlanDel_hasGroup succeeds]
        exact fun still => still.1 ⟨egress, isGroup⟩
  have miss : ∀ group, ¬ (vidxIsEgress count = true ∧ isL2Group env pid (vidxVid count) group) →
      (if desired count then (opsFpaVlanAdd env after pid count).2
        else (opsFpaVlanDel env after pid count).2).fpa.asic.hasGroup group =
          after.fpa.asic.hasGroup group := by
    intro group other
    cases wanted : desired count with
    | true =>
        simp only [if_true]
        rw [Bool.eq_iff_iff, vlanAdd_hasGroup succeeds]
        exact or_iff_right other
    | false =>
        simp only [Bool.false_eq_true, if_false]
        rw [Bool.eq_iff_iff, vlanDel_hasGroup succeeds]
        exact and_iff_right other
  constructor
  · intro port vidx
    rw [members, applied.members]
    by_cases here : vidx = count
    · subst here
      simp [changed]
    · have same : vidx < count + 1 ↔ vidx < count := by omega
      simp only [same, here, false_and, and_false, if_false]
  · intro vid group isGroup
    have bound := (l2Group_eq isGroup).2.1
    by_cases here : vidxIsEgress count = true ∧ vidxVid count = vid
    · rw [hit group here.1 (here.2.symm ▸ isGroup),
        groupAfter_step bound here.1 here.2 inside changed]
    · have elsewhere : ¬ (vidxIsEgress count = true ∧ isL2Group env pid (vidxVid count) group) :=
        fun both => here ⟨both.1, (isL2Group_inj isGroup both.2).2⟩
      rw [miss group elsewhere, applied.groups vid group isGroup, groupAfter_skip bound]
      by_cases egress : vidxIsEgress count = true
      · exact .inr (.inr fun same => here ⟨egress, same⟩)
      · exact .inr (.inl (by simpa using egress))
  · intro group none
    rw [miss group fun both => none _ both.2]
    exact applied.others group none

theorem applyDiff_effect (hw : Hw) (vlans desired : Bitmap) (pid : Int) :
    DiffApplied env hw (vidxChanges vlans (opsFpaVlanFetch env hw.fpa pid) desired) desired pid
      vmapBits
      (applyDiff env hw vlans desired pid).1 := by
  generalize isFetched : opsFpaVlanFetch env hw.fpa pid = fetched
  simp only [applyDiff, isFetched]
  refine @Bitmap.forEach1_invariant (Hw × Bitmap) _ _ (fun count state =>
    DiffApplied env hw (vidxChanges vlans fetched desired) desired pid count state.1) _ ?_ _ ?_ ?_
  · refine ⟨fun port vidx => by simp, fun vid group _ => ?_, fun _ _ => rfl⟩
    simp [groupAfter]
  · intro vidx state inside applied differs
    by_cases enabled : vlans (vidxVid vidx) = true
    · have changed : vidxChanges vlans fetched desired vidx = true := by
        simp only [vidxChanges, enabled, Bool.true_and]
        exact differs
      have next := applied.change succeeds inside changed
      simp only [applyDiffBit, enabled, if_true]
      split at next
      · rename_i wanted
        simpa only [wanted, if_true] using next
      · rename_i unwanted
        simpa only [unwanted, Bool.false_eq_true, if_false] using next
    · have unchanged : vidxChanges vlans fetched desired vidx = false := by
        simp [vidxChanges, enabled]
      have next := applied.skip unchanged
      simp only [applyDiffBit, enabled, Bool.false_eq_true, if_false]
      split
      · exact next
      · exact next
  · intro vidx state _ applied same
    apply applied.skip
    simp only [vidxChanges, Bool.and_eq_false_iff]
    exact .inr same

theorem enableVlanOnPort_grows (hw : Hw) (vmap : Bitmap) (pid : Int) (vid : Nat) :
    Grows env hw (enableVlanOnPort env hw vmap pid vid).1 := by
  simp only [enableVlanOnPort]
  refine @Bitmap.forEach1_invariant (Hw × Bitmap) _ _ (fun _ state => Grows env hw state.1) _
    (Grows.refl hw) _ ?_ ?_
  · intro vidx state _ grown _
    split
    · exact grown.trans (vlanAdd_grows succeeds state.1 pid vidx)
    · exact grown
  · exact fun _ _ _ grown _ => grown

/-- Disabling a VLAN on a port takes away what was fetched, whichever port it was
fetched for. -/
structure VlanDisabled (env : Env) (hw : Hw) (fetched : Bitmap) (pid : Int) (vid count : Nat)
    (after : Hw) : Prop where
  members : ∀ port vidx, after.members port vidx =
    if port = portNum pid ∧ vidx < count ∧ fetched vidx ∧ vidxVid vidx = vid ∧
      installable env pid vidx then false
    else hw.members port vidx
  fewer : Fewer hw.fpa.asic after.fpa.asic
  gone : ∀ group, hw.fpa.asic.hasGroup group = true → after.fpa.asic.hasGroup group = true ∨
    isL2Group env pid vid group ∧ ∃ pop, fetched (vidxEgress vid pop) = true

theorem disableVlanOnPort_effect (hw : Hw) (vmap : Bitmap) (ofpPort : Nat) (pid : Int) (vid : Nat) :
    VlanDisabled env hw (opsFpaVlanFetch env hw.fpa ofpPort) pid vid vmapBits
      (disableVlanOnPort env hw vmap ofpPort pid vid).1 := by
  generalize isFetched : opsFpaVlanFetch env hw.fpa ofpPort = fetched
  simp only [disableVlanOnPort, isFetched]
  have skip : ∀ vidx (after : Hw), VlanDisabled env hw fetched pid vid vidx after →
      (fetched vidx = false ∨ vidxVid vidx ≠ vid) →
      VlanDisabled env hw fetched pid vid (vidx + 1) after := by
    intro vidx after disabled other
    refine ⟨fun port index => ?_, disabled.fewer, disabled.gone⟩
    rw [disabled.members]
    by_cases here : index = vidx
    · subst here
      rcases other with clear | otherVid
      · simp [clear]
      · simp [otherVid]
    · have same : index < vidx + 1 ↔ index < vidx := by omega
      simp only [same]
  refine @Bitmap.forEach1_invariant (Hw × Bitmap) _ _ (fun count state =>
    VlanDisabled env hw fetched pid vid count state.1) _ ?_ _ ?_ ?_
  · exact ⟨fun port vidx => by simp, Fewer.refl _, fun _ => .inl⟩
  · intro vidx state inside disabled isSet
    split
    · rename_i isVid
      refine ⟨fun port index => ?_, disabled.fewer.trans (vlanDel_fewer state.1 pid vidx),
        fun group present => ?_⟩
      · rw [vlanDel_members succeeds, disabled.members]
        by_cases here : index = vidx
        · subst here
          simp [isSet, isVid]
        · have same : index < vidx + 1 ↔ index < vidx := by omega
          simp only [same, here, false_and, and_false, if_false]
      · rcases disabled.gone group present with still | released
        · by_cases deleted : vidxIsEgress vidx = true ∧ isL2Group env pid (vidxVid vidx) group
          · refine .inr ⟨isVid ▸ deleted.2, vidxArg vidx, ?_⟩
            have decoded := vidx_decode inside
            rw [deleted.1, if_pos rfl, isVid] at decoded
            rw [← decoded]
            exact isSet
          · exact .inl ((vlanDel_hasGroup succeeds state.1 pid vidx group).mpr ⟨deleted, still⟩)
        · exact .inr released
    · rename_i otherVid
      exact skip vidx state.1 disabled (.inr otherVid)
  · exact fun vidx state _ disabled clear => skip vidx state.1 disabled (.inl clear)

end Effects

end FpaPlugin
