import FpaPlugin.RoutingUnwind
import FpaPlugin.VlanTables

/-! `ops_fpa_vlan_fetch` as a view of the tables. The view follows the calls bit by bit as long
as no two entries share a key: a cookie, a group, or the low bits of a group identifier. -/

namespace FpaPlugin

abbrev CInt := { value : Int // -2 ^ 31 ≤ value ∧ value < 2 ^ 31 }

theorem CInt.portNum_eq_iff {one other : CInt} :
    portNum one.val = portNum other.val ↔ one = other := by
  have oneBounds := one.property
  have otherBounds := other.property
  rw [Subtype.ext_iff, portNum, portNum]
  omega

def gidPid (gid : Nat) : CInt :=
  ⟨opsFpaGidPort gid, by
    rw [opsFpaGidPort_eq]
    omega⟩

inductive ViewCall
  | vlanAdd (pid : CInt) (vidx : Fin vmapBits)
  | vlanDel (pid : CInt) (vidx : Fin vmapBits)
  | addL3Group (l2Group arpIndex vid mtu : Nat) (srcMac dstMac : EthAddr)
  | delL3Group (arpIndex : Nat)

def succeeded (result : Status × Hw) : Except Status (Unit × Hw) :=
  match result with
  | (.ok, hw) => .ok ((), hw)
  | (.fail, _) => .error .fail

/-- Only calls that succeed are steps. -/
def viewStep (env : Env) (hw : Hw) : ViewCall → Except Status (Unit × Hw)
  | .vlanAdd pid vidx => succeeded (opsFpaVlanAdd env hw pid vidx)
  | .vlanDel pid vidx => succeeded (opsFpaVlanDel env hw pid vidx)
  | .addL3Group l2Group arpIndex vid mtu srcMac dstMac =>
      match opsFpaRouteAddL3Group env hw.fpa l2Group arpIndex vid mtu srcMac dstMac with
      | (none, _) => .error .fail
      | (some _, fpa) => .ok ((), { hw with fpa })
  | .delL3Group arpIndex =>
      match fpaLibGroupIdentifierBuild env (.l3Unicast arpIndex) with
      | none => .error .fail
      | some l3Group =>
          let (status, fpa) := opsFpaRouteDelGroup env hw.fpa l3Group
          succeeded (status, { hw with fpa })

section Shown

variable {env : Env} {asic after : Asic} {gid : Nat} {pid : Int} {vidx : Nat} {bucket : Bucket}

def ShownByFlow (asic : Asic) (pid : Int) (vidx : Nat) : Prop :=
  ∃ flow ∈ asic.flows .vlan, flowMarks pid flow vidx

def ShownBeside (env : Env) (asic : Asic) (gid : Nat) (pid : Int) (vidx : Nat) : Prop :=
  ∃ group ∈ asic.groups, group.groupIdentifier ≠ gid ∧ groupMarks env pid group vidx

def ShownAt (env : Env) (gid : Nat) (bucket : Bucket) (pid : Int) (vidx : Nat) : Prop :=
  portNum pid = opsFpaGidPort gid ∧
    vidx = vidxEgress (opsFpaGidVlan gid) (popVlanTagAction env bucket)

theorem groupMarks_iff {group : Group} : groupMarks env pid group vidx ↔
    ∃ bucket, group.bucket = some bucket ∧ ShownAt env group.groupIdentifier bucket pid vidx := by
  constructor
  · rintro ⟨isPort, bucket, isBucket, isVidx⟩
    exact ⟨bucket, isBucket, isPort, isVidx⟩
  · rintro ⟨bucket, isBucket, isPort, isVidx⟩
    exact ⟨isPort, bucket, isBucket, isVidx⟩

theorem gidVlan_lt (gid : Nat) : opsFpaGidVlan gid < 4096 := by
  rw [opsFpaGidVlan_eq]
  omega

theorem ShownAt.isEgress (shown : ShownAt env gid bucket pid vidx) : vidxIsEgress vidx = true := by
  rw [shown.2, vidxIsEgress_egress (gidVlan_lt gid)]

theorem fetch_tables (readsBack : env.ReadsBack) (fpa : Fpa) :
    opsFpaVlanFetch env fpa pid vidx = true ↔
      (∃ group ∈ fpa.asic.groups, groupMarks env pid group vidx) ∨
        ShownByFlow fpa.asic pid vidx := by
  rw [fetch_iff, Fpa.read, readsBack]
  rfl

theorem fetch_split (readsBack : env.ReadsBack) (fpa : Fpa) (gid : Nat) :
    opsFpaVlanFetch env fpa pid vidx = true ↔
      ShownBeside env fpa.asic gid pid vidx ∨
      (∃ bucket, ⟨gid, some bucket⟩ ∈ fpa.asic.groups ∧ ShownAt env gid bucket pid vidx) ∨
      ShownByFlow fpa.asic pid vidx := by
  rw [fetch_tables readsBack, ← or_assoc]
  refine or_congr_left ⟨?_, ?_⟩
  · rintro ⟨group, member, marks⟩
    by_cases same : group.groupIdentifier = gid
    · obtain ⟨bucket, isBucket, shown⟩ := groupMarks_iff.mp marks
      obtain ⟨_, _⟩ := group
      subst same
      cases isBucket
      exact .inr ⟨bucket, member, shown⟩
    · exact .inl ⟨group, member, same, marks⟩
  · rintro (⟨group, member, -, marks⟩ | ⟨bucket, member, shown⟩)
    · exact ⟨group, member, marks⟩
    · exact ⟨_, member, groupMarks_iff.mpr ⟨bucket, rfl, shown⟩⟩

/-- The entry of `gid` becomes `new`; every other entry stays. -/
structure ReplacesGroup (asic after : Asic) (gid : Nat) (new : Option Bucket) : Prop where
  flows : after.flows .vlan = asic.flows .vlan
  groups : ∀ group, group ∈ after.groups ↔
    (group ∈ asic.groups ∧ group.groupIdentifier ≠ gid) ∨
      ∃ bucket, new = some bucket ∧ group = ⟨gid, some bucket⟩

theorem replacesGroup_add (asic : Asic) (gid : Nat) (bucket : Bucket) :
    ReplacesGroup asic ((asic.apply (.groupTableEntryAdd gid)).apply
      (.groupEntryBucketAdd gid bucket)) gid (some bucket) := by
  refine ⟨by simp, fun group => ?_⟩
  have others : ∀ old ∈ (asic.apply (.groupTableEntryAdd gid)).groups,
      old.groupIdentifier ≠ gid → old ∈ asic.groups := by
    intro old member different
    simp only [Asic.apply] at member
    split at member
    · exact member
    · rcases List.mem_append.mp member with was | isNew
      · exact was
      · rw [List.mem_singleton.mp isNew] at different
        exact absurd rfl different
  have kept : ∀ old ∈ asic.groups, old ∈ (asic.apply (.groupTableEntryAdd gid)).groups := by
    intro old member
    simp only [Asic.apply]
    split
    · exact member
    · exact List.mem_append_left _ member
  have present : ∃ old ∈ (asic.apply (.groupTableEntryAdd gid)).groups,
      old.groupIdentifier = gid := by
    rw [← Asic.hasGroup_iff, Asic.hasGroup_groupTableEntryAdd, beq_self_eq_true, Bool.true_or]
  generalize asic.apply (.groupTableEntryAdd gid) = entered at others kept present
  simp only [Asic.apply, List.mem_map]
  constructor
  · rintro ⟨old, member, rfl⟩
    split
    · rename_i same
      exact .inr ⟨bucket, rfl, by rw [same]⟩
    · rename_i different
      exact .inl ⟨others old member different, different⟩
  · rintro (⟨member, different⟩ | ⟨_, isBucket, rfl⟩)
    · exact ⟨group, kept group member, if_neg different⟩
    · cases isBucket
      obtain ⟨old, member, rfl⟩ := present
      exact ⟨old, member, if_pos rfl⟩

theorem replacesGroup_delete (asic : Asic) (gid : Nat) :
    ReplacesGroup asic (asic.apply (.groupTableEntryDelete gid)) gid none := by
  refine ⟨rfl, fun group => ?_⟩
  simp [Asic.apply]

theorem ReplacesGroup.fetch {fpa later : Fpa} {new : Option Bucket}
    (replaces : ReplacesGroup fpa.asic later.asic gid new) (readsBack : env.ReadsBack) :
    opsFpaVlanFetch env later pid vidx = true ↔
      ShownBeside env fpa.asic gid pid vidx ∨
      (∃ bucket, new = some bucket ∧ ShownAt env gid bucket pid vidx) ∨
      ShownByFlow fpa.asic pid vidx := by
  rw [fetch_split readsBack later gid, ShownByFlow, replaces.flows, ← ShownByFlow]
  refine or_congr ?_ (or_congr_left (exists_congr fun bucket => and_congr_left fun _ => ?_))
  · refine exists_congr fun group => ?_
    rw [replaces.groups]
    constructor
    · rintro ⟨⟨member, _⟩ | ⟨_, _, rfl⟩, different, marks⟩
      · exact ⟨member, different, marks⟩
      · exact absurd rfl different
    · rintro ⟨member, different, marks⟩
      exact ⟨.inl ⟨member, different⟩, different, marks⟩
  · rw [replaces.groups]
    simp

end Shown

section Steps

variable {env : Env} {hw next : Hw} {reply : Unit}

theorem succeeded_ok {result : Status × Hw} (taken : succeeded result = .ok (reply, next)) :
    result = (.ok, next) := by
  obtain ⟨status, hw⟩ := result
  cases status with
  | ok =>
      cases taken
      rfl
  | fail => cases taken

theorem viewStep_vlanAdd {pid : CInt} {vidx : Fin vmapBits}
    (taken : viewStep env hw (.vlanAdd pid vidx) = .ok (reply, next)) :
    vidxIsEgress vidx = true ∧ (∃ gid,
        fpaLibGroupIdentifierBuild env (.l2Interface (portNum pid) (vidxVid vidx)) = some gid ∧
        ReplacesGroup hw.fpa.asic next.fpa.asic gid
          (some (.l2Interface (portNum pid) (vidxArg vidx)))) ∨
      vidxIsEgress vidx = false ∧ next.fpa.asic =
        hw.fpa.asic.apply (.flowEntryAdd .vlan (vlanFlow pid (vidxVid vidx) (vidxArg vidx))) := by
  have added := succeeded_ok taken
  simp only [opsFpaVlanAdd] at added
  split at added
  · rename_i egress
    split at added
    · cases added
    · rename_i gid _ isAdded
      cases added
      obtain ⟨built, isAsic⟩ := addL2Group_added isAdded
      refine .inl ⟨egress, gid, built, ?_⟩
      rw [fpa_observe, isAsic]
      exact replacesGroup_add _ _ _
  · rename_i ingress
    refine .inr ⟨by simpa using ingress, ?_⟩
    obtain ⟨isOk, rfl⟩ := Prod.mk.inj added
    rw [fpa_observe, asic_of_issue (Prod.ext isOk rfl), if_pos rfl]

theorem viewStep_vlanDel {pid : CInt} {vidx : Fin vmapBits}
    (taken : viewStep env hw (.vlanDel pid vidx) = .ok (reply, next)) :
    vidxIsEgress vidx = true ∧ (∃ gid,
        fpaLibGroupIdentifierBuild env (.l2Interface (portNum pid) (vidxVid vidx)) = some gid ∧
        ReplacesGroup hw.fpa.asic next.fpa.asic gid none) ∨
      vidxIsEgress vidx = false ∧ next.fpa.asic = hw.fpa.asic.apply
        (.flowTableCookieDelete .vlan (opsFpaVlanCookie pid (vidxVid vidx) (vidxArg vidx))) := by
  have deleted := succeeded_ok taken
  simp only [opsFpaVlanDel] at deleted
  split at deleted
  · rename_i egress
    split at deleted
    · cases deleted
    · rename_i gid built
      refine .inl ⟨egress, gid, built, ?_⟩
      obtain ⟨isOk, rfl⟩ := Prod.mk.inj deleted
      rw [fpa_observe, asic_of_issue (Prod.ext isOk rfl), if_pos rfl]
      exact replacesGroup_delete _ _
  · rename_i ingress
    refine .inr ⟨by simpa using ingress, ?_⟩
    obtain ⟨isOk, rfl⟩ := Prod.mk.inj deleted
    rw [fpa_observe, asic_of_issue (Prod.ext isOk rfl), if_pos rfl]

theorem viewStep_addL3Group {l2Group arpIndex vid mtu : Nat} {srcMac dstMac : EthAddr}
    (readsBack : env.ReadsBack)
    (taken : viewStep env hw (.addL3Group l2Group arpIndex vid mtu srcMac dstMac) =
      .ok (reply, next)) :
    ∃ gid, fpaLibGroupIdentifierBuild env (.l3Unicast arpIndex) = some gid ∧
      hw.fpa.asic.hasGroup gid = false ∧
      ReplacesGroup hw.fpa.asic next.fpa.asic gid
        (some (.l3Unicast ⟨dstMac, srcMac, vid, mtu, l2Group⟩)) := by
  simp only [viewStep] at taken
  split at taken
  · cases taken
  · rename_i isAdded
    cases taken
    simp only [opsFpaRouteAddL3Group] at isAdded
    split at isAdded
    · cases isAdded
    · rename_i gid built
      split at isAdded
      · cases isAdded
      · rename_i fresh
        rw [Fpa.read, readsBack, Bool.not_eq_true] at fresh
        split at isAdded
        · cases isAdded
        · rename_i entered
          split at isAdded
          · rename_i filled
            cases isAdded
            refine ⟨_, built, fresh, ?_⟩
            rw [asic_of_issue filled, if_pos rfl, asic_of_issue entered, if_pos rfl]
            exact replacesGroup_add _ _ _
          · cases isAdded

theorem viewStep_delL3Group {arpIndex : Nat}
    (taken : viewStep env hw (.delL3Group arpIndex) = .ok (reply, next)) :
    ∃ gid, fpaLibGroupIdentifierBuild env (.l3Unicast arpIndex) = some gid ∧
      ReplacesGroup hw.fpa.asic next.fpa.asic gid none := by
  simp only [viewStep] at taken
  split at taken
  · cases taken
  · rename_i gid built
    refine ⟨gid, built, ?_⟩
    obtain ⟨isOk, rfl⟩ := Prod.mk.inj (succeeded_ok taken)
    rw [opsFpaRouteDelGroup, asic_of_issue (Prod.ext isOk rfl), if_pos rfl]
    exact replacesGroup_delete _ _

end Steps

section Invariant

variable {env : Env}

/-- The tables as the calls leave them: the VLAN flows are the ones `ops_fpa_vlan_add` makes, and
no two groups have one identifier. -/
structure ViewTables (asic : Asic) : Prop where
  flows : ∀ flow ∈ asic.flows .vlan, ∃ (pid : CInt) (vid : Nat) (tagged : Bool), vid < 4096 ∧
    flow = vlanFlow pid vid tagged
  groups : ∀ one ∈ asic.groups, ∀ other ∈ asic.groups,
    one.groupIdentifier = other.groupIdentifier → one = other

theorem ViewTables.replacesGroup {asic after : Asic} {gid : Nat} {new : Option Bucket}
    (tables : ViewTables asic) (replaces : ReplacesGroup asic after gid new) :
    ViewTables after := by
  refine ⟨by rw [replaces.flows]; exact tables.flows, ?_⟩
  intro one oneMember other otherMember same
  rcases (replaces.groups one).mp oneMember with ⟨oneOld, oneKept⟩ | ⟨bucket, isNew, rfl⟩
  · rcases (replaces.groups other).mp otherMember with ⟨otherOld, _⟩ | ⟨_, _, rfl⟩
    · exact tables.groups one oneOld other otherOld same
    · exact absurd same oneKept
  · rcases (replaces.groups other).mp otherMember with ⟨_, otherKept⟩ | ⟨otherBucket, otherNew, rfl⟩
    · exact absurd same.symm otherKept
    · cases isNew.symm.trans otherNew
      rfl

theorem ViewTables.step {hw next : Hw} {call : ViewCall} {reply : Unit}
    (readsBack : env.ReadsBack) (tables : ViewTables hw.fpa.asic)
    (taken : viewStep env hw call = .ok (reply, next)) : ViewTables next.fpa.asic := by
  cases call with
  | vlanAdd pid vidx =>
      rcases viewStep_vlanAdd taken with ⟨_, gid, _, replaces⟩ | ⟨_, isNext⟩
      · exact tables.replacesGroup replaces
      · rw [isNext]
        refine ⟨fun flow member => ?_, tables.groups⟩
        rw [Asic.flows_flowEntryAdd, List.mem_append, List.mem_singleton] at member
        rcases member with was | rfl
        · exact tables.flows flow was
        · exact ⟨pid, _, _, vidxVid_lt vidx, rfl⟩
  | vlanDel pid vidx =>
      rcases viewStep_vlanDel taken with ⟨_, gid, _, replaces⟩ | ⟨_, isNext⟩
      · exact tables.replacesGroup replaces
      · rw [isNext]
        refine ⟨fun flow member => ?_, tables.groups⟩
        rw [Asic.flows_cookieDelete] at member
        exact tables.flows flow (List.mem_of_mem_filter member)
  | addL3Group =>
      obtain ⟨gid, _, _, replaces⟩ := viewStep_addL3Group readsBack taken
      exact tables.replacesGroup replaces
  | delL3Group =>
      obtain ⟨gid, _, replaces⟩ := viewStep_delL3Group taken
      exact tables.replacesGroup replaces

theorem viewTables_reached {start state : Hw}
    {trace : List (Runs.Event Hw ViewCall Unit)} (readsBack : env.ReadsBack)
    (tables : ViewTables start.fpa.asic) (run : Runs.Run (viewStep env) start trace state) :
    ViewTables state.fpa.asic := by
  induction run with
  | nil => exact tables
  | cons _ taken ih => exact ih.step readsBack taken

end Invariant

section View

/-- The entry of the VIDX itself is in the tables. -/
def Installed (asic : Asic) (pid : Int) (vidx : Nat) : Prop :=
  if vidxIsEgress vidx then
    let ident := GroupIdent.l2Interface (portNum pid) (vidxVid vidx)
    ident.Fits ∧ ⟨ident.identifier, some (.l2Interface (portNum pid) (vidxArg vidx))⟩ ∈ asic.groups
  else vlanFlow pid (vidxVid vidx) (vidxArg vidx) ∈ asic.flows .vlan

/-- The view changes in the bit of the call on its own port, and nowhere else. -/
def ViewFollows (env : Env) (hw next : Hw) : ViewCall → Prop
  | .vlanAdd pid vidx => ∀ other : CInt, opsFpaVlanFetch env next.fpa other =
      if other = pid then (opsFpaVlanFetch env hw.fpa other).set1 vidx
      else opsFpaVlanFetch env hw.fpa other
  | .vlanDel pid vidx => Installed hw.fpa.asic pid vidx → ∀ other : CInt,
      opsFpaVlanFetch env next.fpa other =
        if other = pid then (opsFpaVlanFetch env hw.fpa other).set0 vidx
        else opsFpaVlanFetch env hw.fpa other
  | .addL3Group .. => ∀ other : CInt,
      opsFpaVlanFetch env next.fpa other = opsFpaVlanFetch env hw.fpa other
  | .delL3Group .. => ∀ other : CInt,
      opsFpaVlanFetch env next.fpa other = opsFpaVlanFetch env hw.fpa other

/-- No other entry of the tables shares a key with the entry of the call: the group of an egress
VIDX does not hold the other form, the cookie of an ingress VIDX marks no second flow, and the
identifier of an L3 group reads like no port and VLAN that the view does not show anyway. -/
def Undisturbed (env : Env) (hw : Hw) : ViewCall → Prop
  | .vlanAdd pid vidx => vidxIsEgress vidx = true → ∀ gid bucket,
      fpaLibGroupIdentifierBuild env (.l2Interface (portNum pid) (vidxVid vidx)) = some gid →
      ⟨gid, some bucket⟩ ∈ hw.fpa.asic.groups → popVlanTagAction env bucket ≠ vidxArg vidx →
      ShownBeside env hw.fpa.asic gid pid (vidxEgress (vidxVid vidx) (popVlanTagAction env bucket))
  | .vlanDel pid vidx => Installed hw.fpa.asic pid vidx →
      if vidxIsEgress vidx then ∀ gid,
        fpaLibGroupIdentifierBuild env (.l2Interface (portNum pid) (vidxVid vidx)) = some gid →
        ¬ ShownBeside env hw.fpa.asic gid pid vidx
      else ∀ flow ∈ hw.fpa.asic.flows .vlan,
        flow.cookie = opsFpaVlanCookie pid (vidxVid vidx) (vidxArg vidx) →
        flow = vlanFlow pid (vidxVid vidx) (vidxArg vidx)
  | .addL3Group l2Group arpIndex vid mtu srcMac dstMac => ∀ gid,
      fpaLibGroupIdentifierBuild env (.l3Unicast arpIndex) = some gid →
      opsFpaVlanFetch env hw.fpa (gidPid gid) (vidxEgress (opsFpaGidVlan gid)
        (env.popOfL3Unicast ⟨dstMac, srcMac, vid, mtu, l2Group⟩)) = true
  | .delL3Group arpIndex => ∀ gid bucket,
      fpaLibGroupIdentifierBuild env (.l3Unicast arpIndex) = some gid →
      ⟨gid, some bucket⟩ ∈ hw.fpa.asic.groups →
      ShownBeside env hw.fpa.asic gid (gidPid gid)
        (vidxEgress (opsFpaGidVlan gid) (popVlanTagAction env bucket))

variable {env : Env} {hw next : Hw} {reply : Unit} {pid : CInt} {vidx : Fin vmapBits}

theorem fetch_set1_iff {before after : CInt → Bitmap} :
    (∀ other, after other = if other = pid then (before other).set1 vidx else before other) ↔
      ∀ other index, after other index = true ↔
        other = pid ∧ index = vidx ∨ before other index = true := by
  refine forall_congr' fun other => ?_
  rw [funext_iff]
  refine forall_congr' fun index => ?_
  rw [Bool.eq_iff_iff]
  by_cases here : other = pid
  · simp [here]
  · simp [here]

theorem fetch_set0_iff {before after : CInt → Bitmap} :
    (∀ other, after other = if other = pid then (before other).set0 vidx else before other) ↔
      ∀ other index, after other index = true ↔
        ¬ (other = pid ∧ index = vidx) ∧ before other index = true := by
  refine forall_congr' fun other => ?_
  rw [funext_iff]
  refine forall_congr' fun index => ?_
  rw [Bool.eq_iff_iff]
  by_cases here : other = pid
  · simp [here]
  · simp [here]

theorem fetch_same_iff {before after : CInt → Bitmap} :
    (∀ other, after other = before other) ↔
      ∀ other index, after other index = true ↔ before other index = true := by
  refine forall_congr' fun other => ?_
  rw [funext_iff]
  exact forall_congr' fun index => Bool.eq_iff_iff

theorem flowMarks_vlanFlow {other : CInt} {vid index : Nat} {tagged : Bool} :
    flowMarks other (vlanFlow pid vid tagged) index ↔
      other = pid ∧ index = vidxIngress vid tagged := by
  have isTagged : ((vlanFlow pid vid tagged).data.vlanIdMask = .tag) = tagged := by
    cases tagged <;> simp [vlanFlow]
  simp only [flowMarks, isTagged, Bool.decide_coe]
  exact and_congr_left fun _ => CInt.portNum_eq_iff

theorem shownAt_l2Group {gid vid index : Nat} {other : CInt} {bucket : Bucket}
    (built : fpaLibGroupIdentifierBuild env (.l2Interface (portNum pid) vid) = some gid) :
    ShownAt env gid bucket other index ↔
      other = pid ∧ index = vidxEgress vid (popVlanTagAction env bucket) := by
  obtain ⟨portBound, vidBound, rfl⟩ := l2Group_eq built
  rw [ShownAt, gidPort_l2Group portBound, gidVlan_l2Group portBound vidBound]
  exact and_congr_left fun _ => CInt.portNum_eq_iff

theorem shownAt_iff {gid index : Nat} {other : CInt} {bucket : Bucket} :
    ShownAt env gid bucket other index ↔ other = gidPid gid ∧
      index = vidxEgress (opsFpaGidVlan gid) (popVlanTagAction env bucket) := by
  have isPort : portNum (gidPid gid).val = opsFpaGidPort gid := by
    have bound : opsFpaGidPort gid < 65536 := by
      rw [opsFpaGidPort_eq]
      omega
    exact portNum_natCast bound
  rw [ShownAt, ← isPort]
  exact and_congr_left fun _ => CInt.portNum_eq_iff

theorem vidx_egress (egress : vidxIsEgress vidx = true) :
    vidx.val = vidxEgress (vidxVid vidx) (vidxArg vidx) := by
  have decoded := vidx_decode vidx.isLt
  rwa [egress, if_pos rfl] at decoded

theorem vidx_ingress (ingress : vidxIsEgress vidx = false) :
    vidx.val = vidxIngress (vidxVid vidx) (vidxArg vidx) := by
  have decoded := vidx_decode vidx.isLt
  rwa [ingress, if_neg Bool.false_ne_true] at decoded

theorem ViewTables.isIngress {asic : Asic} (tables : ViewTables asic) {other : CInt} {index : Nat}
    (shown : ShownByFlow asic other index) : vidxIsEgress index = false := by
  obtain ⟨flow, member, marks⟩ := shown
  obtain ⟨_, vid, tagged, bound, rfl⟩ := tables.flows flow member
  rw [(flowMarks_vlanFlow.mp marks).2, vidxIsEgress_ingress bound]

theorem ViewTables.shownFlow {asic : Asic} (tables : ViewTables asic) {other : CInt} {vid : Nat}
    {tagged : Bool} (bound : vid < 4096) {flow : FlowEntry .vlan} (member : flow ∈ asic.flows .vlan)
    (marks : flowMarks other flow (vidxIngress vid tagged)) : flow = vlanFlow other vid tagged := by
  obtain ⟨_, _, _, isBound, rfl⟩ := tables.flows flow member
  obtain ⟨rfl, same⟩ := flowMarks_vlanFlow.mp marks
  obtain ⟨rfl, rfl⟩ := vidxIngress_inj bound isBound same
  rfl

theorem groupMarks_isEgress {other : Int} {group : Group} {index : Nat}
    (marks : groupMarks env other group index) : vidxIsEgress index = true := by
  obtain ⟨_, _, shown⟩ := groupMarks_iff.mp marks
  exact shown.isEgress

section Cases

variable (readsBack : env.ReadsBack) (tables : ViewTables hw.fpa.asic)

include readsBack tables

theorem viewFollows_egressAdd_iff {gid : Nat} (egress : vidxIsEgress vidx = true)
    (built : fpaLibGroupIdentifierBuild env (.l2Interface (portNum pid) (vidxVid vidx)) = some gid)
    (replaces : ReplacesGroup hw.fpa.asic next.fpa.asic gid
      (some (.l2Interface (portNum pid) (vidxArg vidx)))) :
    ViewFollows env hw next (.vlanAdd pid vidx) ↔ Undisturbed env hw (.vlanAdd pid vidx) := by
  have isVidx := vidx_egress egress
  have vidBound := vidxVid_lt vidx
  have isPop : popVlanTagAction env (.l2Interface (portNum pid) (vidxArg vidx)) = vidxArg vidx :=
    rfl
  rw [ViewFollows, Undisturbed, fetch_set1_iff]
  simp only [replaces.fetch readsBack, fetch_split readsBack hw.fpa gid,
    shownAt_l2Group built, Option.some.injEq, exists_eq_left', isPop]
  rw [← isVidx]
  constructor
  · intro follows _ _ bucket isBuilt held differs
    cases built.symm.trans isBuilt
    have shown := (follows pid _).mpr (.inr (.inr (.inl ⟨bucket, held, rfl, rfl⟩)))
    rcases shown with beside | ⟨-, same⟩ | byFlow
    · exact beside
    · exact absurd (vidxEgress_inj vidBound vidBound (same.trans isVidx)).2 differs
    · have isIngress := tables.isIngress byFlow
      rw [vidxIsEgress_egress vidBound] at isIngress
      cases isIngress
  · intro undisturbed other index
    constructor
    · rintro (beside | new | byFlow)
      · exact .inr (.inl beside)
      · exact .inl new
      · exact .inr (.inr (.inr byFlow))
    · rintro (new | beside | ⟨bucket, held, rfl, rfl⟩ | byFlow)
      · exact .inr (.inl new)
      · exact .inl beside
      · by_cases same : popVlanTagAction env bucket = vidxArg vidx
        · exact .inr (.inl ⟨rfl, by rw [same, ← isVidx]⟩)
        · exact .inl (undisturbed egress gid bucket built held same)
      · exact .inr (.inr byFlow)

omit tables in
theorem viewFollows_ingressAdd (ingress : vidxIsEgress vidx = false)
    (isNext : next.fpa.asic =
      hw.fpa.asic.apply (.flowEntryAdd .vlan (vlanFlow pid (vidxVid vidx) (vidxArg vidx)))) :
    ViewFollows env hw next (.vlanAdd pid vidx) := by
  rw [ViewFollows, fetch_set1_iff]
  intro other index
  rw [fetch_tables readsBack, fetch_tables readsBack, ShownByFlow, isNext,
    Asic.groups_flowEntryAdd, Asic.flows_flowEntryAdd, or_left_comm]
  refine or_congr_right ?_
  simp only [List.mem_append, List.mem_singleton, or_and_right, exists_or, exists_eq_left,
    flowMarks_vlanFlow, ← vidx_ingress ingress]
  exact or_comm

theorem viewFollows_egressDel_iff {gid : Nat} (egress : vidxIsEgress vidx = true)
    (built : fpaLibGroupIdentifierBuild env (.l2Interface (portNum pid) (vidxVid vidx)) = some gid)
    (replaces : ReplacesGroup hw.fpa.asic next.fpa.asic gid none) :
    ViewFollows env hw next (.vlanDel pid vidx) ↔ Undisturbed env hw (.vlanDel pid vidx) := by
  have isVidx := vidx_egress egress
  rw [ViewFollows, Undisturbed, fetch_set0_iff]
  refine forall_congr' fun installed => ?_
  have only : ∀ bucket, ⟨gid, some bucket⟩ ∈ hw.fpa.asic.groups →
      popVlanTagAction env bucket = vidxArg vidx := by
    intro bucket held
    rw [Installed, if_pos egress] at installed
    have present := installed.2
    rw [← groupIdent_eq built] at present
    cases tables.groups _ held _ present rfl
    rfl
  simp only [replaces.fetch readsBack, fetch_split readsBack hw.fpa gid,
    shownAt_l2Group built, egress, if_true]
  constructor
  · intro follows _ isBuilt beside
    cases built.symm.trans isBuilt
    exact ((follows pid vidx).mp (.inl beside)).1 ⟨rfl, rfl⟩
  · intro alone other index
    constructor
    · rintro (beside | ⟨_, isNone, _⟩ | byFlow)
      · refine ⟨?_, .inl beside⟩
        rintro ⟨rfl, rfl⟩
        exact alone gid built beside
      · cases isNone
      · refine ⟨?_, .inr (.inr byFlow)⟩
        rintro ⟨rfl, rfl⟩
        rw [tables.isIngress byFlow] at egress
        cases egress
    · rintro ⟨different, beside | ⟨bucket, held, rfl, rfl⟩ | byFlow⟩
      · exact .inl beside
      · rw [only bucket held, ← isVidx] at different
        exact absurd ⟨rfl, rfl⟩ different
      · exact .inr (.inr byFlow)

theorem viewFollows_ingressDel_iff (ingress : vidxIsEgress vidx = false)
    (isNext : next.fpa.asic = hw.fpa.asic.apply
      (.flowTableCookieDelete .vlan (opsFpaVlanCookie pid (vidxVid vidx) (vidxArg vidx)))) :
    ViewFollows env hw next (.vlanDel pid vidx) ↔ Undisturbed env hw (.vlanDel pid vidx) := by
  have isVidx := vidx_ingress ingress
  have vidBound := vidxVid_lt vidx
  have fetched : ∀ other : CInt, ∀ index, opsFpaVlanFetch env next.fpa other index = true ↔
      (∃ group ∈ hw.fpa.asic.groups, groupMarks env other group index) ∨
      ∃ flow ∈ hw.fpa.asic.flows .vlan,
        flow.cookie ≠ opsFpaVlanCookie pid (vidxVid vidx) (vidxArg vidx) ∧
          flowMarks other flow index := by
    intro other index
    rw [fetch_tables readsBack, ShownByFlow, isNext, Asic.groups_cookieDelete,
      Asic.flows_cookieDelete]
    simp only [List.mem_filter, decide_eq_true_eq, and_assoc]
  rw [ViewFollows, Undisturbed, fetch_set0_iff]
  refine forall_congr' fun installed => ?_
  simp only [ingress, Bool.false_eq_true, if_false, fetched, fetch_tables readsBack]
  constructor
  · intro follows flow member isCookie
    obtain ⟨other, vid, tagged, bound, rfl⟩ := tables.flows flow member
    by_contra different
    have elsewhere : ¬ (other = pid ∧ vidxIngress vid tagged = vidx) := by
      rintro ⟨rfl, same⟩
      rw [isVidx] at same
      obtain ⟨isVid, isTagged⟩ := vidxIngress_inj bound vidBound same
      exact different (by rw [isVid, isTagged])
    have marks : flowMarks other (vlanFlow other vid tagged) (vidxIngress vid tagged) :=
      flowMarks_vlanFlow.mpr ⟨rfl, rfl⟩
    rcases (follows other (vidxIngress vid tagged)).mpr ⟨elsewhere, .inr ⟨_, member, marks⟩⟩ with
      ⟨group, _, groupMarks⟩ | ⟨later, isLater, kept, laterMarks⟩
    · have isEgress := groupMarks_isEgress groupMarks
      rw [vidxIsEgress_ingress bound] at isEgress
      cases isEgress
    · rw [tables.shownFlow bound isLater laterMarks] at kept
      exact kept isCookie
  · intro alone other index
    constructor
    · rintro (⟨group, member, marks⟩ | ⟨flow, member, kept, marks⟩)
      · refine ⟨?_, .inl ⟨group, member, marks⟩⟩
        rintro ⟨_, rfl⟩
        rw [groupMarks_isEgress marks] at ingress
        cases ingress
      · refine ⟨?_, .inr ⟨flow, member, marks⟩⟩
        rintro ⟨rfl, rfl⟩
        rw [isVidx] at marks
        rw [tables.shownFlow vidBound member marks] at kept
        exact kept rfl
    · rintro ⟨elsewhere, ⟨group, member, marks⟩ | ⟨flow, member, marks⟩⟩
      · exact .inl ⟨group, member, marks⟩
      · refine .inr ⟨flow, member, fun isCookie => elsewhere ?_, marks⟩
        rw [alone flow member isCookie, flowMarks_vlanFlow, ← isVidx] at marks
        exact marks

omit tables in
theorem viewFollows_addL3Group_iff {l2Group arpIndex vid mtu : Nat} {srcMac dstMac : EthAddr}
    (taken : viewStep env hw (.addL3Group l2Group arpIndex vid mtu srcMac dstMac) =
      .ok (reply, next)) :
    ViewFollows env hw next (.addL3Group l2Group arpIndex vid mtu srcMac dstMac) ↔
      Undisturbed env hw (.addL3Group l2Group arpIndex vid mtu srcMac dstMac) := by
  obtain ⟨gid, built, fresh, replaces⟩ := viewStep_addL3Group readsBack taken
  have absent : ∀ bucket, ⟨gid, some bucket⟩ ∉ hw.fpa.asic.groups := by
    intro bucket held
    rw [Asic.hasGroup_iff.mpr ⟨_, held, rfl⟩] at fresh
    cases fresh
  rw [ViewFollows, Undisturbed, fetch_same_iff]
  simp only [replaces.fetch readsBack, fetch_split readsBack hw.fpa gid, shownAt_iff,
    Option.some.injEq, exists_eq_left']
  constructor
  · intro follows _ isBuilt
    cases built.symm.trans isBuilt
    exact (follows (gidPid gid) _).mp (.inr (.inl ⟨rfl, rfl⟩))
  · intro shown other index
    constructor
    · rintro (beside | ⟨rfl, rfl⟩ | byFlow)
      · exact .inl beside
      · exact shown gid built
      · exact .inr (.inr byFlow)
    · rintro (beside | ⟨bucket, held, _⟩ | byFlow)
      · exact .inl beside
      · exact absurd held (absent bucket)
      · exact .inr (.inr byFlow)

theorem viewFollows_delL3Group_iff {arpIndex : Nat}
    (taken : viewStep env hw (.delL3Group arpIndex) = .ok (reply, next)) :
    ViewFollows env hw next (.delL3Group arpIndex) ↔ Undisturbed env hw (.delL3Group arpIndex) := by
  obtain ⟨gid, built, replaces⟩ := viewStep_delL3Group taken
  rw [ViewFollows, Undisturbed, fetch_same_iff]
  simp only [replaces.fetch readsBack, fetch_split readsBack hw.fpa gid, shownAt_iff]
  constructor
  · intro follows _ bucket isBuilt held
    cases built.symm.trans isBuilt
    rcases (follows (gidPid gid) _).mpr (.inr (.inl ⟨bucket, held, rfl, rfl⟩)) with
      beside | ⟨_, isNone, _⟩ | byFlow
    · exact beside
    · cases isNone
    · have isIngress := tables.isIngress byFlow
      rw [vidxIsEgress_egress (gidVlan_lt gid)] at isIngress
      cases isIngress
  · intro shown other index
    constructor
    · rintro (beside | ⟨_, isNone, _⟩ | byFlow)
      · exact .inl beside
      · cases isNone
      · exact .inr (.inr byFlow)
    · rintro (beside | ⟨bucket, held, rfl, rfl⟩ | byFlow)
      · exact .inl beside
      · exact .inl (shown gid bucket built held)
      · exact .inr (.inr byFlow)

theorem viewFollows_step_iff {call : ViewCall} (taken : viewStep env hw call = .ok (reply, next)) :
    ViewFollows env hw next call ↔ Undisturbed env hw call := by
  cases call with
  | vlanAdd pid vidx =>
      rcases viewStep_vlanAdd taken with ⟨egress, gid, built, replaces⟩ | ⟨ingress, isNext⟩
      · exact viewFollows_egressAdd_iff readsBack tables egress built replaces
      · refine iff_of_true (viewFollows_ingressAdd readsBack ingress isNext) fun egress => ?_
        rw [ingress] at egress
        cases egress
  | vlanDel pid vidx =>
      rcases viewStep_vlanDel taken with ⟨egress, gid, built, replaces⟩ | ⟨ingress, isNext⟩
      · exact viewFollows_egressDel_iff readsBack tables egress built replaces
      · exact viewFollows_ingressDel_iff readsBack tables ingress isNext
  | addL3Group => exact viewFollows_addL3Group_iff readsBack taken
  | delL3Group => exact viewFollows_delL3Group_iff readsBack tables taken

end Cases

end View

/-- In every state that successful calls reach, a call changes exactly its own bit of the view if
and only if no other entry of the tables shares a key with the entry of the call. -/
theorem view_follows_call_iff (env : Env) (readsBack : env.ReadsBack) {start state next : Hw}
    (noFlows : start.fpa.asic.flows .vlan = []) (noGroups : start.fpa.asic.groups = [])
    {trace : List (Runs.Event Hw ViewCall Unit)}
    (run : Runs.Run (viewStep env) start trace state) (call : ViewCall) {reply : Unit}
    (taken : viewStep env state call = .ok (reply, next)) :
    ViewFollows env state next call ↔ Undisturbed env state call := by
  have tables : ViewTables start.fpa.asic := by
    refine ⟨?_, ?_⟩
    · simp [noFlows]
    · simp [noGroups]
  exact viewFollows_step_iff readsBack (viewTables_reached readsBack tables run) taken

def viewPort : CInt := ⟨1, by decide⟩

def untagged (vid : Fin 4096) : Fin vmapBits := ⟨vid, Nat.lt_trans vid.isLt (by decide)⟩

def untaggedHw : Hw := (opsFpaVlanAdd idealEnv bareSys.hw 1 10).2

def untaggedTwiceHw : Hw := (opsFpaVlanAdd idealEnv untaggedHw 1 20).2

theorem untaggedHw_run : Runs.Run (viewStep idealEnv) bareSys.hw
    [⟨bareSys.hw, .vlanAdd viewPort (untagged 10), (), untaggedHw⟩] untaggedHw :=
  Runs.Run.nil.cons rfl

theorem view_follows_call_untagged : ∃ trace next,
    Runs.Run (viewStep idealEnv) bareSys.hw trace untaggedHw ∧
      viewStep idealEnv untaggedHw (.vlanDel viewPort (untagged 10)) = .ok ((), next) ∧
      ViewFollows idealEnv untaggedHw next (.vlanDel viewPort (untagged 10)) := by
  refine ⟨_, _, untaggedHw_run, rfl, ?_⟩
  refine (view_follows_call_iff idealEnv idealEnv_readsBack rfl rfl untaggedHw_run
    (.vlanDel viewPort (untagged 10)) rfl).mpr ?_
  intro _ flow member _
  exact List.mem_singleton.mp member

/-- Deleting one untagged VLAN of a port takes the other one from the view, and an L3 group shows
as VLAN 0 on the port of its index. -/
theorem shared_keys_break_view :
    (∃ trace next, Runs.Run (viewStep idealEnv) bareSys.hw trace untaggedTwiceHw ∧
      viewStep idealEnv untaggedTwiceHw (.vlanDel viewPort (untagged 10)) = .ok ((), next) ∧
      Installed untaggedTwiceHw.fpa.asic viewPort (untagged 10) ∧
      opsFpaVlanFetch idealEnv untaggedTwiceHw.fpa 1 20 = true ∧
      opsFpaVlanFetch idealEnv next.fpa 1 20 = false ∧
      ¬ ViewFollows idealEnv untaggedTwiceHw next (.vlanDel viewPort (untagged 10))) ∧
    ∃ next, viewStep idealEnv bareSys.hw (.addL3Group 0 1 10 1500 1#48 2#48) = .ok ((), next) ∧
      opsFpaVlanFetch idealEnv next.fpa 1 (vidxEgress 0 false) = true ∧
      ¬ ViewFollows idealEnv bareSys.hw next (.addL3Group 0 1 10 1500 1#48 2#48) := by
  have second : viewStep idealEnv untaggedHw (.vlanAdd viewPort (untagged 20)) =
      .ok ((), untaggedTwiceHw) := rfl
  refine ⟨⟨_, _, untaggedHw_run.cons second, rfl, ?_, rfl, rfl, ?_⟩, ⟨_, rfl, rfl, ?_⟩⟩
  · exact List.mem_cons_self
  · intro follows
    have same := congrFun (follows List.mem_cons_self viewPort) 20
    cases same
  · intro follows
    have same := congrFun (follows viewPort) (vidxEgress 0 false)
    cases same

end FpaPlugin
