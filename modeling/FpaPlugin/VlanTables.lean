import FpaPlugin.Lib.KeyedDiff
import FpaPlugin.Membership

/-! The VLAN table and the group table as one set of installed VIDX per port. A VIDX is
deleted by a key that it may share: untagged VLANs of a port have one cookie, and the two
egress forms of a VLAN one group. -/

namespace FpaPlugin

variable {env : Env}

/-- The switch adds what it does not have and deletes what it has. -/
structure Env.AcceptsChanges (env : Env) : Prop where
  flowAdd : ∀ calls asic (entry : FlowEntry .vlan), entry ∉ asic.flows .vlan →
    env.verdict calls (.flowEntryAdd .vlan entry) asic = .ok
  cookieDelete : ∀ calls (asic : Asic) cookie,
    (∃ entry ∈ asic.flows .vlan, entry.cookie = cookie) →
    env.verdict calls (.flowTableCookieDelete .vlan cookie) asic = .ok
  groupAdd : ∀ calls (asic : Asic) group, asic.hasGroup group = false →
    env.verdict calls (.groupTableEntryAdd group) asic = .ok
  groupDelete : ∀ calls (asic : Asic) group, asic.hasGroup group = true →
    env.verdict calls (.groupTableEntryDelete group) asic = .ok
  bucketAdd : ∀ calls (asic : Asic) group bucket, asic.hasGroup group = true →
    asic.bucketOf group = none →
    env.verdict calls (.groupEntryBucketAdd group bucket) asic = .ok
  builds : env.BuildsIdents

theorem Env.AllSucceed.acceptsChanges (succeeds : env.AllSucceed) : env.AcceptsChanges where
  flowAdd := fun _ _ _ _ => succeeds.calls _ _ _
  cookieDelete := fun _ _ _ _ => succeeds.calls _ _ _
  groupAdd := fun _ _ _ _ => succeeds.calls _ _ _
  groupDelete := fun _ _ _ _ => succeeds.calls _ _ _
  bucketAdd := fun _ _ _ _ _ _ => succeeds.calls _ _ _
  builds := succeeds.builds

/-- What the hardware tells the VIDX of a port apart by. -/
def vidxKey (vidx : Nat) : Bool × Nat :=
  (vidxIsEgress vidx, if vidxIsEgress vidx || vidxArg vidx then vidxVid vidx else 0)

section Encoding

theorem vidxKey_ingress {vid : Nat} (bound : vid < 4096) (tagged : Bool) :
    vidxKey (vidxIngress vid tagged) = (false, if tagged then vid else 0) := by
  rw [vidxKey, vidxIsEgress_ingress bound, vidxArg_ingress bound, vidxVid_ingress bound]
  rfl

theorem vidxKey_egress {vid : Nat} (bound : vid < 4096) (popTag : Bool) :
    vidxKey (vidxEgress vid popTag) = (true, vid) := by
  rw [vidxKey, vidxIsEgress_egress bound, vidxVid_egress bound]
  rfl

theorem vidxIngress_inj {vid other : Nat} {tagged otherTagged : Bool} (bound : vid < 4096)
    (otherBound : other < 4096)
    (same : vidxIngress vid tagged = vidxIngress other otherTagged) :
    vid = other ∧ tagged = otherTagged := by
  have isVid := congrArg vidxVid same
  have isArg := congrArg vidxArg same
  rw [vidxVid_ingress bound, vidxVid_ingress otherBound] at isVid
  rw [vidxArg_ingress bound, vidxArg_ingress otherBound] at isArg
  exact ⟨isVid, isArg⟩

theorem vidxEgress_inj {vid other : Nat} {popTag otherPop : Bool} (bound : vid < 4096)
    (otherBound : other < 4096) (same : vidxEgress vid popTag = vidxEgress other otherPop) :
    vid = other ∧ popTag = otherPop := by
  have isVid := congrArg vidxVid same
  have isArg := congrArg vidxArg same
  rw [vidxVid_egress bound, vidxVid_egress otherBound] at isVid
  rw [vidxArg_egress bound, vidxArg_egress otherBound] at isArg
  exact ⟨isVid, isArg⟩

theorem vidxIngress_ne_egress {vid other : Nat} {tagged popTag : Bool} (bound : vid < 4096)
    (otherBound : other < 4096) : vidxIngress vid tagged ≠ vidxEgress other popTag := by
  intro same
  have isEgress := congrArg vidxIsEgress same
  rw [vidxIsEgress_ingress bound, vidxIsEgress_egress otherBound] at isEgress
  cases isEgress

theorem portNum_natCast {port : Nat} (bound : port < 65536) : portNum port = port := by
  rw [portNum]
  omega

theorem cookie_eq {port vid : Nat} (portBound : port < 65536) (tagged : Bool) :
    opsFpaVlanCookie port vid tagged = (if tagged then vid else 0) * 4294967296 + port := by
  have isPort : ((port : Int) % 2 ^ 64).toNat = port := by omega
  rw [opsFpaVlanCookie, isPort]
  cases tagged with
  | true =>
      have small : port < 2 ^ 32 := by omega
      rw [if_pos rfl, if_pos rfl, ← Nat.shiftLeft_add_eq_or_of_lt small, Nat.shiftLeft_eq]
  | false => simp

theorem l2Group_build (builds : env.BuildsIdents) {port vid : Nat} (portBound : port < 65536)
    (vidBound : vid < 4096) :
    fpaLibGroupIdentifierBuild env (.l2Interface port vid) = some (vid * 65536 + port) := by
  have built : fpaLibGroupIdentifierBuild env (.l2Interface port vid) =
      some (GroupIdent.l2Interface port vid).identifier := builds _ ⟨portBound, vidBound⟩
  rw [built, l2Identifier_eq portBound]

theorem gidPort_l2Group {port : Nat} (portBound : port < 65536) (vid : Nat) :
    opsFpaGidPort (vid * 65536 + port) = port := by
  rw [opsFpaGidPort_eq]
  omega

theorem gidVlan_l2Group {port vid : Nat} (portBound : port < 65536) (vidBound : vid < 4096) :
    opsFpaGidVlan (vid * 65536 + port) = vid := by
  rw [opsFpaGidVlan_eq]
  omega

end Encoding

structure VlanTables (asic : Asic) (installed : Nat → Bitmap) : Prop where
  inside : ∀ port vidx, installed port vidx = true → port < 65536 ∧ vidx < vmapBits
  flows : ∀ flow, flow ∈ asic.flows .vlan ↔ ∃ port vid tagged, vid < 4096 ∧
    installed port (vidxIngress vid tagged) = true ∧ flow = vlanFlow port vid tagged
  groups : ∀ group, group ∈ asic.groups ↔ ∃ port vid popTag, vid < 4096 ∧
    installed port (vidxEgress vid popTag) = true ∧
      group = ⟨vid * 65536 + port, some (.l2Interface port popTag)⟩

namespace VlanTables

variable {installed : Nat → Bitmap} {fpa : Fpa} {hw : Hw} {port vidx : Nat}

theorem fetch (tables : VlanTables fpa.asic installed) (readsBack : env.ReadsBack) (pid : Int)
    (vidx : Nat) : opsFpaVlanFetch env fpa pid vidx = installed (portNum pid) vidx := by
  rw [Bool.eq_iff_iff, fetch_iff, Fpa.read, readsBack]
  constructor
  · rintro (⟨group, member, isPort, bucket, isBucket, isVidx⟩ | ⟨flow, member, isPort, isVidx⟩)
    · obtain ⟨port, vid, popTag, vidBound, isInstalled, rfl⟩ := (tables.groups group).mp member
      have portBound := (tables.inside _ _ isInstalled).1
      cases isBucket
      rw [isPort, isVidx, gidPort_l2Group portBound, gidVlan_l2Group portBound vidBound]
      exact isInstalled
    · obtain ⟨port, vid, tagged, vidBound, isInstalled, rfl⟩ := (tables.flows flow).mp member
      have portBound := (tables.inside _ _ isInstalled).1
      simp only [vlanFlow, portNum_natCast portBound] at isPort isVidx
      rw [isPort, isVidx]
      cases tagged with
      | true => simpa using isInstalled
      | false => simpa using isInstalled
  · intro isInstalled
    obtain ⟨portBound, vidxBound⟩ := tables.inside _ _ isInstalled
    have decoded := vidx_decode vidxBound
    have vidBound := vidxVid_lt vidx
    split at decoded
    · rw [decoded] at isInstalled
      refine .inl ⟨_, (tables.groups _).mpr ⟨_, _, _, vidBound, isInstalled, rfl⟩,
        (gidPort_l2Group portBound _).symm, _, rfl, ?_⟩
      rw [gidVlan_l2Group portBound vidBound]
      exact decoded
    · rw [decoded] at isInstalled
      refine .inr ⟨_, (tables.flows _).mpr ⟨_, _, _, vidBound, isInstalled, rfl⟩, ?_, ?_⟩
      · simp only [vlanFlow, portNum_natCast portBound]
      · cases arg : vidxArg vidx with
        | true =>
            rw [arg] at decoded
            simpa [vlanFlow] using decoded
        | false =>
            rw [arg] at decoded
            simpa [vlanFlow] using decoded

theorem groups_ne (tables : VlanTables fpa.asic installed) {vid : Nat} (portBound : port < 65536)
    (absent : ∀ popTag, installed port (vidxEgress vid popTag) = false) {group : Group}
    (member : group ∈ fpa.asic.groups) : group.groupIdentifier ≠ vid * 65536 + port := by
  obtain ⟨other, otherVid, popTag, otherBound, isInstalled, rfl⟩ := (tables.groups group).mp member
  have inside := (tables.inside _ _ isInstalled).1
  intro same
  simp only at same
  have isPort : other = port := by omega
  have isVid : otherVid = vid := by omega
  rw [isPort, isVid, absent] at isInstalled
  cases isInstalled

def without (installed : Nat → Bitmap) (port vidx : Nat) : Nat → Bitmap :=
  Function.update installed port (KeyedDiff.erase vidxKey (installed port) vidx)

theorem without_update (bits : Bitmap) :
    without (Function.update installed port bits) port vidx =
      Function.update installed port (KeyedDiff.erase vidxKey bits vidx) := by
  simp [without]

theorem without_iff (other index : Nat) :
    without installed port vidx other index = true ↔
      installed other index = true ∧ ¬ (other = port ∧ vidxKey index = vidxKey vidx) := by
  by_cases here : other = port
  · subst here
    simp [without, KeyedDiff.erase]
  · simp [without, here]

theorem issue_groupDelete (accepts : env.AcceptsChanges) (fpa : Fpa) (group : Nat) :
    (fpa.issue env (.groupTableEntryDelete group)).2.asic =
      fpa.asic.apply (.groupTableEntryDelete group) := by
  simp only [Fpa.issue]
  split
  · rfl
  · rename_i refused
    have unchanged : fpa.asic.groups.filter (fun entry => entry.groupIdentifier ≠ group) =
        fpa.asic.groups := by
      rw [List.filter_eq_self]
      intro entry member
      rw [decide_eq_true_eq]
      intro same
      exact refused (accepts.groupDelete _ _ _ (Asic.hasGroup_iff.mpr ⟨entry, member, same⟩))
    simp only [Asic.apply, unchanged]

theorem issue_cookieDelete (accepts : env.AcceptsChanges) (fpa : Fpa) (cookie : Nat) :
    (fpa.issue env (.flowTableCookieDelete .vlan cookie)).2.asic =
      fpa.asic.apply (.flowTableCookieDelete .vlan cookie) := by
  simp only [Fpa.issue]
  split
  · rfl
  · rename_i refused
    have unchanged : (fpa.asic.flows .vlan).filter (fun entry => entry.cookie ≠ cookie) =
        fpa.asic.flows .vlan := by
      rw [List.filter_eq_self]
      intro entry member
      rw [decide_eq_true_eq]
      exact fun same => refused (accepts.cookieDelete _ _ _ ⟨entry, member, same⟩)
    simp only [Asic.apply, unchanged, Function.update_eq_self]

theorem vlanDel (accepts : env.AcceptsChanges) (tables : VlanTables hw.fpa.asic installed)
    (portBound : port < 65536) (vidxBound : vidx < vmapBits) :
    VlanTables (opsFpaVlanDel env hw port vidx).2.fpa.asic (without installed port vidx) := by
  have vidBound := vidxVid_lt vidx
  have decoded := vidx_decode vidxBound
  simp only [opsFpaVlanDel]
  split
  · rename_i egress
    rw [egress, if_pos rfl] at decoded
    have isKey : vidxKey vidx = (true, vidxVid vidx) := by
      rw [vidxKey, egress]
      rfl
    rw [portNum_natCast portBound, l2Group_build accepts.builds portBound vidBound]
    simp only [fpa_observe, issue_groupDelete accepts]
    refine ⟨fun other index isInstalled => tables.inside other index
      ((without_iff other index).mp isInstalled).1, fun flow => ?_, fun group => ?_⟩
    · rw [Asic.flows_groupTableEntryDelete, tables.flows]
      refine exists_congr fun other => exists_congr fun vid => exists_congr fun tagged =>
        and_congr_right fun bound => and_congr_left fun _ => ?_
      rw [without_iff, vidxKey_ingress bound, isKey]
      simp
    · simp only [Asic.apply, List.mem_filter, tables.groups, decide_eq_true_eq]
      constructor
      · rintro ⟨⟨other, vid, popTag, bound, isInstalled, rfl⟩, different⟩
        refine ⟨other, vid, popTag, bound, (without_iff _ _).mpr ⟨isInstalled, ?_⟩, rfl⟩
        rw [vidxKey_egress bound, isKey]
        rintro ⟨rfl, same⟩
        cases same
        exact different rfl
      · rintro ⟨other, vid, popTag, bound, isInstalled, rfl⟩
        obtain ⟨wasInstalled, different⟩ := (without_iff _ _).mp isInstalled
        refine ⟨⟨other, vid, popTag, bound, wasInstalled, rfl⟩, fun same => different ?_⟩
        have otherBound := (tables.inside _ _ wasInstalled).1
        simp only at same
        rw [vidxKey_egress bound, isKey]
        exact ⟨by omega, by rw [show vid = vidxVid vidx by omega]⟩
  · rename_i ingress
    rw [Bool.not_eq_true] at ingress
    have isKey : vidxKey vidx = (false, if vidxArg vidx then vidxVid vidx else 0) := by
      rw [vidxKey, ingress]
      rfl
    simp only [fpa_observe, issue_cookieDelete accepts]
    refine ⟨fun other index isInstalled => tables.inside other index
      ((without_iff other index).mp isInstalled).1, fun flow => ?_, fun group => ?_⟩
    · rw [Asic.flows_cookieDelete, List.mem_filter, decide_eq_true_eq, tables.flows]
      constructor
      · rintro ⟨⟨other, vid, tagged, bound, isInstalled, rfl⟩, different⟩
        refine ⟨other, vid, tagged, bound, (without_iff _ _).mpr ⟨isInstalled, ?_⟩, rfl⟩
        rw [vidxKey_ingress bound, isKey]
        rintro ⟨rfl, same⟩
        refine different ?_
        simp only [vlanFlow, cookie_eq portBound]
        rw [(Prod.mk.inj same).2]
      · rintro ⟨other, vid, tagged, bound, isInstalled, rfl⟩
        obtain ⟨wasInstalled, different⟩ := (without_iff _ _).mp isInstalled
        refine ⟨⟨other, vid, tagged, bound, wasInstalled, rfl⟩, fun same => different ?_⟩
        have otherBound := (tables.inside _ _ wasInstalled).1
        simp only [vlanFlow, cookie_eq portBound, cookie_eq otherBound] at same
        rw [vidxKey_ingress bound, isKey, Prod.mk.injEq]
        exact ⟨by omega, rfl, by omega⟩
    · rw [Asic.groups_cookieDelete, tables.groups]
      refine exists_congr fun other => exists_congr fun vid => exists_congr fun popTag =>
        and_congr_right fun bound => and_congr_left fun _ => ?_
      rw [without_iff, vidxKey_egress bound, isKey]
      simp

def withVidx (installed : Nat → Bitmap) (port vidx : Nat) : Nat → Bitmap :=
  Function.update installed port ((installed port).set1 vidx)

theorem withVidx_update (bits : Bitmap) :
    withVidx (Function.update installed port bits) port vidx =
      Function.update installed port (bits.set1 vidx) := by
  simp [withVidx]

theorem withVidx_iff (other index : Nat) :
    withVidx installed port vidx other index = true ↔
      (other = port ∧ index = vidx) ∨ installed other index = true := by
  by_cases here : other = port
  · subst here
    simp [withVidx]
  · simp [withVidx, here]

theorem vlanFlow_inj {other vid otherVid : Nat} {tagged otherTagged : Bool}
    (portBound : port < 65536) (otherBound : other < 65536)
    (same : vlanFlow port vid tagged = vlanFlow other otherVid otherTagged) :
    port = other ∧ vid = otherVid ∧ tagged = otherTagged := by
  have data := congrArg FlowEntry.data same
  simp only [vlanFlow, portNum_natCast portBound, portNum_natCast otherBound,
    VlanFlow.mk.injEq] at data
  refine ⟨data.1, data.2.1, ?_⟩
  have mask := data.2.2.1
  cases tagged <;> cases otherTagged <;> simp_all

theorem addL2Group (accepts : env.AcceptsChanges) (tables : VlanTables fpa.asic installed)
    {vid : Nat} (portBound : port < 65536) (vidBound : vid < 4096) (popTag : Bool)
    (absent : ∀ popTag, installed port (vidxEgress vid popTag) = false) :
    (opsFpaRouteAddL2Group env fpa port vid popTag).1 = some (vid * 65536 + port) ∧
      (opsFpaRouteAddL2Group env fpa port vid popTag).2.asic.flows = fpa.asic.flows ∧
      ∀ group, group ∈ (opsFpaRouteAddL2Group env fpa port vid popTag).2.asic.groups ↔
        group ∈ fpa.asic.groups ∨
          group = ⟨vid * 65536 + port, some (.l2Interface port popTag)⟩ := by
  have others := fun group => @groups_ne _ _ port tables vid portBound absent group
  have noGroup : fpa.asic.hasGroup (vid * 65536 + port) = false := by
    rw [Bool.eq_false_iff]
    intro present
    obtain ⟨group, member, same⟩ := Asic.hasGroup_iff.mp present
    exact others group member same
  have grown : fpa.asic.apply (.groupTableEntryAdd (vid * 65536 + port)) =
      { fpa.asic with groups := fpa.asic.groups ++ [⟨vid * 65536 + port, none⟩] } := by
    simp [Asic.apply, noGroup]
  have noBucket : (fpa.asic.apply (.groupTableEntryAdd (vid * 65536 + port))).bucketOf
      (vid * 65536 + port) = none := by
    have notFound : fpa.asic.groups.find? (fun group =>
        decide (group.groupIdentifier = vid * 65536 + port)) = none := by
      rw [List.find?_eq_none]
      intro group member
      simpa using others group member
    rw [grown, Asic.bucketOf, List.find?_append, notFound]
    simp
  simp only [opsFpaRouteAddL2Group, l2Group_build accepts.builds portBound vidBound,
    portNum_natCast portBound, Fpa.issue, accepts.groupAdd _ _ _ noGroup, if_true,
    accepts.bucketAdd _ _ _ (.l2Interface port popTag) (by simp) noBucket]
  refine ⟨trivial, by rw [Asic.flows_groupEntryBucketAdd, Asic.flows_groupTableEntryAdd], ?_⟩
  intro group
  rw [grown]
  simp only [Asic.apply, List.map_append, List.mem_append, List.mem_map, List.map_cons, List.map_nil,
    List.mem_singleton, if_true]
  refine or_congr_left ⟨?_, fun member => ⟨group, member, if_neg (others group member)⟩⟩
  rintro ⟨old, member, rfl⟩
  rw [if_neg (others old member)]
  exact member

theorem vlanAdd (accepts : env.AcceptsChanges) (tables : VlanTables hw.fpa.asic installed)
    (portBound : port < 65536) (vidxBound : vidx < vmapBits) (absent : installed port vidx = false)
    (alone : vidxIsEgress vidx = true → ∀ popTag,
      installed port (vidxEgress (vidxVid vidx) popTag) = false) :
    VlanTables (opsFpaVlanAdd env hw port vidx).2.fpa.asic (withVidx installed port vidx) := by
  have vidBound := vidxVid_lt vidx
  have decoded := vidx_decode vidxBound
  have inside : ∀ other index, withVidx installed port vidx other index = true →
      other < 65536 ∧ index < vmapBits := by
    intro other index isInstalled
    rcases (withVidx_iff other index).mp isInstalled with ⟨rfl, rfl⟩ | was
    · exact ⟨portBound, vidxBound⟩
    · exact tables.inside other index was
  simp only [opsFpaVlanAdd]
  split
  · rename_i egress
    rw [egress, if_pos rfl] at decoded
    obtain ⟨added, flows, groups⟩ := tables.addL2Group accepts portBound vidBound (vidxArg vidx)
      (alone egress)
    split
    · rename_i failed
      rw [failed] at added
      cases added
    · rename_i done
      rw [done] at flows groups
      simp only [fpa_observe]
      refine ⟨inside, fun flow => ?_, fun group => ?_⟩
      · rw [flows, tables.flows]
        refine exists_congr fun other => exists_congr fun vid => exists_congr fun tagged =>
          and_congr_right fun bound => and_congr_left fun _ => ?_
        rw [withVidx_iff, decoded]
        simp [vidxIngress_ne_egress bound vidBound]
      · rw [groups, tables.groups]
        constructor
        · rintro (⟨other, vid, popTag, bound, isInstalled, rfl⟩ | rfl)
          · exact ⟨other, vid, popTag, bound, (withVidx_iff _ _).mpr (.inr isInstalled), rfl⟩
          · exact ⟨port, _, _, vidBound, (withVidx_iff _ _).mpr (.inl ⟨rfl, decoded.symm⟩), rfl⟩
        · rintro ⟨other, vid, popTag, bound, isInstalled, rfl⟩
          rcases (withVidx_iff _ _).mp isInstalled with ⟨rfl, same⟩ | was
          · rw [decoded] at same
            obtain ⟨rfl, rfl⟩ := vidxEgress_inj bound vidBound same
            exact .inr rfl
          · exact .inl ⟨other, vid, popTag, bound, was, rfl⟩
  · rename_i ingress
    rw [if_neg ingress] at decoded
    have newFlow : vlanFlow port (vidxVid vidx) (vidxArg vidx) ∉ hw.fpa.asic.flows .vlan := by
      intro member
      obtain ⟨other, vid, tagged, bound, isInstalled, same⟩ := (tables.flows _).mp member
      obtain ⟨rfl, rfl, rfl⟩ := vlanFlow_inj portBound (tables.inside _ _ isInstalled).1 same
      rw [← decoded, absent] at isInstalled
      cases isInstalled
    simp only [fpa_observe, Fpa.issue, accepts.flowAdd _ _ _ newFlow, if_true]
    refine ⟨inside, fun flow => ?_, fun group => ?_⟩
    · rw [Asic.flows_flowEntryAdd, List.mem_append, List.mem_singleton, tables.flows]
      constructor
      · rintro (⟨other, vid, tagged, bound, isInstalled, rfl⟩ | rfl)
        · exact ⟨other, vid, tagged, bound, (withVidx_iff _ _).mpr (.inr isInstalled), rfl⟩
        · exact ⟨port, _, _, vidBound, (withVidx_iff _ _).mpr (.inl ⟨rfl, decoded.symm⟩), rfl⟩
      · rintro ⟨other, vid, tagged, bound, isInstalled, rfl⟩
        rcases (withVidx_iff _ _).mp isInstalled with ⟨rfl, same⟩ | was
        · rw [decoded] at same
          obtain ⟨rfl, rfl⟩ := vidxIngress_inj bound vidBound same
          exact .inr rfl
        · exact .inl ⟨other, vid, tagged, bound, was, rfl⟩
    · rw [Asic.groups_flowEntryAdd, tables.groups]
      refine exists_congr fun other => exists_congr fun vid => exists_congr fun popTag =>
        and_congr_right fun bound => and_congr_left fun _ => ?_
      rw [withVidx_iff, decoded]
      simp [(vidxIngress_ne_egress vidBound bound).symm]

end VlanTables

end FpaPlugin
