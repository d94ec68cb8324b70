import FpaPlugin.Routing

/-! The arithmetic behind VIDX, cookies and group identifiers, and what the operations
of `ops-fpa-vlan.c` and `ops-fpa-routing.c` do on a switch that accepts every call. -/

namespace FpaPlugin

variable {env : Env}

section Encoding

theorem vidxVid_eq (vidx : Nat) : vidxVid vidx = vidx % 4096 :=
  Nat.and_two_pow_sub_one_eq_mod vidx 12

theorem and_bit_ne_zero (value bit : Nat) :
    (value &&& 1 <<< bit != 0) = decide (value / 2 ^ bit % 2 = 1) := by
  rw [Nat.one_shiftLeft, Nat.and_two_pow, Nat.testBit_eq_decide_div_mod_eq]
  by_cases isSet : value / 2 ^ bit % 2 = 1
  · simp [isSet]
  · simp [isSet]

theorem vidxIsEgress_eq (vidx : Nat) : vidxIsEgress vidx = decide (vidx / 8192 % 2 = 1) :=
  and_bit_ne_zero vidx 13

theorem vidxArg_eq (vidx : Nat) : vidxArg vidx = decide (vidx / 4096 % 2 = 1) :=
  and_bit_ne_zero vidx 12

theorem toNat_shift_or (flag : Bool) {vid : Nat} (bound : vid < 4096) :
    flag.toNat <<< 12 ||| vid = flag.toNat * 4096 + vid := by
  rw [← Nat.shiftLeft_add_eq_or_of_lt (by omega : vid < 2 ^ 12), Nat.shiftLeft_eq]

theorem vidxIngress_eq {vid : Nat} (bound : vid < 4096) (tagged : Bool) :
    vidxIngress vid tagged = tagged.toNat * 4096 + vid := by
  rw [vidxIngress, Nat.zero_shiftLeft, Nat.zero_or, toNat_shift_or tagged bound]

theorem vidxEgress_eq {vid : Nat} (bound : vid < 4096) (popTag : Bool) :
    vidxEgress vid popTag = 8192 + popTag.toNat * 4096 + vid := by
  have small : popTag.toNat * 4096 + vid < 2 ^ 13 := by
    cases popTag <;> simp <;> omega
  rw [vidxEgress, Nat.or_assoc, toNat_shift_or popTag bound,
    ← Nat.shiftLeft_add_eq_or_of_lt small, Nat.shiftLeft_eq]
  omega

theorem vidxEgress_lt {vid : Nat} (bound : vid < 4096) (popTag : Bool) :
    vidxEgress vid popTag < vmapBits := by
  have width : vmapBits = 16384 := rfl
  have flag := Bool.toNat_le popTag
  rw [vidxEgress_eq bound]
  omega

@[simp] theorem vidxVid_ingress {vid : Nat} (bound : vid < 4096) (tagged : Bool) :
    vidxVid (vidxIngress vid tagged) = vid := by
  rw [vidxVid_eq, vidxIngress_eq bound]
  omega

@[simp] theorem vidxVid_egress {vid : Nat} (bound : vid < 4096) (popTag : Bool) :
    vidxVid (vidxEgress vid popTag) = vid := by
  rw [vidxVid_eq, vidxEgress_eq bound]
  omega

@[simp] theorem vidxIsEgress_ingress {vid : Nat} (bound : vid < 4096) (tagged : Bool) :
    vidxIsEgress (vidxIngress vid tagged) = false := by
  rw [vidxIsEgress_eq, vidxIngress_eq bound]
  cases tagged <;> simp <;> omega

@[simp] theorem vidxIsEgress_egress {vid : Nat} (bound : vid < 4096) (popTag : Bool) :
    vidxIsEgress (vidxEgress vid popTag) = true := by
  rw [vidxIsEgress_eq, vidxEgress_eq bound]
  cases popTag <;> simp <;> omega

@[simp] theorem vidxArg_ingress {vid : Nat} (bound : vid < 4096) (tagged : Bool) :
    vidxArg (vidxIngress vid tagged) = tagged := by
  rw [vidxArg_eq, vidxIngress_eq bound]
  cases tagged <;> simp <;> omega

@[simp] theorem vidxArg_egress {vid : Nat} (bound : vid < 4096) (popTag : Bool) :
    vidxArg (vidxEgress vid popTag) = popTag := by
  rw [vidxArg_eq, vidxEgress_eq bound]
  cases popTag <;> simp <;> omega

theorem vidxVid_ingress_egress (vid : Nat) :
    vidxVid (vidxIngress vid false) = vidxVid (vidxEgress vid false) := by
  simp only [vidxVid, vidxIngress, vidxEgress, Nat.and_or_distrib_right]
  rfl

theorem vidxVid_lt (vidx : Nat) : vidxVid vidx < 4096 := by
  rw [vidxVid_eq]
  omega

theorem vidx_decode {vidx : Nat} (bound : vidx < vmapBits) :
    vidx = if vidxIsEgress vidx then vidxEgress (vidxVid vidx) (vidxArg vidx)
      else vidxIngress (vidxVid vidx) (vidxArg vidx) := by
  have width : vmapBits = 16384 := rfl
  rw [vidxEgress_eq (vidxVid_lt vidx), vidxIngress_eq (vidxVid_lt vidx), vidxVid_eq,
    vidxIsEgress_eq, vidxArg_eq]
  by_cases egress : vidx / 8192 % 2 = 1
  · by_cases arg : vidx / 4096 % 2 = 1
    · simp only [egress, arg, decide_true, if_true, Bool.toNat_true]
      omega
    · simp only [egress, arg, decide_true, decide_false, if_true, Bool.toNat_false]
      omega
  · by_cases arg : vidx / 4096 % 2 = 1
    · simp only [egress, arg, decide_true, decide_false, Bool.false_eq_true, if_false,
        Bool.toNat_true]
      omega
    · simp only [egress, arg, decide_false, Bool.false_eq_true, if_false, Bool.toNat_false]
      omega

theorem l2Identifier_eq {portNum vid : Nat} (bound : portNum < 65536) :
    (GroupIdent.l2Interface portNum vid).identifier = vid * 65536 + portNum := by
  have small : portNum < 2 ^ 16 := by omega
  rw [GroupIdent.identifier, ← Nat.shiftLeft_add_eq_or_of_lt small, Nat.shiftLeft_eq]

theorem l2Group_eq {portNum vid group : Nat}
    (built : fpaLibGroupIdentifierBuild env (.l2Interface portNum vid) = some group) :
    portNum < 65536 ∧ vid < 4096 ∧ group = vid * 65536 + portNum := by
  have bounds : portNum < 65536 ∧ vid < 4096 := groupIdent_fits built
  exact ⟨bounds.1, bounds.2, (groupIdent_eq built).trans (l2Identifier_eq bounds.1)⟩

theorem opsFpaGidPort_eq (group : Nat) : opsFpaGidPort group = group % 65536 :=
  Nat.and_two_pow_sub_one_eq_mod group 16

theorem opsFpaGidVlan_eq (group : Nat) : opsFpaGidVlan group = group / 65536 % 4096 := by
  rw [opsFpaGidVlan, Nat.shiftRight_and_distrib, Nat.shiftRight_eq_div_pow]
  exact Nat.and_two_pow_sub_one_eq_mod (group / 65536) 12

end Encoding

section Operations

def buildsGroup (env : Env) (pid : Int) (vid : Nat) : Bool :=
  (fpaLibGroupIdentifierBuild env (.l2Interface (portNum pid) vid)).isSome

theorem buildsGroup_lt {pid : Int} {vid : Nat} (builds : buildsGroup env pid vid = true) :
    portNum pid < 65536 ∧ vid < 4096 := by
  obtain ⟨group, built⟩ := Option.isSome_iff_exists.mp builds
  obtain ⟨portBound, vidBound, _⟩ := l2Group_eq built
  exact ⟨portBound, vidBound⟩

@[simp] theorem internalVlans_observe (hw : Hw) (pid : Int) (vidx : Nat) (installed : Bool)
    (status : Status) : (hw.observe pid vidx installed status).internalVlans = hw.internalVlans := by
  cases status <;> rfl

@[simp] theorem fpa_observe (hw : Hw) (pid : Int) (vidx : Nat) (installed : Bool)
    (status : Status) : (hw.observe pid vidx installed status).fpa = hw.fpa := by
  cases status <;> rfl

@[simp] theorem internalVlans_vlanAdd (hw : Hw) (pid : Int) (vidx : Nat) :
    (opsFpaVlanAdd env hw pid vidx).2.internalVlans = hw.internalVlans := by
  simp only [opsFpaVlanAdd]
  repeat' split
  all_goals simp

@[simp] theorem internalVlans_vlanDel (hw : Hw) (pid : Int) (vidx : Nat) :
    (opsFpaVlanDel env hw pid vidx).2.internalVlans = hw.internalVlans := by
  simp only [opsFpaVlanDel]
  repeat' split
  all_goals simp

variable (succeeds : env.AllSucceed)

include succeeds

theorem addL2Group_ok (fpa : Fpa) {pid : Int} {vid group : Nat} (popTag : Bool)
    (built : fpaLibGroupIdentifierBuild env (.l2Interface (portNum pid) vid) = some group) :
    ∃ calls, opsFpaRouteAddL2Group env fpa pid vid popTag =
      (some group, ⟨(fpa.asic.apply (.groupTableEntryAdd group)).apply
        (.groupEntryBucketAdd group (.l2Interface (portNum pid) popTag)), calls⟩) := by
  simp only [opsFpaRouteAddL2Group, built, Fpa.issue_ok succeeds]
  exact ⟨_, rfl⟩

theorem vlanAdd_ok (hw : Hw) {pid : Int} {vidx : Nat}
    (built : vidxIsEgress vidx = true → buildsGroup env pid (vidxVid vidx) = true) :
    (opsFpaVlanAdd env hw pid vidx).1 = .ok := by
  simp only [opsFpaVlanAdd]
  split
  · rename_i egress
    obtain ⟨group, isGroup⟩ := Option.isSome_iff_exists.mp (built egress)
    obtain ⟨calls, added⟩ := addL2Group_ok succeeds hw.fpa (vidxArg vidx) isGroup
    rw [added]
  · rw [Fpa.issue_ok succeeds]

omit succeeds in
theorem vlanAdd_builds {hw : Hw} {pid : Int} {vidx : Nat}
    (added : (opsFpaVlanAdd env hw pid vidx).1 = .ok) (egress : vidxIsEgress vidx = true) :
    buildsGroup env pid (vidxVid vidx) = true := by
  simp only [opsFpaVlanAdd, egress, if_true, opsFpaRouteAddL2Group] at added
  rw [buildsGroup]
  cases built : fpaLibGroupIdentifierBuild env (.l2Interface (portNum pid) (vidxVid vidx)) with
  | none =>
      rw [built] at added
      cases added
  | some group => rfl

omit succeeds in
theorem internalVlans_lt {hw between : Hw} {pid : Int} {vid : Nat}
    (fits : overrunsInternalVlans env hw pid vid = false)
    (ingress : opsFpaVlanAdd env hw pid (vidxIngress vid false) = (.ok, between))
    (egress : (opsFpaVlanAdd env between pid (vidxEgress vid false)).1 = .ok) : vid < 4096 := by
  simp only [overrunsInternalVlans, ingress, egress, decide_true, Bool.and_true,
    decide_eq_false_iff_not, Nat.not_le] at fits
  exact fits

omit succeeds in
theorem vlanAddInternal_lt {hw after : Hw} {pid : Int} {vid : Nat}
    (fits : overrunsInternalVlans env hw pid vid = false)
    (added : opsFpaVlanAddInternal env hw pid vid = (.ok, after)) : vid < 4096 := by
  simp only [opsFpaVlanAddInternal] at added
  split at added
  · cases added
  · rename_i between ingress
    split at added
    · cases added
    · rename_i both egress
      exact internalVlans_lt fits ingress (congrArg Prod.fst egress)

theorem vlanAddInternal_ok (hw : Hw) {pid : Int} {vid : Nat}
    (built : buildsGroup env pid vid = true)
    (free : hw.internalVlans vid = false) : (opsFpaVlanAddInternal env hw pid vid).1 = .ok := by
  have bound := (buildsGroup_lt built).2
  have ingress : (opsFpaVlanAdd env hw pid (vidxIngress vid false)).1 = .ok := by
    apply vlanAdd_ok succeeds
    intro egress
    rw [vidxIsEgress_ingress bound] at egress
    cases egress
  simp only [opsFpaVlanAddInternal]
  split
  · rename_i failed
    rw [failed] at ingress
    cases ingress
  · rename_i added isAdded
    have egress : (opsFpaVlanAdd env added pid (vidxEgress vid false)).1 = .ok := by
      apply vlanAdd_ok succeeds
      intro _
      rw [vidxVid_egress bound]
      exact built
    split
    · rename_i failed
      rw [failed] at egress
      cases egress
    · rename_i both isBoth
      have kept : both.internalVlans = hw.internalVlans := by
        have first := @internalVlans_vlanAdd env hw pid (vidxIngress vid false)
        have second := @internalVlans_vlanAdd env added pid (vidxEgress vid false)
        rw [isAdded] at first
        rw [isBoth] at second
        exact second.trans first
      rw [if_neg]
      rw [opsFpaVlanInternal, kept, free]
      exact Bool.false_ne_true

theorem enableRoutingVlan_ok (fpa : Fpa) (vlanId : Nat) (mac : EthAddr) :
    ∃ l3Intf after, opsFpaEnableRoutingVlan env fpa vlanId mac = (some l3Intf, after) := by
  simp only [opsFpaEnableRoutingVlan, opsFpaVlanSetArpBcast, opsFpaSetArpFwd,
    opsFpaVlanSetUdpDhcp, opsFpaVlanEnableUnicastRouting, Fpa.issue_ok succeeds]
  exact ⟨_, _, rfl⟩

theorem enableRoutingInterface_ok (hw : Hw) {pid : Int} {vlanId : Nat} (mac : EthAddr)
    (built : buildsGroup env pid vlanId = true) (free : hw.internalVlans vlanId = false) :
    ∃ l3Intf after, opsFpaEnableRoutingInterface env hw pid vlanId mac = (some l3Intf, after) := by
  have added := vlanAddInternal_ok succeeds hw built free
  simp only [opsFpaEnableRoutingInterface]
  split
  · rename_i failed
    rw [failed] at added
    cases added
  · rename_i internal _
    obtain ⟨l3Intf, after, enabled⟩ := enableRoutingVlan_ok succeeds internal.fpa vlanId mac
    rw [enabled]
    exact ⟨_, _, rfl⟩

end Operations

end FpaPlugin
