import FpaPlugin.VlanView

/-! The two loops of `ops_fpa_ofproto_set_vlan` over the VIDX of one port, followed in the tables:
disabling a VLAN takes what the keys of the entries it finds reach, and enabling it adds what is
pending. -/

namespace FpaPlugin

section Calls

variable {env : Env} (succeeds : env.AllSucceed) (hw : Hw) {port vidx : Nat}
  (portBound : port < 65536)

include succeeds portBound

theorem asic_vlanDel : (opsFpaVlanDel env hw port vidx).2.fpa.asic = hw.fpa.asic.apply
    (if vidxIsEgress vidx then .groupTableEntryDelete (vidxVid vidx * 65536 + port)
      else .flowTableCookieDelete .vlan
        (opsFpaVlanCookie port (vidxVid vidx) (vidxArg vidx))) := by
  simp only [opsFpaVlanDel, portNum_natCast portBound,
    l2Group_build succeeds.builds portBound (vidxVid_lt vidx), Fpa.issue_ok succeeds]
  split
  · rw [fpa_observe]
  · rw [fpa_observe]

theorem asic_vlanAdd_egress (egress : vidxIsEgress vidx = true) :
    (opsFpaVlanAdd env hw port vidx).2.fpa.asic =
      (hw.fpa.asic.apply (.groupTableEntryAdd (vidxVid vidx * 65536 + port))).apply
        (.groupEntryBucketAdd (vidxVid vidx * 65536 + port)
          (.l2Interface port (vidxArg vidx))) := by
  simp only [opsFpaVlanAdd, egress, if_true, opsFpaRouteAddL2Group, portNum_natCast portBound,
    l2Group_build succeeds.builds portBound (vidxVid_lt vidx), Fpa.issue_ok succeeds, fpa_observe]

omit portBound in
theorem asic_vlanAdd_ingress (ingress : vidxIsEgress vidx = false) :
    (opsFpaVlanAdd env hw port vidx).2.fpa.asic = hw.fpa.asic.apply
      (.flowEntryAdd .vlan (vlanFlow port (vidxVid vidx) (vidxArg vidx))) := by
  simp only [opsFpaVlanAdd, ingress, Bool.false_eq_true, if_false, Fpa.issue_ok succeeds,
    fpa_observe]

end Calls

section Withdraws

variable {env : Env} {asic : Asic} {hw : Hw} {found : Bitmap} {port vid : Nat}

/-- The tables without what the keys of the found entries of a VLAN reach. -/
structure Withdraws (asic after : Asic) (found : Bitmap) (port vid : Nat) : Prop where
  others : ∀ table, table ≠ .vlan → after.flows table = asic.flows table
  flows : ∀ flow, flow ∈ after.flows .vlan ↔ flow ∈ asic.flows .vlan ∧
    ∀ tagged, found (vidxIngress vid tagged) = true →
      flow.cookie ≠ opsFpaVlanCookie port vid tagged
  groups : ∀ group, group ∈ after.groups ↔ group ∈ asic.groups ∧
    ∀ popTag, found (vidxEgress vid popTag) = true → group.groupIdentifier ≠ vid * 65536 + port

theorem Withdraws.refl (asic : Asic) (port vid : Nat) :
    Withdraws asic asic Bitmap.zero port vid := by
  refine ⟨fun _ _ => rfl, fun flow => ?_, fun group => ?_⟩
  · simp
  · simp

theorem vidxIngress_lt (bound : vid < 4096) (tagged : Bool) : vidxIngress vid tagged < vmapBits := by
  have width : vmapBits = 16384 := rfl
  have flag := Bool.toNat_le tagged
  rw [vidxIngress_eq bound]
  omega

theorem Withdraws.congr {after : Asic} {other : Bitmap}
    (withdraws : Withdraws asic after found port vid) (bound : vid < 4096)
    (same : ∀ vidx, vidx < vmapBits → vidxVid vidx = vid → other vidx = found vidx) :
    Withdraws asic after other port vid := by
  have sameIngress := fun tagged =>
    same _ (vidxIngress_lt bound tagged) (vidxVid_ingress bound tagged)
  have sameEgress := fun popTag =>
    same _ (vidxEgress_lt bound popTag) (vidxVid_egress bound popTag)
  refine ⟨withdraws.others, fun flow => ?_, fun group => ?_⟩
  · simp only [sameIngress]
    exact withdraws.flows flow
  · simp only [sameEgress]
    exact withdraws.groups group

theorem Withdraws.delete (succeeds : env.AllSucceed) (portBound : port < 65536) {vidx : Nat}
    (inside : vidx < vmapBits) (isVid : vidxVid vidx = vid)
    (withdraws : Withdraws asic hw.fpa.asic found port vid) :
    Withdraws asic (opsFpaVlanDel env hw port vidx).2.fpa.asic (found.set1 vidx) port vid := by
  have bound : vid < 4096 := isVid ▸ vidxVid_lt vidx
  have decoded := vidx_decode inside
  rw [asic_vlanDel succeeds hw portBound, isVid]
  rw [isVid] at decoded
  by_cases egress : vidxIsEgress vidx = true
  · rw [if_pos egress] at decoded ⊢
    refine ⟨withdraws.others, fun flow => ?_, fun group => ?_⟩
    · rw [Asic.flows_groupTableEntryDelete, withdraws.flows]
      have apart : ∀ tagged, vidxIngress vid tagged ≠ vidx := fun tagged =>
        decoded ▸ vidxIngress_ne_egress bound bound
      simp only [Bitmap.set1_apply, beq_eq_false_iff_ne.mpr (apart _), Bool.false_or]
    · simp only [Asic.apply, List.mem_filter, decide_eq_true_eq, withdraws.groups,
        Bitmap.set1_apply, Bool.or_eq_true, beq_iff_eq]
      constructor
      · rintro ⟨⟨member, kept⟩, different⟩
        refine ⟨member, fun popTag => ?_⟩
        rintro (_ | was)
        · exact different
        · exact kept popTag was
      · rintro ⟨member, kept⟩
        exact ⟨⟨member, fun popTag was => kept popTag (.inr was)⟩, kept _ (.inl decoded.symm)⟩
  · rw [if_neg egress] at decoded ⊢
    refine ⟨fun table different => ?_, fun flow => ?_, fun group => ?_⟩
    · rw [Asic.flows_cookieDelete_ne _ _ different]
      exact withdraws.others table different
    · simp only [Asic.flows_cookieDelete, List.mem_filter, decide_eq_true_eq, withdraws.flows,
        Bitmap.set1_apply, Bool.or_eq_true, beq_iff_eq]
      constructor
      · rintro ⟨⟨member, kept⟩, different⟩
        refine ⟨member, fun tagged => ?_⟩
        rintro (same | was)
        · rw [decoded] at same
          rw [(vidxIngress_inj bound bound same).2]
          exact different
        · exact kept tagged was
      · rintro ⟨member, kept⟩
        exact ⟨⟨member, fun tagged was => kept tagged (.inr was)⟩, kept _ (.inl decoded.symm)⟩
    · rw [Asic.groups_cookieDelete, withdraws.groups]
      have apart : ∀ popTag, vidxEgress vid popTag ≠ vidx := fun popTag =>
        decoded ▸ (vidxIngress_ne_egress bound bound).symm
      simp only [Bitmap.set1_apply, beq_eq_false_iff_ne.mpr (apart _), Bool.false_or]

def below (bits : Bitmap) (count : Nat) : Bitmap := fun vidx => decide (vidx < count) && bits vidx

theorem below_succ (bits : Bitmap) (count : Nat) :
    below bits (count + 1) = if bits count then (below bits count).set1 count
      else below bits count := by
  funext vidx
  by_cases here : vidx = count
  · subst here
    cases isSet : bits vidx <;> simp [below, isSet]
  · have same : vidx < count + 1 ↔ vidx < count := by omega
    cases bits count <;> simp [below, here, same]

theorem below_all (bits : Bitmap) {vidx count : Nat} (inside : vidx < count) :
    below bits count vidx = bits vidx := by
  simp [below, inside]

theorem disableVlan_withdraws (succeeds : env.AllSucceed) (portBound : port < 65536)
    (bound : vid < 4096) (vmap : Bitmap) (ofpPort : Nat) :
    Withdraws hw.fpa.asic (disableVlanOnPort env hw vmap ofpPort port vid).1.fpa.asic
        (opsFpaVlanFetch env hw.fpa ofpPort) port vid ∧
      ∀ vidx, (disableVlanOnPort env hw vmap ofpPort port vid).2 vidx = (vmap vidx ||
        (decide (vidxVid vidx = vid) &&
          below (opsFpaVlanFetch env hw.fpa ofpPort) vmapBits vidx)) := by
  simp only [disableVlanOnPort]
  generalize opsFpaVlanFetch env hw.fpa ofpPort = l2asic
  have reached := @Bitmap.forEach1_invariant (Hw × Bitmap) (fun _ => l2asic)
    (fun vidx state => if vidxVid vidx = vid then
      ((opsFpaVlanDel env state.1 port vidx).2, state.2.set1 vidx) else state)
    (fun count state => Withdraws hw.fpa.asic state.1.fpa.asic (below l2asic count) port vid ∧
      ∀ vidx, state.2 vidx = (vmap vidx || (decide (vidxVid vidx = vid) && below l2asic count vidx)))
    (hw, vmap) ?_ vmapBits ?_ ?_
  · refine ⟨reached.1.congr bound fun vidx inside _ => ?_, reached.2⟩
    exact (below_all l2asic inside).symm
  · have none : below l2asic 0 = Bitmap.zero := by
      funext vidx
      simp [below]
    rw [none]
    exact ⟨Withdraws.refl _ _ _, fun vidx => by simp⟩
  · rintro vidx state inside ⟨withdraws, pending⟩ isSet
    rw [below_succ, if_pos isSet]
    split
    · rename_i isVid
      refine ⟨withdraws.delete succeeds portBound inside isVid, fun other => ?_⟩
      simp only [Bitmap.set1_apply, pending]
      by_cases here : other = vidx
      · simp [here, isVid]
      · rw [beq_eq_false_iff_ne.mpr here]
        simp only [Bool.false_or]
    · rename_i otherVid
      have same : ∀ other, vidxVid other = vid →
          (below l2asic vidx).set1 vidx other = below l2asic vidx other := by
        intro other isVid
        have different : other ≠ vidx := fun equal => otherVid (equal ▸ isVid)
        simp [different]
      refine ⟨withdraws.congr bound fun other _ isVid => same other isVid, fun other => ?_⟩
      rw [pending]
      by_cases isVid : vidxVid other = vid
      · rw [same other isVid]
      · simp [isVid]
  · rintro vidx state inside reached clear
    rw [below_succ, if_neg (by simp [clear])]
    exact reached

end Withdraws

section Reinstates

variable {env : Env} {asic : Asic} {hw : Hw} {pending : Bitmap} {port vid : Nat}

/-- The tables with the pending entries of a VLAN. -/
structure Reinstates (asic after : Asic) (pending : Bitmap) (port vid : Nat) : Prop where
  others : ∀ table, table ≠ .vlan → after.flows table = asic.flows table
  flows : ∀ flow, flow ∈ after.flows .vlan ↔ flow ∈ asic.flows .vlan ∨
    ∃ tagged, pending (vidxIngress vid tagged) = true ∧ flow = vlanFlow port vid tagged
  groups : ∀ group, group ∈ after.groups ↔
    (group ∈ asic.groups ∧ ∀ popTag, pending (vidxEgress vid popTag) = true →
      group.groupIdentifier ≠ vid * 65536 + port) ∨
    ∃ popTag, pending (vidxEgress vid popTag) = true ∧
      group = ⟨vid * 65536 + port, some (.l2Interface port popTag)⟩

theorem Reinstates.refl (asic : Asic) (port vid : Nat) :
    Reinstates asic asic Bitmap.zero port vid := by
  refine ⟨fun _ _ => rfl, fun flow => ?_, fun group => ?_⟩
  · simp
  · simp

theorem Reinstates.congr {after : Asic} {other : Bitmap}
    (reinstates : Reinstates asic after pending port vid) (bound : vid < 4096)
    (same : ∀ vidx, vidx < vmapBits → vidxVid vidx = vid → other vidx = pending vidx) :
    Reinstates asic after other port vid := by
  have sameIngress := fun tagged =>
    same _ (vidxIngress_lt bound tagged) (vidxVid_ingress bound tagged)
  have sameEgress := fun popTag =>
    same _ (vidxEgress_lt bound popTag) (vidxVid_egress bound popTag)
  refine ⟨reinstates.others, fun flow => ?_, fun group => ?_⟩
  · simp only [sameIngress]
    exact reinstates.flows flow
  · simp only [sameEgress]
    exact reinstates.groups group

theorem Reinstates.add (succeeds : env.AllSucceed) (portBound : port < 65536) {vidx : Nat}
    (inside : vidx < vmapBits) (isVid : vidxVid vidx = vid)
    (first : vidxIsEgress vidx = true → ∀ popTag, pending (vidxEgress vid popTag) = false)
    (reinstates : Reinstates asic hw.fpa.asic pending port vid) :
    Reinstates asic (opsFpaVlanAdd env hw port vidx).2.fpa.asic (pending.set1 vidx) port vid := by
  have bound : vid < 4096 := isVid ▸ vidxVid_lt vidx
  have decoded := vidx_decode inside
  rw [isVid] at decoded
  by_cases egress : vidxIsEgress vidx = true
  · rw [if_pos egress] at decoded
    rw [asic_vlanAdd_egress succeeds hw portBound egress, isVid]
    have replaces := replacesGroup_add hw.fpa.asic (vid * 65536 + port)
      (.l2Interface port (vidxArg vidx))
    refine ⟨fun table different => ?_, fun flow => ?_, fun group => ?_⟩
    · rw [Asic.flows_groupEntryBucketAdd, Asic.flows_groupTableEntryAdd]
      exact reinstates.others table different
    · rw [replaces.flows, reinstates.flows]
      have apart : ∀ tagged, vidxIngress vid tagged ≠ vidx := fun tagged =>
        decoded ▸ vidxIngress_ne_egress bound bound
      simp only [Bitmap.set1_apply, beq_eq_false_iff_ne.mpr (apart _), Bool.false_or]
    · simp only [replaces.groups, reinstates.groups, first egress, Bitmap.set1_apply,
        Bool.or_false, beq_iff_eq, Option.some.injEq, exists_eq_left', Bool.false_eq_true,
        false_and, exists_false, or_false, false_implies, implies_true, and_true]
      have isVidx : ∀ popTag, vidxEgress vid popTag = vidx ↔ popTag = vidxArg vidx := by
        intro popTag
        constructor
        · intro same
          rw [decoded] at same
          exact (vidxEgress_inj bound bound same).2
        · rintro rfl
          exact decoded.symm
      simp only [isVidx, exists_eq_left, forall_eq]
  · have ingress : vidxIsEgress vidx = false := by simpa using egress
    rw [if_neg egress] at decoded
    rw [asic_vlanAdd_ingress succeeds hw ingress, isVid]
    refine ⟨fun table different => ?_, fun flow => ?_, fun group => ?_⟩
    · rw [Asic.flows_flowEntryAdd_ne _ _ different]
      exact reinstates.others table different
    · rw [Asic.flows_flowEntryAdd, List.mem_append, List.mem_singleton, reinstates.flows]
      simp only [Bitmap.set1_apply, Bool.or_eq_true, beq_iff_eq]
      constructor
      · rintro ((was | ⟨tagged, isPending, isFlow⟩) | isNew)
        · exact .inl was
        · exact .inr ⟨tagged, .inr isPending, isFlow⟩
        · exact .inr ⟨vidxArg vidx, .inl decoded.symm, isNew⟩
      · rintro (was | ⟨tagged, isVidx | isPending, isFlow⟩)
        · exact .inl (.inl was)
        · rw [decoded] at isVidx
          rw [(vidxIngress_inj bound bound isVidx).2] at isFlow
          exact .inr isFlow
        · exact .inl (.inr ⟨tagged, isPending, isFlow⟩)
    · rw [Asic.groups_flowEntryAdd, reinstates.groups]
      have apart : ∀ popTag, vidxEgress vid popTag ≠ vidx := fun popTag =>
        decoded ▸ (vidxIngress_ne_egress bound bound).symm
      simp only [Bitmap.set1_apply, beq_eq_false_iff_ne.mpr (apart _), Bool.false_or]

theorem enableVlan_pending (hw : Hw) (vmap : Bitmap) (pid : Int) (vid vidx : Nat) :
    (enableVlanOnPort env hw vmap pid vid).2 vidx =
      (vmap vidx && !(decide (vidxVid vidx = vid) && below vmap vmapBits vidx)) := by
  rw [enableVlanOnPort]
  have reached := @Bitmap.forEach1_invariant (Hw × Bitmap) (fun state => state.2)
    (fun vidx state => if vidxVid vidx = vid then
      ((opsFpaVlanAdd env state.1 pid vidx).2, state.2.set0 vidx) else state)
    (fun count state => ∀ vidx, state.2 vidx =
      (vmap vidx && !(decide (vidxVid vidx = vid) && below vmap count vidx)))
    (hw, vmap) ?_ vmapBits ?_ ?_
  · exact reached vidx
  · intro other
    simp [below]
  · intro index state _ reached isSet other
    have isPending : vmap index = true := by
      rw [reached, Bool.and_eq_true] at isSet
      exact isSet.1
    rw [below_succ, if_pos isPending]
    split
    · rename_i isVid
      simp only [Bitmap.set0_apply, Bitmap.set1_apply, reached]
      by_cases here : other = index
      · simp [here, isVid]
      · rw [bne_iff_ne.mpr here, beq_eq_false_iff_ne.mpr here, Bool.true_and, Bool.false_or]
    · rename_i otherVid
      rw [reached, Bitmap.set1_apply]
      by_cases here : other = index
      · simp [here, otherVid]
      · rw [beq_eq_false_iff_ne.mpr here, Bool.false_or]
  · intro index state _ reached clear other
    rw [below_succ]
    split
    · rename_i isPending
      rw [reached, isPending] at clear
      simp [below] at clear
    · exact reached other

theorem enableVlan_reinstates (succeeds : env.AllSucceed) (portBound : port < 65536)
    (bound : vid < 4096) (vmap : Bitmap)
    (oneForm : vmap (vidxEgress vid false) = true → vmap (vidxEgress vid true) = false) :
    Reinstates hw.fpa.asic (enableVlanOnPort env hw vmap port vid).1.fpa.asic vmap port vid := by
  simp only [enableVlanOnPort]
  have reached := @Bitmap.forEach1_invariant (Hw × Bitmap) (fun state => state.2)
    (fun vidx state => if vidxVid vidx = vid then
      ((opsFpaVlanAdd env state.1 port vidx).2, state.2.set0 vidx) else state)
    (fun count state => Reinstates hw.fpa.asic state.1.fpa.asic (below vmap count) port vid ∧
      ∀ vidx, count ≤ vidx → state.2 vidx = vmap vidx)
    (hw, vmap) ?_ vmapBits ?_ ?_
  · refine reached.1.congr bound fun vidx inside _ => ?_
    exact (below_all vmap inside).symm
  · have nothing : below vmap 0 = Bitmap.zero := by
      funext vidx
      simp [below]
    rw [nothing]
    exact ⟨Reinstates.refl _ _ _, fun _ _ => rfl⟩
  · rintro vidx state inside ⟨reinstates, rest⟩ isSet
    rw [rest vidx (Nat.le_refl vidx)] at isSet
    rw [below_succ, if_pos isSet]
    split
    · rename_i isVid
      refine ⟨reinstates.add succeeds portBound inside isVid ?_, fun other above => ?_⟩
      · intro egress popTag
        have decoded := vidx_decode inside
        rw [egress, if_pos rfl, isVid] at decoded
        -- the form that keeps the tag comes first in VIDX order
        have order : vidxEgress vid false < vidxEgress vid true := by
          rw [vidxEgress_eq bound, vidxEgress_eq bound, Bool.toNat_false, Bool.toNat_true]
          omega
        by_contra isBelow
        rw [Bool.not_eq_false, below, Bool.and_eq_true, decide_eq_true_eq] at isBelow
        obtain ⟨earlier, alsoSet⟩ := isBelow
        rw [decoded] at isSet earlier
        cases popTag with
        | true =>
            cases arg : vidxArg vidx with
            | true =>
                rw [arg] at earlier
                omega
            | false =>
                rw [arg] at earlier
                omega
        | false =>
            cases arg : vidxArg vidx with
            | true =>
                rw [arg, oneForm alsoSet] at isSet
                cases isSet
            | false =>
                rw [arg] at earlier
                omega
      · have different : other ≠ vidx := by omega
        simp only [Bitmap.set0_apply, rest other (by omega), bne_iff_ne.mpr different,
          Bool.true_and]
    · rename_i otherVid
      refine ⟨reinstates.congr bound fun other _ isVid => ?_, fun other above =>
        rest other (by omega)⟩
      have different : other ≠ vidx := fun equal => otherVid (equal ▸ isVid)
      rw [Bitmap.set1_apply, beq_eq_false_iff_ne.mpr different, Bool.false_or]
  · rintro vidx state inside ⟨reinstates, rest⟩ clear
    rw [rest vidx (Nat.le_refl vidx)] at clear
    rw [below_succ, if_neg (by simp [clear])]
    exact ⟨reinstates, fun other above => rest other (by omega)⟩

end Reinstates

end FpaPlugin
