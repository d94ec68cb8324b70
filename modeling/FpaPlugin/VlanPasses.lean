import FpaPlugin.VlanTables

/-! The three loops over the VIDX of a port: applying the settings of a bundle, enabling a
VLAN, and disabling one. Each is followed on the set of installed VIDX, and each leaves
what the settings ask for either in the switch or pending on the port. -/

namespace FpaPlugin

open KeyedDiff

variable {env : Env} {installed : Nat → Bitmap} {hw : Hw} {port : Nat}

section Pass

variable {vlans desired : Bitmap} {state : Hw × Bitmap} {count : Nat}

/-- What a pass over the VIDX of a port works towards: VLANs that are not enabled are left
as they are. -/
def passTarget (vlans desired bits : Bitmap) : Bitmap := fun vidx =>
  if vlans (vidxVid vidx) then desired vidx else bits vidx

def passPending (vlans desired bits : Bitmap) : Bitmap := fun vidx =>
  !vlans (vidxVid vidx) && (!bits vidx && desired vidx)

structure PassReached (installed : Nat → Bitmap) (port : Nat) (vlans desired : Bitmap)
    (count : Nat) (state : Hw × Bitmap) : Prop where
  tables : VlanTables state.1.fpa.asic (Function.update installed port
    (pass vidxKey (installed port) (passTarget vlans desired (installed port)) count))
  pending : ∀ vidx, state.2 vidx =
    (decide (vidx < count) && passPending vlans desired (installed port) vidx)

theorem pending_succ {pending left : Bitmap} (upTo : ∀ vidx, pending vidx =
      (decide (vidx < count) && left vidx)) (vidx : Nat) :
    pending vidx = (decide (vidx < count + 1) && left vidx) ∨ vidx = count ∧ left count = true := by
  rw [upTo]
  by_cases here : vidx = count
  · subst here
    cases isLeft : left vidx with
    | true => exact .inr ⟨rfl, rfl⟩
    | false => exact .inl (by simp)
  · have below : vidx < count + 1 ↔ vidx < count := by omega
    exact .inl (by simp only [below])

theorem PassReached.skip (reached : PassReached installed port vlans desired count state)
    (same : passTarget vlans desired (installed port) count = installed port count)
    (nothing : passPending vlans desired (installed port) count = false) :
    PassReached installed port vlans desired (count + 1) state where
  tables := by
    rw [pass_skip same]
    exact reached.tables
  pending := by
    intro vidx
    rcases pending_succ reached.pending vidx with done | ⟨_, isLeft⟩
    · exact done
    · rw [nothing] at isLeft
      cases isLeft

theorem PassReached.leave (reached : PassReached installed port vlans desired count state)
    (disabled : vlans (vidxVid count) = false) (missing : installed port count = false)
    (wanted : desired count = true) :
    PassReached installed port vlans desired (count + 1) (state.1, state.2.set1 count) where
  tables := by
    rw [pass_skip (by simp [passTarget, disabled])]
    exact reached.tables
  pending := by
    intro vidx
    have isLeft : passPending vlans desired (installed port) count = true := by
      simp [passPending, disabled, missing, wanted]
    simp only [Bitmap.set1_apply]
    by_cases here : vidx = count
    · simp [here, isLeft]
    · rcases pending_succ reached.pending vidx with done | ⟨isCount, _⟩
      · simp [here, done]
      · exact (here isCount).elim

theorem PassReached.change (accepts : env.AcceptsChanges)
    (reached : PassReached installed port vlans desired count state) (portBound : port < 65536)
    (inside : count < vmapBits) (enabled : vlans (vidxVid count) = true)
    (differs : (installed port count ^^ desired count) = true)
    (alone : ∀ popTag, vidxIsEgress count = true → desired count = true →
      pass vidxKey (installed port) (passTarget vlans desired (installed port)) count
        (vidxEgress (vidxVid count) popTag) = false) :
    PassReached installed port vlans desired (count + 1)
      (if desired count then ((opsFpaVlanAdd env state.1 port count).2, state.2)
        else ((opsFpaVlanDel env state.1 port count).2, state.2)) := by
  have target : passTarget vlans desired (installed port) count = desired count := if_pos enabled
  have pending : ∀ vidx, state.2 vidx =
      (decide (vidx < count + 1) && passPending vlans desired (installed port) vidx) := by
    intro vidx
    rcases pending_succ reached.pending vidx with done | ⟨_, isLeft⟩
    · exact done
    · rw [passPending, enabled] at isLeft
      cases isLeft
  cases wanted : desired count with
  | true =>
      have missing : installed port count = false := by simpa [wanted] using differs
      refine ⟨?_, pending⟩
      rw [pass_add missing (target.trans wanted), ← VlanTables.withVidx_update]
      refine reached.tables.vlanAdd accepts portBound inside ?_ ?_
      · rw [Function.update_self, Bool.eq_false_iff]
        intro isSet
        rw [pass_later (Nat.le_refl count) isSet] at missing
        cases missing
      · intro egress popTag
        rw [Function.update_self]
        exact alone popTag egress wanted
  | false =>
      have present : installed port count = true := by simpa [wanted] using differs
      refine ⟨?_, pending⟩
      rw [pass_delete present (target.trans wanted), ← VlanTables.without_update]
      exact reached.tables.vlanDel accepts portBound inside

/-- The loop of `ops_fpa_ofproto_bundle_set` is a pass over the installed VIDX, as long as it
never adds a second egress form to a VLAN. -/
theorem applyDiff_reached (accepts : env.AcceptsChanges) (readsBack : env.ReadsBack)
    (tables : VlanTables hw.fpa.asic installed) (portBound : port < 65536)
    (alone : ∀ vidx popTag, vidx < vmapBits → vidxIsEgress vidx = true →
      vlans (vidxVid vidx) = true → desired vidx = true → installed port vidx = false →
      pass vidxKey (installed port) (passTarget vlans desired (installed port)) vidx
        (vidxEgress (vidxVid vidx) popTag) = false) :
    PassReached installed port vlans desired vmapBits (applyDiff env hw vlans desired port) := by
  have fetched : opsFpaVlanFetch env hw.fpa port = installed port := by
    funext vidx
    rw [tables.fetch readsBack, portNum_natCast portBound]
  simp only [applyDiff, fetched]
  refine @Bitmap.forEach1_invariant (Hw × Bitmap) _ _
    (fun count state => PassReached installed port vlans desired count state) _ ?_ _ ?_ ?_
  · refine ⟨?_, fun vidx => by simp⟩
    have same : Function.update installed port (pass vidxKey (installed port)
        (passTarget vlans desired (installed port)) 0) = installed :=
      Function.update_eq_self port installed
    rw [same]
    exact tables
  · intro vidx state inside reached differs
    simp only [applyDiffBit]
    cases enabled : vlans (vidxVid vidx) with
    | true =>
        refine reached.change accepts portBound inside enabled differs ?_
        intro popTag egress wanted
        exact alone vidx popTag inside egress enabled wanted (by simpa [wanted] using differs)
    | false =>
        cases wanted : desired vidx with
        | true => exact reached.leave enabled (by simpa [wanted] using differs) wanted
        | false =>
            refine reached.skip (by simp [passTarget, enabled]) ?_
            simp [passPending, wanted]
  · intro vidx state inside reached same
    have equal : installed port vidx = desired vidx := by simpa using same
    refine reached.skip ?_ ?_
    · simp [passTarget, equal]
    · simp [passPending, equal]

end Pass

structure PortSynced (vlans desired bits vmap : Bitmap) : Prop where
  installed : ∀ vidx, vidx < vmapBits → bits vidx = (desired vidx && vlans (vidxVid vidx))
  pending : ∀ vidx, vidx < vmapBits → vmap vidx = (desired vidx && !vlans (vidxVid vidx))

def OneEgressForm (desired : Bitmap) : Prop :=
  ∀ vid, vid < 4096 →
    ¬ (desired (vidxEgress vid false) = true ∧ desired (vidxEgress vid true) = true)

theorem OneEgressForm.not_both {desired : Bitmap} (oneForm : OneEgressForm desired) {vid : Nat}
    (bound : vid < 4096) {popTag : Bool} (other : Bool)
    (wanted : desired (vidxEgress vid popTag) = true)
    (both : desired (vidxEgress vid other) = true) (different : other ≠ popTag) : False := by
  cases popTag with
  | false =>
      rw [show other = true by simpa using different] at both
      exact oneForm vid bound ⟨wanted, both⟩
  | true =>
      rw [show other = false by simpa using different] at both
      exact oneForm vid bound ⟨both, wanted⟩

/-- What a reconfiguration deletes has no hardware key in common with what stays installed, or
with what it installs before. -/
def ChangesInOrder (vlans fetched desired : Bitmap) : Prop :=
  ∀ gone wanted, gone < vmapBits → wanted < vmapBits → vlans (vidxVid gone) = true →
    vlans (vidxVid wanted) = true → fetched gone = true → desired gone = false →
    desired wanted = true → vidxKey gone = vidxKey wanted →
    gone < wanted ∧ fetched wanted = false

section Ports

variable {vlans desired vmap : Bitmap}

theorem ChangesInOrder.ordered {bits : Bitmap} (inOrder : ChangesInOrder vlans bits desired)
    (enabled : ∀ vidx, bits vidx = true → vlans (vidxVid vidx) = true) :
    Ordered vidxKey bits (passTarget vlans desired bits) vmapBits := by
  intro gone wanted goneBound wantedBound present unwanted isWanted same
  have goneEnabled := enabled gone present
  rw [passTarget, if_pos goneEnabled] at unwanted
  by_cases wantedEnabled : vlans (vidxVid wanted) = true
  · rw [passTarget, if_pos wantedEnabled] at isWanted
    exact inOrder gone wanted goneBound wantedBound goneEnabled wantedEnabled present unwanted
      isWanted same
  · rw [passTarget, if_neg wantedEnabled] at isWanted
    exact (wantedEnabled (enabled wanted isWanted)).elim

theorem pass_alone {bits : Bitmap} (oneForm : OneEgressForm desired)
    (ordered : Ordered vidxKey bits (passTarget vlans desired bits) vmapBits) {vidx : Nat}
    (popTag : Bool) (inside : vidx < vmapBits) (egress : vidxIsEgress vidx = true)
    (enabled : vlans (vidxVid vidx) = true) (wanted : desired vidx = true)
    (missing : bits vidx = false) :
    pass vidxKey bits (passTarget vlans desired bits) vidx (vidxEgress (vidxVid vidx) popTag) =
      false := by
  have vidBound := vidxVid_lt vidx
  have decoded := vidx_decode inside
  rw [egress, if_pos rfl] at decoded
  rw [Bool.eq_false_iff]
  intro isSet
  by_cases here : vidxEgress (vidxVid vidx) popTag = vidx
  · rw [here] at isSet
    rw [pass_later (Nat.le_refl vidx) isSet] at missing
    cases missing
  · have otherForm : popTag ≠ vidxArg vidx := by
      rintro rfl
      exact here decoded.symm
    have unwanted : desired (vidxEgress (vidxVid vidx) popTag) = false := by
      rw [Bool.eq_false_iff]
      intro both
      rw [decoded] at wanted
      exact oneForm.not_both vidBound popTag wanted both otherForm
    have noTarget : passTarget vlans desired bits (vidxEgress (vidxVid vidx) popTag) = false := by
      rw [passTarget, vidxVid_egress vidBound, if_pos enabled]
      exact unwanted
    have isTarget : passTarget vlans desired bits vidx = true := by
      rw [passTarget, if_pos enabled]
      exact wanted
    rcases Nat.lt_or_gt_of_ne here with before | after
    · rw [(pass_ordered ordered vidx (by omega)).1 _ before, noTarget] at isSet
      cases isSet
    · have sameKey : vidxKey (vidxEgress (vidxVid vidx) popTag) = vidxKey vidx := by
        rw [vidxKey_egress vidBound, vidxKey, egress]
        rfl
      have order := (ordered _ vidx (vidxEgress_lt vidBound popTag) inside
        (pass_later (by omega) isSet) noTarget isTarget sameKey).1
      omega

theorem applyDiff_synced (accepts : env.AcceptsChanges) (readsBack : env.ReadsBack)
    (tables : VlanTables hw.fpa.asic installed) (portBound : port < 65536)
    (enabled : ∀ vidx, installed port vidx = true → vlans (vidxVid vidx) = true)
    (oneForm : OneEgressForm desired) (inOrder : ChangesInOrder vlans (installed port) desired) :
    ∃ after, VlanTables (applyDiff env hw vlans desired port).1.fpa.asic after ∧
      (∀ other, other ≠ port → after other = installed other) ∧
      PortSynced vlans desired (after port) (applyDiff env hw vlans desired port).2 := by
  have ordered := inOrder.ordered enabled
  have reached := applyDiff_reached accepts readsBack tables portBound
    (fun vidx popTag => pass_alone oneForm ordered popTag)
  have disabledClear : ∀ vidx, vlans (vidxVid vidx) = false → installed port vidx = false := by
    intro vidx disabled
    rw [Bool.eq_false_iff]
    intro isSet
    rw [enabled vidx isSet] at disabled
    cases disabled
  refine ⟨_, reached.tables, fun other different => Function.update_of_ne different _ _, ?_, ?_⟩
  · intro vidx inside
    rw [Function.update_self, pass_eq_iff.mpr ordered vidx inside, passTarget]
    cases isEnabled : vlans (vidxVid vidx) with
    | true => simp
    | false => simp [disabledClear vidx isEnabled]
  · intro vidx inside
    rw [reached.pending, decide_eq_true inside, passPending, Bool.true_and]
    cases isEnabled : vlans (vidxVid vidx) with
    | true => simp
    | false => simp [disabledClear vidx isEnabled]

structure VlanEnabling (installed : Nat → Bitmap) (port : Nat) (vmap : Bitmap) (vid count : Nat)
    (state : Hw × Bitmap) : Prop where
  tables : VlanTables state.1.fpa.asic (Function.update installed port fun vidx =>
    installed port vidx || decide (vidx < count ∧ vidxVid vidx = vid) && vmap vidx)
  pending : ∀ vidx, state.2 vidx = (!decide (vidx < count ∧ vidxVid vidx = vid) && vmap vidx)

theorem VlanEnabling.skip {state : Hw × Bitmap} {vid count : Nat}
    (enabling : VlanEnabling installed port vmap vid count state)
    (other : vidxVid count ≠ vid ∨ vmap count = false) :
    VlanEnabling installed port vmap vid (count + 1) state := by
  have same : ∀ vidx, vmap vidx = true →
      (vidx < count + 1 ∧ vidxVid vidx = vid ↔ vidx < count ∧ vidxVid vidx = vid) := by
    intro vidx isPending
    refine and_congr_left fun isVid => ?_
    have different : vidx ≠ count := by
      rintro rfl
      rcases other with otherVid | clear
      · exact otherVid isVid
      · rw [isPending] at clear
        cases clear
    omega
  have marks : ∀ vidx, (decide (vidx < count + 1 ∧ vidxVid vidx = vid) && vmap vidx) =
      (decide (vidx < count ∧ vidxVid vidx = vid) && vmap vidx) := by
    intro vidx
    cases isPending : vmap vidx with
    | false => simp
    | true => simp only [same vidx isPending]
  refine ⟨?_, fun vidx => ?_⟩
  · simp only [marks]
    exact enabling.tables
  · rw [enabling.pending]
    cases isPending : vmap vidx with
    | false => simp
    | true => simp only [same vidx isPending]

theorem VlanEnabling.add {state : Hw × Bitmap} {vid count : Nat} (accepts : env.AcceptsChanges)
    (enabling : VlanEnabling installed port vmap vid count state) (portBound : port < 65536)
    (inside : count < vmapBits) (isVid : vidxVid count = vid) (isPending : vmap count = true)
    (absent : installed port count = false)
    (alone : vidxIsEgress count = true → ∀ popTag, installed port (vidxEgress vid popTag) = false ∧
      (vidxEgress vid popTag ≠ count → vmap (vidxEgress vid popTag) = false)) :
    VlanEnabling installed port vmap vid (count + 1)
      ((opsFpaVlanAdd env state.1 port count).2, state.2.set0 count) := by
  have grown : ∀ vidx, (installed port vidx ||
      decide (vidx < count + 1 ∧ vidxVid vidx = vid) && vmap vidx) =
      (vidx == count || (installed port vidx ||
        decide (vidx < count ∧ vidxVid vidx = vid) && vmap vidx)) := by
    intro vidx
    by_cases here : vidx = count
    · simp [here, isVid, isPending]
    · have below : vidx < count + 1 ↔ vidx < count := by omega
      simp [here, below]
  constructor
  · have added := enabling.tables.vlanAdd accepts portBound inside (by simp [absent]) ?_
    · rw [VlanTables.withVidx_update] at added
      convert added using 3 with vidx
      rw [grown, Bitmap.set1_apply]
    · intro egress popTag
      rw [isVid, Function.update_self, (alone egress popTag).1, Bool.false_or]
      by_cases here : vidxEgress vid popTag = count
      · simp [here]
      · rw [(alone egress popTag).2 here, Bool.and_false]
  · intro vidx
    simp only [Bitmap.set0_apply, enabling.pending]
    by_cases here : vidx = count
    · simp [here, isVid]
    · have below : vidx < count + 1 ↔ vidx < count := by omega
      simp [here, below]

theorem enableVlan_reached (accepts : env.AcceptsChanges)
    (tables : VlanTables hw.fpa.asic installed) (portBound : port < 65536)
    (synced : PortSynced vlans desired (installed port) vmap) (oneForm : OneEgressForm desired)
    (vid : Nat) :
    VlanEnabling installed port vmap vid vmapBits (enableVlanOnPort env hw vmap port vid) := by
  have disabled : ∀ vidx, vidx < vmapBits → vmap vidx = true →
      desired vidx = true ∧ vlans (vidxVid vidx) = false := by
    intro vidx inside isPending
    simpa [synced.pending vidx inside] using isPending
  simp only [enableVlanOnPort]
  refine @Bitmap.forEach1_invariant (Hw × Bitmap) _ _
    (fun count state => VlanEnabling installed port vmap vid count state) _ ?_ _ ?_ ?_
  · refine ⟨?_, fun vidx => by simp⟩
    simp only [Nat.not_lt_zero, false_and, decide_false, Bool.false_and, Bool.or_false]
    rw [Function.update_eq_self]
    exact tables
  · intro vidx state inside enabling isSet
    have isPending : vmap vidx = true := by
      rw [enabling.pending, Bool.and_eq_true] at isSet
      exact isSet.2
    obtain ⟨wanted, notEnabled⟩ := disabled vidx inside isPending
    split
    · rename_i isVid
      have vidBound := vidxVid_lt vidx
      refine enabling.add accepts portBound inside isVid isPending ?_ ?_
      · rw [synced.installed vidx inside, notEnabled, Bool.and_false]
      · intro egress popTag
        rw [← isVid]
        have otherInside := vidxEgress_lt vidBound popTag
        rw [synced.installed _ otherInside, vidxVid_egress vidBound, notEnabled, Bool.and_false]
        refine ⟨rfl, fun different => ?_⟩
        rw [Bool.eq_false_iff]
        intro otherPending
        have both := (disabled _ otherInside otherPending).1
        have decoded := vidx_decode inside
        rw [egress, if_pos rfl] at decoded
        exact oneForm.not_both vidBound popTag (decoded ▸ wanted) both
          fun same => different (same ▸ decoded.symm)
    · rename_i otherVid
      exact enabling.skip (.inl otherVid)
  · intro vidx state inside enabling clear
    by_cases isVid : vidxVid vidx = vid
    · refine enabling.skip (.inr ?_)
      simpa [enabling.pending] using clear
    · exact enabling.skip (.inl isVid)

theorem enableVlan_synced (accepts : env.AcceptsChanges)
    (tables : VlanTables hw.fpa.asic installed) (portBound : port < 65536)
    (synced : PortSynced vlans desired (installed port) vmap) (oneForm : OneEgressForm desired)
    (vid : Nat) :
    ∃ after, VlanTables (enableVlanOnPort env hw vmap port vid).1.fpa.asic after ∧
      (∀ other, other ≠ port → after other = installed other) ∧
      PortSynced (vlans.set vid true) desired (after port)
        (enableVlanOnPort env hw vmap port vid).2 := by
  have reached := enableVlan_reached accepts tables portBound synced oneForm vid
  refine ⟨_, reached.tables, fun other different => Function.update_of_ne different _ _, ?_, ?_⟩
  · intro vidx inside
    rw [Function.update_self, synced.installed vidx inside, synced.pending vidx inside,
      Bitmap.set_apply]
    by_cases here : vidxVid vidx = vid
    · cases wanted : desired vidx with
      | false => simp
      | true => simp [inside, here]
    · simp [here]
  · intro vidx inside
    rw [reached.pending, synced.pending vidx inside, Bitmap.set_apply]
    by_cases here : vidxVid vidx = vid
    · simp [inside, here]
    · simp [here]

structure VlanDisabling (installed : Nat → Bitmap) (port : Nat) (vmap : Bitmap) (vid count : Nat)
    (state : Hw × Bitmap) (bits : Bitmap) : Prop where
  tables : VlanTables state.1.fpa.asic (Function.update installed port bits)
  kept : ∀ vidx, vidxVid vidx ≠ vid → bits vidx = installed port vidx
  gone : ∀ vidx, vidx < count → vidxVid vidx = vid → bits vidx = false
  older : ∀ vidx, bits vidx = true → installed port vidx = true
  pending : ∀ vidx, state.2 vidx =
    (vmap vidx || decide (vidx < count ∧ vidxVid vidx = vid) && installed port vidx)

theorem VlanDisabling.skip {state : Hw × Bitmap} {bits : Bitmap} {vid count : Nat}
    (disabling : VlanDisabling installed port vmap vid count state bits)
    (other : vidxVid count ≠ vid ∨ installed port count = false) :
    VlanDisabling installed port vmap vid (count + 1) state bits := by
  refine ⟨disabling.tables, disabling.kept, fun vidx below isVid => ?_, disabling.older,
    fun vidx => ?_⟩
  · by_cases here : vidx = count
    · subst here
      rcases other with otherVid | clear
      · exact (otherVid isVid).elim
      · rw [Bool.eq_false_iff]
        intro isSet
        rw [disabling.older vidx isSet] at clear
        cases clear
    · exact disabling.gone vidx (by omega) isVid
  · rw [disabling.pending]
    by_cases here : vidx = count
    · subst here
      rcases other with otherVid | clear
      · simp [otherVid]
      · simp [clear]
    · have below : vidx < count + 1 ↔ vidx < count := by omega
      simp only [below]

theorem VlanDisabling.delete {state : Hw × Bitmap} {bits : Bitmap} {vid count : Nat}
    (accepts : env.AcceptsChanges)
    (disabling : VlanDisabling installed port vmap vid count state bits)
    (portBound : port < 65536) (inside : count < vmapBits) (isVid : vidxVid count = vid)
    (present : installed port count = true)
    (apart : ∀ vidx, installed port vidx = true → vidxVid vidx ≠ vid →
      vidxKey vidx ≠ vidxKey count) :
    VlanDisabling installed port vmap vid (count + 1)
      ((opsFpaVlanDel env state.1 port count).2, state.2.set1 count)
      (erase vidxKey bits count) where
  tables := by
    rw [← VlanTables.without_update]
    exact disabling.tables.vlanDel accepts portBound inside
  kept := by
    intro vidx otherVid
    rw [erase, disabling.kept vidx otherVid]
    cases isSet : installed port vidx with
    | false => rfl
    | true => simp [apart vidx isSet otherVid]
  gone := by
    intro vidx below isVid
    by_cases here : vidx = count
    · simp [erase, here]
    · simp [erase, disabling.gone vidx (by omega) isVid]
  older := by
    intro vidx isSet
    rw [erase, Bool.and_eq_true] at isSet
    exact disabling.older vidx isSet.1
  pending := by
    intro vidx
    simp only [Bitmap.set1_apply, disabling.pending]
    by_cases here : vidx = count
    · simp [here, isVid, present]
    · have below : vidx < count + 1 ↔ vidx < count := by omega
      simp [here, below]

theorem disableVlan_reached (accepts : env.AcceptsChanges) (readsBack : env.ReadsBack)
    (tables : VlanTables hw.fpa.asic installed) (portBound : port < 65536) {ofpPort : Nat}
    (sameNumber : portNum ofpPort = port) {vid : Nat}
    (apart : ∀ vidx other, installed port vidx = true → installed port other = true →
      vidxVid vidx = vid → vidxVid other ≠ vid → vidxKey other ≠ vidxKey vidx) :
    ∃ bits, VlanDisabling installed port vmap vid vmapBits
      (disableVlanOnPort env hw vmap ofpPort port vid) bits := by
  have fetched : opsFpaVlanFetch env hw.fpa ofpPort = installed port := by
    funext vidx
    rw [tables.fetch readsBack, sameNumber]
  simp only [disableVlanOnPort, fetched]
  refine @Bitmap.forEach1_invariant (Hw × Bitmap) _ _
    (fun count state => ∃ bits, VlanDisabling installed port vmap vid count state bits) _ ?_ _ ?_ ?_
  · refine ⟨installed port, ?_, fun _ _ => rfl, fun _ below => absurd below (Nat.not_lt_zero _),
      fun _ => id, fun vidx => by simp⟩
    rw [Function.update_eq_self]
    exact tables
  · rintro vidx state inside ⟨bits, disabling⟩ present
    split
    · rename_i isVid
      exact ⟨_, disabling.delete accepts portBound inside isVid present
        fun other isSet => apart vidx other present isSet isVid⟩
    · rename_i otherVid
      exact ⟨bits, disabling.skip (.inl otherVid)⟩
  · rintro vidx state inside ⟨bits, disabling⟩ clear
    exact ⟨bits, disabling.skip (.inr clear)⟩

theorem disableVlan_idle {ofpPort : Nat} {pid : Int} {vid : Nat}
    (idle : ∀ vidx, vidxVid vidx = vid → opsFpaVlanFetch env hw.fpa ofpPort vidx = false) :
    disableVlanOnPort env hw vmap ofpPort pid vid = (hw, vmap) := by
  simp only [disableVlanOnPort]
  refine @Bitmap.forEach1_invariant (Hw × Bitmap) _ _ (fun _ state => state = (hw, vmap)) _ rfl _
    ?_ ?_
  · intro vidx state _ same isSet
    split
    · rename_i isVid
      rw [idle vidx isVid] at isSet
      cases isSet
    · exact same
  · exact fun _ _ _ same _ => same

theorem disableVlan_synced (accepts : env.AcceptsChanges) (readsBack : env.ReadsBack)
    (tables : VlanTables hw.fpa.asic installed) (portBound : port < 65536)
    (synced : PortSynced vlans desired (installed port) vmap) {ofpPort vid : Nat}
    (fetchable : portNum ofpPort = port ∨ ∀ vidx, vidxVid vidx = vid →
      opsFpaVlanFetch env hw.fpa ofpPort vidx = false ∧ installed port vidx = false)
    (apart : ∀ vidx other, installed port vidx = true → installed port other = true →
      vidxVid vidx = vid → vidxVid other ≠ vid → vidxKey other ≠ vidxKey vidx) :
    ∃ after, VlanTables (disableVlanOnPort env hw vmap ofpPort port vid).1.fpa.asic after ∧
      (∀ other, other ≠ port → after other = installed other) ∧
      (∀ vidx, after port vidx = true → installed port vidx = true) ∧
      PortSynced (vlans.set vid false) desired (after port)
        (disableVlanOnPort env hw vmap ofpPort port vid).2 := by
  rcases fetchable with sameNumber | idle
  · obtain ⟨bits, reached⟩ :=
      @disableVlan_reached env installed hw port vmap accepts readsBack tables portBound ofpPort
        sameNumber vid apart
    refine ⟨_, reached.tables, fun other different => Function.update_of_ne different _ _, ?_, ?_, ?_⟩
    · rw [Function.update_self]
      exact reached.older
    · intro vidx inside
      rw [Function.update_self, Bitmap.set_apply]
      by_cases here : vidxVid vidx = vid
      · simp [here, reached.gone vidx inside here]
      · simp [here, reached.kept vidx here, synced.installed vidx inside]
    · intro vidx inside
      rw [reached.pending, synced.installed vidx inside, synced.pending vidx inside,
        Bitmap.set_apply]
      by_cases here : vidxVid vidx = vid
      · cases wanted : desired vidx with
        | false => simp
        | true => simp [inside, here]
      · simp [here]
  · rw [disableVlan_idle fun vidx isVid => (idle vidx isVid).1]
    refine ⟨installed, tables, fun _ _ => rfl, fun _ => id, fun vidx inside => ?_,
      fun vidx inside => ?_⟩
    · rw [Bitmap.set_apply]
      by_cases here : vidxVid vidx = vid
      · simp [here, (idle vidx here).2]
      · simp [here, synced.installed vidx inside]
    · simp only [synced.pending vidx inside, Bitmap.set_apply]
      by_cases here : vidxVid vidx = vid
      · have absent := (idle vidx here).2
        rw [synced.installed vidx inside] at absent
        cases wanted : desired vidx with
        | false => simp
        | true =>
            rw [wanted, Bool.true_and, here] at absent
            simp [here, absent]
      · simp [here]

end Ports

end FpaPlugin
