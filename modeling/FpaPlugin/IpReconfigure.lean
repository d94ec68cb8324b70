import FpaPlugin.BundleSpec

/-! `bundle_ip_reconfigure` with the host-entry calls it makes. The secondary addresses are
looked at only when the primary one is not flagged, and every call made for a secondary
address names the primary one. -/

namespace FpaPlugin

inductive HostOperation
  | delete
  | add
  deriving DecidableEq, Repr

/-- A host-entry call: the address it names, and the address that is removed or added. -/
structure HostCall where
  operation : HostOperation
  named : CString
  meant : CString
  deriving DecidableEq, Repr

section Calls

variable (env : Env) (up : OfprotoRef) (aux : Aux)

def removeSecondaryCalls (kept : List CString) :
    List CString → Sys → List HostCall → Except Fault (Sys × List HostCall)
  | [], s, calls => .ok (s, calls)
  | address :: rest, s, calls =>
      if address ∈ kept then removeSecondaryCalls kept rest s calls
      else
        let s := modifyBundle s up aux fun bundle =>
          { bundle with secondaryIp4addr := bundle.secondaryIp4addr.erase address }
        match (opsFpaFindBundle env s up aux).bind Bundle.ip4addr with
        | none => .error .nullPointer
        | some primary =>
            match deleteL3HostEntry env s up aux false primary with
            | .error fault => .error fault
            | .ok (_, s) => removeSecondaryCalls kept rest s (⟨.delete, primary, address⟩ :: calls)

def addSecondaryCalls :
    List CString → Sys → List HostCall → Except Fault (Sys × List HostCall)
  | [], s, calls => .ok (s, calls)
  | address :: rest, s, calls =>
      match opsFpaFindBundle env s up aux with
      | none => .error .nullPointer
      | some bundle =>
          if address ∈ bundle.secondaryIp4addr then addSecondaryCalls rest s calls
          else
            let s := modifyBundle s up aux fun bundle =>
              { bundle with secondaryIp4addr := address :: bundle.secondaryIp4addr }
            match bundle.ip4addr with
            | none => .error .nullPointer
            | some primary =>
                match addL3HostEntry env s up aux false primary none with
                | .error fault => .error fault
                | .ok (_, _, s) => addSecondaryCalls rest s (⟨.add, primary, address⟩ :: calls)

def secondaryReconfigureCalls (s : Sys) (set : BundleSettings) :
    Except Fault (Sys × List HostCall) :=
  match opsFpaFindBundle env s up aux with
  | none => .error .nullPointer
  | some bundle =>
      match removeSecondaryCalls env up aux set.ip4AddressSecondary bundle.secondaryIp4addr s [] with
      | .error fault => .error fault
      | .ok (s, calls) => addSecondaryCalls env up aux set.ip4AddressSecondary.dedup s calls

def removePrimaryCalls (s : Sys) : Option CString → Except Fault (Sys × List HostCall)
  | none => .ok (s, [])
  | some address =>
      match deleteL3HostEntry env s up aux false address with
      | .error fault => .error fault
      | .ok (_, s) => .ok (s, [⟨.delete, address, address⟩])

def setPrimaryCalls (s : Sys) (address : CString) (calls : List HostCall) :
    Except Fault (Sys × List HostCall) :=
  let s := modifyBundle s up aux fun bundle => { bundle with ip4addr := some address }
  match addL3HostEntry env s up aux false address none with
  | .error fault => .error fault
  | .ok (_, _, s) => .ok (s, ⟨.add, address, address⟩ :: calls)

/-- `bundleIpReconfigure` with the host-entry calls it makes, most recent first. -/
def ipReconfigureCalls (s : Sys) (set : BundleSettings) : Except Fault (Sys × List HostCall) :=
  match opsFpaFindBundle env s up aux with
  | none => .error .nullPointer
  | some bundle =>
      if set.primaryIpv4Changed then
        match set.ip4Address with
        | some address =>
            if bundle.ip4addr = some address then .ok (s, [])
            else
              match removePrimaryCalls env up aux s bundle.ip4addr with
              | .error fault => .error fault
              | .ok (s, calls) => setPrimaryCalls env up aux s address calls
        | none =>
            match removePrimaryCalls env up aux s bundle.ip4addr with
            | .error fault => .error fault
            | .ok (s, calls) =>
                .ok (modifyBundle s up aux fun bundle => { bundle with ip4addr := none }, calls)
      else if set.secondaryIpv4Changed then secondaryReconfigureCalls env up aux s set
      else .ok (s, [])

end Calls

section Forget

variable {env : Env} {up : OfprotoRef} {aux : Aux}

theorem removeSecondaryCalls_forget (kept addresses : List CString) (s : Sys)
    (calls : List HostCall) :
    (removeSecondaryCalls env up aux kept addresses s calls).map Prod.fst =
      removeSecondary env up aux kept addresses s := by
  induction addresses generalizing s calls with
  | nil => rfl
  | cons address rest ih =>
      simp only [removeSecondaryCalls, removeSecondary]
      by_cases wanted : address ∈ kept
      · rw [if_pos wanted, if_pos wanted]
        exact ih s calls
      · rw [if_neg wanted, if_neg wanted]
        generalize modifyBundle s up aux _ = erased
        cases held : (opsFpaFindBundle env erased up aux).bind Bundle.ip4addr with
        | none => rfl
        | some primary =>
            simp only
            cases taken : deleteL3HostEntry env erased up aux false primary with
            | error fault => rfl
            | ok result => exact ih _ _

theorem addSecondaryCalls_forget (addresses : List CString) (s : Sys) (calls : List HostCall) :
    (addSecondaryCalls env up aux addresses s calls).map Prod.fst =
      addSecondary env up aux addresses s := by
  induction addresses generalizing s calls with
  | nil => rfl
  | cons address rest ih =>
      simp only [addSecondaryCalls, addSecondary]
      cases found : opsFpaFindBundle env s up aux with
      | none => rfl
      | some bundle =>
          simp only
          by_cases known : address ∈ bundle.secondaryIp4addr
          · rw [if_pos known, if_pos known]
            exact ih s calls
          · rw [if_neg known, if_neg known]
            cases held : bundle.ip4addr with
            | none => rfl
            | some primary =>
                simp only [addL3HostEntry_no_nextHop]
                exact ih _ _

theorem secondaryReconfigureCalls_forget (s : Sys) (set : BundleSettings) :
    (secondaryReconfigureCalls env up aux s set).map Prod.fst =
      bundleIpv4SecondaryReconfigure env s up aux set := by
  simp only [secondaryReconfigureCalls, bundleIpv4SecondaryReconfigure]
  cases found : opsFpaFindBundle env s up aux with
  | none => rfl
  | some bundle =>
      simp only
      rw [← removeSecondaryCalls_forget _ _ _ []]
      cases removed : removeSecondaryCalls env up aux set.ip4AddressSecondary
          bundle.secondaryIp4addr s [] with
      | error fault => rfl
      | ok result => exact addSecondaryCalls_forget _ _ _

theorem removePrimaryCalls_forget (s : Sys) (primary : Option CString) :
    (removePrimaryCalls env up aux s primary).map Prod.fst = removePrimary env s up aux primary := by
  cases primary with
  | none => rfl
  | some address =>
      simp only [removePrimaryCalls, removePrimary]
      cases taken : deleteL3HostEntry env s up aux false address with
      | error fault => rfl
      | ok result => rfl

theorem setPrimaryCalls_forget (s : Sys) (address : CString) (calls : List HostCall) :
    (setPrimaryCalls env up aux s address calls).map Prod.fst = setPrimary env s up aux address := by
  simp only [setPrimaryCalls, setPrimary, addL3HostEntry_no_nextHop]
  rfl

theorem ipReconfigureCalls_forget (s : Sys) (set : BundleSettings) :
    (ipReconfigureCalls env up aux s set).map Prod.fst = bundleIpReconfigure env s up aux set := by
  simp only [ipReconfigureCalls, bundleIpReconfigure]
  cases found : opsFpaFindBundle env s up aux with
  | none => rfl
  | some bundle =>
      simp only
      rw [← removePrimaryCalls_forget]
      by_cases primary : set.primaryIpv4Changed = true
      · rw [if_pos primary, if_pos primary]
        cases wanted : set.ip4Address with
        | none =>
            cases removed : removePrimaryCalls env up aux s bundle.ip4addr with
            | error fault => rfl
            | ok result => rfl
        | some address =>
            simp only
            by_cases same : bundle.ip4addr = some address
            · rw [if_pos same, if_pos same]
              rfl
            · rw [if_neg same, if_neg same]
              cases removed : removePrimaryCalls env up aux s bundle.ip4addr with
              | error fault => rfl
              | ok result => exact setPrimaryCalls_forget _ _ _
      · rw [if_neg primary, if_neg primary]
        by_cases secondary : set.secondaryIpv4Changed = true
        · rw [if_pos secondary, if_pos secondary]
          exact secondaryReconfigureCalls_forget s set
        · rw [if_neg secondary, if_neg secondary]
          rfl

end Forget

section Addresses

variable {env : Env} {s : Sys} {up : OfprotoRef} {aux : Aux}

def addressesOf (env : Env) (s : Sys) (up : OfprotoRef) (aux : Aux) :
    Option (Option CString × List CString) :=
  (opsFpaFindBundle env s up aux).map fun bundle => (bundle.ip4addr, bundle.secondaryIp4addr)

theorem addressesOf_modifyBundle {update : Bundle → Bundle} {held : Option CString × List CString}
    {after : Option CString × List CString → Option CString × List CString}
    (kept : ∀ bundle, (update bundle).aux = bundle.aux)
    (updated : ∀ bundle, ((update bundle).ip4addr, (update bundle).secondaryIp4addr) =
      after (bundle.ip4addr, bundle.secondaryIp4addr))
    (addresses : addressesOf env s up aux = some held) :
    addressesOf env (modifyBundle s up aux update) up aux = some (after held) := by
  obtain ⟨bundle, found, rfl⟩ := Option.map_eq_some_iff.mp addresses
  simp only [addressesOf, findBundle_modifyBundle s up aux kept, and_self, if_true, found,
    Option.map_some, updated]

theorem deleteL3HostEntry_addresses {held : Option CString × List CString} (address : CString)
    (addresses : addressesOf env s up aux = some held) :
    ∃ result, deleteL3HostEntry env s up aux false address = .ok result ∧
      addressesOf env result.2 up aux = some held := by
  obtain ⟨bundle, found, rfl⟩ := Option.map_eq_some_iff.mp addresses
  cases taken : deleteL3HostEntry env s up aux false address with
  | error fault =>
      simp only [deleteL3HostEntry, found] at taken
      split at taken
      · cases taken
      · split at taken
        · cases taken
        · split at taken
          · cases taken
          · split at taken <;> cases taken
  | ok result =>
      refine ⟨result, rfl, ?_⟩
      rcases deleteL3HostEntry_cases taken with ⟨_, same⟩ | ⟨_, _, _, _, _, _, _, _, _, _, deleted⟩
      · rw [same, addresses]
      · simp only [deleted, addressesOf, findBundle_deleteHost, and_self, if_true, found,
          Option.map_some]

variable {primary : CString}

theorem removeSecondaryCalls_held (kept addresses : List CString) {held : List CString}
    (calls : List HostCall) (before : addressesOf env s up aux = some (some primary, held)) :
    ∃ next, removeSecondaryCalls env up aux kept addresses s calls =
        .ok (next, (addresses.filter (· ∉ kept)).reverse.map (⟨.delete, primary, ·⟩) ++ calls) ∧
      addressesOf env next up aux =
        some (some primary, held.diff (addresses.filter (· ∉ kept))) := by
  induction addresses generalizing s held calls with
  | nil => exact ⟨s, rfl, before⟩
  | cons address rest ih =>
      simp only [removeSecondaryCalls]
      by_cases wanted : address ∈ kept
      · obtain ⟨next, done, after⟩ := ih calls before
        exact ⟨next, by simpa [wanted] using done, by simpa [wanted] using after⟩
      · rw [if_neg wanted]
        have erased := @addressesOf_modifyBundle env s up aux
          (fun bundle => { bundle with secondaryIp4addr := bundle.secondaryIp4addr.erase address })
          _ (fun addresses => (addresses.1, addresses.2.erase address)) (fun _ => rfl)
          (fun _ => rfl) before
        generalize modifyBundle s up aux _ = between at erased ⊢
        obtain ⟨bundle, found, isHeld⟩ := Option.map_eq_some_iff.mp erased
        obtain ⟨result, taken, later⟩ := deleteL3HostEntry_addresses primary erased
        have primaryHeld : (opsFpaFindBundle env between up aux).bind Bundle.ip4addr =
            some primary := by
          rw [found]
          exact congrArg Prod.fst isHeld
        simp only [primaryHeld, taken]
        obtain ⟨next, done, after⟩ := ih (⟨.delete, primary, address⟩ :: calls) later
        refine ⟨next, ?_, ?_⟩
        · simpa [wanted] using done
        · simpa [wanted, List.diff_cons] using after

theorem addSecondaryCalls_held {addresses held : List CString} (calls : List HostCall)
    (distinct : addresses.Nodup) (before : addressesOf env s up aux = some (some primary, held)) :
    ∃ next, addSecondaryCalls env up aux addresses s calls =
        .ok (next, (addresses.filter (· ∉ held)).reverse.map (⟨.add, primary, ·⟩) ++ calls) ∧
      addressesOf env next up aux =
        some (some primary, (addresses.filter (· ∉ held)).reverse ++ held) := by
  induction addresses generalizing s held calls with
  | nil => exact ⟨s, rfl, before⟩
  | cons address rest ih =>
      obtain ⟨fresh, restDistinct⟩ := List.nodup_cons.mp distinct
      obtain ⟨bundle, found, isHeld⟩ := Option.map_eq_some_iff.mp before
      obtain ⟨primaryHeld, rfl⟩ := Prod.mk.inj isHeld
      simp only [addSecondaryCalls, found]
      by_cases known : address ∈ bundle.secondaryIp4addr
      · obtain ⟨next, done, after⟩ := ih calls restDistinct before
        exact ⟨next, by simpa [known] using done, by simpa [known] using after⟩
      · rw [if_neg known]
        simp only [primaryHeld, addL3HostEntry_no_nextHop]
        have inserted := @addressesOf_modifyBundle env s up aux
          (fun bundle => { bundle with secondaryIp4addr := address :: bundle.secondaryIp4addr })
          _ (fun addresses => (addresses.1, address :: addresses.2)) (fun _ => rfl)
          (fun _ => rfl) before
        obtain ⟨next, done, after⟩ := ih (⟨.add, primary, address⟩ :: calls) restDistinct inserted
        have same : rest.filter (· ∉ address :: bundle.secondaryIp4addr) =
            rest.filter (· ∉ bundle.secondaryIp4addr) := by
          refine List.filter_congr fun other member => ?_
          have different : other ≠ address := fun equal => fresh (equal ▸ member)
          simp [different]
        simp only [same] at done after
        exact ⟨next, by simpa [known] using done, by simpa [known] using after⟩

theorem removeSecondaryCalls_unset (kept addresses : List CString) {held : List CString}
    (calls : List HostCall) (before : addressesOf env s up aux = some (none, held)) :
    removeSecondaryCalls env up aux kept addresses s calls =
      if ∀ address ∈ addresses, address ∈ kept then .ok (s, calls) else .error .nullPointer := by
  induction addresses with
  | nil => simp [removeSecondaryCalls]
  | cons address rest ih =>
      simp only [removeSecondaryCalls]
      by_cases wanted : address ∈ kept
      · simp [wanted, ih]
      · have erased := @addressesOf_modifyBundle env s up aux
          (fun bundle => { bundle with secondaryIp4addr := bundle.secondaryIp4addr.erase address })
          _ (fun addresses => (addresses.1, addresses.2.erase address)) (fun _ => rfl)
          (fun _ => rfl) before
        generalize modifyBundle s up aux _ = between at erased ⊢
        obtain ⟨bundle, found, isHeld⟩ := Option.map_eq_some_iff.mp erased
        have primaryHeld : (opsFpaFindBundle env between up aux).bind Bundle.ip4addr = none := by
          rw [found]
          exact congrArg Prod.fst isHeld
        simp [wanted, primaryHeld]

theorem addSecondaryCalls_unset (addresses : List CString) {held : List CString}
    (calls : List HostCall) (before : addressesOf env s up aux = some (none, held)) :
    addSecondaryCalls env up aux addresses s calls =
      if ∀ address ∈ addresses, address ∈ held then .ok (s, calls) else .error .nullPointer := by
  induction addresses with
  | nil => simp [addSecondaryCalls]
  | cons address rest ih =>
      obtain ⟨bundle, found, isHeld⟩ := Option.map_eq_some_iff.mp before
      obtain ⟨primaryHeld, rfl⟩ := Prod.mk.inj isHeld
      simp only [addSecondaryCalls, found, primaryHeld]
      by_cases known : address ∈ bundle.secondaryIp4addr
      · simp [known, ih]
      · simp [known]

end Addresses

section Reconfigure

variable {env : Env} {s : Sys} {up : OfprotoRef} {aux : Aux} {set : BundleSettings}

def SecondaryDiffers (held wanted : List CString) (address : CString) : Prop :=
  address ∈ held ∧ address ∉ wanted ∨ address ∉ held ∧ address ∈ wanted

theorem not_secondaryDiffers_iff (held wanted : List CString) :
    (∀ address, ¬ SecondaryDiffers held wanted address) ↔
      ∀ address, address ∈ held ↔ address ∈ wanted := by
  refine forall_congr' fun address => ?_
  rw [SecondaryDiffers]
  tauto

theorem secondaryReconfigureCalls_held {primary : CString} {held : List CString}
    (distinct : held.Nodup) (before : addressesOf env s up aux = some (some primary, held)) :
    ∃ next calls after, secondaryReconfigureCalls env up aux s set = .ok (next, calls) ∧
      addressesOf env next up aux = some (some primary, after) ∧ after.Nodup ∧
      (∀ address, address ∈ after ↔ address ∈ set.ip4AddressSecondary) ∧
      ((∀ call ∈ calls, call.named = call.meant) ↔
        ∀ address, SecondaryDiffers held set.ip4AddressSecondary address → primary = address) := by
  obtain ⟨between, removed, remaining⟩ :=
    removeSecondaryCalls_held set.ip4AddressSecondary held [] before
  obtain ⟨next, added, after⟩ := addSecondaryCalls_held
    ((held.filter (· ∉ set.ip4AddressSecondary)).reverse.map (⟨.delete, primary, ·⟩) ++ [])
    (List.nodup_dedup set.ip4AddressSecondary) remaining
  obtain ⟨bundle, found, isHeld⟩ := Option.map_eq_some_iff.mp before
  obtain ⟨-, rfl⟩ := Prod.mk.inj isHeld
  have stays : ∀ address, address ∈ bundle.secondaryIp4addr.diff
      (bundle.secondaryIp4addr.filter (· ∉ set.ip4AddressSecondary)) ↔
      address ∈ bundle.secondaryIp4addr ∧ address ∈ set.ip4AddressSecondary := by
    intro address
    rw [distinct.mem_sdiff_iff, List.mem_filter, decide_eq_true_eq]
    tauto
  simp only [secondaryReconfigureCalls, found, removed]
  refine ⟨next, _, _, added, after, ?_, ?_, ?_⟩
  · refine List.Nodup.append (List.nodup_reverse.mpr ((List.nodup_dedup _).filter _))
      distinct.diff ?_
    intro address isNew isOld
    rw [List.mem_reverse, List.mem_filter, decide_eq_true_eq] at isNew
    exact isNew.2 isOld
  · intro address
    simp only [List.mem_append, List.mem_reverse, List.mem_filter, List.mem_dedup,
      decide_eq_true_eq, stays]
    tauto
  · simp only [List.append_nil, List.forall_mem_append, List.forall_mem_map, List.mem_reverse,
      List.mem_filter, List.mem_dedup, decide_eq_true_eq, stays, SecondaryDiffers]
    constructor
    · rintro ⟨addedNamed, removedNamed⟩ address (gone | fresh)
      · exact removedNamed address gone
      · exact addedNamed address ⟨fresh.2, fun stayed => fresh.1 stayed.1⟩
    · intro own
      refine ⟨?_, fun address gone => own address (Or.inl gone)⟩
      rintro address ⟨isNew, notKept⟩
      exact own address (Or.inr ⟨fun isOld => notKept ⟨isOld, isNew⟩, isNew⟩)

theorem secondaryReconfigureCalls_unset {held : List CString}
    (before : addressesOf env s up aux = some (none, held)) :
    (∀ address, ¬ SecondaryDiffers held set.ip4AddressSecondary address) ∧
        secondaryReconfigureCalls env up aux s set = .ok (s, []) ∨
      (∃ address, SecondaryDiffers held set.ip4AddressSecondary address) ∧
        secondaryReconfigureCalls env up aux s set = .error .nullPointer := by
  obtain ⟨bundle, found, isHeld⟩ := Option.map_eq_some_iff.mp before
  obtain ⟨-, rfl⟩ := Prod.mk.inj isHeld
  simp only [secondaryReconfigureCalls, found, removeSecondaryCalls_unset _ _ _ before]
  by_cases removes : ∀ address ∈ bundle.secondaryIp4addr, address ∈ set.ip4AddressSecondary
  · rw [if_pos removes]
    simp only [addSecondaryCalls_unset _ _ before, List.mem_dedup]
    by_cases adds : ∀ address ∈ set.ip4AddressSecondary, address ∈ bundle.secondaryIp4addr
    · refine Or.inl ⟨?_, if_pos adds⟩
      rintro address (⟨old, gone⟩ | ⟨fresh, new⟩)
      · exact gone (removes address old)
      · exact fresh (adds address new)
    · refine Or.inr ⟨?_, if_neg adds⟩
      push Not at adds
      obtain ⟨address, new, fresh⟩ := adds
      exact ⟨address, Or.inr ⟨fresh, new⟩⟩
  · refine Or.inr ⟨?_, by rw [if_neg removes]⟩
    push Not at removes
    obtain ⟨address, old, gone⟩ := removes
    exact ⟨address, Or.inl ⟨old, gone⟩⟩

theorem ipReconfigureCalls_primary {bundle : Bundle}
    (found : opsFpaFindBundle env s up aux = some bundle) (changed : set.primaryIpv4Changed = true) :
    ∃ next calls, ipReconfigureCalls env up aux s set = .ok (next, calls) ∧
      addressesOf env next up aux = some (set.ip4Address, bundle.secondaryIp4addr) ∧
      ∀ call ∈ calls, call.named = call.meant := by
  have before : addressesOf env s up aux = some (bundle.ip4addr, bundle.secondaryIp4addr) := by
    rw [addressesOf, found]
    rfl
  have primaryRemoved : ∃ between calls,
      removePrimaryCalls env up aux s bundle.ip4addr = .ok (between, calls) ∧
      addressesOf env between up aux = some (bundle.ip4addr, bundle.secondaryIp4addr) ∧
      ∀ call ∈ calls, call.named = call.meant := by
    cases primary : bundle.ip4addr with
    | none => exact ⟨s, [], rfl, primary ▸ before, by simp⟩
    | some address =>
        obtain ⟨result, taken, kept⟩ := deleteL3HostEntry_addresses address before
        refine ⟨result.2, [⟨.delete, address, address⟩], ?_, primary ▸ kept, by simp⟩
        simp only [removePrimaryCalls, taken]
  obtain ⟨between, calls, removed, remaining, named⟩ := primaryRemoved
  simp only [ipReconfigureCalls, found, changed, if_true]
  cases wanted : set.ip4Address with
  | none =>
      simp only [removed]
      refine ⟨_, _, rfl, ?_, named⟩
      exact @addressesOf_modifyBundle env between up aux
        (fun bundle => { bundle with ip4addr := none }) _ (fun held => (none, held.2))
        (fun _ => rfl) (fun _ => rfl) remaining
  | some address =>
      simp only [removed, setPrimaryCalls, addL3HostEntry_no_nextHop]
      split_ifs with same
      · exact ⟨s, [], rfl, same ▸ before, by simp⟩
      · refine ⟨_, _, rfl, ?_, ?_⟩
        · exact @addressesOf_modifyBundle env between up aux
            (fun bundle => { bundle with ip4addr := some address }) _
            (fun held => (some address, held.2)) (fun _ => rfl) (fun _ => rfl) remaining
        · rw [List.forall_mem_cons]
          exact ⟨rfl, named⟩

/-- `bundle_ip_reconfigure` completes, the flagged addresses are the wanted ones, the others
are unchanged, and every host-entry call names the address it is made for. -/
def ReconfiguresAddresses (env : Env) (s : Sys) (up : OfprotoRef) (aux : Aux) (bundle : Bundle)
    (set : BundleSettings) : Prop :=
  ∃ next calls primary secondary, ipReconfigureCalls env up aux s set = .ok (next, calls) ∧
    bundleIpReconfigure env s up aux set = .ok next ∧
    addressesOf env next up aux = some (primary, secondary) ∧
    primary = (if set.primaryIpv4Changed then set.ip4Address else bundle.ip4addr) ∧
    (if set.secondaryIpv4Changed then
      secondary.Nodup ∧ ∀ address, address ∈ secondary ↔ address ∈ set.ip4AddressSecondary
    else secondary = bundle.secondaryIp4addr) ∧
    ∀ call ∈ calls, call.named = call.meant

theorem reconfiguresAddresses_iff {bundle : Bundle} {result : Sys × List HostCall}
    {primary : Option CString} {secondary : List CString}
    (done : ipReconfigureCalls env up aux s set = .ok result)
    (after : addressesOf env result.1 up aux = some (primary, secondary)) :
    ReconfiguresAddresses env s up aux bundle set ↔
      primary = (if set.primaryIpv4Changed then set.ip4Address else bundle.ip4addr) ∧
      (if set.secondaryIpv4Changed then
        secondary.Nodup ∧ ∀ address, address ∈ secondary ↔ address ∈ set.ip4AddressSecondary
      else secondary = bundle.secondaryIp4addr) ∧
      ∀ call ∈ result.2, call.named = call.meant := by
  constructor
  · rintro ⟨next, calls, _, _, isDone, -, isAfter, outcome⟩
    cases done.symm.trans isDone
    cases after.symm.trans isAfter
    exact outcome
  · intro outcome
    refine ⟨result.1, result.2, primary, secondary, done, ?_, after, outcome⟩
    rw [← ipReconfigureCalls_forget, done]
    rfl

section Found

variable {bundle : Bundle} (found : opsFpaFindBundle env s up aux = some bundle)

include found

theorem addressesOf_found :
    addressesOf env s up aux = some (bundle.ip4addr, bundle.secondaryIp4addr) := by
  rw [addressesOf, found]
  rfl

theorem reconfiguresAddresses_primary (distinct : bundle.secondaryIp4addr.Nodup)
    (primaryChanged : set.primaryIpv4Changed = true) :
    ReconfiguresAddresses env s up aux bundle set ↔ (set.secondaryIpv4Changed = true →
      ∀ address, ¬ SecondaryDiffers bundle.secondaryIp4addr set.ip4AddressSecondary address) := by
  obtain ⟨next, calls, done, after, named⟩ := ipReconfigureCalls_primary found primaryChanged
  rw [reconfiguresAddresses_iff done after, not_secondaryDiffers_iff, if_pos primaryChanged]
  by_cases secondaryChanged : set.secondaryIpv4Changed = true
  · rw [if_pos secondaryChanged]
    exact ⟨fun outcome _ => outcome.2.1.2, fun same =>
      ⟨rfl, ⟨distinct, same secondaryChanged⟩, named⟩⟩
  · rw [if_neg secondaryChanged]
    exact ⟨fun _ changed => absurd changed secondaryChanged, fun _ => ⟨rfl, rfl, named⟩⟩

theorem reconfiguresAddresses_secondary (distinct : bundle.secondaryIp4addr.Nodup)
    (primaryKept : set.primaryIpv4Changed = false) (changed : set.secondaryIpv4Changed = true) :
    ReconfiguresAddresses env s up aux bundle set ↔
      ∀ address, SecondaryDiffers bundle.secondaryIp4addr set.ip4AddressSecondary address →
        bundle.ip4addr = some address := by
  have before := addressesOf_found found
  have isSecondary : ipReconfigureCalls env up aux s set =
      secondaryReconfigureCalls env up aux s set := by
    simp only [ipReconfigureCalls, found, primaryKept, changed, Bool.false_eq_true, if_false,
      if_true]
  cases primary : bundle.ip4addr with
  | none =>
      rw [primary] at before
      rcases @secondaryReconfigureCalls_unset env s up aux set _ before with
        ⟨same, done⟩ | ⟨⟨address, differs⟩, failed⟩
      · rw [reconfiguresAddresses_iff (isSecondary.trans done) before, if_pos changed,
          primaryKept, primary]
        refine iff_of_true ⟨rfl, ⟨distinct, ?_⟩, List.forall_mem_nil _⟩ ?_
        · exact (not_secondaryDiffers_iff _ _).mp same
        · exact fun address differs => absurd differs (same address)
      · refine iff_of_false ?_ ?_
        · rintro ⟨_, _, _, _, done, _⟩
          cases (isSecondary.trans failed).symm.trans done
        · intro own
          cases own address differs
  | some held =>
      rw [primary] at before
      obtain ⟨next, calls, after, done, isAfter, afterDistinct, wanted, named⟩ :=
        @secondaryReconfigureCalls_held env s up aux set _ _ distinct before
      rw [reconfiguresAddresses_iff (isSecondary.trans done) isAfter, named, if_pos changed,
        primaryKept, primary]
      simp only [Option.some.injEq]
      exact ⟨fun outcome => outcome.2.2, fun own => ⟨rfl, ⟨afterDistinct, wanted⟩, own⟩⟩

theorem reconfiguresAddresses_unflagged (primaryKept : set.primaryIpv4Changed = false)
    (secondaryKept : set.secondaryIpv4Changed = false) :
    ReconfiguresAddresses env s up aux bundle set := by
  have done : ipReconfigureCalls env up aux s set = .ok (s, []) := by
    simp only [ipReconfigureCalls, found, primaryKept, secondaryKept, Bool.false_eq_true, if_false]
  rw [reconfiguresAddresses_iff done (addressesOf_found found), primaryKept, secondaryKept]
  exact ⟨rfl, rfl, List.forall_mem_nil _⟩

end Found

/-- The addresses follow the settings exactly when the flagged secondary ones need no change, or
when only they are flagged and the one to change is the primary address itself. -/
theorem addresses_follow_settings_iff (env : Env) (s : Sys) (up : OfprotoRef) (aux : Aux)
    (bundle : Bundle) (set : BundleSettings)
    (found : opsFpaFindBundle env s up aux = some bundle)
    (distinct : bundle.secondaryIp4addr.Nodup) :
    ReconfiguresAddresses env s up aux bundle set ↔
      (set.secondaryIpv4Changed = true →
        ∀ address, SecondaryDiffers bundle.secondaryIp4addr set.ip4AddressSecondary address →
          set.primaryIpv4Changed = false ∧ bundle.ip4addr = some address) := by
  cases primary : set.primaryIpv4Changed with
  | true =>
      rw [reconfiguresAddresses_primary found distinct primary]
      simp only [Bool.true_eq_false, false_and, imp_false]
  | false =>
      simp only [true_and]
      cases secondary : set.secondaryIpv4Changed with
      | true =>
          rw [reconfiguresAddresses_secondary found distinct primary secondary]
          exact ⟨fun own _ => own, fun own => own rfl⟩
      | false =>
          refine iff_of_true (reconfiguresAddresses_unflagged found primary secondary) ?_
          exact fun changed => absurd changed Bool.false_ne_true

def addressedBundle (primary : Option CString) (secondary : List CString) : Bundle where
  aux := 7
  name := some "1".toList
  intfId := 1
  l3Intf := none
  ip4addr := primary
  secondaryIp4addr := secondary

def addressedSys (primary : Option CString) (secondary : List CString) : Sys :=
  withBundle idealEnv idealSys 1 (addressedBundle primary secondary)

theorem addressedSys_found (primary : Option CString) (secondary : List CString) :
    opsFpaFindBundle idealEnv (addressedSys primary secondary) 1 7 =
      some (addressedBundle primary secondary) := by
  rw [addressedSys, findBundle_withBundle idealSys_initial.bundlesKeyed rfl]
  exact if_pos ⟨rfl, rfl⟩

/-- The primary address is replaced; next to a secondary one, it becomes a secondary one too. -/
theorem addresses_follow_settings_renumbered :
    ReconfiguresAddresses idealEnv (addressedSys (some "10.0.0.1/24".toList) []) 1 7
      (addressedBundle (some "10.0.0.1/24".toList) [])
      { idleSettings with
        primaryIpv4Changed := true, ip4Address := some "10.0.0.2/24".toList } ∧
    ReconfiguresAddresses idealEnv
      (addressedSys (some "10.0.0.1/24".toList) ["10.0.1.1/24".toList]) 1 7
      (addressedBundle (some "10.0.0.1/24".toList) ["10.0.1.1/24".toList])
      { idleSettings with
        secondaryIpv4Changed := true
        ip4AddressSecondary := ["10.0.1.1/24".toList, "10.0.0.1/24".toList] } := by
  constructor
  · refine (addresses_follow_settings_iff idealEnv _ 1 7 _ _ (addressedSys_found _ _)
      List.nodup_nil).mpr ?_
    exact fun changed => absurd changed Bool.false_ne_true
  · refine (addresses_follow_settings_iff idealEnv _ 1 7 _ _ (addressedSys_found _ _)
      (List.nodup_singleton _)).mpr ?_
    rintro - address (⟨held, notWanted⟩ | ⟨notHeld, wanted⟩)
    · exact absurd (List.mem_cons.mpr (.inl (List.mem_singleton.mp held))) notWanted
    · rcases List.mem_cons.mp wanted with same | other
      · exact absurd (List.mem_singleton.mpr same) notHeld
      · exact ⟨rfl, congrArg some (List.mem_singleton.mp other).symm⟩

/-- With both flags set the secondary addresses are ignored; with no primary address a new
secondary one crashes; with one, its host entry is added under the primary address. -/
theorem secondary_addresses_go_wrong :
    (∃ next, bundleIpReconfigure idealEnv (addressedSys none []) 1 7
        { idleSettings with
          primaryIpv4Changed := true, ip4Address := some "10.0.0.1/24".toList,
          secondaryIpv4Changed := true, ip4AddressSecondary := ["10.0.1.1/24".toList] } = .ok next ∧
      addressesOf idealEnv next 1 7 = some (some "10.0.0.1/24".toList, [])) ∧
    bundleIpReconfigure idealEnv (addressedSys none []) 1 7
        { idleSettings with
          secondaryIpv4Changed := true, ip4AddressSecondary := ["10.0.1.1/24".toList] } =
      .error .nullPointer ∧
    (ipReconfigureCalls idealEnv 1 7 (addressedSys (some "10.0.0.1/24".toList) [])
        { idleSettings with
          secondaryIpv4Changed := true, ip4AddressSecondary := ["10.0.1.1/24".toList] }).map
        Prod.snd = .ok [⟨.add, "10.0.0.1/24".toList, "10.0.1.1/24".toList⟩] ∧
    ¬ ReconfiguresAddresses idealEnv (addressedSys none []) 1 7 (addressedBundle none [])
      { idleSettings with
        secondaryIpv4Changed := true, ip4AddressSecondary := ["10.0.1.1/24".toList] } := by
  have crashes : ipReconfigureCalls idealEnv 1 7 (addressedSys none [])
      { idleSettings with
        secondaryIpv4Changed := true, ip4AddressSecondary := ["10.0.1.1/24".toList] } =
      .error .nullPointer := rfl
  refine ⟨⟨_, rfl, rfl⟩, rfl, rfl, ?_⟩
  rintro ⟨_, _, _, _, done, _⟩
  cases crashes.symm.trans done

end Reconfigure

end FpaPlugin
