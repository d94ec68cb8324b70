import FpaPlugin.HostSpec

/-! The two lookups of `add_l3_host_entry`. Neither result is checked: the port of the bundle's
`intf_id` is read on every path to a routed interface, the FDB entry of the next hop on every
path to a VLAN that is not internal. -/

namespace FpaPlugin

def HasLivePort (s : Sys) (bundle : Bundle) : Prop :=
  ∃ ref port, opsFpaGetOfportByPid s bundle.intfId = some ref ∧ s.ofports ref = some port

def Learned (ml : MacLearning) (vlanId : Nat) (mac : EthAddr) : Prop :=
  ∃ entry ∈ ml.table.values, entry.vid = vlanId ∧ entry.address = mac

/-- The request is refused before the lookups, or each lookup it needs finds something. -/
def LookupsHit (env : Env) (s : Sys) (bundle : Bundle) (isIpv6Addr : Bool)
    (nextHopMacAddr : Option CString) : Prop :=
  isIpv6Addr = true ∨ nextHopMacAddr = none ∨ bundle.l3Intf = none ∨
    HasLivePort s bundle ∧ ∀ l3Intf, bundle.l3Intf = some l3Intf →
      ∀ dstMac, nextHopMacAddr.bind env.ethAddrFromString = some dstMac →
        opsFpaVlanInternal s.hw l3Intf.vlanId = true ∨ Learned s.ml l3Intf.vlanId dstMac

variable {env : Env} {s : Sys} {bundle : Bundle}

theorem derefOfport_iff : (∃ port, derefOfport s (opsFpaGetOfportByPid s bundle.intfId) = .ok port) ↔
    HasLivePort s bundle := by
  rw [HasLivePort]
  cases found : opsFpaGetOfportByPid s bundle.intfId with
  | none => simp [derefOfport]
  | some ref =>
      cases live : s.ofports ref with
      | none => simp [derefOfport, live]
      | some port => simp [derefOfport, live]

theorem lookupByVlanAndMac_iff {ml : MacLearning} {vlanId : Nat} {mac : EthAddr} :
    opsFpaMacLearningLookupByVlanAndMac ml vlanId mac = none ↔ ¬ Learned ml vlanId mac := by
  rw [opsFpaMacLearningLookupByVlanAndMac, List.find?_eq_none, Learned]
  simp only [sameAddress, Bool.and_eq_true, decide_eq_true_eq, not_and, not_exists]
  exact ⟨fun absent entry member isVid isMac => absent entry member isMac isVid,
    fun absent entry member isMac isVid => absent entry member isVid isMac⟩

theorem l3EgressId_iff {l3Intf : L3Intf} {dstMac : EthAddr} :
    (∃ egress, l3EgressId s l3Intf dstMac = .ok egress) ↔
      opsFpaVlanInternal s.hw l3Intf.vlanId = true ∨ Learned s.ml l3Intf.vlanId dstMac := by
  rw [l3EgressId]
  cases isInternal : opsFpaVlanInternal s.hw l3Intf.vlanId with
  | true => simp
  | false =>
      cases found : opsFpaMacLearningLookupByVlanAndMac s.ml l3Intf.vlanId dstMac with
      | none => simp [lookupByVlanAndMac_iff.mp found]
      | some entry =>
          have learned : Learned s.ml l3Intf.vlanId dstMac := by
            by_contra absent
            rw [lookupByVlanAndMac_iff.mpr absent] at found
            cases found
          simp [learned]

theorem addL3HostEntry_returns_iff {l3Intf : L3Intf} {up : OfprotoRef} {aux : Aux} {ipAddr nextHop : CString}
    (found : opsFpaFindBundle env s up aux = some bundle) (routed : bundle.l3Intf = some l3Intf) :
    (∃ result, addL3HostEntry env s up aux false ipAddr (some nextHop) = .ok result) ↔
      (∃ port, derefOfport s (opsFpaGetOfportByPid s bundle.intfId) = .ok port) ∧
        ∀ dstMac, env.ethAddrFromString nextHop = some dstMac →
          ∃ egress, l3EgressId s l3Intf dstMac = .ok egress := by
  simp only [addL3HostEntry, found, routed, Bool.false_eq_true, if_false]
  cases resolved : derefOfport s (opsFpaGetOfportByPid s bundle.intfId) with
  | error fault => simp
  | ok port =>
      cases parsed : env.ethAddrFromString nextHop with
      | none => simp
      | some dstMac =>
          cases egressFound : l3EgressId s l3Intf dstMac with
          | error fault => simp [egressFound]
          | ok egress =>
              cases address : hostAddress ipAddr with
              | none => simp [egressFound]
              | some ipv4Addr => simp [egressFound]

/-- For an existing bundle the call returns exactly when the lookups it makes find something. -/
theorem add_host_returns_iff_lookups_hit (env : Env) (s : Sys) (up : OfprotoRef) (aux : Aux)
    (bundle : Bundle) (found : opsFpaFindBundle env s up aux = some bundle) (isIpv6Addr : Bool)
    (ipAddr : CString) (nextHopMacAddr : Option CString) :
    (∃ result, addL3HostEntry env s up aux isIpv6Addr ipAddr nextHopMacAddr = .ok result) ↔
      LookupsHit env s bundle isIpv6Addr nextHopMacAddr := by
  rw [LookupsHit]
  cases isIpv6Addr with
  | true => simp [addL3HostEntry]
  | false =>
      cases nextHopMacAddr with
      | none => simp [addL3HostEntry]
      | some nextHop =>
          cases routed : bundle.l3Intf with
          | none => simp [addL3HostEntry, found, routed]
          | some l3Intf =>
              rw [addL3HostEntry_returns_iff found routed, derefOfport_iff]
              simp only [l3EgressId_iff]
              simp

def vlanInterface : Netdev := ⟨"vlan10".toList, .internal, fpaInvalidIntfId, 2#48⟩

def vlanSettings : BundleSettings :=
  { idleSettings with name := "vlan10".toList, slaves := [2], vlan := 10, enable := true }

/-- A routed VLAN interface next to a system port that the registry knows. -/
def routedVlan : List Call :=
  [.portConstruct 1 1 10 (systemNetdev 1) 1500, .bundleSet 1 100 (some (routedSettings 1024)),
    .portConstruct 1 2 20 vlanInterface 1500, .bundleSet 1 200 (some vlanSettings)]

theorem add_host_returns_learned : ∃ trace s, Run idealEnv idealSys trace s ∧
    ∃ bundle, opsFpaFindBundle idealEnv s 1 200 = some bundle ∧ bundle.l3Intf.isSome = true ∧
      LookupsHit idealEnv s bundle false (some "00:00:00:00:00:05".toList) := by
  obtain ⟨trace, s, run, routed, returns⟩ := run_of_check idealEnv idealSys
    (routedVlan ++ [.addressMsg ⟨.updateNew, 1, 10, 5#48⟩])
    (fun _ s => (opsFpaFindBundle idealEnv s 1 200).any (fun bundle => bundle.l3Intf.isSome) = true ∧
      (addL3HostEntry idealEnv s 1 200 false "10.0.0.2".toList
        (some "00:00:00:00:00:05".toList)).isOk = true) (by decide +kernel)
  obtain ⟨bundle, found, isRouted⟩ := (Option.any_eq_true _ _).mp routed
  cases returned : addL3HostEntry idealEnv s 1 200 false "10.0.0.2".toList
      (some "00:00:00:00:00:05".toList) with
  | error fault =>
      rw [returned] at returns
      cases returns
  | ok result =>
      exact ⟨trace, s, run, bundle, found, isRouted,
        (add_host_returns_iff_lookups_hit idealEnv s 1 200 bundle found false "10.0.0.2".toList _).mp
          ⟨result, returned⟩⟩

/-- The next hop was never learned on the VLAN: the FDB entry that is not there is read. -/
theorem add_host_reads_missing_entry : ∃ trace s, Run idealEnv idealSys trace s ∧
    (opsFpaFindBundle idealEnv s 1 200).any (fun bundle => bundle.l3Intf.isSome) = true ∧
    ¬ ∃ result, addL3HostEntry idealEnv s 1 200 false "10.0.0.2".toList
      (some "00:00:00:00:00:05".toList) = .ok result := by
  obtain ⟨trace, s, run, routed, faults⟩ := run_of_check idealEnv idealSys routedVlan
    (fun _ s => (opsFpaFindBundle idealEnv s 1 200).any (fun bundle => bundle.l3Intf.isSome) = true ∧
      (addL3HostEntry idealEnv s 1 200 false "10.0.0.2".toList
        (some "00:00:00:00:00:05".toList)).isOk = false) (by decide +kernel)
  refine ⟨trace, s, run, routed, ?_⟩
  rintro ⟨result, returned⟩
  rw [returned] at faults
  cases faults

end FpaPlugin
