import FpaPlugin.Ofproto

/-! `ops_fpa_ofproto_bundle_set` and `ops_fpa_ofproto_set_vlan`: how the settings of a
bundle reach the VLAN tables and the routed interfaces. -/

namespace FpaPlugin

def vnew (set : BundleSettings) : Bitmap :=
  let trunked := match set.trunks with
    | none => Bitmap.zero
    | some trunks =>
        Bitmap.forEach1 vlanBitmapSize (fun _ => trunks)
          (fun vid bits => (bits.set1 (vidxIngress vid true)).set1 (vidxEgress vid false))
          Bitmap.zero
  if set.vlanMode = .trunk then trunked
  else
    (trunked.set1 (vidxIngress set.vlan.toNat false)).set1
      (vidxEgress set.vlan.toNat (set.vlanMode ≠ .nativeTagged))

/-- The bits that `vnew` sets for `set->vlan` lie in the bitmap. -/
def vnewInBounds (set : BundleSettings) : Bool :=
  set.vlanMode = .trunk || 0 ≤ set.vlan && set.vlan < vmapBits

section

variable (env : Env)

def applyDiffBit (vlans desired : Bitmap) (pid : Int) (vidx : Nat) (state : Hw × Bitmap) :
    Hw × Bitmap :=
  if vlans (vidxVid vidx) then
    if desired vidx then ((opsFpaVlanAdd env state.1 pid vidx).2, state.2)
    else ((opsFpaVlanDel env state.1 pid vidx).2, state.2)
  else if desired vidx then (state.1, state.2.set1 vidx)
  else state

def applyDiff (hw : Hw) (vlans desired : Bitmap) (pid : Int) : Hw × Bitmap :=
  let fetched := opsFpaVlanFetch env hw.fpa pid
  let vdiff : Bitmap := fun vidx => fetched vidx ^^ desired vidx
  Bitmap.forEach1 vmapBits (fun _ => vdiff) (applyDiffBit env vlans desired pid) (hw, Bitmap.zero)

def setVmap (s : Sys) (ref : OfportRef) (port : Ofport) (result : Hw × Bitmap) : Sys :=
  { s with
    hw := result.1
    ofports := Function.update s.ofports ref (some { port with vmap := result.2 }) }

/-- The branch of `ops_fpa_ofproto_bundle_set` for a bundle that is not routed. -/
def configureL2 (s : Sys) (up : OfprotoRef) (bundle : Bundle) (set : BundleSettings) :
    Except Fault (Rc × Sys) :=
  if bundle.intfId = fpaInvalidIntfId then .ok (.ok, s)
  -- a bundle named like its ofproto is the internal interface
  else if bundle.name = some (s.ofprotos up).name then .ok (.ok, s)
  else if !vnewInBounds set then .error .outOfBounds
  else
    let found := opsFpaGetOfportByPid s bundle.intfId
    match found, derefOfport s found with
    | some ref, .ok port =>
        .ok (.ok, setVmap s ref port
          (applyDiff env s.hw (s.ofprotos up).vlans (vnew set) (netdevGetIfindex port.netdev)))
    | none, _ => .error .nullPointer
    | some _, .error fault => .error fault

/-- Addresses that left the list: each removal hands the primary address to
`delete_l3_host_entry`. -/
def removeSecondary (up : OfprotoRef) (aux : Aux) (kept : List CString) :
    List CString → Sys → Except Fault Sys
  | [], s => .ok s
  | address :: rest, s =>
      if address ∈ kept then removeSecondary up aux kept rest s
      else
        let s := modifyBundle s up aux fun bundle =>
          { bundle with secondaryIp4addr := bundle.secondaryIp4addr.erase address }
        match (opsFpaFindBundle env s up aux).bind Bundle.ip4addr with
        | none => .error .nullPointer
        | some primary =>
            match deleteL3HostEntry env s up aux false primary with
            | .error fault => .error fault
            | .ok (_, s) => removeSecondary up aux kept rest s

def addSecondary (up : OfprotoRef) (aux : Aux) : List CString → Sys → Except Fault Sys
  | [], s => .ok s
  | address :: rest, s =>
      match opsFpaFindBundle env s up aux with
      | none => .error .nullPointer
      | some bundle =>
          if address ∈ bundle.secondaryIp4addr then addSecondary up aux rest s
          else
            let s := modifyBundle s up aux fun bundle =>
              { bundle with secondaryIp4addr := address :: bundle.secondaryIp4addr }
            match bundle.ip4addr with
            | none => .error .nullPointer
            | some primary =>
                match addL3HostEntry env s up aux false primary none with
                | .error fault => .error fault
                | .ok (_, _, s) => addSecondary up aux rest s

def bundleIpv4SecondaryReconfigure (s : Sys) (up : OfprotoRef) (aux : Aux)
    (set : BundleSettings) : Except Fault Sys :=
  match opsFpaFindBundle env s up aux with
  | none => .error .nullPointer
  | some bundle =>
      match removeSecondary env up aux set.ip4AddressSecondary bundle.secondaryIp4addr s with
      | .error fault => .error fault
      | .ok s => addSecondary env up aux set.ip4AddressSecondary.dedup s

def removePrimary (s : Sys) (up : OfprotoRef) (aux : Aux) : Option CString → Except Fault Sys
  | none => .ok s
  | some address =>
      match deleteL3HostEntry env s up aux false address with
      | .error fault => .error fault
      | .ok (_, s) => .ok s

def setPrimary (s : Sys) (up : OfprotoRef) (aux : Aux) (address : CString) :
    Except Fault Sys :=
  let s := modifyBundle s up aux fun bundle => { bundle with ip4addr := some address }
  match addL3HostEntry env s up aux false address none with
  | .error fault => .error fault
  | .ok (_, _, s) => .ok s

def bundleIpReconfigure (s : Sys) (up : OfprotoRef) (aux : Aux) (set : BundleSettings) :
    Except Fault Sys :=
  match opsFpaFindBundle env s up aux with
  | none => .error .nullPointer
  | some bundle =>
      if set.primaryIpv4Changed then
        match set.ip4Address with
        | some address =>
            if bundle.ip4addr = some address then .ok s
            else
              match removePrimary env s up aux bundle.ip4addr with
              | .error fault => .error fault
              | .ok s => setPrimary env s up aux address
        | none =>
            match removePrimary env s up aux bundle.ip4addr with
            | .error fault => .error fault
            | .ok s => .ok (modifyBundle s up aux fun bundle => { bundle with ip4addr := none })
      else if set.secondaryIpv4Changed then bundleIpv4SecondaryReconfigure env s up aux set
      else .ok s

def routedVlanId (type : NetdevType) (set : BundleSettings) : Option Int :=
  match type with
  | .system => some (set.internalVlanId.getD 0)
  | .internal => some set.vlan
  | .vlansubint => none
  | .loopback => none

def disableIdleRouting (s : Sys) (up : OfprotoRef) (aux : Aux) (bundle : Bundle)
    (set : BundleSettings) : Sys :=
  match bundle.l3Intf with
  | none => s
  | some l3Intf =>
      if !set.enable && l3Intf.routesCount = 0 then
        setL3Intf { s with hw := opsFpaDisableRouting env s.hw l3Intf } up aux none
      else s

def enableRouting (hw : Hw) (type : NetdevType) (intfId : Int) (vlanId : Nat) (mac : EthAddr) :
    Option L3Intf × Hw :=
  match type with
  | .system => opsFpaEnableRoutingInterface env hw intfId vlanId mac
  | _ =>
      let (l3Intf, fpa) := opsFpaEnableRoutingVlan env hw.fpa vlanId mac
      (l3Intf, { hw with fpa })

/-- Routing as `set` asks for it. A system interface that cannot be enabled is an
error; an internal one is left without routing. -/
def configureRouting (s : Sys) (up : OfprotoRef) (bundle : Bundle) (port : Ofport)
    (vlanId : Int) (set : BundleSettings) : Rc × Sys :=
  let s := disableIdleRouting env s up bundle.aux bundle set
  let routed := (opsFpaFindBundle env s up bundle.aux).bind Bundle.l3Intf
  if vlanId ≠ 0 ∧ routed.isNone ∧ set.enable then
    let (l3Intf, hw) :=
      enableRouting env s.hw port.netdev.type bundle.intfId (uint16 vlanId) port.netdev.mac
    let s := setL3Intf { s with hw } up bundle.aux l3Intf
    if port.netdev.type = .system ∧ l3Intf.isNone then (.einval, s) else (.ok, s)
  else (.ok, s)

/-- Routing is to be enabled on a port with a VLAN id that `internal_vlans` has no bit for. -/
def overrunsRouting (s : Sys) (bundle : Bundle) (port : Ofport) (vlanId : Int)
    (set : BundleSettings) : Bool :=
  port.netdev.type = .system && vlanId ≠ 0 && bundle.l3Intf.isNone && set.enable &&
    overrunsInternalVlans env s.hw bundle.intfId (uint16 vlanId)

/-- The branch of `ops_fpa_ofproto_bundle_set` for a vrf. -/
def configureVrf (s : Sys) (up : OfprotoRef) (bundle : Bundle) (slave : Nat)
    (set : BundleSettings) : Except Fault (Rc × Sys) :=
  match (ofprotoGetPort s up slave).bind s.ofports with
  | none => .ok (.ok, s)
  | some port =>
      match routedVlanId port.netdev.type set with
      | none => .ok (if port.netdev.type = .loopback then .ok else .enosys, s)
      | some vlanId =>
          if overrunsRouting env s bundle port vlanId set then .error .outOfBounds
          else
            match configureRouting env s up bundle port vlanId set with
            | (.ok, s) =>
                match bundleIpReconfigure env s up bundle.aux set with
                | .error fault => .error fault
                | .ok s => .ok (.ok, s)
            | (rc, s) => .ok (rc, s)

def ensureBundle (s : Sys) (up : OfprotoRef) (aux : Aux) (slave : Nat) (name : CString) :
    Except Fault Sys :=
  let created : Except Fault Sys := match opsFpaFindBundle env s up aux with
    | some _ => .ok s
    | none => createBundle env s up aux slave
  match created with
  | .error fault => .error fault
  | .ok s => .ok (modifyBundle s up aux fun bundle => { bundle with name := some name })

def opsFpaOfprotoBundleSet (s : Sys) (up : OfprotoRef) (aux : Aux)
    (set : Option BundleSettings) : Except Fault (Rc × Sys) :=
  match set with
  | none => .ok (opsFpaRmBundle env s up aux)
  | some set =>
      match set.slaves with
      | [slave] =>
          match ensureBundle env s up aux slave set.name with
          | .error fault => .error fault
          | .ok s =>
              match opsFpaFindBundle env s up aux with
              | none => .error .nullPointer
              | some bundle =>
                  match (s.ofprotos up).type with
                  | .vrf => configureVrf env s up bundle slave set
                  | .system => configureL2 env s up bundle set
      | _ => .ok (.einval, s)

def enableVlanOnPort (hw : Hw) (vmap : Bitmap) (pid : Int) (vid : Nat) : Hw × Bitmap :=
  Bitmap.forEach1 vmapBits (fun state => state.2)
    (fun vidx state =>
      if vidxVid vidx = vid then ((opsFpaVlanAdd env state.1 pid vidx).2, state.2.set0 vidx)
      else state) (hw, vmap)

/-- The entries of the VLAN in FPA become pending. They are fetched under the
OpenFlow port number and deleted under the hardware port id. -/
def disableVlanOnPort (hw : Hw) (vmap : Bitmap) (ofpPort : Nat) (pid : Int) (vid : Nat) :
    Hw × Bitmap :=
  let l2asic := opsFpaVlanFetch env hw.fpa ofpPort
  Bitmap.forEach1 vmapBits (fun _ => l2asic)
    (fun vidx state =>
      if vidxVid vidx = vid then ((opsFpaVlanDel env state.1 pid vidx).2, state.2.set1 vidx)
      else state) (hw, vmap)

def setVlanOnPorts (vid : Nat) (add : Bool) : List Bundle → Sys → Except Fault Sys
  | [], s => .ok s
  | bundle :: rest, s =>
      match opsFpaGetOfportByPid s bundle.intfId with
      | none => setVlanOnPorts vid add rest s
      | some ref =>
          match derefOfport s (some ref) with
          | .error fault => .error fault
          | .ok port =>
              let pid := netdevGetIfindex port.netdev
              let result := if add then enableVlanOnPort env s.hw port.vmap pid vid
                else disableVlanOnPort env s.hw port.vmap port.ofpPort pid vid
              setVlanOnPorts vid add rest (setVmap s ref port result)

def opsFpaOfprotoSetVlan (s : Sys) (up : OfprotoRef) (vid : Fin 4096) (add : Bool) :
    Except Fault (Rc × Sys) :=
  match setVlanOnPorts env vid add (s.ofprotos up).bundles.values s with
  | .error fault => .error fault
  | .ok s =>
      .ok (.ok, { s with
        ofprotos := Function.update s.ofprotos up
          { s.ofprotos up with vlans := (s.ofprotos up).vlans.set vid add } })

end

end FpaPlugin
