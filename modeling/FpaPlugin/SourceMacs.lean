import FpaPlugin.HostGroups
import FpaPlugin.HostLookups
import FpaPlugin.MacFlows
import FpaPlugin.PortRegistry
import FpaPlugin.RoutingAdmin
import FpaPlugin.RoutingFlows

/-! The source MAC of a host's L3 group against the MAC of its routed interface. The interface
takes its MAC from the slave when routing is enabled; a host takes its own, when it is added, from
the port that the hardware id of the bundle leads to. -/

namespace FpaPlugin

/-- Every port with that netdev sees the new address. -/
def opsFpaNetdevSetEtheraddr (s : Sys) (name : CString) (mac : EthAddr) : Sys :=
  { s with
    ofports := fun ref => (s.ofports ref).map fun port =>
      if port.netdev.name = name then { port with netdev := { port.netdev with mac } } else port }

inductive NetCall
  | plugin (call : Call)
  | setEtheraddr (name : CString) (mac : EthAddr)

def netStep (env : Env) (s : Sys) : NetCall → Except Fault (Rc × Sys)
  | .plugin call => step env s call
  | .setEtheraddr name mac => .ok (.ok, opsFpaNetdevSetEtheraddr s name mac)

abbrev NetEvent := Runs.Event Sys NetCall Rc

abbrev NetTrace := List NetEvent

abbrev NetRun (env : Env) (start : Sys) : NetTrace → Sys → Prop := Runs.Run (netStep env) start

def Bucket.srcMac : Bucket → Option EthAddr
  | .l2Interface _ _ => none
  | .l3Unicast data => some data.srcMac

/-- The source MAC in the group of the ARP index that the host took. -/
def writtenSrcMac (env : Env) (event : NetEvent) : Option EthAddr :=
  ((fpaLibGroupIdentifierBuild env (.l3Unicast (event.before.arpIndices 0))).bind
    event.after.hw.fpa.asic.bucketOf).bind Bucket.srcMac

/-- The group of an added host has the MAC of its bundle's interface, and so have the termination
and ARP flows of that VLAN; a new address of a netdev changes none of these. -/
def SourceMacRight (env : Env) (event : NetEvent) : Prop :=
  match event.input with
  | .plugin (.addL3Host up aux _ _ _) => event.reply = .ok →
      ∃ l3Intf, l3IntfOf env event.before up aux = some l3Intf ∧
        writtenSrcMac env event = some l3Intf.mac ∧
        event.after.hw.fpa.asic.FlowsCarry l3Intf.vlanId l3Intf.mac
  | .setEtheraddr _ _ => event.after.hw = event.before.hw ∧
      ∀ up aux, l3IntfOf env event.after up aux = l3IntfOf env event.before up aux
  | _ => True

def configured : NetTrace → List (OfprotoRef × Aux)
  | [] => []
  | event :: earlier =>
      match event.input with
      | .plugin (.bundleSet up aux (some _)) => (up, aux) :: configured earlier
      | _ => configured earlier

/-- The port whose MAC routing took: the slave of the latest settings that found the bundle
without routing. -/
def enabledOn (env : Env) : NetTrace → OfprotoRef → Aux → Option OfportRef
  | [], _, _ => none
  | event :: earlier, up, aux =>
      match event.input with
      | .plugin (.bundleSet setUp setAux (some set)) =>
          if setUp = up ∧ setAux = aux ∧ l3IntfOf env event.before up aux = none then
            set.slaves.head?.bind (ofprotoGetPort event.before up)
          else enabledOn env earlier up aux
      | _ => enabledOn env earlier up aux

def routedWith (env : Env) (earlier : NetTrace) (s : Sys) (chosen : OfportRef → Bool) :
    List L3Intf :=
  (configured earlier).filterMap fun bundle =>
    if (enabledOn env earlier bundle.1 bundle.2).any chosen then l3IntfOf env s bundle.1 bundle.2
    else none

/-- The VLAN and the MAC that settings are to enable routing with. -/
def enablesWith (env : Env) (s : Sys) (up : OfprotoRef) (aux : Aux) (set : BundleSettings) :
    Option (Nat × EthAddr) :=
  if (s.ofprotos up).type = .vrf ∧ set.enable ∧ l3IntfOf env s up aux = none then
    (routedPort s up set).bind fun routed =>
      if routed.2 = 0 then none else some (uint16 routed.2, routed.1.netdev.mac)
  else none

/-- Each VLAN is routed by one bundle at a time, and no flow under another MAC is left on it. A
port that routing was enabled with keeps its MAC while it is routed, and the hardware id of the
bundle leads back to it. -/
def keepsMacs (env : Env) (earlier : NetTrace) (event : NetEvent) : Bool :=
  match event.input with
  | .setEtheraddr name mac =>
      (routedWith env earlier event.before fun ref =>
        (netdevAt event.before ref).any fun netdev => netdev.name = name).all
          fun l3Intf => l3Intf.mac = mac
  | .plugin (.portConstruct _ _ ref netdev _) =>
      (routedWith env earlier event.before fun other => other = ref).all
        fun l3Intf => l3Intf.mac = netdev.mac
  | .plugin (.bundleSet up aux (some set)) =>
      (enablesWith env event.before up aux set).all fun wanted =>
        event.before.hw.fpa.asic.clearFor wanted.1 wanted.2 &&
          (routedWith env earlier event.before fun _ => true).all
            fun l3Intf => l3Intf.vlanId ≠ wanted.1
  | .plugin (.addL3Host up aux _ _ _) =>
      (opsFpaFindBundle env event.before up aux).all fun bundle =>
        bundle.l3Intf = none ||
          opsFpaGetOfportByPid event.before bundle.intfId = enabledOn env earlier up aux
  | _ => true

variable {env : Env} {s next : Sys} {up : OfprotoRef} {aux : Aux} {rc : Rc}

/-! What becomes of the interface of a bundle. -/

def KeepsIntf (before after : Option L3Intf) : Prop :=
  ∀ l3Intf, after = some l3Intf →
    ∃ old, before = some old ∧ old.vlanId = l3Intf.vlanId ∧ old.mac = l3Intf.mac

theorem KeepsIntf.of_eq {before after : Option L3Intf} (same : after = before) :
    KeepsIntf before after := by
  intro l3Intf isAfter
  exact ⟨l3Intf, same ▸ isAfter, rfl, rfl⟩

theorem KeepsIntf.trans {before between after : Option L3Intf} (first : KeepsIntf before between)
    (second : KeepsIntf between after) : KeepsIntf before after := by
  intro l3Intf isAfter
  obtain ⟨middle, isMiddle, sameVlan, sameMac⟩ := second l3Intf isAfter
  obtain ⟨old, isOld, oldVlan, oldMac⟩ := first middle isMiddle
  exact ⟨old, isOld, oldVlan.trans sameVlan, oldMac.trans sameMac⟩

theorem deleteL3HostEntry_keepsIntf {isIpv6Addr : Bool} {ipAddr : CString}
    (taken : deleteL3HostEntry env s up aux isIpv6Addr ipAddr = .ok (rc, next))
    (other : OfprotoRef) (wanted : Aux) :
    KeepsIntf (l3IntfOf env s other wanted) (l3IntfOf env next other wanted) := by
  rcases deleteL3HostEntry_cases taken with ⟨_, rfl⟩ |
    ⟨_, _, bundle, old, _, entry, found, routed, _, _, rfl⟩
  · exact KeepsIntf.of_eq rfl
  · rw [l3IntfOf_deleteHost found]
    split
    · rename_i here
      obtain ⟨rfl, rfl⟩ := here
      intro l3Intf isAfter
      refine ⟨old, ?_, ?_⟩
      · rw [l3IntfOf, found, Option.bind_some, routed]
      · rw [releasedIntf] at isAfter
        split at isAfter
        · cases isAfter
        · cases isAfter
          exact ⟨rfl, rfl⟩
    · exact KeepsIntf.of_eq rfl

theorem addL3HostEntry_keepsIntf {isIpv6Addr : Bool} {ipAddr : CString}
    {nextHopMacAddr : Option CString} {reply : Option Int}
    (taken : addL3HostEntry env s up aux isIpv6Addr ipAddr nextHopMacAddr = .ok (rc, reply, next))
    (other : OfprotoRef) (wanted : Aux) :
    KeepsIntf (l3IntfOf env s other wanted) (l3IntfOf env next other wanted) := by
  rcases addL3HostEntry_cases taken with ⟨_, rfl⟩ | ⟨_, _, _, _, _, _, _, installed⟩
  · exact KeepsIntf.of_eq rfl
  · rcases installHost_cases installed with ⟨_, fpa, rfl | ⟨_, rfl⟩⟩ | ⟨_, fpa, _, _, _, rfl⟩
    · exact KeepsIntf.of_eq rfl
    · exact KeepsIntf.of_eq rfl
    · rw [l3IntfOf_hostAdded]
      split
      · rename_i here
        obtain ⟨rfl, rfl⟩ := here
        intro l3Intf isAfter
        obtain ⟨old, isOld, rfl⟩ := Option.map_eq_some_iff.mp isAfter
        exact ⟨old, isOld, rfl, rfl⟩
      · exact KeepsIntf.of_eq rfl

/-! What the tables hold for the interfaces. -/

/-- Every interface has its flows in the tables, and a VLAN of its own. -/
structure MacsInstalled (env : Env) (s : Sys) : Prop where
  cookied : s.hw.fpa.asic.Cookied
  alone : ∀ up aux other wanted l3Intf another, l3IntfOf env s up aux = some l3Intf →
    l3IntfOf env s other wanted = some another → another.vlanId = l3Intf.vlanId →
    other = up ∧ wanted = aux
  carries : ∀ up aux l3Intf, l3IntfOf env s up aux = some l3Intf →
    s.hw.fpa.asic.FlowsCarry l3Intf.vlanId l3Intf.mac

namespace MacsInstalled

theorem keeps (installed : MacsInstalled env s) {vlans : Nat → Prop}
    (issued : Issues env (MacCall vlans) s.hw.fpa next.hw.fpa)
    (intfs : ∀ up aux, KeepsIntf (l3IntfOf env s up aux) (l3IntfOf env next up aux))
    (spared : ∀ up aux l3Intf, l3IntfOf env next up aux = some l3Intf → ¬ vlans l3Intf.vlanId) :
    MacsInstalled env next where
  cookied := issued.cookied installed.cookied
  alone := by
    intro up aux other wanted l3Intf another isIntf isOther sameVlan
    obtain ⟨old, wasIntf, oldVlan, _⟩ := intfs up aux l3Intf isIntf
    obtain ⟨older, wasOther, otherVlan, _⟩ := intfs other wanted another isOther
    exact installed.alone up aux other wanted old older wasIntf wasOther
      (otherVlan.trans (sameVlan.trans oldVlan.symm))
  carries := by
    intro up aux l3Intf isIntf
    obtain ⟨old, wasIntf, sameVlan, sameMac⟩ := intfs up aux l3Intf isIntf
    have carried := installed.carries up aux old wasIntf
    rw [sameVlan, sameMac] at carried
    exact issued.flowsCarry installed.cookied (spared up aux l3Intf isIntf) carried

theorem spares (installed : MacsInstalled env s)
    (issued : Issues env (MacCall noVlan) s.hw.fpa next.hw.fpa)
    (intfs : ∀ up aux, KeepsIntf (l3IntfOf env s up aux) (l3IntfOf env next up aux)) :
    MacsInstalled env next :=
  installed.keeps issued intfs fun _ _ _ _ untouched => untouched

theorem congr (installed : MacsInstalled env s) (sameHw : next.hw = s.hw)
    (sameIntf : ∀ up aux, l3IntfOf env next up aux = l3IntfOf env s up aux) :
    MacsInstalled env next :=
  installed.spares (sameHw ▸ .none) fun up aux => KeepsIntf.of_eq (sameIntf up aux)

theorem disabled (installed : MacsInstalled env s) {old : L3Intf}
    (routed : l3IntfOf env s up aux = some old)
    (issued : Issues env (MacCall fun vlanId => vlanId = old.vlanId) s.hw.fpa next.hw.fpa)
    (intfs : ∀ other wanted, l3IntfOf env next other wanted =
      if other = up ∧ wanted = aux then none else l3IntfOf env s other wanted) :
    MacsInstalled env next := by
  refine installed.keeps issued (fun other wanted l3Intf isIntf => ?_)
    (fun other wanted l3Intf isIntf sameVlan => ?_)
  · rw [intfs] at isIntf
    split at isIntf
    · cases isIntf
    · exact ⟨l3Intf, isIntf, rfl, rfl⟩
  · rw [intfs] at isIntf
    split at isIntf
    · cases isIntf
    · rename_i different
      exact different (installed.alone up aux other wanted old l3Intf routed isIntf sameVlan)

theorem rmBundle (installed : MacsInstalled env s) (keyed : BundlesKeyed env s)
    (removed : opsFpaRmBundle env s up aux = (rc, next)) : MacsInstalled env next := by
  have intfs : ∀ other wanted, l3IntfOf env next other wanted =
      if other = up ∧ wanted = aux then none else l3IntfOf env s other wanted := by
    intro other wanted
    rw [l3IntfOf, findBundle_rmBundle keyed removed]
    split
    · rfl
    · rfl
  have removing := removed
  rw [opsFpaRmBundle] at removing
  split at removing
  · cases removing
    exact installed
  · rename_i bundle found
    have isHw := congrArg (fun result => result.2.hw) removing
    dsimp only at isHw
    cases routed : bundle.l3Intf with
    | none =>
        rw [routed] at isHw
        refine installed.congr isHw.symm fun other wanted => ?_
        rw [intfs]
        split
        · rename_i here
          rw [here.1, here.2, l3IntfOf, found, Option.bind_some, routed]
        · rfl
    | some l3Intf =>
        rw [routed] at isHw
        have isIntf : l3IntfOf env s up aux = some l3Intf := by
          rw [l3IntfOf, found, Option.bind_some, routed]
        refine installed.disabled isIntf ?_ intfs
        rw [← isHw]
        exact (disableRouting_issues s.hw l3Intf).mono RoutedVlanCall.onVlan

theorem deleteL3HostEntry (installed : MacsInstalled env s) {isIpv6Addr : Bool} {ipAddr : CString}
    (taken : deleteL3HostEntry env s up aux isIpv6Addr ipAddr = .ok (rc, next)) :
    MacsInstalled env next := by
  have kept := deleteL3HostEntry_keepsIntf taken
  rcases deleteL3HostEntry_cases taken with ⟨_, rfl⟩ |
    ⟨_, _, bundle, old, _, entry, found, routed, _, _, rfl⟩
  · exact installed
  · have issued : Issues env
        (MacCall fun vlanId => vlanId = old.vlanId ∧ releasedIntf old = none) s.hw.fpa
        (deleteHost env s up aux old entry).hw.fpa := by
      rw [deleteHost_eq]
      exact hostDeletedHw_onVlan s.hw old entry
    refine installed.keeps issued kept ?_
    · rintro other wanted l3Intf isIntf ⟨sameVlan, released⟩
      rw [l3IntfOf_deleteHost found, released] at isIntf
      split at isIntf
      · cases isIntf
      · rename_i different
        have wasRouted : l3IntfOf env s up aux = some old := by
          rw [l3IntfOf, found, Option.bind_some, routed]
        exact different (installed.alone up aux other wanted old l3Intf wasRouted isIntf sameVlan)

end MacsInstalled

theorem macsOn_routed {asic : Asic} {vlanId : Nat} {mac : EthAddr} {table : FlowTableType}
    (ofMac : table ∈ macTables) :
    (asic.routed vlanId mac).macsOn vlanId table = asic.macsOn vlanId table ++ [mac] := by
  simp only [macTables, List.mem_cons, List.not_mem_nil, or_false] at ofMac
  rcases ofMac with rfl | rfl
  · simp [Asic.routed, Asic.macsOn, Asic.apply, FlowEntry.vlanId, FlowEntry.destMac, unicastFlow]
  · simp [Asic.routed, Asic.macsOn, Asic.apply, FlowEntry.vlanId, FlowEntry.destMac, fwdFlow]

theorem enableRoutingVlan_carries {fpa after : Fpa} {vlanId : Nat} {mac : EthAddr}
    {l3Intf : L3Intf} (clear : fpa.asic.clearFor vlanId mac = true)
    (enabled : opsFpaEnableRoutingVlan env fpa vlanId mac = (some l3Intf, after)) :
    l3Intf.vlanId = vlanId ∧ l3Intf.mac = mac ∧ after.asic.FlowsCarry vlanId mac := by
  rcases enableRoutingVlan_outcome enabled with ⟨_, isSome, isAsic, _⟩ | ⟨_, _, absurdity, _⟩
  · cases isSome
    refine ⟨rfl, rfl, fun table ofMac => ?_⟩
    have clearOf := List.all_eq_true.mp clear table ofMac
    rw [isAsic, macsOn_routed ofMac]
    refine ⟨by simp, fun found member => ?_⟩
    rcases List.mem_append.mp member with old | new
    · exact of_decide_eq_true (List.all_eq_true.mp clearOf found old)
    · exact List.mem_singleton.mp new
  · cases absurdity

theorem enableRouting_carries {hw after : Hw} {type : NetdevType} {intfId : Int} {vlanId : Nat}
    {mac : EthAddr} {l3Intf : L3Intf} (cookied : hw.fpa.asic.Cookied)
    (clear : hw.fpa.asic.clearFor vlanId mac = true)
    (enabled : enableRouting env hw type intfId vlanId mac = (some l3Intf, after)) :
    l3Intf.vlanId = vlanId ∧ l3Intf.mac = mac ∧ after.fpa.asic.FlowsCarry vlanId mac := by
  cases type with
  | system =>
      have added := (@vlanAddInternal_issues env hw intfId vlanId).mono VlanCall.sparesMacs
      simp only [enableRouting, opsFpaEnableRoutingInterface] at enabled
      split at enabled
      · cases enabled
      · rename_i between isBetween
        rw [isBetween] at added
        split at enabled
        · cases enabled
        · rename_i worked
          cases enabled
          have stillClear : between.fpa.asic.clearFor vlanId mac = true := by
            refine List.all_eq_true.mpr fun table ofMac => ?_
            rw [added.macsOn cookied id ofMac]
            exact List.all_eq_true.mp clear table ofMac
          obtain ⟨isVlan, isMac, carries⟩ := enableRoutingVlan_carries stillClear worked
          exact ⟨isVlan, isMac, carries⟩
  | internal | vlansubint | loopback =>
      simp only [enableRouting, Prod.mk.injEq] at enabled
      obtain ⟨isIntf, isAfter⟩ := enabled
      rw [← isAfter]
      exact enableRoutingVlan_carries clear
        (Prod.ext isIntf rfl : opsFpaEnableRoutingVlan env hw.fpa vlanId mac = (some l3Intf, _))

structure RoomFor (env : Env) (s : Sys) (vlanId : Nat) (mac : EthAddr) : Prop where
  clear : s.hw.fpa.asic.clearFor vlanId mac = true
  unrouted : ∀ up aux l3Intf, l3IntfOf env s up aux = some l3Intf → l3Intf.vlanId ≠ vlanId

theorem MacsInstalled.enable (installed : MacsInstalled env s) {bundle : Bundle}
    (found : opsFpaFindBundle env s up aux = some bundle) {type : NetdevType} {intfId : Int}
    {vlanId : Nat} {mac : EthAddr} (room : RoomFor env s vlanId mac) {l3Intf : Option L3Intf}
    {hw : Hw} (unrouted : bundle.l3Intf = none)
    (enabled : enableRouting env s.hw type intfId vlanId mac = (l3Intf, hw)) :
    MacsInstalled env (setL3Intf { s with hw } up aux l3Intf) := by
  have issued := (@enableRouting_issues env s.hw type intfId vlanId mac).mono
    RoutedVlanCall.onVlan
  rw [enabled] at issued
  have foundHw : opsFpaFindBundle env { s with hw } up aux = some bundle := found
  have intfs := fun other wanted => @l3IntfOf_setL3Intf env { s with hw } up aux bundle foundHw
    l3Intf other wanted
  have wasNone : l3IntfOf env s up aux = none := by
    rw [l3IntfOf, found, Option.bind_some, unrouted]
  have elsewhere : ∀ other wanted another,
      l3IntfOf env (setL3Intf { s with hw } up aux l3Intf) other wanted = some another →
      ¬(other = up ∧ wanted = aux) → l3IntfOf env s other wanted = some another := by
    intro other wanted another isIntf different
    rw [intfs, if_neg different] at isIntf
    exact isIntf
  cases l3Intf with
  | none =>
      have notHere : ∀ other wanted another,
          l3IntfOf env (setL3Intf { s with hw } up aux none) other wanted = some another →
          ¬(other = up ∧ wanted = aux) := by
        intro other wanted another isIntf here
        rw [intfs, if_pos here] at isIntf
        cases isIntf
      refine installed.keeps issued (fun other wanted another isIntf => ?_)
        (fun other wanted another isIntf => ?_)
      · exact ⟨another, elsewhere _ _ _ isIntf (notHere _ _ _ isIntf), rfl, rfl⟩
      · exact room.unrouted _ _ _ (elsewhere _ _ _ isIntf (notHere _ _ _ isIntf))
  | some live =>
      obtain ⟨isVlan, isMac, carries⟩ := enableRouting_carries installed.cookied room.clear enabled
      have isLive : ∀ other wanted another,
          l3IntfOf env (setL3Intf { s with hw } up aux (some live)) other wanted = some another →
          (other = up ∧ wanted = aux) ∧ another = live ∨
            ¬(other = up ∧ wanted = aux) ∧ l3IntfOf env s other wanted = some another := by
        intro other wanted another isIntf
        by_cases here : other = up ∧ wanted = aux
        · rw [intfs, if_pos here] at isIntf
          exact .inl ⟨here, (Option.some.inj isIntf).symm⟩
        · exact .inr ⟨here, elsewhere _ _ _ isIntf here⟩
      refine ⟨issued.cookied installed.cookied, ?_, ?_⟩
      · intro first wanted other wantedOther l3Intf another isIntf isOther sameVlan
        rcases isLive _ _ _ isIntf with ⟨⟨rfl, rfl⟩, rfl⟩ | ⟨_, wasIntf⟩
        · rcases isLive _ _ _ isOther with ⟨here, _⟩ | ⟨_, wasOther⟩
          · exact here
          · exact (room.unrouted _ _ _ wasOther (sameVlan.trans isVlan)).elim
        · rcases isLive _ _ _ isOther with ⟨_, rfl⟩ | ⟨_, wasOther⟩
          · exact (room.unrouted _ _ _ wasIntf (sameVlan.symm.trans isVlan)).elim
          · exact installed.alone _ _ _ _ _ _ wasIntf wasOther sameVlan
      · intro other wanted another isIntf
        rcases isLive _ _ _ isIntf with ⟨_, rfl⟩ | ⟨_, wasIntf⟩
        · rw [isVlan, isMac]
          exact carries
        · exact issued.flowsCarry installed.cookied (room.unrouted _ _ _ wasIntf)
            (installed.carries _ _ _ wasIntf)

theorem MacsInstalled.configureRouting (installed : MacsInstalled env s) {bundle : Bundle}
    {port : Ofport} {vlanId : Int} {set : BundleSettings}
    (found : opsFpaFindBundle env s up bundle.aux = some bundle)
    (room : set.enable = true → bundle.l3Intf = none → vlanId ≠ 0 →
      RoomFor env s (uint16 vlanId) port.netdev.mac)
    (configured : configureRouting env s up bundle port vlanId set = (rc, next)) :
    MacsInstalled env next := by
  rcases configureRouting_cases found configured with
    ⟨l3Intf, _, routed, _, _, rfl⟩ | ⟨enable, unrouted, nonzero, l3Intf, hw, enabled, _, rfl⟩ |
    ⟨_, _, _, rfl⟩
  · have isIntf : l3IntfOf env s up bundle.aux = some l3Intf := by
      rw [l3IntfOf, found, Option.bind_some, routed]
    have foundHw : opsFpaFindBundle env { s with hw := opsFpaDisableRouting env s.hw l3Intf } up
        bundle.aux = some bundle := found
    refine installed.disabled isIntf ?_ fun other wanted =>
      l3IntfOf_setL3Intf foundHw none other wanted
    exact (disableRouting_issues s.hw l3Intf).mono RoutedVlanCall.onVlan
  · exact installed.enable found (room enable unrouted nonzero) unrouted enabled
  · exact installed

theorem enablesWith_of_request (keyed : BundlesKeyed env s) {slave : Nat} {set : BundleSettings}
    {ensured : Sys} {bundle : Bundle} {port : Ofport} {vlanId : Int}
    (single : set.slaves = [slave])
    (created : ensureBundle env s up aux slave set.name = .ok ensured)
    (found : opsFpaFindBundle env ensured up aux = some bundle)
    (request : RoutingRequest env ensured up bundle slave set port vlanId)
    (enable : set.enable = true) (unrouted : bundle.l3Intf = none) (nonzero : vlanId ≠ 0) :
    enablesWith env s up aux set = some (uint16 vlanId, port.netdev.mac) := by
  have isVrf : (s.ofprotos up).type = .vrf :=
    (ensureBundle_ofproto created up).1.symm.trans request.isVrf
  have wasNone : l3IntfOf env s up aux = none := by
    rw [← l3IntfOf_ensureBundle keyed created, l3IntfOf, found, Option.bind_some, unrouted]
  rw [enablesWith, if_pos ⟨isVrf, enable, wasNone⟩, routedPort_ensured single created,
    request.isPort, Option.bind_some, request.supported]
  simp [nonzero]

theorem MacsInstalled.bundleSet (installed : MacsInstalled env s) (keyed : BundlesKeyed env s)
    {set : Option BundleSettings}
    (room : ∀ settings wanted, set = some settings →
      enablesWith env s up aux settings = some wanted → RoomFor env s wanted.1 wanted.2)
    (taken : opsFpaOfprotoBundleSet env s up aux set = .ok (rc, next)) :
    MacsInstalled env next := by
  rcases bundleSet_cases taken with ⟨_, removed⟩ | ⟨_, _, _, _, rfl⟩ |
    ⟨settings, slave, ensured, bundle, isSome, single, created, found, configured⟩
  · exact installed.rmBundle keyed removed
  · exact installed
  · have sameIntf := l3IntfOf_ensureBundle keyed created
    have sameHw := (ensureBundle_frame created).1
    have ensuredInstalled := installed.congr sameHw sameIntf
    have isAux := findBundle_aux found
    subst isAux
    refine configured_invariant (MacsInstalled env) found ?_ ?_
      (fun _ _ _ _ _ kept deleted => kept.deleteL3HostEntry deleted) ?_ ensuredInstalled configured
    · intro port vlanId outcome between request found routing
      refine ensuredInstalled.configureRouting found (fun enable unrouted nonzero => ?_) routing
      have asked :=
        enablesWith_of_request keyed single created found request enable unrouted nonzero
      obtain ⟨clear, free⟩ := room settings _ isSome asked
      exact ⟨by rw [sameHw]; exact clear,
        fun other wanted l3Intf isIntf => free other wanted l3Intf (sameIntf other wanted ▸ isIntf)⟩
    · intro state update keeps kept
      exact kept.congr rfl fun other wanted => l3IntfOf_modifyBundle keeps other wanted
    · intro ref port _
      refine ensuredInstalled.spares ?_ fun other wanted => KeepsIntf.of_eq ?_
      · rw [hw_setVmap]
        exact (applyDiff_issues _ _ _ _).mono VlanCall.sparesMacs
      · rw [l3IntfOf, findBundle_congr (setVmap_frame _ _ _ _).2.2.2.1, l3IntfOf]

theorem peripheral_spares {call : Call} (peripheral : call.IsPeripheral)
    (taken : step env s call = .ok (rc, next)) :
    Issues env (MacCall noVlan) s.hw.fpa next.hw.fpa := by
  cases call with
  | bundleSet | addL3Host | deleteL3Host => exact peripheral.elim
  | routeAction action route => exact l3RouteAction_spares (Except.ok.inj taken)
  | setVlan up vid add =>
      obtain ⟨_, done, _, rfl⟩ := setVlan_cases taken
      exact (setVlanOnPorts_issues _ _ done).mono VlanCall.sparesMacs
  | portConstruct =>
      cases taken
      exact .none
  | portDestruct =>
      cases taken
      simp only [opsFpaOfprotoPortDestruct]
      split
      · exact .none
      · exact .none
  | addressMsg =>
      obtain ⟨_, _, rfl, rfl⟩ := step_addressMsg taken
      exact .none
  | fdbFlush =>
      obtain ⟨_, _, rfl, rfl⟩ := step_fdbFlush taken
      exact .none

theorem MacsInstalled.step (installed : MacsInstalled env s) (keyed : BundlesKeyed env s)
    {call : Call}
    (room : ∀ up aux set wanted, call = .bundleSet up aux (some set) →
      enablesWith env s up aux set = some wanted → RoomFor env s wanted.1 wanted.2)
    (taken : step env s call = .ok (rc, next)) : MacsInstalled env next := by
  rcases step_cases taken with ⟨up, aux, set, rfl, isSet⟩ | ⟨_, _, _, _, _, _, rfl, added⟩ |
    ⟨_, _, _, _, rfl, deleted⟩ | ⟨peripheral, _, _, same⟩
  · exact installed.bundleSet keyed
      (fun settings wanted isSome => room up aux settings wanted (by rw [isSome])) isSet
  · exact installed.spares (addL3HostEntry_spares added) (addL3HostEntry_keepsIntf added)
  · exact installed.deleteL3HostEntry deleted
  · refine installed.spares (peripheral_spares peripheral taken) fun up aux => KeepsIntf.of_eq ?_
    rw [l3IntfOf, l3IntfOf, opsFpaFindBundle, opsFpaFindBundle, (same up).1]

def EnabledBy (env : Env) (s next : Sys) (up : OfprotoRef) (aux : Aux) (netdev : Netdev) : Prop :=
  l3IntfOf env s up aux = none ∧ ∀ l3Intf, l3IntfOf env next up aux = some l3Intf →
    l3Intf.mac = netdev.mac

theorem enableRouting_mac {hw after : Hw} {type : NetdevType} {intfId : Int} {vlanId : Nat}
    {mac : EthAddr} {l3Intf : L3Intf}
    (enabled : enableRouting env hw type intfId vlanId mac = (some l3Intf, after)) :
    l3Intf.mac = mac := by
  have onVlan : ∀ fpa live later,
      opsFpaEnableRoutingVlan env fpa vlanId mac = (some live, later) → live.mac = mac := by
    intro fpa live later worked
    rcases enableRoutingVlan_outcome worked with ⟨_, isSome, _⟩ | ⟨_, _, absurdity, _⟩
    · cases isSome
      rfl
    · cases absurdity
  cases type with
  | system =>
      simp only [enableRouting, opsFpaEnableRoutingInterface] at enabled
      split at enabled
      · cases enabled
      · split at enabled
        · cases enabled
        · rename_i live _ worked
          cases enabled
          exact onVlan _ live _ worked
  | internal | vlansubint | loopback =>
      simp only [enableRouting, Prod.mk.injEq] at enabled
      exact onVlan _ _ _ (Prod.ext enabled.1 rfl)

theorem bundleIpReconfigure_keepsIntf {set : BundleSettings} {bundle : Bundle}
    (found : opsFpaFindBundle env s up aux = some bundle)
    (done : bundleIpReconfigure env s up aux set = .ok next) :
    KeepsIntf (l3IntfOf env s up aux) (l3IntfOf env next up aux) := by
  refine bundleIpReconfigure_invariant (fun state =>
    KeepsIntf (l3IntfOf env s up aux) (l3IntfOf env state up aux)) ?_ found ?_
    (KeepsIntf.of_eq rfl) done
  · intro state update keeps kept
    rw [l3IntfOf_modifyBundle keeps]
    exact kept
  · intro state _ after address _ kept deleted
    exact kept.trans (deleteL3HostEntry_keepsIntf deleted up aux)

theorem configureRouting_intf {bundle : Bundle} {port : Ofport} {vlanId : Int}
    {set : BundleSettings} (found : opsFpaFindBundle env s up bundle.aux = some bundle)
    (configured : configureRouting env s up bundle port vlanId set = (rc, next)) :
    KeepsIntf (l3IntfOf env s up bundle.aux) (l3IntfOf env next up bundle.aux) ∨
      EnabledBy env s next up bundle.aux port.netdev := by
  have nowIntf : ∀ hw l3Intf,
      l3IntfOf env (setL3Intf { s with hw } up bundle.aux l3Intf) up bundle.aux = l3Intf := by
    intro hw l3Intf
    rw [@l3IntfOf_setL3Intf env { s with hw } up bundle.aux bundle found, if_pos ⟨rfl, rfl⟩]
  rcases configureRouting_cases found configured with
    ⟨_, _, _, _, _, rfl⟩ | ⟨_, unrouted, _, l3Intf, hw, enabled, _, rfl⟩ | ⟨_, _, _, rfl⟩
  · refine .inl fun l3Intf isAfter => ?_
    rw [nowIntf] at isAfter
    cases isAfter
  · refine .inr ⟨?_, fun live isAfter => ?_⟩
    · rw [l3IntfOf, found, Option.bind_some, unrouted]
    · rw [nowIntf] at isAfter
      subst isAfter
      exact enableRouting_mac enabled
  · exact .inl (KeepsIntf.of_eq rfl)

theorem configureVrf_intf {bundle : Bundle} {slave : Nat} {set : BundleSettings}
    (found : opsFpaFindBundle env s up bundle.aux = some bundle)
    (configured : configureVrf env s up bundle slave set = .ok (rc, next)) :
    KeepsIntf (l3IntfOf env s up bundle.aux) (l3IntfOf env next up bundle.aux) ∨
    ∃ ref netdev, ofprotoGetPort s up slave = some ref ∧ netdevAt s ref = some netdev ∧
      EnabledBy env s next up bundle.aux netdev := by
  rcases configureVrf_cases configured with ⟨rfl, _⟩ |
    ⟨port, vlanId, between, outcome, isPort, _, _, routing, after⟩
  · exact .inl (KeepsIntf.of_eq rfl)
  · obtain ⟨ref, isRef, isPort⟩ := Option.bind_eq_some_iff.mp isPort
    have later : KeepsIntf (l3IntfOf env between up bundle.aux)
        (l3IntfOf env next up bundle.aux) := by
      rcases after with ⟨_, _, readdressed⟩ | ⟨_, _, rfl⟩
      · obtain ⟨_, stillFound⟩ := findBundle_configureRouting found routing
        exact bundleIpReconfigure_keepsIntf stillFound readdressed
      · exact KeepsIntf.of_eq rfl
    rcases configureRouting_intf found routing with kept | ⟨unrouted, enabled⟩
    · exact .inl (kept.trans later)
    · refine .inr ⟨ref, port.netdev, isRef, by rw [netdevAt, isPort]; rfl, unrouted, ?_⟩
      intro l3Intf isAfter
      obtain ⟨old, isOld, _, sameMac⟩ := later l3Intf isAfter
      exact sameMac.symm.trans (enabled old isOld)

theorem bundleSet_intf (keyed : BundlesKeyed env s) {settings : BundleSettings}
    (taken : opsFpaOfprotoBundleSet env s up aux (some settings) = .ok (rc, next)) :
    KeepsIntf (l3IntfOf env s up aux) (l3IntfOf env next up aux) ∨
    ∃ ref netdev, settings.slaves.head?.bind (ofprotoGetPort s up) = some ref ∧
      netdevAt s ref = some netdev ∧ EnabledBy env s next up aux netdev := by
  rcases bundleSet_cases taken with ⟨absurdity, _⟩ | ⟨_, _, _, _, rfl⟩ |
    ⟨_, slave, ensured, bundle, same, single, created, found, configured⟩
  · cases absurdity
  · exact .inl (KeepsIntf.of_eq rfl)
  · cases same
    have isAux := findBundle_aux found
    subst isAux
    have sameIntf := l3IntfOf_ensureBundle keyed created up bundle.aux
    obtain ⟨_, _, _, sameOfports, _⟩ := ensureBundle_frame created
    have samePorts := (ensureBundle_ofproto created up).2.2.1
    rcases configured with ⟨_, vrf⟩ | ⟨_, bridge⟩
    · rcases configureVrf_intf found vrf with kept | ⟨ref, netdev, isRef, isNetdev, unrouted, enabled⟩
      · exact .inl (sameIntf ▸ kept)
      · refine .inr ⟨ref, netdev, ?_, ?_, sameIntf ▸ unrouted, enabled⟩
        · rw [single, List.head?_cons, Option.bind_some, ← isRef, ofprotoGetPort, ofprotoGetPort,
            samePorts]
        · rw [← isNetdev, netdevAt_congr sameOfports]
    · refine .inl (KeepsIntf.of_eq ?_)
      rw [← sameIntf]
      rcases (configureL2_cases bridge).2 with ⟨rfl, _⟩ | ⟨_, _, _, _, _, _, rfl⟩
      · rfl
      · rw [l3IntfOf, findBundle_congr (setVmap_frame _ _ _ _).2.2.2.1, l3IntfOf]

/-! The run. -/

section Invariant

variable {trace : NetTrace} {call : Call}

structure MacInvariant (env : Env) (trace : NetTrace) (s : Sys) : Prop where
  keyed : BundlesKeyed env s
  installed : MacsInstalled env s
  macs : ∀ up aux l3Intf, l3IntfOf env s up aux = some l3Intf →
    ∃ ref, enabledOn env trace up aux = some ref ∧
      ∀ netdev, netdevAt s ref = some netdev → netdev.mac = l3Intf.mac

theorem Initial.macInvariant (initial : Initial s) : MacInvariant env [] s where
  keyed := initial.bundlesKeyed
  installed := by
    refine ⟨?_, ?_, ?_⟩
    · intro table _ flow member
      rw [initial.asic] at member
      cases member
    · intro up aux other wanted l3Intf another routed
      rw [initial.l3IntfOf_none] at routed
      cases routed
    · intro up aux l3Intf routed
      rw [initial.l3IntfOf_none] at routed
      cases routed
  macs := by
    intro up aux l3Intf routed
    rw [initial.l3IntfOf_none] at routed
    cases routed

theorem mem_configured {ref : OfportRef} (enabled : enabledOn env trace up aux = some ref) :
    (up, aux) ∈ configured trace := by
  induction trace with
  | nil => cases enabled
  | cons event earlier ih =>
      rw [enabledOn] at enabled
      rw [configured]
      split at enabled
      · split at enabled
        · rename_i here
          obtain ⟨rfl, rfl, _⟩ := here
          exact List.mem_cons_self
        · exact List.mem_cons_of_mem _ (ih enabled)
      · exact ih enabled

theorem mem_routedWith {ref : OfportRef} {chosen : OfportRef → Bool} {l3Intf : L3Intf}
    (enabled : enabledOn env trace up aux = some ref) (isChosen : chosen ref = true)
    (routed : l3IntfOf env s up aux = some l3Intf) : l3Intf ∈ routedWith env trace s chosen := by
  refine List.mem_filterMap.mpr ⟨(up, aux), mem_configured enabled, ?_⟩
  rw [enabled, Option.any_some, if_pos isChosen, routed]

theorem MacInvariant.keeps (invariant : MacInvariant env trace s) {event : NetEvent}
    (keyed : BundlesKeyed env next) (installed : MacsInstalled env next)
    (intfs : ∀ up aux, KeepsIntf (l3IntfOf env s up aux) (l3IntfOf env next up aux))
    (enabled : ∀ up aux, enabledOn env (event :: trace) up aux = enabledOn env trace up aux)
    (macs : ∀ up aux l3Intf ref, l3IntfOf env s up aux = some l3Intf →
      enabledOn env trace up aux = some ref → ∀ netdev, netdevAt next ref = some netdev →
        netdevAt s ref = some netdev ∨ netdev.mac = l3Intf.mac) :
    MacInvariant env (event :: trace) next := by
  refine ⟨keyed, installed, fun up aux l3Intf routed => ?_⟩
  obtain ⟨old, wasRouted, _, sameMac⟩ := intfs up aux l3Intf routed
  obtain ⟨ref, isEnabled, isMac⟩ := invariant.macs up aux old wasRouted
  refine ⟨ref, (enabled up aux).trans isEnabled, fun netdev isNetdev => ?_⟩
  rw [← sameMac]
  rcases macs up aux old ref wasRouted isEnabled netdev isNetdev with known | given
  · exact isMac netdev known
  · exact given

theorem enabledOn_call {rc : Rc} (notSet : ∀ up aux set, call ≠ .bundleSet up aux (some set))
    (other : OfprotoRef) (wanted : Aux) :
    enabledOn env (⟨s, .plugin call, rc, next⟩ :: trace) other wanted =
      enabledOn env trace other wanted := by
  rw [enabledOn]
  split
  · rename_i setUp setAux set isSet
    exact absurd (NetCall.plugin.inj isSet) (notSet setUp setAux set)
  · rfl

theorem netdev_of_step (taken : step env s call = .ok (rc, next))
    (kept : keepsMacs env trace ⟨s, .plugin call, rc, next⟩ = true) (up : OfprotoRef) (aux : Aux)
    (l3Intf : L3Intf) (ref : OfportRef) (routed : l3IntfOf env s up aux = some l3Intf)
    (enabled : enabledOn env trace up aux = some ref) (netdev : Netdev)
    (isNetdev : netdevAt next ref = some netdev) :
    netdevAt s ref = some netdev ∨ netdev.mac = l3Intf.mac := by
  rcases netdevAt_step taken ref with same | ⟨_, _, given, _, rfl, isGiven⟩ | ⟨_, _, _, _, gone⟩
  · exact .inl (same ▸ isNetdev)
  · rw [isGiven] at isNetdev
    cases isNetdev
    have member : l3Intf ∈ routedWith env trace s fun other => other = ref :=
      mem_routedWith enabled (by simp) routed
    rw [keepsMacs, List.all_eq_true] at kept
    exact .inr (of_decide_eq_true (kept l3Intf member)).symm
  · rw [gone] at isNetdev
    cases isNetdev

theorem MacInvariant.bundleSet (invariant : MacInvariant env trace s)
    (installed : MacsInstalled env next) {set : Option BundleSettings}
    (taken : opsFpaOfprotoBundleSet env s up aux set = .ok (rc, next)) :
    MacInvariant env (⟨s, .plugin (.bundleSet up aux set), rc, next⟩ :: trace) next := by
  have keyed := bundleSet_keyed invariant.keyed taken
  have sameNetdev := netdevAt_bundleSet taken
  have others : ∀ other wanted, ¬(other = up ∧ wanted = aux) →
      KeepsIntf (l3IntfOf env s other wanted) (l3IntfOf env next other wanted) :=
    fun other wanted different =>
      KeepsIntf.of_eq (bundleSet_l3IntfOf_other invariant.keyed taken different)
  cases set with
  | none =>
      refine invariant.keeps keyed installed (fun other wanted => ?_) (enabledOn_call (by simp)) ?_
      · by_cases here : other = up ∧ wanted = aux
        · obtain ⟨rfl, rfl⟩ := here
          intro l3Intf isAfter
          rw [opsFpaOfprotoBundleSet, Except.ok.injEq] at taken
          rw [l3IntfOf, findBundle_rmBundle invariant.keyed taken, if_pos ⟨rfl, rfl⟩] at isAfter
          cases isAfter
        · exact others other wanted here
      · exact fun _ _ _ ref _ _ netdev isNetdev => .inl (sameNetdev ref ▸ isNetdev)
  | some settings =>
      refine ⟨keyed, installed, fun other wanted l3Intf routed => ?_⟩
      rw [enabledOn]
      dsimp only
      have atIntf : KeepsIntf (l3IntfOf env s other wanted) (l3IntfOf env next other wanted) ∨
          (other = up ∧ wanted = aux) ∧ ∃ ref netdev,
            settings.slaves.head?.bind (ofprotoGetPort s up) = some ref ∧
            netdevAt s ref = some netdev ∧ EnabledBy env s next up aux netdev := by
        by_cases here : other = up ∧ wanted = aux
        · obtain ⟨rfl, rfl⟩ := here
          rcases bundleSet_intf invariant.keyed taken with kept | enabled
          · exact .inl kept
          · exact .inr ⟨⟨rfl, rfl⟩, enabled⟩
        · exact .inl (others other wanted here)
      rcases atIntf with kept | ⟨⟨rfl, rfl⟩, ref, netdev, isRef, isNetdev, unrouted, enabled⟩
      · obtain ⟨old, wasRouted, _, sameMac⟩ := kept l3Intf routed
        obtain ⟨ref, isEnabled, isMac⟩ := invariant.macs other wanted old wasRouted
        rw [if_neg (by simp [wasRouted])]
        refine ⟨ref, isEnabled, fun netdev isNetdev => ?_⟩
        rw [← sameMac]
        exact isMac netdev (sameNetdev ref ▸ isNetdev)
      · rw [if_pos ⟨rfl, rfl, unrouted⟩]
        refine ⟨ref, isRef, fun now isNow => ?_⟩
        rw [sameNetdev, isNetdev] at isNow
        cases isNow
        exact (enabled l3Intf routed).symm

theorem MacInvariant.room (invariant : MacInvariant env trace s) {set : BundleSettings}
    {wanted : Nat × EthAddr}
    (kept : keepsMacs env trace ⟨s, .plugin (.bundleSet up aux (some set)), rc, next⟩ = true)
    (asked : enablesWith env s up aux set = some wanted) : RoomFor env s wanted.1 wanted.2 := by
  simp only [keepsMacs, asked, Option.all_some, Bool.and_eq_true, List.all_eq_true,
    decide_eq_true_eq] at kept
  refine ⟨kept.1, fun other aux l3Intf routed => ?_⟩
  obtain ⟨ref, isEnabled, _⟩ := invariant.macs other aux l3Intf routed
  exact kept.2 l3Intf (mem_routedWith isEnabled rfl routed)

theorem MacInvariant.plugin (invariant : MacInvariant env trace s)
    (taken : step env s call = .ok (rc, next))
    (kept : keepsMacs env trace ⟨s, .plugin call, rc, next⟩ = true) :
    MacInvariant env (⟨s, .plugin call, rc, next⟩ :: trace) next := by
  have keyed := step_keyed invariant.keyed taken
  have netdevs := netdev_of_step taken kept
  have installed : MacsInstalled env next := by
    refine invariant.installed.step invariant.keyed ?_ taken
    rintro up aux set wanted rfl asked
    exact invariant.room kept asked
  rcases step_cases taken with ⟨up, aux, set, rfl, isSet⟩ | ⟨_, _, _, _, _, _, rfl, added⟩ |
    ⟨_, _, _, _, rfl, deleted⟩ | ⟨peripheral, _, _, same⟩
  · exact invariant.bundleSet installed isSet
  · exact invariant.keeps keyed installed (addL3HostEntry_keepsIntf added)
      (enabledOn_call (by simp)) netdevs
  · exact invariant.keeps keyed installed (deleteL3HostEntry_keepsIntf deleted)
      (enabledOn_call (by simp)) netdevs
  · refine invariant.keeps keyed installed (fun up aux => KeepsIntf.of_eq ?_) (enabledOn_call ?_)
      netdevs
    · rw [l3IntfOf, l3IntfOf, opsFpaFindBundle, opsFpaFindBundle, (same up).1]
    · rintro up aux set rfl
      exact peripheral

theorem netdevAt_setEtheraddr (s : Sys) (name : CString) (mac : EthAddr) (ref : OfportRef) :
    netdevAt (opsFpaNetdevSetEtheraddr s name mac) ref =
      (netdevAt s ref).map fun netdev => if netdev.name = name then { netdev with mac } else netdev := by
  simp only [netdevAt, opsFpaNetdevSetEtheraddr, Option.map_map]
  congr 1
  funext port
  by_cases same : port.netdev.name = name
  · simp [same]
  · simp [same]

theorem MacInvariant.setEtheraddr (invariant : MacInvariant env trace s) {name : CString}
    {mac : EthAddr}
    (kept : keepsMacs env trace ⟨s, .setEtheraddr name mac, .ok,
      opsFpaNetdevSetEtheraddr s name mac⟩ = true) :
    MacInvariant env (⟨s, .setEtheraddr name mac, .ok, opsFpaNetdevSetEtheraddr s name mac⟩ :: trace)
      (opsFpaNetdevSetEtheraddr s name mac) := by
  refine invariant.keeps invariant.keyed (invariant.installed.congr rfl fun _ _ => rfl)
    (fun _ _ => KeepsIntf.of_eq rfl) (fun _ _ => rfl) ?_
  intro up aux l3Intf ref routed enabled netdev isNetdev
  rw [netdevAt_setEtheraddr] at isNetdev
  obtain ⟨old, isOld, rfl⟩ := Option.map_eq_some_iff.mp isNetdev
  split
  · rename_i same
    have member : l3Intf ∈ routedWith env trace s fun other =>
        (netdevAt s other).any fun netdev => netdev.name = name :=
      mem_routedWith enabled (by simp [isOld, same]) routed
    rw [keepsMacs, List.all_eq_true] at kept
    exact .inr (of_decide_eq_true (kept l3Intf member)).symm
  · exact .inl isOld

theorem MacInvariant.event (invariant : MacInvariant env trace s) {input : NetCall}
    (taken : netStep env s input = .ok (rc, next))
    (kept : keepsMacs env trace ⟨s, input, rc, next⟩ = true) :
    MacInvariant env (⟨s, input, rc, next⟩ :: trace) next := by
  cases input with
  | plugin call => exact invariant.plugin taken kept
  | setEtheraddr name mac =>
      cases taken
      exact invariant.setEtheraddr kept

end Invariant

theorem HostInstalled.bucketOf {vlanId mtu : Nat} {egress : Int} {srcMac dstMac : EthAddr}
    {ipv4Addr : InAddr} {fpa : Fpa} {l2Group l3Group : Nat}
    (installed : HostInstalled env s vlanId mtu egress srcMac dstMac ipv4Addr fpa l2Group l3Group) :
    fpaLibGroupIdentifierBuild env (.l3Unicast (s.arpIndices 0)) = some l3Group ∧
      fpa.asic.bucketOf l3Group = some (.l3Unicast ⟨dstMac, srcMac, vlanId, mtu, l2Group⟩) := by
  obtain ⟨_, fpaL2, fpaL3, _, addedL3, addedRoute⟩ := installed
  obtain ⟨built, asicL3⟩ := addL3Group_some addedL3
  have groups := @addRouteFlow_groups env fpaL3 (routeFlow env l3Group .none ipv4Addr 32)
  rw [← opsFpaRouteAddRoute, addedRoute] at groups
  refine ⟨built, ?_⟩
  rw [Asic.bucketOf_congr groups, asicL3]
  exact Asic.bucketOf_groupEntryBucketAdd (by simp)

/-- A host takes the MAC that the port of the bundle's hardware id has now. -/
theorem writtenSrcMac_added {isIpv6Addr : Bool} {ipAddr : CString}
    {nextHopMacAddr : Option CString} {reply : Option Int} (input : NetCall)
    (added : addL3HostEntry env s up aux isIpv6Addr ipAddr nextHopMacAddr = .ok (.ok, reply, next)) :
    ∃ bundle l3Intf ref netdev, opsFpaFindBundle env s up aux = some bundle ∧
      bundle.l3Intf = some l3Intf ∧ opsFpaGetOfportByPid s bundle.intfId = some ref ∧
      netdevAt s ref = some netdev ∧ writtenSrcMac env ⟨s, input, .ok, next⟩ = some netdev.mac := by
  rcases addL3HostEntry_cases added with ⟨absurdity, _⟩ |
    ⟨bundle, l3Intf, port, _, _, _, request, installing⟩
  · cases absurdity
  · rcases installHost_cases installing with ⟨absurdity, _⟩ | ⟨_, fpa, _, _, installed, rfl⟩
    · cases absurdity
    · obtain ⟨built, bucket⟩ := installed.bucketOf
      have resolved := request.resolved
      cases found : opsFpaGetOfportByPid s bundle.intfId with
      | none =>
          rw [found] at resolved
          cases resolved
      | some ref =>
          rw [found, derefOfport] at resolved
          cases live : s.ofports ref with
          | none =>
              rw [live] at resolved
              cases resolved
          | some known =>
              rw [live] at resolved
              cases resolved
              refine ⟨bundle, l3Intf, ref, port.netdev, request.found, request.routed, found, ?_, ?_⟩
              · rw [netdevAt, live]
                rfl
              · rw [writtenSrcMac, built, Option.bind_some]
                exact (congrArg (Option.bind · Bucket.srcMac) bucket).trans rfl

theorem MacInvariant.right {trace : NetTrace} (invariant : MacInvariant env trace s)
    {input : NetCall} (taken : netStep env s input = .ok (rc, next))
    (kept : keepsMacs env trace ⟨s, input, rc, next⟩ = true) :
    SourceMacRight env ⟨s, input, rc, next⟩ := by
  rw [SourceMacRight]
  split
  · rename_i up aux isIpv6Addr ipAddr nextHopMacAddr isAdd
    obtain rfl : input = _ := isAdd
    intro isOk
    obtain rfl : rc = .ok := isOk
    have stepped : step env s (.addL3Host up aux isIpv6Addr ipAddr nextHopMacAddr) =
        .ok (.ok, next) := taken
    rcases step_cases stepped with ⟨_, _, _, absurdity, _⟩ | ⟨_, _, _, _, _, _, same, added⟩ |
      ⟨_, _, _, _, absurdity, _⟩ | ⟨absurdity, _⟩
    · cases absurdity
    · cases same
      obtain ⟨bundle, l3Intf, ref, netdev, found, routed, isRef, isNetdev, written⟩ :=
        writtenSrcMac_added (.plugin (.addL3Host up aux isIpv6Addr ipAddr nextHopMacAddr)) added
      have isIntf : l3IntfOf env s up aux = some l3Intf := by
        rw [l3IntfOf, found, Option.bind_some, routed]
      obtain ⟨enabled, isEnabled, isMac⟩ := invariant.macs up aux l3Intf isIntf
      simp only [keepsMacs, found, Option.all_some, routed, isRef, isEnabled] at kept
      obtain rfl : ref = enabled := by simpa using kept
      exact ⟨l3Intf, isIntf, written.trans (congrArg some (isMac netdev isNetdev)),
        (addL3HostEntry_spares added).flowsCarry invariant.installed.cookied id
          (invariant.installed.carries up aux l3Intf isIntf)⟩
    · cases absurdity
    · exact absurdity.elim
  · rename_i name mac isSet
    obtain rfl : input = _ := isSet
    cases taken
    exact ⟨rfl, fun _ _ => rfl⟩
  · trivial

theorem source_macs_right (env : Env) {start state : Sys} (initial : Initial start)
    {trace : NetTrace} (run : NetRun env start trace state)
    (along : Runs.Along (fun earlier event => keepsMacs env earlier event = true) trace) :
    ∀ event ∈ trace, SourceMacRight env event := by
  have both : MacInvariant env trace state ∧ ∀ event ∈ trace, SourceMacRight env event := by
    induction run with
    | nil => exact ⟨initial.macInvariant, fun _ member => nomatch member⟩
    | cons _ taken ih =>
        obtain ⟨invariant, right⟩ := ih along.2
        refine ⟨invariant.event taken along.1, fun event member => ?_⟩
        rcases List.mem_cons.mp member with rfl | earlier
        · exact invariant.right taken along.1
        · exact right event earlier
  exact both.2

def addsHost (up : OfprotoRef) (aux : Aux) (event : NetEvent) : Bool :=
  match event.input with
  | .plugin (.addL3Host addUp addAux _ _ _) => addUp = up && addAux = aux && event.reply = .ok
  | _ => false

theorem SourceMacRight.added {event : NetEvent} (right : SourceMacRight env event)
    (adds : addsHost up aux event = true) :
    ∃ l3Intf, l3IntfOf env event.before up aux = some l3Intf ∧
      writtenSrcMac env event = some l3Intf.mac ∧
      event.after.hw.fpa.asic.FlowsCarry l3Intf.vlanId l3Intf.mac := by
  rw [addsHost] at adds
  split at adds
  · rename_i isAdd
    simp only [Bool.and_eq_true, decide_eq_true_eq] at adds
    obtain ⟨⟨rfl, rfl⟩, isOk⟩ := adds
    rw [SourceMacRight, isAdd] at right
    exact right isOk
  · cases adds

def routedPortCalls : List NetCall :=
  [.plugin (.portConstruct 1 1 10 (systemNetdev 1) 1500),
    .plugin (.bundleSet 1 100 (some (routedSettings 1024)))]

def hostCall (aux : Aux) : NetCall :=
  .plugin (.addL3Host 1 aux false "10.0.0.2".toList (some "00:00:00:00:00:05".toList))

theorem source_macs_right_host : ∃ trace s, NetRun idealEnv idealSys trace s ∧
    trace.any (addsHost 1 100) = true ∧ ∀ event ∈ trace, SourceMacRight idealEnv event := by
  obtain ⟨trace, s, run, adds, along⟩ := Runs.Run.of_check
    (routedPortCalls ++ [.setEtheraddr "2".toList 9#48, hostCall 100])
    (fun (trace : NetTrace) (_ : Sys) => trace.any (addsHost 1 100) = true ∧
      Runs.Along (fun earlier event => keepsMacs idealEnv earlier event = true) trace)
    (by decide +kernel : (Runs.replay (netStep idealEnv) [] idealSys _).any _ = true)
  exact ⟨trace, s, run, adds, source_macs_right idealEnv idealSys_initial run along⟩

/-- The last event adds a host, under another MAC than that of its interface or next to a flow with
another one. -/
def AddsHostUnder (trace : NetTrace) (aux : Aux) (srcMac intfMac : EthAddr) (carried : Bool) :
    Prop :=
  trace.head?.any (fun event =>
    addsHost 1 aux event && writtenSrcMac idealEnv event = some srcMac &&
      (l3IntfOf idealEnv event.before 1 aux).any fun l3Intf => l3Intf.mac = intfMac &&
        decide (event.after.hw.fpa.asic.FlowsCarry l3Intf.vlanId l3Intf.mac) = carried) = true

instance AddsHostUnder.decidable (trace : NetTrace) (aux : Aux) (srcMac intfMac : EthAddr)
    (carried : Bool) : Decidable (AddsHostUnder trace aux srcMac intfMac carried) :=
  inferInstanceAs (Decidable (_ = true))

theorem AddsHostUnder.wrong {trace : NetTrace} {srcMac intfMac : EthAddr} {carried : Bool}
    (adds : AddsHostUnder trace aux srcMac intfMac carried)
    (different : srcMac ≠ intfMac ∨ carried = false) :
    ¬ ∀ event ∈ trace, SourceMacRight idealEnv event := by
  intro right
  obtain ⟨event, isHead, misses⟩ := (Option.any_eq_true _ _).mp adds
  obtain ⟨earlier, rfl⟩ := List.head?_eq_some_iff.mp isHead
  simp only [Bool.and_eq_true, decide_eq_true_eq] at misses
  obtain ⟨⟨isAdd, isSrc⟩, has⟩ := misses
  obtain ⟨l3Intf, isIntf, written, carries⟩ := (right event List.mem_cons_self).added isAdd
  rw [isIntf, Option.any_some, Bool.and_eq_true, decide_eq_true_eq, decide_eq_true_eq] at has
  rcases different with other | absurdity
  · rw [isSrc] at written
    exact other ((Option.some.inj written).trans has.1)
  · rw [absurdity, decide_eq_false_iff_not] at has
    exact has.2 carries

theorem changed_mac_differs : ∃ trace s, NetRun idealEnv idealSys trace s ∧
    AddsHostUnder trace 100 9#48 1#48 true :=
  Runs.Run.of_check (routedPortCalls ++ [.setEtheraddr "1".toList 9#48, hostCall 100])
    (fun (trace : NetTrace) (_ : Sys) => AddsHostUnder trace 100 9#48 1#48 true)
    (by decide +kernel : (Runs.replay (netStep idealEnv) [] idealSys _).any _ = true)

theorem vlan_interface_differs : ∃ trace s, NetRun idealEnv idealSys trace s ∧
    AddsHostUnder trace 200 1#48 2#48 true :=
  Runs.Run.of_check
    (routedVlan.map .plugin ++ [.plugin (.addressMsg ⟨.updateNew, 1, 10, 5#48⟩), hostCall 200])
    (fun (trace : NetTrace) (_ : Sys) => AddsHostUnder trace 200 1#48 2#48 true)
    (by decide +kernel : (Runs.replay (netStep idealEnv) [] idealSys _).any _ = true)

theorem shared_vlan_differs : ∃ trace s, NetRun idealEnv idealSys trace s ∧
    AddsHostUnder trace 100 1#48 1#48 false :=
  Runs.Run.of_check
    (routedPortCalls ++ [.plugin (.portConstruct 1 2 20 vlanInterface 1500),
      .plugin (.bundleSet 1 200 (some { vlanSettings with vlan := 1024 })), hostCall 100])
    (fun (trace : NetTrace) (_ : Sys) => AddsHostUnder trace 100 1#48 1#48 false)
    (by decide +kernel : (Runs.replay (netStep idealEnv) [] idealSys _).any _ = true)

/-- The MAC of a routed port is changed; a VLAN interface is next to a system port, or on its
internal VLAN. -/
theorem source_macs_differ :
    (∃ trace s, NetRun idealEnv idealSys trace s ∧ AddsHostUnder trace 100 9#48 1#48 true ∧
      ¬ ∀ event ∈ trace, SourceMacRight idealEnv event) ∧
    (∃ trace s, NetRun idealEnv idealSys trace s ∧ AddsHostUnder trace 200 1#48 2#48 true ∧
      ¬ ∀ event ∈ trace, SourceMacRight idealEnv event) ∧
    ∃ trace s, NetRun idealEnv idealSys trace s ∧ AddsHostUnder trace 100 1#48 1#48 false ∧
      ¬ ∀ event ∈ trace, SourceMacRight idealEnv event := by
  refine ⟨?_, ?_, ?_⟩
  · obtain ⟨trace, s, run, adds⟩ := changed_mac_differs
    exact ⟨trace, s, run, adds, adds.wrong (.inl (by decide))⟩
  · obtain ⟨trace, s, run, adds⟩ := vlan_interface_differs
    exact ⟨trace, s, run, adds, adds.wrong (.inl (by decide))⟩
  · obtain ⟨trace, s, run, adds⟩ := shared_vlan_differs
    exact ⟨trace, s, run, adds, adds.wrong (.inr rfl)⟩

end FpaPlugin
