import FpaPlugin.VlanSync
import FpaPlugin.VlanLoops

/-! Disabling a VLAN hands its entries from the switch to the pending maps of the ports, and
enabling it hands them back. The entries are looked up under the OpenFlow number of a port and
deleted under its hardware number, by keys that entries of other VLANs may share. -/

namespace FpaPlugin

section Ports

def bundlePorts (s : Sys) (up : OfprotoRef) : List OfportRef :=
  (s.ofprotos up).bundles.values.filterMap fun bundle => opsFpaGetOfportByPid s bundle.intfId

def hwNumber (s : Sys) (ref : OfportRef) : Nat :=
  match s.ofports ref with
  | some port => portNum (netdevGetIfindex port.netdev)
  | none => 0

/-- Every bundle is resolved to an ofport of its own, the one with its hardware number. -/
structure ResolvesPorts (s : Sys) (up : OfprotoRef) : Prop where
  own : ∀ bundle ∈ (s.ofprotos up).bundles.values, ∀ ref,
    opsFpaGetOfportByPid s bundle.intfId = some ref → ∃ port, s.ofports ref = some port ∧
      netdevGetIfindex port.netdev = bundle.intfId ∧ 0 ≤ bundle.intfId ∧ bundle.intfId < 65536
  distinct : (bundlePorts s up).Nodup

def visitPort (env : Env) (vid : Nat) (add : Bool) (s : Sys) (ref : OfportRef) : Sys :=
  match s.ofports ref with
  | none => s
  | some port => setVmap s ref port (setVlanOnPort env s.hw port vid add)

variable {env : Env} {s : Sys} {up : OfprotoRef} {vid : Nat} {add : Bool}

structure PortAt (s : Sys) (ref : OfportRef) (port : Ofport) (number : Nat) : Prop where
  isPort : s.ofports ref = some port
  ifindex : netdevGetIfindex port.netdev = number
  bound : number < 65536
  lookup : opsFpaGetOfportByPid s number = some ref

theorem PortAt.hwNumber_eq {ref : OfportRef} {port : Ofport} {number : Nat}
    (portAt : PortAt s ref port number) : hwNumber s ref = number := by
  rw [hwNumber, portAt.isPort]
  simp only [portAt.ifindex, portNum_natCast portAt.bound]

theorem ResolvesPorts.portAt (resolves : ResolvesPorts s up) {ref : OfportRef}
    (member : ref ∈ bundlePorts s up) : ∃ port number, PortAt s ref port number := by
  obtain ⟨bundle, isBundle, lookup⟩ := List.mem_filterMap.mp member
  obtain ⟨port, isPort, isPid, nonneg, bound⟩ := resolves.own bundle isBundle ref lookup
  have isNumber : ((bundle.intfId.toNat : Nat) : Int) = bundle.intfId := by omega
  refine ⟨port, bundle.intfId.toNat, isPort, ?_, by omega, ?_⟩
  · rw [isNumber, isPid]
  · rw [isNumber, lookup]

theorem visitPort_ofports_ne {ref other : OfportRef} (different : other ≠ ref) :
    (visitPort env vid add s ref).ofports other = s.ofports other := by
  rw [visitPort]
  split
  · rfl
  · exact Function.update_of_ne different _ _

theorem visitPort_frame (s : Sys) (ref : OfportRef) :
    (visitPort env vid add s ref).ofprotos = s.ofprotos ∧
      (visitPort env vid add s ref).portsByPid = s.portsByPid := by
  rw [visitPort]
  split
  · exact ⟨rfl, rfl⟩
  · exact ⟨rfl, rfl⟩

theorem visitPort_live {ref other : OfportRef} (live : s.ofports other ≠ none) :
    (visitPort env vid add s ref).ofports other ≠ none := by
  rw [visitPort]
  split
  · exact live
  · by_cases here : other = ref
    · rw [here]
      simp [setVmap]
    · simpa [setVmap, here] using live

theorem visitPorts_frame (refs : List OfportRef) (s : Sys) :
    (refs.foldl (visitPort env vid add) s).ofprotos = s.ofprotos ∧
      (refs.foldl (visitPort env vid add) s).portsByPid = s.portsByPid := by
  induction refs generalizing s with
  | nil => exact ⟨rfl, rfl⟩
  | cons ref rest ih =>
      obtain ⟨ofprotos, ports⟩ := @visitPort_frame env vid add s ref
      obtain ⟨laterOfprotos, laterPorts⟩ := ih (visitPort env vid add s ref)
      exact ⟨laterOfprotos.trans ofprotos, laterPorts.trans ports⟩

theorem visitPorts_ofports_ne (refs : List OfportRef) (s : Sys) {other : OfportRef}
    (elsewhere : other ∉ refs) :
    (refs.foldl (visitPort env vid add) s).ofports other = s.ofports other := by
  induction refs generalizing s with
  | nil => rfl
  | cons ref rest ih =>
      rw [List.mem_cons, not_or] at elsewhere
      rw [List.foldl_cons, ih _ elsewhere.2, visitPort_ofports_ne elsewhere.1]

theorem visitPorts_ofports {earlier later : List OfportRef} {ref : OfportRef} {port : Ofport}
    (distinct : (earlier ++ ref :: later).Nodup) (isPort : s.ofports ref = some port) :
    ((earlier ++ ref :: later).foldl (visitPort env vid add) s).ofports ref =
      some { port with
        vmap := (setVlanOnPort env (earlier.foldl (visitPort env vid add) s).hw port vid add).2 } := by
  obtain ⟨notEarlier, notLater⟩ : ref ∉ earlier ∧ ref ∉ later := by
    rw [List.nodup_middle, List.nodup_cons, List.mem_append, not_or] at distinct
    exact distinct.1
  have stillPort : (earlier.foldl (visitPort env vid add) s).ofports ref = some port := by
    rw [visitPorts_ofports_ne _ _ notEarlier, isPort]
  rw [List.foldl_append, List.foldl_cons, visitPorts_ofports_ne _ _ notLater, visitPort, stillPort]
  simp [setVmap]

theorem setVlanOnPorts_eq (bundles : List Bundle) (s : Sys)
    (live : ∀ bundle ∈ bundles, ∀ ref, opsFpaGetOfportByPid s bundle.intfId = some ref →
      s.ofports ref ≠ none) :
    setVlanOnPorts env vid add bundles s =
      .ok ((bundles.filterMap fun bundle => opsFpaGetOfportByPid s bundle.intfId).foldl
        (visitPort env vid add) s) := by
  induction bundles generalizing s with
  | nil => rfl
  | cons bundle rest ih =>
      have restLive := fun other among => live other (List.mem_cons_of_mem bundle among)
      simp only [setVlanOnPorts]
      cases lookup : opsFpaGetOfportByPid s bundle.intfId with
      | none =>
          simp only [List.filterMap_cons, lookup]
          exact ih s restLive
      | some ref =>
          obtain ⟨port, isPort⟩ := Option.ne_none_iff_exists'.mp
            (live bundle List.mem_cons_self ref lookup)
          simp only [List.filterMap_cons, lookup, List.foldl_cons, derefOfport, isPort]
          have visited : visitPort env vid add s ref =
              setVmap s ref port (setVlanOnPort env s.hw port vid add) := by
            rw [visitPort, isPort]
          rw [visited]
          refine ih _ fun other among otherRef otherLookup => ?_
          rw [← setVlanOnPort, ← visited]
          exact visitPort_live (restLive other among otherRef otherLookup)

end Ports

section Drained

/-- Tables with nothing but entries of the plugin: below the type bits of a group identifier
there are only L2-interface groups. -/
structure PluginTables (asic : Asic) : Prop extends ViewTables asic where
  l2Groups : ∀ group ∈ asic.groups, group.groupIdentifier < 2 ^ 28 → ∃ port vid popTag,
    port < 65536 ∧ vid < 4096 ∧ group = ⟨vid * 65536 + port, some (.l2Interface port popTag)⟩

theorem PluginTables.step {env : Env} {hw next : Hw} {call : ViewCall} {reply : Unit}
    (readsBack : env.ReadsBack) (tables : PluginTables hw.fpa.asic)
    (taken : viewStep env hw call = .ok (reply, next)) : PluginTables next.fpa.asic := by
  refine ⟨tables.toViewTables.step readsBack taken, fun group member low => ?_⟩
  cases call with
  | vlanAdd pid vidx =>
      rcases viewStep_vlanAdd taken with ⟨_, gid, built, replaces⟩ | ⟨_, isNext⟩
      · rcases (replaces.groups group).mp member with ⟨was, _⟩ | ⟨_, isBucket, rfl⟩
        · exact tables.l2Groups group was low
        · cases isBucket
          obtain ⟨portBound, bound, rfl⟩ := l2Group_eq built
          exact ⟨_, _, _, portBound, bound, rfl⟩
      · rw [isNext] at member
        exact tables.l2Groups group member low
  | vlanDel pid vidx =>
      rcases viewStep_vlanDel taken with ⟨_, gid, _, replaces⟩ | ⟨_, isNext⟩
      · rcases (replaces.groups group).mp member with ⟨was, _⟩ | ⟨_, isNone, _⟩
        · exact tables.l2Groups group was low
        · cases isNone
      · rw [isNext] at member
        exact tables.l2Groups group member low
  | addL3Group =>
      obtain ⟨gid, built, _, replaces⟩ := viewStep_addL3Group readsBack taken
      rcases (replaces.groups group).mp member with ⟨was, _⟩ | ⟨_, _, rfl⟩
      · exact tables.l2Groups group was low
      · have high := l3Group_eq built
        have base : l3GroupBase = 2 ^ 28 := rfl
        simp only at low
        omega
  | delL3Group =>
      obtain ⟨gid, _, replaces⟩ := viewStep_delL3Group taken
      rcases (replaces.groups group).mp member with ⟨was, _⟩ | ⟨_, isNone, _⟩
      · exact tables.l2Groups group was low
      · cases isNone

theorem pluginTables_reached {env : Env} (readsBack : env.ReadsBack) {start state : Hw}
    {trace : List (Runs.Event Hw ViewCall Unit)} (noFlows : start.fpa.asic.flows .vlan = [])
    (noGroups : start.fpa.asic.groups = []) (run : Runs.Run (viewStep env) start trace state) :
    PluginTables state.fpa.asic := by
  induction run with
  | nil =>
      refine ⟨⟨?_, ?_⟩, ?_⟩
      · simp [noFlows]
      · simp [noGroups]
      · simp [noGroups]
  | cons _ taken ih => exact ih.step readsBack taken

/-- The tables less the entries of a VLAN on some ports. -/
structure Drained (asic after : Asic) (gone : Nat → Prop) (vid : Nat) : Prop where
  others : ∀ table, table ≠ .vlan → after.flows table = asic.flows table
  flows : ∀ flow, flow ∈ after.flows .vlan ↔ flow ∈ asic.flows .vlan ∧
    ¬ (flow.data.vlanId = vid ∧ gone flow.data.inPort)
  groups : ∀ group, group ∈ after.groups ↔ group ∈ asic.groups ∧
    ∀ port, gone port → port < 65536 → group.groupIdentifier ≠ vid * 65536 + port

def ShownByL3 (env : Env) (asic : Asic) (pid : Int) (vidx : Nat) : Prop :=
  ∃ group ∈ asic.groups, 2 ^ 28 ≤ group.groupIdentifier ∧ groupMarks env pid group vidx

/-- What `ops_fpa_vlan_fetch` finds under a number once the ports in `walked` are drained. -/
def FoundAtTurn (env : Env) (fpa : Fpa) (walked : Nat → Prop) (pid : Int) (vidx : Nat) : Prop :=
  opsFpaVlanFetch env fpa pid vidx = true ∧
    (walked (portNum pid) → ShownByL3 env fpa.asic pid vidx)

variable {env : Env} {fpa later : Fpa} {walked : Nat → Prop} {vid port : Nat}

theorem installed_ingress {asic : Asic} (bound : vid < 4096) (pid : Int) (tagged : Bool) :
    Installed asic pid (vidxIngress vid tagged) ↔ vlanFlow pid vid tagged ∈ asic.flows .vlan := by
  rw [Installed, vidxIsEgress_ingress bound, if_neg Bool.false_ne_true, vidxVid_ingress bound,
    vidxArg_ingress bound]

theorem installed_egress {asic : Asic} (portBound : port < 65536) (bound : vid < 4096)
    (popTag : Bool) : Installed asic port (vidxEgress vid popTag) ↔
      ⟨vid * 65536 + port, some (.l2Interface port popTag)⟩ ∈ asic.groups := by
  rw [Installed, vidxIsEgress_egress bound, if_pos rfl, vidxVid_egress bound,
    vidxArg_egress bound, portNum_natCast portBound]
  simp only [l2Identifier_eq portBound, GroupIdent.Fits]
  exact and_iff_right ⟨portBound, bound⟩

theorem ViewTables.vlanId_lt {asic : Asic} (tables : ViewTables asic) {flow : FlowEntry .vlan}
    (member : flow ∈ asic.flows .vlan) : flow.data.vlanId < 4096 := by
  obtain ⟨_, _, _, bound, rfl⟩ := tables.flows flow member
  exact bound

theorem PluginTables.group_of_port {asic : Asic} (tables : PluginTables asic) {group : Group}
    (member : group ∈ asic.groups) (portBound : port < 65536) (bound : vid < 4096)
    (isGroup : group.groupIdentifier = vid * 65536 + port) :
    ∃ popTag, group = ⟨vid * 65536 + port, some (.l2Interface port popTag)⟩ := by
  obtain ⟨itsPort, itsVid, popTag, itsPortBound, itsBound, rfl⟩ :=
    tables.l2Groups group member (by omega)
  simp only at isGroup
  have isPort : itsPort = port := by omega
  have isVid : itsVid = vid := by omega
  exact ⟨popTag, by rw [isPort, isVid]⟩

theorem ViewTables.flow_of_port {asic : Asic} (tables : ViewTables asic)
    {flow : FlowEntry .vlan} (member : flow ∈ asic.flows .vlan) (portBound : port < 65536)
    (isPort : flow.data.inPort = port) :
    ∃ tagged, flow = vlanFlow port flow.data.vlanId tagged := by
  obtain ⟨pid, vid, tagged, _, rfl⟩ := tables.flows flow member
  have bounds := pid.property
  have isPid : pid.val = (port : Int) := by
    simp only [vlanFlow, portNum] at isPort
    omega
  exact ⟨tagged, by rw [isPid]; rfl⟩

theorem ViewTables.port_of_cookie {asic : Asic} (tables : ViewTables asic)
    {flow : FlowEntry .vlan} (member : flow ∈ asic.flows .vlan) (portBound : port < 65536)
    {tagged : Bool} (isCookie : flow.cookie = opsFpaVlanCookie port vid tagged) :
    flow.data.inPort = port := by
  obtain ⟨pid, itsVid, itsTagged, _, rfl⟩ := tables.flows flow member
  have lowBits : ∀ value, (itsVid <<< 32 ||| value) % 2 ^ 32 = value % 2 ^ 32 := by
    intro value
    rw [Nat.or_mod_two_pow, Nat.shiftLeft_eq, Nat.mul_mod_left, Nat.zero_or]
  have isLow : (vlanFlow pid itsVid itsTagged).cookie % 2 ^ 32 = portNum pid := by
    have truncated : (pid.val % 2 ^ 64).toNat % 2 ^ 32 = portNum pid.val := by
      rw [portNum]
      omega
    cases itsTagged with
    | true => exact (lowBits _).trans truncated
    | false => exact truncated
  rw [isCookie, cookie_eq portBound] at isLow
  change portNum pid.val = port
  omega

theorem fetch_drained (readsBack : env.ReadsBack) (tables : PluginTables fpa.asic)
    (drained : Drained fpa.asic later.asic walked vid) (pid : Int) {vidx : Nat}
    (isVid : vidxVid vidx = vid) :
    opsFpaVlanFetch env later pid vidx = true ↔ FoundAtTurn env fpa walked pid vidx := by
  have vidBound : vid < 4096 := isVid ▸ vidxVid_lt vidx
  have flowVid : ∀ flow ∈ fpa.asic.flows .vlan, flowMarks pid flow vidx →
      flow.data.vlanId = vid := by
    intro flow member marks
    rw [marks.2, vidxVid_ingress (tables.vlanId_lt member)] at isVid
    exact isVid
  have notWalked : ∀ group, groupMarks env pid group vidx → ¬ walked (portNum pid) →
      ∀ port, walked port → port < 65536 → group.groupIdentifier ≠ vid * 65536 + port := by
    intro group marks fresh port isWalked portBound isGroup
    rw [marks.1, isGroup, gidPort_l2Group portBound] at fresh
    exact fresh isWalked
  rw [fetch_tables readsBack, FoundAtTurn, fetch_tables readsBack]
  constructor
  · rintro (⟨group, member, marks⟩ | ⟨flow, member, marks⟩)
    · obtain ⟨member, kept⟩ := (drained.groups group).mp member
      refine ⟨.inl ⟨group, member, marks⟩, fun isWalked => ⟨group, member, ?_, marks⟩⟩
      by_contra isL2
      obtain ⟨port, itsVid, _, portBound, bound, rfl⟩ := tables.l2Groups group member (by omega)
      obtain ⟨isPort, _, _, isVidx⟩ := marks
      rw [gidPort_l2Group portBound] at isPort
      rw [isVidx, gidVlan_l2Group portBound bound, vidxVid_egress bound] at isVid
      exact kept port (isPort ▸ isWalked) portBound (by rw [isVid])
    · obtain ⟨member, kept⟩ := (drained.flows flow).mp member
      refine ⟨.inr ⟨flow, member, marks⟩, fun isWalked => absurd ?_ kept⟩
      exact ⟨flowVid flow member marks, marks.1 ▸ isWalked⟩
  · rintro ⟨shown, isL3⟩
    by_cases isWalked : walked (portNum pid)
    · obtain ⟨group, member, high, marks⟩ := isL3 isWalked
      refine .inl ⟨group, (drained.groups group).mpr ⟨member, fun port _ _ => ?_⟩, marks⟩
      omega
    · rcases shown with ⟨group, member, marks⟩ | ⟨flow, member, marks⟩
      · exact .inl ⟨group, (drained.groups group).mpr
          ⟨member, notWalked group marks isWalked⟩, marks⟩
      · refine .inr ⟨flow, (drained.flows flow).mpr ⟨member, ?_⟩, marks⟩
        rw [← marks.1]
        exact fun gone => isWalked gone.2

/-- At its turn a port has nothing of the VLAN pending, finds exactly its own entries of the VLAN
under its OpenFlow number, and shares none of their cookies with another VLAN. -/
structure HandsOverAtTurn (env : Env) (fpa : Fpa) (vid : Nat) (walked : Nat → Prop) (port : Ofport) :
    Prop where
  notPending : ∀ vidx, vidx < vmapBits → vidxVid vidx = vid → port.vmap vidx = false
  found : ∀ vidx, vidx < vmapBits → vidxVid vidx = vid →
    (FoundAtTurn env fpa walked port.ofpPort vidx ↔
      Installed fpa.asic (netdevGetIfindex port.netdev) vidx)
  apart : ∀ flow ∈ fpa.asic.flows .vlan, ∀ tagged,
    Installed fpa.asic (netdevGetIfindex port.netdev) (vidxIngress vid tagged) →
    flow.cookie = opsFpaVlanCookie (netdevGetIfindex port.netdev) vid tagged →
    flow.data.vlanId = vid

theorem Drained.withdraw (tables : PluginTables fpa.asic) (portBound : port < 65536)
    (bound : vid < 4096) (drained : Drained fpa.asic later.asic walked vid) {after : Asic}
    {found : Bitmap} (withdraws : Withdraws later.asic after found port vid)
    (isFound : ∀ vidx, vidx < vmapBits → vidxVid vidx = vid →
      (found vidx = true ↔ Installed fpa.asic port vidx))
    (apart : ∀ flow ∈ fpa.asic.flows .vlan, ∀ tagged,
      Installed fpa.asic port (vidxIngress vid tagged) →
      flow.cookie = opsFpaVlanCookie port vid tagged → flow.data.vlanId = vid) :
    Drained fpa.asic after (fun number => number = port ∨ walked number) vid := by
  have foundIngress := fun tagged =>
    isFound _ (vidxIngress_lt bound tagged) (vidxVid_ingress bound tagged)
  have foundEgress := fun popTag =>
    isFound _ (vidxEgress_lt bound popTag) (vidxVid_egress bound popTag)
  refine ⟨fun table different => ?_, fun flow => ?_, fun group => ?_⟩
  · rw [withdraws.others table different, drained.others table different]
  · simp only [withdraws.flows, drained.flows, foundIngress]
    constructor
    · rintro ⟨⟨member, kept⟩, different⟩
      refine ⟨member, ?_⟩
      rintro ⟨isVid, isPort | isWalked⟩
      · obtain ⟨tagged, isFlow⟩ := tables.flow_of_port member portBound isPort
        rw [isVid] at isFlow
        refine different tagged ?_ (by rw [isFlow]; rfl)
        rw [installed_ingress bound, ← isFlow]
        exact member
      · exact kept ⟨isVid, isWalked⟩
    · rintro ⟨member, kept⟩
      refine ⟨⟨member, fun gone => kept ⟨gone.1, .inr gone.2⟩⟩, fun tagged installed isCookie => ?_⟩
      exact kept ⟨apart flow member tagged installed isCookie,
        .inl (tables.port_of_cookie member portBound isCookie)⟩
  · simp only [withdraws.groups, drained.groups, foundEgress]
    constructor
    · rintro ⟨⟨member, kept⟩, different⟩
      refine ⟨member, ?_⟩
      rintro number (rfl | isWalked) numberBound isGroup
      · obtain ⟨popTag, isEntry⟩ := tables.group_of_port member portBound bound isGroup
        refine different popTag ?_ isGroup
        rw [installed_egress portBound bound, ← isEntry]
        exact member
      · exact kept number isWalked numberBound isGroup
    · rintro ⟨member, kept⟩
      exact ⟨⟨member, fun number isWalked => kept number (.inr isWalked)⟩,
        fun popTag _ => kept port (.inl rfl) portBound⟩

theorem Drained.reinstate (tables : PluginTables fpa.asic) (portBound : port < 65536)
    (bound : vid < 4096) (drained : Drained fpa.asic later.asic walked vid) {after : Asic}
    {pending : Bitmap} (reinstates : Reinstates later.asic after pending port vid)
    (isPending : ∀ vidx, vidx < vmapBits → vidxVid vidx = vid →
      (pending vidx = true ↔ Installed fpa.asic port vidx)) :
    Drained fpa.asic after (fun number => number ≠ port ∧ walked number) vid := by
  have pendingIngress := fun tagged =>
    isPending _ (vidxIngress_lt bound tagged) (vidxVid_ingress bound tagged)
  have pendingEgress := fun popTag =>
    isPending _ (vidxEgress_lt bound popTag) (vidxVid_egress bound popTag)
  refine ⟨fun table different => ?_, fun flow => ?_, fun group => ?_⟩
  · rw [reinstates.others table different, drained.others table different]
  · simp only [reinstates.flows, drained.flows, pendingIngress, installed_ingress bound]
    constructor
    · rintro (⟨member, kept⟩ | ⟨tagged, member, rfl⟩)
      · exact ⟨member, fun gone => kept ⟨gone.1, gone.2.2⟩⟩
      · exact ⟨member, fun gone => gone.2.1 (portNum_natCast portBound)⟩
    · rintro ⟨member, kept⟩
      by_cases own : flow.data.vlanId = vid ∧ flow.data.inPort = port
      · obtain ⟨tagged, isFlow⟩ := tables.flow_of_port member portBound own.2
        rw [own.1] at isFlow
        exact .inr ⟨tagged, isFlow ▸ member, isFlow⟩
      · refine .inl ⟨member, fun gone => kept ⟨gone.1, ?_, gone.2⟩⟩
        exact fun isPort => own ⟨gone.1, isPort⟩
  · simp only [reinstates.groups, drained.groups, pendingEgress, installed_egress portBound bound]
    constructor
    · rintro (⟨⟨member, kept⟩, _⟩ | ⟨popTag, member, rfl⟩)
      · exact ⟨member, fun number gone => kept number gone.2⟩
      · refine ⟨member, fun number gone _ same => gone.1 ?_⟩
        simp only at same
        omega
    · rintro ⟨member, kept⟩
      by_cases own : group.groupIdentifier = vid * 65536 + port
      · obtain ⟨popTag, isEntry⟩ := tables.group_of_port member portBound bound own
        exact .inr ⟨popTag, isEntry ▸ member, isEntry⟩
      · refine .inl ⟨⟨member, fun number gone numberBound => ?_⟩, fun _ _ => own⟩
        by_cases here : number = port
        · rw [here]
          exact own
        · exact kept number ⟨here, gone⟩ numberBound

theorem PluginTables.one_form {asic : Asic} (tables : PluginTables asic) (portBound : port < 65536)
    (bound : vid < 4096) (keeps : Installed asic port (vidxEgress vid false)) :
    ¬ Installed asic port (vidxEgress vid true) := by
  intro pops
  rw [installed_egress portBound bound] at keeps pops
  cases tables.groups _ keeps _ pops rfl

end Drained

section Walk

variable {env : Env} {s : Sys} {up : OfprotoRef} {vid : Nat} {add : Bool}

theorem visitPorts_hw {refs : List OfportRef} {ref : OfportRef} {port : Ofport}
    (notWalked : ref ∉ refs) (isPort : s.ofports ref = some port) :
    ((refs ++ [ref]).foldl (visitPort env vid add) s).hw =
      (setVlanOnPort env (refs.foldl (visitPort env vid add) s).hw port vid add).1 := by
  have stillPort : (refs.foldl (visitPort env vid add) s).ofports ref = some port := by
    rw [visitPorts_ofports_ne _ _ notWalked, isPort]
  rw [List.foldl_append, List.foldl_cons, List.foldl_nil]
  generalize refs.foldl (visitPort env vid add) s = walked at stillPort
  simp only [visitPort, stillPort, setVmap]

def walkedNumbers (s : Sys) (refs : List OfportRef) (number : Nat) : Prop :=
  ∃ ref ∈ refs, hwNumber s ref = number

def HandsOverInTurn (env : Env) (s : Sys) (vid : Nat) (refs : List OfportRef) : Prop :=
  ∀ earlier ref later port, refs = earlier ++ ref :: later → s.ofports ref = some port →
    HandsOverAtTurn env s.hw.fpa vid (walkedNumbers s earlier) port

theorem HandsOverInTurn.upTo {earlier later : List OfportRef}
    (inTurn : HandsOverInTurn env s vid (earlier ++ later)) : HandsOverInTurn env s vid earlier := by
  intro before ref after port isEarlier
  refine inTurn before ref (after ++ later) port ?_
  rw [isEarlier, List.append_assoc, List.cons_append]

theorem HandsOverInTurn.notPending {refs : List OfportRef}
    (inTurn : HandsOverInTurn env s vid refs) {ref : OfportRef} (member : ref ∈ refs)
    {port : Ofport} (isPort : s.ofports ref = some port) :
    ∀ vidx, vidx < vmapBits → vidxVid vidx = vid → port.vmap vidx = false := by
  obtain ⟨earlier, later, isRefs⟩ := List.append_of_mem member
  exact (inTurn earlier ref later port isRefs isPort).notPending

theorem walkedNumbers_snoc {refs : List OfportRef} {ref : OfportRef} :
    walkedNumbers s (refs ++ [ref]) =
      fun number => number = hwNumber s ref ∨ walkedNumbers s refs number := by
  funext number
  apply propext
  simp only [walkedNumbers, List.mem_append, List.mem_singleton]
  constructor
  · rintro ⟨other, was | rfl, isNumber⟩
    · exact .inr ⟨other, was, isNumber⟩
    · exact .inl isNumber.symm
  · rintro (rfl | ⟨other, was, isNumber⟩)
    · exact ⟨ref, .inr rfl, rfl⟩
    · exact ⟨other, .inl was, isNumber⟩

theorem Drained.none (asic : Asic) (vid : Nat) : Drained asic asic (fun _ => False) vid := by
  refine ⟨fun _ _ => rfl, fun flow => ?_, fun group => ?_⟩
  · simp
  · simp

/-- As long as every port hands over at its turn, the walk drains the ports one by one. -/
theorem drained_walk (succeeds : env.AllSucceed) (readsBack : env.ReadsBack) (bound : vid < 4096)
    (tables : PluginTables s.hw.fpa.asic) (refs : List OfportRef) (distinct : refs.Nodup)
    (ports : ∀ ref ∈ refs, ∃ port number, PortAt s ref port number)
    (inTurn : HandsOverInTurn env s vid refs) :
    Drained s.hw.fpa.asic (refs.foldl (visitPort env vid false) s).hw.fpa.asic
      (walkedNumbers s refs) vid := by
  induction refs using List.reverseRecOn with
  | nil =>
      have nobody : walkedNumbers s [] = fun _ => False := by
        funext number
        simp [walkedNumbers]
      rw [nobody]
      exact Drained.none _ _
  | append_singleton refs ref ih =>
      obtain ⟨port, number, portAt⟩ := ports ref (by simp)
      rw [List.nodup_append] at distinct
      have notWalked : ref ∉ refs := fun among =>
        distinct.2.2 ref among ref (List.mem_singleton_self ref) rfl
      have drained := ih distinct.1 (fun other among => ports other (by simp [among])) inTurn.upTo
      have atTurn := inTurn refs ref [] port rfl portAt.isPort
      rw [visitPorts_hw notWalked portAt.isPort, setVlanOnPort, if_neg Bool.false_ne_true,
        portAt.ifindex, walkedNumbers_snoc, portAt.hwNumber_eq]
      have withdraws := (@disableVlan_withdraws env (refs.foldl (visitPort env vid false) s).hw
        number vid succeeds portAt.bound bound port.vmap port.ofpPort).1
      refine drained.withdraw tables portAt.bound bound withdraws ?_ ?_
      · intro vidx inside isVid
        rw [fetch_drained readsBack tables drained _ isVid, atTurn.found vidx inside isVid,
          portAt.ifindex]
      · rw [← portAt.ifindex]
        exact atTurn.apart

theorem pending_at_turn (succeeds : env.AllSucceed) (readsBack : env.ReadsBack)
    (bound : vid < 4096) (tables : PluginTables s.hw.fpa.asic) {earlier : List OfportRef}
    {ref : OfportRef} {port : Ofport} {number : Nat} (portAt : PortAt s ref port number)
    (drained : Drained s.hw.fpa.asic (earlier.foldl (visitPort env vid false) s).hw.fpa.asic
      (walkedNumbers s earlier) vid) {vidx : Nat} :
    (setVlanOnPort env (earlier.foldl (visitPort env vid false) s).hw port vid false).2 vidx = true ↔
      port.vmap vidx = true ∨ vidx < vmapBits ∧ vidxVid vidx = vid ∧
        FoundAtTurn env s.hw.fpa (walkedNumbers s earlier) port.ofpPort vidx := by
  have pending := (@disableVlan_withdraws env (earlier.foldl (visitPort env vid false) s).hw
    number vid succeeds portAt.bound bound port.vmap port.ofpPort).2 vidx
  rw [setVlanOnPort, if_neg Bool.false_ne_true, portAt.ifindex, pending, below, Bool.or_eq_true,
    Bool.and_eq_true, Bool.and_eq_true, decide_eq_true_eq, decide_eq_true_eq, and_left_comm]
  refine or_congr_right (and_congr_right fun _ => and_congr_right fun isVid => ?_)
  exact fetch_drained readsBack tables drained _ isVid

theorem reinstated_walk (succeeds : env.AllSucceed) (bound : vid < 4096)
    (tables : PluginTables s.hw.fpa.asic) {disabled : Sys} {gone : Nat → Prop}
    (drained : Drained s.hw.fpa.asic disabled.hw.fpa.asic gone vid) (refs : List OfportRef)
    (distinct : refs.Nodup)
    (ports : ∀ ref ∈ refs, ∃ port number vmap, PortAt s ref port number ∧
      disabled.ofports ref = some { port with vmap } ∧ ∀ vidx, vidx < vmapBits →
        vidxVid vidx = vid → (vmap vidx = true ↔ Installed s.hw.fpa.asic number vidx)) :
    Drained s.hw.fpa.asic (refs.foldl (visitPort env vid true) disabled).hw.fpa.asic
      (fun number => gone number ∧ ¬ walkedNumbers s refs number) vid := by
  induction refs using List.reverseRecOn with
  | nil =>
      have everybody : (fun number => gone number ∧ ¬ walkedNumbers s [] number) = gone := by
        funext number
        simp [walkedNumbers]
      rw [everybody]
      exact drained
  | append_singleton refs ref ih =>
      obtain ⟨port, number, vmap, portAt, isPort, isPending⟩ := ports ref (by simp)
      rw [List.nodup_append] at distinct
      have notWalked : ref ∉ refs := fun among =>
        distinct.2.2 ref among ref (List.mem_singleton_self ref) rfl
      have earlier := ih distinct.1 fun other among => ports other (by simp [among])
      have left : (fun number => gone number ∧ ¬ walkedNumbers s (refs ++ [ref]) number) =
          fun index => index ≠ number ∧ gone index ∧ ¬ walkedNumbers s refs index := by
        rw [walkedNumbers_snoc, portAt.hwNumber_eq]
        funext index
        apply propext
        tauto
      have oneForm : vmap (vidxEgress vid false) = true → vmap (vidxEgress vid true) = false := by
        intro keeps
        have keepsInstalled := (isPending _ (vidxEgress_lt bound false)
          (vidxVid_egress bound false)).mp keeps
        rw [Bool.eq_false_iff]
        intro pops
        exact tables.one_form portAt.bound bound keepsInstalled
          ((isPending _ (vidxEgress_lt bound true) (vidxVid_egress bound true)).mp pops)
      rw [visitPorts_hw notWalked isPort, setVlanOnPort, if_pos rfl, left]
      simp only [portAt.ifindex]
      exact earlier.reinstate tables portAt.bound bound
        (enableVlan_reinstates succeeds portAt.bound bound vmap oneForm) isPending

end Walk

section Handover

variable {env : Env} {s : Sys} {up : OfprotoRef} {vid : Nat}

/-- The entries of the VLAN on the ports of the bundles go from the tables to the pending maps,
and nothing else changes. -/
structure MovesVlan (s next : Sys) (up : OfprotoRef) (vid : Nat) : Prop where
  tables : Drained s.hw.fpa.asic next.hw.fpa.asic (walkedNumbers s (bundlePorts s up)) vid
  pending : ∀ ref port, s.ofports ref = some port → ∃ vmap,
    next.ofports ref = some { port with vmap } ∧ ∀ vidx, vmap vidx = true ↔
      port.vmap vidx = true ∨ ref ∈ bundlePorts s up ∧ vidx < vmapBits ∧ vidxVid vidx = vid ∧
        Installed s.hw.fpa.asic (netdevGetIfindex port.netdev) vidx
  vlans : (next.ofprotos up).vlans = (s.ofprotos up).vlans.set vid false

structure RestoresVlan (s next : Sys) : Prop where
  flows : ∀ table flow, flow ∈ next.hw.fpa.asic.flows table ↔ flow ∈ s.hw.fpa.asic.flows table
  groups : ∀ group, group ∈ next.hw.fpa.asic.groups ↔ group ∈ s.hw.fpa.asic.groups
  ofports : next.ofports = s.ofports
  ofprotos : next.ofprotos = s.ofprotos

/-- Disabling the VLAN hands its entries to the pending maps, and enabling it hands them back. -/
def HandsVlanOver (env : Env) (s : Sys) (up : OfprotoRef) (vid : Fin 4096) : Prop :=
  ∃ disabled enabled, opsFpaOfprotoSetVlan env s up vid false = .ok (.ok, disabled) ∧
    opsFpaOfprotoSetVlan env disabled up vid true = .ok (.ok, enabled) ∧
    MovesVlan s disabled up vid ∧ RestoresVlan s enabled

def told (env : Env) (s : Sys) (up : OfprotoRef) (vid : Nat) (add : Bool) : Sys :=
  let walked := (bundlePorts s up).foldl (visitPort env vid add) s
  { walked with
    ofprotos := Function.update walked.ofprotos up
      { walked.ofprotos up with vlans := (walked.ofprotos up).vlans.set vid add } }

theorem setVlan_told {add : Bool} (vid : Fin 4096)
    (live : ∀ ref ∈ bundlePorts s up, s.ofports ref ≠ none) :
    opsFpaOfprotoSetVlan env s up vid add = .ok (.ok, told env s up vid add) := by
  rw [opsFpaOfprotoSetVlan, setVlanOnPorts_eq]
  · rfl
  · intro bundle isBundle ref lookup
    exact live ref (List.mem_filterMap.mpr ⟨bundle, isBundle, lookup⟩)

theorem bundlePorts_congr {next : Sys}
    (bundles : (next.ofprotos up).bundles = (s.ofprotos up).bundles)
    (ports : next.portsByPid = s.portsByPid) : bundlePorts next up = bundlePorts s up := by
  simp only [bundlePorts, opsFpaGetOfportByPid, bundles, ports]

theorem bundlePorts_told (add : Bool) :
    bundlePorts (told env s up vid add) up = bundlePorts s up := by
  obtain ⟨ofprotos, ports⟩ := @visitPorts_frame env vid add (bundlePorts s up) s
  refine bundlePorts_congr ?_ ports
  simp only [told, ofprotos, Function.update_self]

theorem told_ofports (add : Bool) (ref : OfportRef) : (told env s up vid add).ofports ref =
    ((bundlePorts s up).foldl (visitPort env vid add) s).ofports ref := rfl

theorem told_ofports_ne (add : Bool) {ref : OfportRef} (elsewhere : ref ∉ bundlePorts s up) :
    (told env s up vid add).ofports ref = s.ofports ref :=
  visitPorts_ofports_ne _ _ elsewhere

theorem told_ofports_at {add : Bool} {earlier later : List OfportRef} {ref : OfportRef}
    {port : Ofport} (distinct : (bundlePorts s up).Nodup)
    (isRefs : bundlePorts s up = earlier ++ ref :: later) (isPort : s.ofports ref = some port) :
    (told env s up vid add).ofports ref = some { port with
      vmap := (setVlanOnPort env (earlier.foldl (visitPort env vid add) s).hw port vid add).2 } := by
  rw [isRefs] at distinct
  rw [told_ofports, isRefs]
  exact visitPorts_ofports distinct isPort

theorem told_live (add : Bool) (resolves : ResolvesPorts s up) :
    ∀ ref ∈ bundlePorts (told env s up vid add) up, (told env s up vid add).ofports ref ≠ none := by
  intro ref member
  rw [bundlePorts_told] at member
  obtain ⟨port, _, portAt⟩ := resolves.portAt member
  obtain ⟨earlier, later, isRefs⟩ := List.append_of_mem member
  rw [told_ofports_at resolves.distinct isRefs portAt.isPort]
  exact Option.some_ne_none _

theorem told_ofprotos (add : Bool) : (told env s up vid add).ofprotos =
    Function.update s.ofprotos up
      { s.ofprotos up with vlans := (s.ofprotos up).vlans.set vid add } := by
  obtain ⟨ofprotos, _⟩ := @visitPorts_frame env vid add (bundlePorts s up) s
  simp only [told, ofprotos]

theorem told_again_ofprotos (enabled : (s.ofprotos up).vlans vid = true) :
    (told env (told env s up vid false) up vid true).ofprotos = s.ofprotos := by
  have sameVlans : ((s.ofprotos up).vlans.set vid false).set vid true = (s.ofprotos up).vlans := by
    funext index
    simp only [Bitmap.set_apply]
    split
    · rename_i isVid
      rw [isVid, enabled]
    · rfl
  rw [told_ofprotos, told_ofprotos]
  simp only [Function.update_self, Function.update_idem, sameVlans]
  exact Function.update_eq_self up s.ofprotos

theorem enabled_vmap {hw : Hw} {vmap pending : Bitmap} {pid : Int}
    (clear : ∀ vidx, vidx < vmapBits → vidxVid vidx = vid → vmap vidx = false)
    (grown : ∀ vidx, (vidx < vmapBits → vidxVid vidx ≠ vid) → pending vidx = vmap vidx) :
    (enableVlanOnPort env hw pending pid vid).2 = vmap := by
  funext vidx
  rw [enableVlan_pending, below]
  by_cases own : vidx < vmapBits ∧ vidxVid vidx = vid
  · rw [clear vidx own.1 own.2]
    simp [own]
  · have isVmap := grown vidx fun inside isVid => own ⟨inside, isVid⟩
    rw [isVmap]
    by_cases inside : vidx < vmapBits
    · have otherVid : vidxVid vidx ≠ vid := fun isVid => own ⟨inside, isVid⟩
      simp [otherVid]
    · simp [inside]

theorem ResolvesPorts.live (resolves : ResolvesPorts s up) :
    ∀ ref ∈ bundlePorts s up, s.ofports ref ≠ none := by
  intro ref member
  obtain ⟨port, _, portAt⟩ := resolves.portAt member
  rw [portAt.isPort]
  exact Option.some_ne_none _

theorem vmap_of_eq {port other : Ofport} {vmap : Bitmap} (same : port = { other with vmap }) :
    port.vmap = vmap := by
  rw [same]

theorem notPending_of_restores {earlier later : List OfportRef} {ref : OfportRef}
    {port disabled : Ofport} (distinct : (bundlePorts s up).Nodup)
    (restores : RestoresVlan s (told env (told env s up vid false) up vid true))
    (isRefs : bundlePorts s up = earlier ++ ref :: later) (isPort : s.ofports ref = some port)
    (atTurn : (told env s up vid false).ofports ref = some disabled) :
    ∀ vidx, vidx < vmapBits → vidxVid vidx = vid → port.vmap vidx = false := by
  intro vidx inside isVid
  have sameRefs := @bundlePorts_told env s up vid false
  have restored := @told_ofports_at env (told env s up vid false) up vid true earlier later ref
    _ (sameRefs ▸ distinct) (sameRefs.trans isRefs) atTurn
  rw [setVlanOnPort, if_pos rfl, restores.ofports, isPort, Option.some.injEq] at restored
  rw [vmap_of_eq restored, enableVlan_pending, below_all _ inside, isVid]
  simp

theorem disableVlan_fewer (hw : Hw) (vmap : Bitmap) (ofpPort : Nat) (pid : Int) (vid : Nat) :
    Fewer hw.fpa.asic (disableVlanOnPort env hw vmap ofpPort pid vid).1.fpa.asic := by
  rw [disableVlanOnPort]
  refine @Bitmap.forEach1_invariant (Hw × Bitmap) _ _
    (fun _ state => Fewer hw.fpa.asic state.1.fpa.asic) _ (Fewer.refl _) _ ?_ ?_
  · intro vidx state _ fewer _
    split
    · exact fewer.trans (vlanDel_fewer _ _ _)
    · exact fewer
  · exact fun _ _ _ fewer _ => fewer

theorem visitPorts_fewer (refs : List OfportRef) (s : Sys) :
    Fewer s.hw.fpa.asic (refs.foldl (visitPort env vid false) s).hw.fpa.asic := by
  induction refs generalizing s with
  | nil => exact Fewer.refl _
  | cons ref rest ih =>
      refine Fewer.trans ?_ (ih _)
      rw [visitPort]
      split
      · exact Fewer.refl _
      · rw [hw_setVmap, setVlanOnPort, if_neg Bool.false_ne_true]
        exact disableVlan_fewer _ _ _ _ _

theorem flow_at_turn {earlier later : List OfportRef} {ref : OfportRef} {port : Ofport}
    {flow : FlowEntry .vlan} (distinct : (bundlePorts s up).Nodup)
    (isRefs : bundlePorts s up = earlier ++ ref :: later) (isPort : s.ofports ref = some port)
    (kept : flow ∈ (told env s up vid false).hw.fpa.asic.flows .vlan) :
    flow ∈ (setVlanOnPort env (earlier.foldl (visitPort env vid false) s).hw port vid
      false).1.fpa.asic.flows .vlan := by
  have notEarlier : ref ∉ earlier := by
    rw [isRefs, List.nodup_middle, List.nodup_cons, List.mem_append, not_or] at distinct
    exact distinct.1.1
  have isWalk : bundlePorts s up = (earlier ++ [ref]) ++ later := by
    rw [isRefs, List.append_assoc, List.singleton_append]
  change flow ∈ ((bundlePorts s up).foldl (visitPort env vid false) s).hw.fpa.asic.flows .vlan
    at kept
  rw [isWalk, List.foldl_append] at kept
  rw [← visitPorts_hw notEarlier isPort]
  exact (visitPorts_fewer later _).flows flow kept

section Directions

variable (succeeds : env.AllSucceed) (readsBack : env.ReadsBack) (bound : vid < 4096)
  (resolves : ResolvesPorts s up) (tables : PluginTables s.hw.fpa.asic)

include succeeds readsBack bound resolves tables

theorem movesVlan_of_turns (inTurn : HandsOverInTurn env s vid (bundlePorts s up)) :
    MovesVlan s (told env s up vid false) up vid := by
  have ports := fun ref (member : ref ∈ bundlePorts s up) => resolves.portAt member
  refine ⟨?_, fun ref port isPort => ?_, ?_⟩
  · exact drained_walk succeeds readsBack bound tables _ resolves.distinct ports inTurn
  · by_cases member : ref ∈ bundlePorts s up
    · obtain ⟨earlier, later, isRefs⟩ := List.append_of_mem member
      refine ⟨_, told_ofports_at resolves.distinct isRefs isPort, fun vidx => ?_⟩
      obtain ⟨_, number, portAt⟩ := resolves.portAt member
      cases portAt.isPort.symm.trans isPort
      have distinct := resolves.distinct
      rw [isRefs] at inTurn distinct
      have drained := drained_walk succeeds readsBack bound tables earlier
        (List.nodup_append.mp distinct).1
        (fun other among => ports other (by simp [isRefs, among])) inTurn.upTo
      rw [pending_at_turn succeeds readsBack bound tables portAt drained]
      refine or_congr_right ?_
      simp only [member, true_and]
      refine and_congr_right fun inside => and_congr_right fun isVid => ?_
      exact (inTurn earlier ref later port rfl isPort).found vidx inside isVid
    · refine ⟨port.vmap, ?_, fun vidx => ?_⟩
      · rw [told_ofports_ne _ member, isPort]
      · simp [member]
  · obtain ⟨ofprotos, _⟩ := @visitPorts_frame env vid false (bundlePorts s up) s
    simp only [told, ofprotos, Function.update_self]

theorem told_again_drained (inTurn : HandsOverInTurn env s vid (bundlePorts s up)) :
    Drained s.hw.fpa.asic (told env (told env s up vid false) up vid true).hw.fpa.asic
      (fun _ => False) vid := by
  have moves := movesVlan_of_turns succeeds readsBack bound resolves tables inTurn
  have walked := @reinstated_walk env s vid succeeds bound tables (told env s up vid false) _
    moves.tables (bundlePorts s up) resolves.distinct ?_
  · simp only [and_not_self] at walked
    rw [← @bundlePorts_told env s up vid false] at walked
    exact walked
  · intro ref member
    obtain ⟨port, number, portAt⟩ := resolves.portAt member
    obtain ⟨vmap, isPort, isPending⟩ := moves.pending ref port portAt.isPort
    refine ⟨port, number, vmap, portAt, isPort, fun vidx inside isVid => ?_⟩
    rw [isPending, inTurn.notPending member portAt.isPort vidx inside isVid, portAt.ifindex]
    simp [member, inside, isVid]

theorem restoresVlan_of_turns (enabled : (s.ofprotos up).vlans vid = true)
    (inTurn : HandsOverInTurn env s vid (bundlePorts s up)) :
    RestoresVlan s (told env (told env s up vid false) up vid true) := by
  have moves := movesVlan_of_turns succeeds readsBack bound resolves tables inTurn
  have drained := told_again_drained succeeds readsBack bound resolves tables inTurn
  refine ⟨fun table flow => ?_, fun group => ?_, ?_, told_again_ofprotos enabled⟩
  · by_cases isVlan : table = .vlan
    · subst isVlan
      rw [drained.flows]
      simp
    · rw [drained.others table isVlan]
  · rw [drained.groups]
    simp
  · funext ref
    have sameRefs := @bundlePorts_told env s up vid false
    by_cases member : ref ∈ bundlePorts s up
    · obtain ⟨port, number, portAt⟩ := resolves.portAt member
      obtain ⟨vmap, isPort, isPending⟩ := moves.pending ref port portAt.isPort
      obtain ⟨earlier, later, isRefs⟩ := List.append_of_mem member
      rw [told_ofports_at (sameRefs ▸ resolves.distinct) (sameRefs.trans isRefs) isPort,
        portAt.isPort, setVlanOnPort, if_pos rfl]
      rw [enabled_vmap (inTurn.notPending member portAt.isPort)]
      intro vidx elsewhere
      rw [Bool.eq_iff_iff, isPending]
      refine or_iff_left ?_
      rintro ⟨_, inside, isVid, _⟩
      exact elsewhere inside isVid
    · rw [told_ofports_ne _ (sameRefs ▸ member), told_ofports_ne _ member]

theorem HandsOverAtTurn.of_handover {earlier later : List OfportRef} {ref : OfportRef}
    {port : Ofport} (moves : MovesVlan s (told env s up vid false) up vid)
    (restores : RestoresVlan s (told env (told env s up vid false) up vid true))
    (isRefs : bundlePorts s up = earlier ++ ref :: later) (isPort : s.ofports ref = some port)
    (drained : Drained s.hw.fpa.asic (earlier.foldl (visitPort env vid false) s).hw.fpa.asic
      (walkedNumbers s earlier) vid) :
    HandsOverAtTurn env s.hw.fpa vid (walkedNumbers s earlier) port := by
  have member : ref ∈ bundlePorts s up := by simp [isRefs]
  have distinct := resolves.distinct
  obtain ⟨_, number, portAt⟩ := resolves.portAt member
  cases portAt.isPort.symm.trans isPort
  have atTurn := @told_ofports_at env s up vid false earlier later ref port distinct isRefs isPort
  have found := fun vidx => @pending_at_turn env s vid succeeds readsBack bound tables earlier
    ref port number portAt drained vidx
  generalize (setVlanOnPort env (earlier.foldl (visitPort env vid false) s).hw port vid false).2 =
    pending at atTurn found
  have notPending := notPending_of_restores distinct restores isRefs isPort atTurn
  obtain ⟨_, isTold, isPending⟩ := moves.pending ref port isPort
  cases atTurn.symm.trans isTold
  have finds : ∀ vidx, vidx < vmapBits → vidxVid vidx = vid →
      (FoundAtTurn env s.hw.fpa (walkedNumbers s earlier) port.ofpPort vidx ↔
        Installed s.hw.fpa.asic (netdevGetIfindex port.netdev) vidx) := by
    intro vidx inside isVid
    have both := (found vidx).symm.trans (isPending vidx)
    simpa [notPending vidx inside isVid, member, inside, isVid] using both
  refine ⟨notPending, finds, fun flow isFlow tagged installed isCookie => ?_⟩
  by_contra otherVid
  -- the cookie of the port's own entry takes the flow of another VLAN along
  have withdraws := (@disableVlan_withdraws env (earlier.foldl (visitPort env vid false) s).hw
    number vid succeeds portAt.bound bound port.vmap port.ofpPort).1
  have isFetched := (fetch_drained readsBack tables drained port.ofpPort
    (vidxVid_ingress bound tagged)).mpr
      ((finds _ (vidxIngress_lt bound tagged) (vidxVid_ingress bound tagged)).mpr installed)
  have kept : flow ∈ (told env s up vid false).hw.fpa.asic.flows .vlan :=
    (moves.tables.flows flow).mpr ⟨isFlow, fun gone => otherVid gone.1⟩
  have stillThere := flow_at_turn distinct isRefs isPort kept
  rw [setVlanOnPort, if_neg Bool.false_ne_true, portAt.ifindex] at stillThere
  rw [portAt.ifindex] at isCookie
  exact ((withdraws.flows flow).mp stillThere).2 tagged isFetched isCookie

theorem turns_of_handover (moves : MovesVlan s (told env s up vid false) up vid)
    (restores : RestoresVlan s (told env (told env s up vid false) up vid true)) :
    HandsOverInTurn env s vid (bundlePorts s up) := by
  intro earlier
  -- the ports before a turn have handed over, so the walk up to it is known
  induction size : earlier.length using Nat.strongRecOn generalizing earlier with
  | ind count ih =>
      intro ref later port isRefs isPort
      have distinct := resolves.distinct
      rw [isRefs] at distinct
      refine HandsOverAtTurn.of_handover succeeds readsBack bound resolves tables moves restores
        isRefs isPort (drained_walk succeeds readsBack bound tables earlier
          (List.nodup_append.mp distinct).1
          (fun other among => resolves.portAt (by simp [isRefs, among])) ?_)
      intro before other after otherPort isEarlier
      have shorter : before.length < count := by
        rw [← size, isEarlier, List.length_append, List.length_cons]
        omega
      refine ih before.length shorter before rfl other (after ++ ref :: later) otherPort ?_
      rw [isRefs, isEarlier, List.append_assoc, List.cons_append]

end Directions

theorem HandsVlanOver.inTurn {vid : Fin 4096} (succeeds : env.AllSucceed)
    (readsBack : env.ReadsBack) (resolves : ResolvesPorts s up)
    (tables : PluginTables s.hw.fpa.asic) (handsOver : HandsVlanOver env s up vid) :
    HandsOverInTurn env s vid (bundlePorts s up) := by
  obtain ⟨disabled, enabled, first, second, moves, restores⟩ := handsOver
  rw [setVlan_told vid resolves.live] at first
  cases first
  rw [setVlan_told vid (told_live false resolves)] at second
  cases second
  exact turns_of_handover succeeds readsBack vid.isLt resolves tables moves restores

/-- Under its hardware number a port finds its own entries, unless an L3 group reads like one. -/
theorem fetch_iff_installed {fpa : Fpa} {port vidx : Nat} (readsBack : env.ReadsBack)
    (tables : PluginTables fpa.asic) (noL3 : ∀ group ∈ fpa.asic.groups, group.groupIdentifier < 2 ^ 28)
    (portBound : port < 65536) (inside : vidx < vmapBits) :
    opsFpaVlanFetch env fpa port vidx = true ↔ Installed fpa.asic port vidx := by
  have bound := vidxVid_lt vidx
  have decoded := vidx_decode inside
  rw [fetch_tables readsBack]
  constructor
  · rintro (⟨group, member, isPort, bucket, isBucket, isVidx⟩ | ⟨flow, member, isPort, isVidx⟩)
    · obtain ⟨itsPort, vid, popTag, itsBound, vidBound, rfl⟩ :=
        tables.l2Groups group member (noL3 group member)
      cases isBucket
      rw [portNum_natCast portBound, gidPort_l2Group itsBound] at isPort
      rw [isVidx, gidVlan_l2Group itsBound vidBound, isPort, popVlanTagAction,
        installed_egress itsBound vidBound]
      exact member
    · rw [portNum_natCast portBound] at isPort
      have itsBound := tables.vlanId_lt member
      obtain ⟨tagged, isFlow⟩ := tables.flow_of_port member portBound isPort.symm
      have isTagged : decide (flow.data.vlanIdMask = .tag) = tagged := by
        rw [isFlow]
        cases tagged <;> rfl
      rw [isVidx, isTagged, installed_ingress itsBound, ← isFlow]
      exact member
  · intro installed
    by_cases egress : vidxIsEgress vidx = true
    · rw [if_pos egress] at decoded
      rw [decoded, installed_egress portBound bound] at installed
      refine .inl ⟨_, installed, ?_, _, rfl, ?_⟩
      · rw [portNum_natCast portBound, gidPort_l2Group portBound]
      · rw [gidVlan_l2Group portBound bound]
        exact decoded
    · rw [if_neg egress] at decoded
      rw [decoded, installed_ingress bound] at installed
      refine .inr ⟨_, installed, rfl, ?_⟩
      rw [decoded]
      cases arg : vidxArg vidx with
      | true => simp [vlanFlow, bound]
      | false => simp [vlanFlow, bound]

end Handover

/-- Disabling an enabled VLAN hands its entries to the pending maps and enabling it hands them
back, exactly when every port of a bundle hands over at its turn. -/
theorem vlan_handover_iff (env : Env) (succeeds : env.AllSucceed) (readsBack : env.ReadsBack)
    (s : Sys) (up : OfprotoRef) (vid : Fin 4096) (resolves : ResolvesPorts s up)
    (tables : PluginTables s.hw.fpa.asic) (enabled : (s.ofprotos up).vlans vid = true) :
    HandsVlanOver env s up vid ↔ HandsOverInTurn env s vid (bundlePorts s up) := by
  constructor
  · exact HandsVlanOver.inTurn succeeds readsBack resolves tables
  · intro inTurn
    refine ⟨told env s up vid false, told env (told env s up vid false) up vid true,
      setVlan_told vid resolves.live, setVlan_told vid (told_live false resolves), ?_, ?_⟩
    · exact movesVlan_of_turns succeeds readsBack vid.isLt resolves tables inTurn
    · exact restoresVlan_of_turns succeeds readsBack vid.isLt resolves tables enabled inTurn

def memberHw : Hw := (opsFpaVlanAdd idealEnv bareSys.hw 1 100).2

def memberPort (ofpPort : Nat) : Ofport := ⟨ofpPort, systemNetdev 1, 1500, Bitmap.zero⟩

def memberSys (ofpPort : Nat) : Sys :=
  { withBundle100 with
    hw := memberHw
    ofports := Function.update withBundle100.ofports 10 (some (memberPort ofpPort)) }

theorem memberSys_bundles (ofpPort : Nat) :
    ((memberSys ofpPort).ofprotos 0).bundles.values = [accessBundle] :=
  accessPort_created.bundles

theorem memberSys_lookup (ofpPort : Nat) :
    opsFpaGetOfportByPid (memberSys ofpPort) accessBundle.intfId = some 10 :=
  accessPort_created.lookedUp

theorem memberSys_port (ofpPort : Nat) :
    (memberSys ofpPort).ofports 10 = some (memberPort ofpPort) := by
  simp only [memberSys, Function.update_self]

theorem memberSys_ports (ofpPort : Nat) : bundlePorts (memberSys ofpPort) 0 = [10] := by
  rw [bundlePorts, memberSys_bundles]
  simp only [List.filterMap_cons, List.filterMap_nil, memberSys_lookup]

theorem memberSys_resolves (ofpPort : Nat) : ResolvesPorts (memberSys ofpPort) 0 := by
  refine ⟨fun bundle member ref lookup => ?_, ?_⟩
  · rw [memberSys_bundles, List.mem_singleton] at member
    subst member
    rw [memberSys_lookup, Option.some.injEq] at lookup
    subst lookup
    exact ⟨_, memberSys_port ofpPort, rfl, by decide, by decide⟩
  · rw [memberSys_ports]
    exact List.nodup_singleton 10

theorem memberSys_turn (ofpPort : Nat) : HandsOverInTurn idealEnv (memberSys ofpPort) 100 [10] ↔
    HandsOverAtTurn idealEnv memberHw.fpa 100 (walkedNumbers (memberSys ofpPort) [])
      (memberPort ofpPort) := by
  constructor
  · intro inTurn
    exact inTurn [] 10 [] _ rfl (memberSys_port ofpPort)
  · intro atTurn earlier ref later port isRefs isPort
    cases earlier with
    | nil =>
        cases isRefs
        rw [memberSys_port, Option.some.injEq] at isPort
        rw [← isPort]
        exact atTurn
    | cons head tail => simp at isRefs

theorem memberHw_tables : PluginTables memberHw.fpa.asic := by
  have added : viewStep idealEnv bareSys.hw (.vlanAdd viewPort (untagged 100)) =
      .ok ((), memberHw) := rfl
  exact pluginTables_reached idealEnv_readsBack rfl rfl (Runs.Run.nil.cons added)

theorem memberHw_installed : Installed memberHw.fpa.asic 1 (vidxIngress 100 false) :=
  List.mem_singleton_self (vlanFlow 1 100 false)

theorem vlan_handover_same_number : HandsVlanOver idealEnv (memberSys 1) 0 100 ∧
    Installed memberHw.fpa.asic 1 (vidxIngress 100 false) := by
  refine ⟨?_, memberHw_installed⟩
  refine (vlan_handover_iff idealEnv idealEnv_allSucceed idealEnv_readsBack (memberSys 1) 0 100
    (memberSys_resolves 1) memberHw_tables rfl).mpr ?_
  rw [memberSys_ports]
  refine (memberSys_turn 1).mpr ⟨fun _ _ _ => rfl, fun vidx inside _ => ?_, ?_⟩
  · have fetched := @fetch_iff_installed idealEnv memberHw.fpa 1 vidx idealEnv_readsBack
      memberHw_tables (fun _ absent => absurd absent List.not_mem_nil) (by decide) inside
    refine Iff.trans (and_iff_left ?_) fetched
    rintro ⟨_, absent, _⟩
    cases absent
  · intro flow member _ _ _
    rw [List.mem_singleton.mp member]
    rfl

/-- Looked up under OpenFlow number 2 the entry of hardware port 1 is not found, and stays. -/
theorem other_number_hands_nothing_over :
    Installed memberHw.fpa.asic 1 (vidxIngress 100 false) ∧
    opsFpaVlanFetch idealEnv memberHw.fpa 2 (vidxIngress 100 false) = false ∧
    ¬ HandsVlanOver idealEnv (memberSys 2) 0 100 := by
  refine ⟨memberHw_installed, rfl, fun handsOver => ?_⟩
  have inTurn := handsOver.inTurn idealEnv_allSucceed idealEnv_readsBack (memberSys_resolves 2)
    memberHw_tables
  rw [memberSys_ports] at inTurn
  have found := ((memberSys_turn 2).mp inTurn).found (vidxIngress 100 false) (by decide) (by decide)
  cases (found.mpr memberHw_installed).1

end FpaPlugin
