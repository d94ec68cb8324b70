import FpaPlugin.VlanPasses

/-! Port VLAN configuration against VLAN administration: the settings of bundles and the
set of enabled VLANs change in any order, and the switch and the pending maps of the ports
are to follow both. -/

namespace FpaPlugin

open KeyedDiff

variable {env : Env} {own : Aux → OfportRef} {up : OfprotoRef} {s next : Sys} {trace : Trace}

def desiredOf (env : Env) (up : OfprotoRef) : Trace → OfportRef → Option Bitmap
  | [], _ => none
  | event :: earlier, ref =>
      match event.input with
      | .bundleSet other aux (some set) =>
          if other = up ∧ configuredRef env event.before up aux set = some ref then some (vnew set)
          else desiredOf env up earlier ref
      | _ => desiredOf env up earlier ref

/-- Switch and pending map of every configured port are what its settings and the enabled
VLANs ask for. -/
def FollowsSettings (env : Env) (up : OfprotoRef) (trace : Trace) (s : Sys) : Prop :=
  ∀ ref desired port, desiredOf env up trace ref = some desired → s.ofports ref = some port →
    PortSynced (s.ofprotos up).vlans desired
      (opsFpaVlanFetch env s.hw.fpa (netdevGetIfindex port.netdev)) port.vmap

def ResolvesOwn (own : Aux → OfportRef) (up : OfprotoRef) (s : Sys) : Prop :=
  ∀ bundle ∈ (s.ofprotos up).bundles.values,
    if bundle.intfId = fpaInvalidIntfId then opsFpaGetOfportByPid s bundle.intfId = none
    else ∃ port, opsFpaGetOfportByPid s bundle.intfId = some (own bundle.aux) ∧
      s.ofports (own bundle.aux) = some port ∧ netdevGetIfindex port.netdev = bundle.intfId ∧
      0 ≤ bundle.intfId ∧ bundle.intfId < 65536

def changesVlans (up : OfprotoRef) (s : Sys) : Call → Prop
  | .bundleSet other _ (some set) => other = up ∧ OneEgressForm (vnew set)
  | .setVlan other _ _ => other = up
  | .portConstruct _ _ ref _ _ => s.ofports ref = none
  | _ => False

/-- Disabling a VLAN finds what is to be deleted, and deletes nothing of another VLAN. -/
structure DisablesSafely (env : Env) (fpa : Fpa) (ofpPort : Nat) (pid : Int) (vid : Nat) : Prop where
  fetchable : portNum ofpPort = portNum pid ∨ ∀ vidx, vidxVid vidx = vid →
    opsFpaVlanFetch env fpa ofpPort vidx = false ∧ opsFpaVlanFetch env fpa pid vidx = false
  apart : ∀ vidx other, opsFpaVlanFetch env fpa pid vidx = true →
    opsFpaVlanFetch env fpa pid other = true → vidxVid vidx = vid → vidxVid other ≠ vid →
    vidxKey other ≠ vidxKey vidx

def SyncsSafely (env : Env) (up : OfprotoRef) (s : Sys) : Call → Prop
  | .bundleSet _ aux (some set) =>
      ∀ ref port, configuredRef env s up aux set = some ref → s.ofports ref = some port →
        ChangesInOrder (s.ofprotos up).vlans
          (opsFpaVlanFetch env s.hw.fpa (netdevGetIfindex port.netdev)) (vnew set)
  | .setVlan _ vid false =>
      ∀ bundle ∈ (s.ofprotos up).bundles.values, ∀ ref port,
        opsFpaGetOfportByPid s bundle.intfId = some ref → s.ofports ref = some port →
        DisablesSafely env s.hw.fpa port.ofpPort (netdevGetIfindex port.netdev) vid
  | _ => True

section Ports

def BundlePort (env : Env) (own : Aux → OfportRef) (up : OfprotoRef) (s : Sys) (ref : OfportRef) :
    Prop :=
  ∃ aux bundle, opsFpaFindBundle env s up aux = some bundle ∧ bundle.intfId ≠ fpaInvalidIntfId ∧
    own aux = ref

theorem ResolvesOwn.bundlePort (resolves : ResolvesOwn own up s) {ref : OfportRef}
    (isBundlePort : BundlePort env own up s ref) :
    ∃ port number, s.ofports ref = some port ∧ number < 65536 ∧
      netdevGetIfindex port.netdev = (number : Nat) ∧
      opsFpaGetOfportByPid s (number : Nat) = some ref := by
  obtain ⟨aux, bundle, isBundle, valid, rfl⟩ := isBundlePort
  obtain ⟨member, rfl⟩ := Hmap.lookup_some isBundle
  have resolved := resolves bundle member
  rw [if_neg valid] at resolved
  obtain ⟨port, found, isPort, isPid, nonneg, bound⟩ := resolved
  have isNumber : ((bundle.intfId.toNat : Nat) : Int) = bundle.intfId := by omega
  refine ⟨port, bundle.intfId.toNat, isPort, by omega, ?_, ?_⟩
  · rw [isNumber]
    exact isPid
  · rw [isNumber]
    exact found

theorem ResolvesOwn.distinct (resolves : ResolvesOwn own up s) {ref other : OfportRef}
    (isBundlePort : BundlePort env own up s ref) (otherBundlePort : BundlePort env own up s other)
    {port otherPort : Ofport} (isPort : s.ofports ref = some port)
    (isOther : s.ofports other = some otherPort)
    (same : portNum (netdevGetIfindex port.netdev) = portNum (netdevGetIfindex otherPort.netdev)) :
    ref = other := by
  obtain ⟨found, number, isFound, bound, isNumber, lookedUp⟩ := resolves.bundlePort isBundlePort
  obtain ⟨otherFound, otherNumber, isOtherFound, otherBound, isOtherNumber, otherLookedUp⟩ :=
    resolves.bundlePort otherBundlePort
  rw [isPort, Option.some.injEq] at isFound
  rw [isOther, Option.some.injEq] at isOtherFound
  rw [isFound, isOtherFound, isNumber, isOtherNumber, portNum_natCast bound,
    portNum_natCast otherBound] at same
  rw [same, otherLookedUp] at lookedUp
  exact (Option.some.inj lookedUp).symm

/-- Switch and pending maps follow settings and VLANs, each port with the VLANs it has been
told of. -/
structure Mirrors (wanted vlans : OfportRef → Bitmap) (ports : OfportRef → Prop) (s : Sys)
    (installed : Nat → Bitmap) : Prop where
  tables : VlanTables s.hw.fpa.asic installed
  owned : ∀ number vidx, installed number vidx = true → ∃ ref port, ports ref ∧
    s.ofports ref = some port ∧ portNum (netdevGetIfindex port.netdev) = number
  synced : ∀ ref port, ports ref → s.ofports ref = some port →
    PortSynced (vlans ref) (wanted ref) (installed (portNum (netdevGetIfindex port.netdev)))
      port.vmap
  fresh : ∀ ref port, ¬ ports ref → s.ofports ref = some port →
    ∀ vidx, vidx < vmapBits → port.vmap vidx = false

theorem Mirrors.visit {wanted vlans : OfportRef → Bitmap} {ports : OfportRef → Prop}
    {installed after : Nat → Bitmap} (mirrors : Mirrors wanted vlans ports s installed)
    {ref : OfportRef} {port : Ofport} {number : Nat} (isPort : s.ofports ref = some port)
    (isNumber : portNum (netdevGetIfindex port.netdev) = number) (isBundlePort : ports ref)
    (distinct : ∀ other otherPort, ports other → s.ofports other = some otherPort →
      portNum (netdevGetIfindex otherPort.netdev) = number → other = ref)
    {result : Hw × Bitmap} {desired enabled : Bitmap}
    (tables : VlanTables result.1.fpa.asic after)
    (others : ∀ other, other ≠ number → after other = installed other)
    (synced : PortSynced enabled desired (after number) result.2) :
    Mirrors (Function.update wanted ref desired) (Function.update vlans ref enabled) ports
      (setVmap s ref port result) after := by
  have ofports : ∀ other found, (setVmap s ref port result).ofports other = some found →
      other = ref ∧ found = { port with vmap := result.2 } ∨
        other ≠ ref ∧ s.ofports other = some found := by
    intro other found isFound
    change Function.update s.ofports ref (some { port with vmap := result.2 }) other = some found
      at isFound
    by_cases here : other = ref
    · subst here
      rw [Function.update_self, Option.some.injEq] at isFound
      exact .inl ⟨rfl, isFound.symm⟩
    · rw [Function.update_of_ne here] at isFound
      exact .inr ⟨here, isFound⟩
  refine ⟨tables, fun other vidx isInstalled => ?_, fun other found isR isFound => ?_,
    fun other found notR isFound => ?_⟩
  · by_cases here : other = number
    · refine ⟨ref, { port with vmap := result.2 }, isBundlePort, ?_, isNumber.trans here.symm⟩
      exact Function.update_self _ _ _
    · rw [others other here] at isInstalled
      obtain ⟨owner, ownerPort, isR, isOwner, itsNumber⟩ := mirrors.owned other vidx isInstalled
      refine ⟨owner, ownerPort, isR, ?_, itsNumber⟩
      have different : owner ≠ ref := by
        rintro rfl
        rw [isPort, Option.some.injEq] at isOwner
        rw [← isOwner, isNumber] at itsNumber
        exact here itsNumber.symm
      exact (Function.update_of_ne different _ _).trans isOwner
  · rcases ofports other found isFound with ⟨rfl, rfl⟩ | ⟨different, was⟩
    · rw [Function.update_self, Function.update_self]
      simp only [isNumber]
      exact synced
    · rw [Function.update_of_ne different, Function.update_of_ne different]
      have elsewhere : portNum (netdevGetIfindex found.netdev) ≠ number :=
        fun same => different (distinct other found isR was same)
      rw [others _ elsewhere]
      exact mirrors.synced other found isR was
  · rcases ofports other found isFound with ⟨rfl, _⟩ | ⟨_, was⟩
    · exact (notR isBundlePort).elim
    · exact mirrors.fresh other found notR was

theorem Mirrors.grow {wanted vlans told : OfportRef → Bitmap} {ports more : OfportRef → Prop}
    {installed : Nat → Bitmap} (mirrors : Mirrors wanted vlans ports s installed)
    (sameHw : next.hw = s.hw) (sameOfports : next.ofports = s.ofports)
    (sameVlans : ∀ ref, ports ref → told ref = vlans ref)
    (grows : ∀ ref, ports ref → more ref)
    (unset : ∀ ref, ¬ ports ref → wanted ref = Bitmap.zero)
    (distinct : ∀ ref other port otherPort, more ref → more other → s.ofports ref = some port →
      s.ofports other = some otherPort → portNum (netdevGetIfindex port.netdev) =
        portNum (netdevGetIfindex otherPort.netdev) → ref = other) :
    Mirrors wanted told more next installed := by
  refine ⟨by rw [sameHw]; exact mirrors.tables, fun number vidx isInstalled => ?_,
    fun ref port isMore isPort => ?_, fun ref port notMore isPort => ?_⟩
  · obtain ⟨ref, port, isOne, isPort, isNumber⟩ := mirrors.owned number vidx isInstalled
    exact ⟨ref, port, grows ref isOne, sameOfports ▸ isPort, isNumber⟩
  · rw [sameOfports] at isPort
    by_cases isOne : ports ref
    · rw [sameVlans ref isOne]
      exact mirrors.synced ref port isOne isPort
    · rw [unset ref isOne]
      refine ⟨fun vidx inside => ?_, fun vidx inside => ?_⟩
      · rw [Bitmap.zero_apply, Bool.false_and, Bool.eq_false_iff]
        intro isInstalled
        obtain ⟨owner, ownerPort, isOwner, isOwnerPort, same⟩ := mirrors.owned _ vidx isInstalled
        have isRef := distinct owner ref ownerPort port (grows owner isOwner) isMore isOwnerPort
          isPort same
        exact isOne (isRef ▸ isOwner)
      · rw [mirrors.fresh ref port isOne isPort vidx inside]
        rfl
  · rw [sameOfports] at isPort
    exact mirrors.fresh ref port (fun isOne => notMore (grows ref isOne)) isPort

end Ports

section BundleSet

variable {aux : Aux} {rc : Rc} {set : BundleSettings}

theorem bundleSet_configures (isSystem : (s.ofprotos up).type = .system)
    (taken : opsFpaOfprotoBundleSet env s up aux (some set) = .ok (rc, next)) :
    (configuredRef env s up aux set = none ∧
      (next = s ∨ ∃ slave, ensureBundle env s up aux slave set.name = .ok next)) ∨
    ∃ slave ensured bundle ref port, ensureBundle env s up aux slave set.name = .ok ensured ∧
      opsFpaFindBundle env ensured up aux = some bundle ∧ bundle.intfId ≠ fpaInvalidIntfId ∧
      configuredRef env s up aux set = some ref ∧
      opsFpaGetOfportByPid ensured bundle.intfId = some ref ∧ s.ofports ref = some port ∧
      next = setVmap ensured ref port
        (applyDiff env s.hw (s.ofprotos up).vlans (vnew set) (netdevGetIfindex port.netdev)) := by
  rcases bundleSet_cases taken with ⟨absurdity, _⟩ | ⟨settings, isSet, notSingle, _, rfl⟩ |
    ⟨settings, slave, ensured, bundle, isSet, single, created, found, configured⟩
  · cases absurdity
  · cases isSet
    refine .inl ⟨?_, .inl rfl⟩
    rw [configuredRef]
    split
    · rename_i single _
      exact (notSingle _ single).elim
    · rfl
  · cases isSet
    obtain ⟨sameHw, _, _, sameOfports, _⟩ := ensureBundle_frame created
    obtain ⟨sameType, sameName, _, sameVlans⟩ := ensureBundle_ofproto created up
    rcases configured with ⟨isVrf, _⟩ | ⟨_, bridge⟩
    · rw [sameType, isSystem] at isVrf
      cases isVrf
    · rcases (configureL2_cases bridge).2 with ⟨rfl, skipped⟩ |
        ⟨ref, port, valid, external, lookedUp, isPort, rfl⟩
      · rw [sameName] at skipped
        refine .inl ⟨?_, .inr ⟨slave, created⟩⟩
        simp [configuredRef, single, isSystem, created, found, skipped]
      · rw [sameName] at external
        rw [sameOfports] at isPort
        refine .inr ⟨slave, ensured, bundle, ref, port, created, found, valid, ?_, lookedUp, isPort, ?_⟩
        · simp [configuredRef, single, isSystem, created, found, valid, external, lookedUp]
        · rw [sameHw, sameVlans]

theorem ensureBundle_bundlePort {slave : Nat} {name : CString} (keyed : BundlesKeyed env s)
    (ensured : ensureBundle env s up aux slave name = .ok next) {ref : OfportRef}
    (isBundlePort : BundlePort env own up s ref) : BundlePort env own up next ref := by
  obtain ⟨wanted, bundle, found, valid, isRef⟩ := isBundlePort
  obtain ⟨old, origin, nowFound⟩ := findBundle_ensureBundle keyed ensured
  have here := nowFound up wanted
  by_cases same : wanted = aux
  · subst same
    rw [if_pos ⟨rfl, rfl⟩] at here
    rcases origin with wasFound | ⟨absent, _⟩
    · rw [found, Option.some.injEq] at wasFound
      exact ⟨wanted, _, here, wasFound ▸ valid, isRef⟩
    · rw [found] at absent
      cases absent
  · rw [if_neg fun both => same both.2] at here
    exact ⟨wanted, bundle, here.trans found, valid, isRef⟩

end BundleSet

section SetVlan

variable {wanted vlansAt : OfportRef → Bitmap} {installed : Nat → Bitmap} {vid : Nat} {add : Bool}

theorem ResolvesOwn.setVmap (resolves : ResolvesOwn own up s) {ref : OfportRef} {port : Ofport}
    (isPort : s.ofports ref = some port) (result : Hw × Bitmap) :
    ResolvesOwn own up (setVmap s ref port result) := by
  intro bundle member
  have resolved := resolves bundle member
  split
  · rename_i invalid
    rwa [if_pos invalid] at resolved
  · rename_i valid
    rw [if_neg valid] at resolved
    obtain ⟨found, lookedUp, isFound, isPid, bounds⟩ := resolved
    by_cases here : own bundle.aux = ref
    · rw [here, isPort, Option.some.injEq] at isFound
      refine ⟨{ port with vmap := result.2 }, lookedUp, ?_, isFound ▸ isPid, bounds⟩
      rw [here]
      exact Function.update_self _ _ _
    · exact ⟨found, lookedUp, (Function.update_of_ne here _ _).trans isFound, isPid, bounds⟩

theorem DisablesSafely.mono {fpa later : Fpa} {ofpPort : Nat} {pid : Int}
    (safe : DisablesSafely env fpa ofpPort pid vid)
    (fewer : ∀ pid vidx, opsFpaVlanFetch env later pid vidx = true →
      opsFpaVlanFetch env fpa pid vidx = true) : DisablesSafely env later ofpPort pid vid where
  fetchable := by
    have stays : ∀ pid vidx, opsFpaVlanFetch env fpa pid vidx = false →
        opsFpaVlanFetch env later pid vidx = false := by
      intro pid vidx absent
      rw [Bool.eq_false_iff] at absent ⊢
      exact fun isSet => absent (fewer pid vidx isSet)
    exact safe.fetchable.imp_right fun idle vidx isVid =>
      ⟨stays _ _ (idle vidx isVid).1, stays _ _ (idle vidx isVid).2⟩
  apart := fun vidx other isSet otherSet =>
    safe.apart vidx other (fewer _ _ isSet) (fewer _ _ otherSet)

theorem setVlanOnPort_synced (accepts : env.AcceptsChanges) (readsBack : env.ReadsBack)
    {hw : Hw} (tables : VlanTables hw.fpa.asic installed) {port : Ofport} {number : Nat}
    (bound : number < 65536) (isNumber : netdevGetIfindex port.netdev = number)
    {vlans desired : Bitmap} (synced : PortSynced vlans desired (installed number) port.vmap)
    (oneForm : OneEgressForm desired)
    (safe : add = false →
      DisablesSafely env hw.fpa port.ofpPort (netdevGetIfindex port.netdev) vid) :
    ∃ after, VlanTables (setVlanOnPort env hw port vid add).1.fpa.asic after ∧
      (∀ other, other ≠ number → after other = installed other) ∧
      (add = false → ∀ vidx, after number vidx = true → installed number vidx = true) ∧
      PortSynced (vlans.set vid add) desired (after number)
        (setVlanOnPort env hw port vid add).2 := by
  rw [setVlanOnPort, isNumber]
  cases add with
  | true =>
      rw [if_pos rfl]
      obtain ⟨after, reached, others, followed⟩ :=
        enableVlan_synced accepts tables bound synced oneForm vid
      exact ⟨after, reached, others, fun absurdity => (Bool.false_ne_true absurdity.symm).elim, followed⟩
  | false =>
      rw [if_neg Bool.false_ne_true]
      have disables := safe rfl
      rw [isNumber] at disables
      have fetched : ∀ vidx, opsFpaVlanFetch env hw.fpa (number : Nat) vidx =
          installed number vidx := by
        intro vidx
        rw [tables.fetch readsBack, portNum_natCast bound]
      have fetchable := disables.fetchable
      have apart := disables.apart
      simp only [fetched, portNum_natCast bound] at fetchable apart
      obtain ⟨after, reached, others, older, followed⟩ :=
        disableVlan_synced accepts readsBack tables bound synced fetchable apart
      exact ⟨after, reached, others, fun _ => older, followed⟩

/-- `ops_fpa_ofproto_set_vlan` on its way through the bundles: `bundles` are still to come,
and `vlansAt` tells which ports know of the VLAN. -/
structure TellingPorts (env : Env) (own : Aux → OfportRef) (up : OfprotoRef) (s : Sys)
    (wanted : OfportRef → Bitmap) (old : Bitmap) (vid : Nat) (add : Bool) (bundles : List Bundle)
    (state : Sys) (installed : Nat → Bitmap) (vlansAt : OfportRef → Bitmap) : Prop where
  members : ∀ bundle ∈ bundles, bundle ∈ (s.ofprotos up).bundles.values
  sameOfprotos : state.ofprotos = s.ofprotos
  resolves : ResolvesOwn own up state
  mirrors : Mirrors wanted vlansAt (BundlePort env own up s) state installed
  partly : ∀ ref, vlansAt ref = old ∨ vlansAt ref = old.set vid add
  safe : add = false → ∀ bundle ∈ bundles, ∀ ref port,
    opsFpaGetOfportByPid state bundle.intfId = some ref → state.ofports ref = some port →
    DisablesSafely env state.hw.fpa port.ofpPort (netdevGetIfindex port.netdev) vid

section TellingPorts

variable {old : Bitmap} {bundle : Bundle} {rest : List Bundle} {state : Sys} {ref : OfportRef}
  {port : Ofport}
  (telling : TellingPorts env own up s wanted old vid add (bundle :: rest) state installed vlansAt)

include telling

theorem TellingPorts.skip :
    TellingPorts env own up s wanted old vid add rest state installed vlansAt where
  members := fun other among => telling.members other (List.mem_cons_of_mem _ among)
  sameOfprotos := telling.sameOfprotos
  resolves := telling.resolves
  mirrors := telling.mirrors
  partly := telling.partly
  safe := fun isDelete other among => telling.safe isDelete other (List.mem_cons_of_mem _ among)

theorem TellingPorts.resolved :
    if bundle.intfId = fpaInvalidIntfId then opsFpaGetOfportByPid state bundle.intfId = none
    else opsFpaGetOfportByPid state bundle.intfId = some (own bundle.aux) := by
  have here : bundle ∈ (state.ofprotos up).bundles.values := by
    rw [telling.sameOfprotos]
    exact telling.members bundle List.mem_cons_self
  have resolved := telling.resolves bundle here
  split
  · rename_i invalid
    rwa [if_pos invalid] at resolved
  · rename_i valid
    rw [if_neg valid] at resolved
    obtain ⟨_, found, _⟩ := resolved
    exact found

theorem TellingPorts.bundlePort (keyed : BundlesKeyed env s)
    (lookedUp : opsFpaGetOfportByPid state bundle.intfId = some ref) :
    own bundle.aux = ref ∧ BundlePort env own up s ref := by
  have resolved := telling.resolved
  split at resolved
  · rw [lookedUp] at resolved
    cases resolved
  · rename_i valid
    rw [lookedUp, Option.some.injEq] at resolved
    refine ⟨resolved.symm, bundle.aux, bundle, ?_, valid, resolved.symm⟩
    exact (keyed up).lookup_eq_some_iff.mpr ⟨telling.members bundle List.mem_cons_self, rfl⟩

theorem TellingPorts.samePorts {other : OfportRef} (isOther : BundlePort env own up s other) :
    BundlePort env own up state other := by
  obtain ⟨aux, itsBundle, isBundle, rest⟩ := isOther
  refine ⟨aux, itsBundle, ?_, rest⟩
  rw [opsFpaFindBundle, telling.sameOfprotos]
  exact isBundle

theorem TellingPorts.told : (vlansAt ref).set vid add = old.set vid add := by
  rcases telling.partly ref with isOld | isNew
  · rw [isOld]
  · rw [isNew]
    funext index
    simp only [Bitmap.set_apply]
    split <;> rfl

theorem TellingPorts.stillSafe {result : Hw × Bitmap} (isPort : state.ofports ref = some port)
    (fewer : add = false → ∀ pid vidx, opsFpaVlanFetch env result.1.fpa pid vidx = true →
      opsFpaVlanFetch env state.hw.fpa pid vidx = true) (isDelete : add = false) :
    ∀ other ∈ rest, ∀ otherRef otherPort,
      opsFpaGetOfportByPid (setVmap state ref port result) other.intfId = some otherRef →
      (setVmap state ref port result).ofports otherRef = some otherPort →
      DisablesSafely env result.1.fpa otherPort.ofpPort (netdevGetIfindex otherPort.netdev) vid := by
  intro other among otherRef otherPort otherFound isOther
  have wasSafe := telling.safe isDelete other (List.mem_cons_of_mem _ among) otherRef
  change Function.update state.ofports ref (some { port with vmap := result.2 }) otherRef =
    some otherPort at isOther
  by_cases same : otherRef = ref
  · rw [same, Function.update_self, Option.some.injEq] at isOther
    rw [← isOther]
    exact (wasSafe port otherFound (same ▸ isPort)).mono (fewer isDelete)
  · rw [Function.update_of_ne same] at isOther
    exact (wasSafe otherPort otherFound isOther).mono (fewer isDelete)

theorem TellingPorts.visit (accepts : env.AcceptsChanges) (readsBack : env.ReadsBack)
    (keyed : BundlesKeyed env s) (oneForm : OneEgressForm (wanted ref))
    (lookedUp : opsFpaGetOfportByPid state bundle.intfId = some ref)
    (isPort : state.ofports ref = some port) :
    ∃ after, TellingPorts env own up s wanted old vid add rest
      (setVmap state ref port (setVlanOnPort env state.hw port vid add)) after
      (Function.update vlansAt ref (old.set vid add)) := by
  have isBundlePort := (telling.bundlePort keyed lookedUp).2
  have mirrors := telling.mirrors
  obtain ⟨samePort, number, isSame, bound, isNumber, _⟩ :=
    telling.resolves.bundlePort (telling.samePorts isBundlePort)
  rw [isPort, Option.some.injEq] at isSame
  subst isSame
  have portNumber : portNum (netdevGetIfindex port.netdev) = number := by
    rw [isNumber, portNum_natCast bound]
  have synced := mirrors.synced ref port isBundlePort isPort
  rw [portNumber] at synced
  obtain ⟨after, tables, others, older, followed⟩ :=
    setVlanOnPort_synced accepts readsBack mirrors.tables bound isNumber synced oneForm
      (fun isDelete => telling.safe isDelete bundle List.mem_cons_self ref port lookedUp isPort)
  rw [telling.told] at followed
  have visited := mirrors.visit isPort portNumber isBundlePort
    (fun other otherPort isOther isOtherPort same =>
      telling.resolves.distinct (telling.samePorts isOther) (telling.samePorts isBundlePort)
        isOtherPort isPort (same.trans portNumber.symm)) tables others followed
  rw [Function.update_eq_self] at visited
  have fewer : add = false → ∀ pid vidx,
      opsFpaVlanFetch env (setVlanOnPort env state.hw port vid add).1.fpa pid vidx = true →
        opsFpaVlanFetch env state.hw.fpa pid vidx = true := by
    intro isDelete pid vidx isSet
    rw [tables.fetch readsBack] at isSet
    rw [mirrors.tables.fetch readsBack]
    by_cases same : portNum pid = number
    · rw [same] at isSet ⊢
      exact older isDelete vidx isSet
    · rwa [others _ same] at isSet
  refine ⟨after, telling.skip.members, telling.sameOfprotos, telling.resolves.setVmap isPort _,
    visited, fun other => ?_, telling.stillSafe isPort fewer⟩
  by_cases same : other = ref
  · rw [same, Function.update_self]
    exact .inr rfl
  · rw [Function.update_of_ne same]
    exact telling.partly other

end TellingPorts

theorem setVlanOnPorts_mirrors (accepts : env.AcceptsChanges) (readsBack : env.ReadsBack)
    (keyed : BundlesKeyed env s) (oneForm : ∀ ref, OneEgressForm (wanted ref)) {old : Bitmap} :
    ∀ (bundles : List Bundle) (state : Sys) (installed : Nat → Bitmap)
      (vlansAt : OfportRef → Bitmap),
      TellingPorts env own up s wanted old vid add bundles state installed vlansAt →
      setVlanOnPorts env vid add bundles state = .ok next →
      ∃ installed vlansAfter, Mirrors wanted vlansAfter (BundlePort env own up s) next installed ∧
        ResolvesOwn own up next ∧
        (∀ ref, vlansAt ref = old.set vid add → vlansAfter ref = old.set vid add) ∧
        ∀ bundle ∈ bundles, bundle.intfId ≠ fpaInvalidIntfId →
          vlansAfter (own bundle.aux) = old.set vid add := by
  intro bundles
  induction bundles with
  | nil =>
      intro state installed vlansAt telling done
      cases done
      exact ⟨installed, vlansAt, telling.mirrors, telling.resolves, fun _ => id,
        fun _ absent => by cases absent⟩
  | cons bundle rest ih =>
      intro state installed vlansAt telling done
      rcases setVlanOnPorts_cons done with ⟨unknown, continued⟩ |
        ⟨ref, port, lookedUp, isPort, continued⟩
      · obtain ⟨after, vlansAfter, mirrored, resolvesAfter, kept, visited⟩ :=
          ih state installed vlansAt telling.skip continued
        refine ⟨after, vlansAfter, mirrored, resolvesAfter, kept, fun other among valid => ?_⟩
        rcases List.mem_cons.mp among with rfl | among
        · -- only a bundle without a hardware id has no port
          have resolved := telling.resolved
          rw [if_neg valid, unknown] at resolved
          cases resolved
        · exact visited other among valid
      · have isOwn := (telling.bundlePort keyed lookedUp).1
        obtain ⟨after, visited⟩ :=
          telling.visit accepts readsBack keyed (oneForm ref) lookedUp isPort
        obtain ⟨final, vlansAfter, mirrored, resolvesAfter, kept, finished⟩ :=
          ih _ after _ visited continued
        refine ⟨final, vlansAfter, mirrored, resolvesAfter, fun other isNew => ?_,
          fun other among otherValid => ?_⟩
        · refine kept other ?_
          by_cases same : other = ref
          · rw [same, Function.update_self]
          · rw [Function.update_of_ne same, isNew]
        · rcases List.mem_cons.mp among with rfl | among
          · refine kept _ ?_
            rw [isOwn, Function.update_self]
          · exact finished other among otherValid

theorem Mirrors.configure (accepts : env.AcceptsChanges) (readsBack : env.ReadsBack)
    {vlans desired : Bitmap} {ref : OfportRef} {port : Ofport}
    (mirrors : Mirrors wanted (fun _ => vlans) (BundlePort env own up s) s installed)
    (resolves : ResolvesOwn own up s) (isBundlePort : BundlePort env own up s ref)
    (isPort : s.ofports ref = some port) (oneForm : OneEgressForm desired)
    (inOrder : ChangesInOrder vlans
      (opsFpaVlanFetch env s.hw.fpa (netdevGetIfindex port.netdev)) desired) :
    ∃ after, Mirrors (Function.update wanted ref desired) (fun _ => vlans)
      (BundlePort env own up s)
      (setVmap s ref port (applyDiff env s.hw vlans desired (netdevGetIfindex port.netdev)))
      after := by
  obtain ⟨samePort, number, isSame, bound, isNumber, _⟩ := resolves.bundlePort isBundlePort
  rw [isPort, Option.some.injEq] at isSame
  subst isSame
  have portNumber : portNum (netdevGetIfindex port.netdev) = number := by
    rw [isNumber, portNum_natCast bound]
  have synced := mirrors.synced ref port isBundlePort isPort
  rw [portNumber] at synced
  have fetched : opsFpaVlanFetch env s.hw.fpa (netdevGetIfindex port.netdev) =
      installed number := by
    funext vidx
    rw [mirrors.tables.fetch readsBack, portNumber]
  rw [fetched] at inOrder
  have enabled : ∀ vidx, installed number vidx = true → vlans (vidxVid vidx) = true := by
    intro vidx isInstalled
    rw [synced.installed vidx (mirrors.tables.inside number vidx isInstalled).2,
      Bool.and_eq_true] at isInstalled
    exact isInstalled.2
  obtain ⟨after, tables, others, followed⟩ :=
    applyDiff_synced accepts readsBack mirrors.tables bound enabled oneForm inOrder
  rw [← isNumber] at tables followed
  have visited := mirrors.visit isPort portNumber isBundlePort
    (fun other otherPort isOther isOtherPort same => resolves.distinct isOther isBundlePort
      isOtherPort isPort (same.trans portNumber.symm)) tables others followed
  rw [Function.update_eq_self_iff.mpr rfl] at visited
  exact ⟨after, visited⟩

end SetVlan

section Invariant

def wantedOf (env : Env) (up : OfprotoRef) (trace : Trace) (ref : OfportRef) : Bitmap :=
  (desiredOf env up trace ref).getD Bitmap.zero

structure SyncInvariant (env : Env) (own : Aux → OfportRef) (up : OfprotoRef) (trace : Trace)
    (s : Sys) : Prop where
  keyed : BundlesKeyed env s
  isSystem : (s.ofprotos up).type = .system
  resolves : ResolvesOwn own up s
  configured : ∀ ref, desiredOf env up trace ref ≠ none → BundlePort env own up s ref
  oneForm : ∀ ref, OneEgressForm (wantedOf env up trace ref)
  mirrors : ∃ installed, Mirrors (wantedOf env up trace) (fun _ => (s.ofprotos up).vlans)
    (BundlePort env own up s) s installed

theorem SyncInvariant.follows (invariant : SyncInvariant env own up trace s)
    (readsBack : env.ReadsBack) : FollowsSettings env up trace s := by
  intro ref desired port isDesired isPort
  obtain ⟨installed, mirrors⟩ := invariant.mirrors
  have isBundlePort := invariant.configured ref (by rw [isDesired]; exact Option.some_ne_none _)
  have synced := mirrors.synced ref port isBundlePort isPort
  rw [wantedOf, isDesired] at synced
  refine ⟨fun vidx inside => ?_, synced.pending⟩
  rw [mirrors.tables.fetch readsBack]
  exact synced.installed vidx inside

theorem SyncInvariant.unset (invariant : SyncInvariant env own up trace s) {ref : OfportRef}
    (noBundle : ¬ BundlePort env own up s ref) : wantedOf env up trace ref = Bitmap.zero := by
  have none : desiredOf env up trace ref = none := by
    by_contra isSome
    exact noBundle (invariant.configured ref isSome)
  rw [wantedOf, none, Option.getD_none]

theorem oneEgressForm_zero : OneEgressForm Bitmap.zero := by
  rintro vid _ ⟨isSet, _⟩
  rw [Bitmap.zero_apply] at isSet
  cases isSet

theorem Initial.syncInvariant (initial : Initial s) (isSystem : (s.ofprotos up).type = .system) :
    SyncInvariant env own up [] s where
  keyed := initial.bundlesKeyed
  isSystem := isSystem
  resolves := by
    intro bundle member
    rw [initial.bundles] at member
    cases member
  configured := fun _ isSome => (isSome rfl).elim
  oneForm := fun _ => oneEgressForm_zero
  mirrors := by
    refine ⟨fun _ => Bitmap.zero, ⟨?_, ?_, ?_⟩, ?_, ?_, ?_⟩
    · intro port vidx isInstalled
      cases isInstalled
    · intro flow
      simp [initial.asic]
    · intro group
      simp [initial.asic]
    · intro number vidx isInstalled
      cases isInstalled
    · intro ref port _ isPort
      rw [initial.ofports] at isPort
      cases isPort
    · intro ref port _ isPort
      rw [initial.ofports] at isPort
      cases isPort

theorem SyncInvariant.framed (invariant : SyncInvariant env own up trace s) {event : Event}
    (keyed : BundlesKeyed env next) (resolves : ResolvesOwn own up next)
    (same : SameOfprotos s next) (sameHw : next.hw = s.hw) (sameOfports : next.ofports = s.ofports)
    (grows : ∀ ref, BundlePort env own up s ref → BundlePort env own up next ref)
    (noSettings : ∀ ref, desiredOf env up (event :: trace) ref = desiredOf env up trace ref) :
    SyncInvariant env own up (event :: trace) next := by
  have sameWanted : wantedOf env up (event :: trace) = wantedOf env up trace := by
    funext ref
    rw [wantedOf, wantedOf, noSettings]
  obtain ⟨sameType, _, _, sameVlans⟩ := same up
  obtain ⟨installed, mirrors⟩ := invariant.mirrors
  refine ⟨keyed, sameType.trans invariant.isSystem, resolves, fun ref isSome => ?_, ?_,
    installed, ?_⟩
  · rw [noSettings] at isSome
    exact grows ref (invariant.configured ref isSome)
  · rw [sameWanted]
    exact invariant.oneForm
  · rw [sameWanted]
    refine mirrors.grow sameHw sameOfports (fun _ _ => sameVlans) grows
      (fun ref => invariant.unset) fun ref other port otherPort isOne isOther isPort isOtherPort => ?_
    rw [← sameOfports] at isPort isOtherPort
    exact resolves.distinct isOne isOther isPort isOtherPort

theorem desiredOf_bundleSet {event : Event} {aux : Aux} {set : BundleSettings}
    (isSet : event.input = .bundleSet up aux (some set)) (ref : OfportRef) :
    desiredOf env up (event :: trace) ref =
      if configuredRef env event.before up aux set = some ref then some (vnew set)
      else desiredOf env up trace ref := by
  rw [desiredOf, isSet]
  simp only [true_and]

theorem wantedOf_bundleSet {event : Event} {aux : Aux} {set : BundleSettings} {ref : OfportRef}
    (isSet : event.input = .bundleSet up aux (some set))
    (isRef : configuredRef env event.before up aux set = some ref) :
    wantedOf env up (event :: trace) = Function.update (wantedOf env up trace) ref (vnew set) := by
  funext other
  rw [wantedOf, desiredOf_bundleSet isSet]
  by_cases here : other = ref
  · subst here
    rw [if_pos isRef, Function.update_self, Option.getD_some]
  · rw [if_neg fun same => here (Option.some.inj (isRef.symm.trans same)).symm,
      Function.update_of_ne here]
    rfl

theorem SyncInvariant.bundleSet (accepts : env.AcceptsChanges) (readsBack : env.ReadsBack)
    {aux : Aux} {set : BundleSettings} {rc : Rc} (invariant : SyncInvariant env own up trace s)
    (taken : opsFpaOfprotoBundleSet env s up aux (some set) = .ok (rc, next))
    (oneForm : OneEgressForm (vnew set)) (resolves : ResolvesOwn own up next)
    (safe : SyncsSafely env up s (.bundleSet up aux (some set))) :
    SyncInvariant env own up (⟨s, .bundleSet up aux (some set), rc, next⟩ :: trace) next := by
  have keyed := bundleSet_keyed invariant.keyed taken
  have sameOfprotos := bundleSet_ofproto taken
  rcases bundleSet_configures invariant.isSystem taken with ⟨noPort, still⟩ |
    ⟨slave, ensured, bundle, ref, port, created, found, valid, isRef, lookedUp, isPort, rfl⟩
  · have noSettings : ∀ ref, desiredOf env up
        (⟨s, .bundleSet up aux (some set), rc, next⟩ :: trace) ref = desiredOf env up trace ref := by
      intro ref
      rw [desiredOf_bundleSet rfl]
      simp only [noPort, reduceCtorEq, if_false]
    rcases still with rfl | ⟨slave, created⟩
    · exact invariant.framed keyed resolves sameOfprotos rfl rfl (fun _ => id) noSettings
    · obtain ⟨sameHw, _, _, sameOfports, _⟩ := ensureBundle_frame created
      exact invariant.framed keyed resolves sameOfprotos sameHw sameOfports
        (fun ref => ensureBundle_bundlePort invariant.keyed created) noSettings
  · obtain ⟨sameHw, _, _, sameOfports, _⟩ := ensureBundle_frame created
    obtain ⟨sameType, _, _, sameVlans⟩ := sameOfprotos up
    generalize isResult : applyDiff env s.hw (s.ofprotos up).vlans (vnew set)
      (netdevGetIfindex port.netdev) = result at *
    have isEnsured : ensured.ofports ref = some port := by
      rw [sameOfports]
      exact isPort
    -- writing the old map back takes the final state to the one with the bundle only
    have undone : setVmap (setVmap ensured ref port result) ref { port with vmap := result.2 }
        (ensured.hw, port.vmap) = ensured := by
      simp only [setVmap, Function.update_idem]
      rw [← isEnsured, Function.update_eq_self]
    have resolvesEnsured : ResolvesOwn own up ensured := by
      rw [← undone]
      exact resolves.setVmap (Function.update_self _ _ _) _
    have isOwn : own aux = ref := by
      obtain ⟨member, isAux⟩ := Hmap.lookup_some found
      have resolved := resolvesEnsured bundle member
      rw [if_neg valid] at resolved
      obtain ⟨_, itsPort, _⟩ := resolved
      rw [lookedUp, isAux] at itsPort
      exact (Option.some.inj itsPort).symm
    have isBundlePort : BundlePort env own up ensured ref := ⟨aux, bundle, found, valid, isOwn⟩
    obtain ⟨installed, mirrors⟩ := invariant.mirrors
    have grown : Mirrors (wantedOf env up trace) (fun _ => (s.ofprotos up).vlans)
        (BundlePort env own up ensured) ensured installed := by
      refine mirrors.grow sameHw sameOfports (fun _ _ => rfl)
        (fun other => ensureBundle_bundlePort invariant.keyed created)
        (fun other => invariant.unset) ?_
      rw [← sameOfports]
      exact fun ref other port otherPort isOne isOther => resolvesEnsured.distinct isOne isOther
    have inOrder := safe ref port isRef isPort
    rw [← sameHw] at inOrder
    obtain ⟨after, configured⟩ := grown.configure accepts readsBack resolvesEnsured isBundlePort
      isEnsured oneForm inOrder
    rw [sameHw, isResult] at configured
    refine ⟨keyed, sameType.trans invariant.isSystem, resolves, fun other isSome => ?_,
      fun other => ?_, after, ?_⟩
    · rw [desiredOf_bundleSet rfl] at isSome
      split at isSome
      · rename_i isOther
        rw [isRef, Option.some.injEq] at isOther
        exact isOther ▸ isBundlePort
      · exact ensureBundle_bundlePort invariant.keyed created (invariant.configured other isSome)
    · rw [wantedOf_bundleSet rfl isRef]
      by_cases here : other = ref
      · rw [here, Function.update_self]
        exact oneForm
      · rw [Function.update_of_ne here]
        exact invariant.oneForm other
    · rw [wantedOf_bundleSet rfl isRef, sameVlans]
      exact configured

theorem SyncInvariant.setVlan (accepts : env.AcceptsChanges) (readsBack : env.ReadsBack)
    {vid : Fin 4096} {add : Bool} {rc : Rc} (invariant : SyncInvariant env own up trace s)
    (taken : step env s (.setVlan up vid add) = .ok (rc, next))
    (safe : SyncsSafely env up s (.setVlan up vid add)) :
    SyncInvariant env own up (⟨s, .setVlan up vid add, rc, next⟩ :: trace) next := by
  have keyed := step_keyed invariant.keyed taken
  obtain ⟨reached, done, rfl, rfl⟩ := setVlan_cases taken
  obtain ⟨_, _, _, sameOfprotos, _⟩ := setVlanOnPorts_frame _ _ done
  obtain ⟨installed, mirrors⟩ := invariant.mirrors
  have safely : add = false → ∀ bundle ∈ (s.ofprotos up).bundles.values, ∀ ref port,
      opsFpaGetOfportByPid s bundle.intfId = some ref → s.ofports ref = some port →
      DisablesSafely env s.hw.fpa port.ofpPort (netdevGetIfindex port.netdev) vid := by
    rintro rfl
    exact safe
  obtain ⟨after, vlansAfter, mirrored, resolves, _, visited⟩ :=
    setVlanOnPorts_mirrors accepts readsBack invariant.keyed invariant.oneForm
      (s.ofprotos up).bundles.values s installed _
      ⟨fun _ => id, rfl, invariant.resolves, mirrors, fun _ => .inl rfl, safely⟩ done
  have isUp : (Function.update reached.ofprotos up
      { reached.ofprotos up with vlans := (reached.ofprotos up).vlans.set vid add }) up =
      { s.ofprotos up with vlans := (s.ofprotos up).vlans.set vid add } := by
    rw [Function.update_self, sameOfprotos]
  have samePorts : ∀ ref, BundlePort env own up { reached with
      ofprotos := Function.update reached.ofprotos up
        { reached.ofprotos up with vlans := (reached.ofprotos up).vlans.set vid add } } ref ↔
      BundlePort env own up s ref := by
    intro ref
    simp only [BundlePort, opsFpaFindBundle, isUp]
  have told : ∀ ref, BundlePort env own up s ref →
      (s.ofprotos up).vlans.set vid add = vlansAfter ref := by
    rintro ref ⟨aux, bundle, found, valid, rfl⟩
    obtain ⟨member, rfl⟩ := Hmap.lookup_some found
    exact (visited bundle member valid).symm
  refine ⟨keyed, ?_, ?_, fun ref isSome => (samePorts ref).mpr (invariant.configured ref isSome),
    invariant.oneForm, after, ?_⟩
  · simp only [isUp]
    exact invariant.isSystem
  · intro bundle member
    simp only [isUp] at member
    refine resolves bundle ?_
    rw [sameOfprotos]
    exact member
  · simp only [isUp]
    refine mirrored.grow rfl rfl told (fun ref => (samePorts ref).mpr) (fun ref => invariant.unset)
      fun ref other port otherPort isOne isOther => ?_
    refine @ResolvesOwn.distinct env own up reached resolves ref other ?_ ?_ port otherPort
    · simpa only [BundlePort, opsFpaFindBundle, sameOfprotos, Function.update_self] using isOne
    · simpa only [BundlePort, opsFpaFindBundle, sameOfprotos, Function.update_self] using isOther

theorem SyncInvariant.portConstruct {other : OfprotoRef} {ofpPort mtu : Nat} {ref : OfportRef}
    {netdev : Netdev} {rc : Rc} (invariant : SyncInvariant env own up trace s)
    (taken : step env s (.portConstruct other ofpPort ref netdev mtu) = .ok (rc, next))
    (isNew : s.ofports ref = none) (resolves : ResolvesOwn own up next) :
    SyncInvariant env own up
      (⟨s, .portConstruct other ofpPort ref netdev mtu, rc, next⟩ :: trace) next := by
  have keyed := step_keyed invariant.keyed taken
  cases taken
  obtain ⟨sameType, sameBundles, sameVlans⟩ :=
    portConstruct_ofproto s other ofpPort ref netdev mtu up
  have samePorts : ∀ found, BundlePort env own up
      (opsFpaOfprotoPortConstruct s other ofpPort ref netdev mtu) found ↔
      BundlePort env own up s found := by
    intro found
    simp only [BundlePort, findBundle_portConstruct]
  have noBundle : ¬ BundlePort env own up s ref := by
    intro isBundlePort
    obtain ⟨port, _, isPort, _⟩ := invariant.resolves.bundlePort isBundlePort
    rw [isNew] at isPort
    cases isPort
  have old : ∀ found, found ≠ ref →
      (opsFpaOfprotoPortConstruct s other ofpPort ref netdev mtu).ofports found =
        s.ofports found := fun found different => Function.update_of_ne different _ _
  obtain ⟨installed, mirrors⟩ := invariant.mirrors
  refine ⟨keyed, sameType.trans invariant.isSystem, resolves,
    fun found isSome => (samePorts found).mpr (invariant.configured found isSome),
    invariant.oneForm, installed, mirrors.tables, fun number vidx isInstalled => ?_,
    fun found port isOne isPort => ?_, fun found port notOne isPort => ?_⟩
  · obtain ⟨found, port, isOne, isPort, isNumber⟩ := mirrors.owned number vidx isInstalled
    refine ⟨found, port, (samePorts found).mpr isOne, ?_, isNumber⟩
    rw [old found fun same => noBundle (same ▸ isOne)]
    exact isPort
  · have isBundlePort := (samePorts found).mp isOne
    rw [old found fun same => noBundle (same ▸ isBundlePort)] at isPort
    rw [sameVlans]
    exact mirrors.synced found port isBundlePort isPort
  · by_cases here : found = ref
    · subst here
      simp only [opsFpaOfprotoPortConstruct, Function.update_self, Option.some.injEq] at isPort
      rw [← isPort]
      exact fun _ _ => rfl
    · rw [old found here] at isPort
      exact mirrors.fresh found port (fun isOne => notOne ((samePorts found).mpr isOne)) isPort

theorem SyncInvariant.step (accepts : env.AcceptsChanges) (readsBack : env.ReadsBack) {call : Call}
    {rc : Rc} (invariant : SyncInvariant env own up trace s)
    (taken : FpaPlugin.step env s call = .ok (rc, next)) (allowed : changesVlans up s call)
    (resolves : ResolvesOwn own up next) (safe : SyncsSafely env up s call) :
    SyncInvariant env own up (⟨s, call, rc, next⟩ :: trace) next := by
  cases call with
  | bundleSet other aux set =>
      cases set with
      | none => exact allowed.elim
      | some set =>
          obtain ⟨rfl, oneForm⟩ := allowed
          exact invariant.bundleSet accepts readsBack taken oneForm resolves safe
  | setVlan other vid add =>
      cases (allowed : other = up)
      exact invariant.setVlan accepts readsBack taken safe
  | portConstruct other ofpPort ref netdev mtu =>
      exact invariant.portConstruct taken allowed resolves
  | addL3Host | deleteL3Host | routeAction | portDestruct | addressMsg | fdbFlush =>
      exact allowed.elim

theorem syncInvariant_of_run (accepts : env.AcceptsChanges) (readsBack : env.ReadsBack)
    {start : Sys} (initial : Initial start) (isSystem : (start.ofprotos up).type = .system)
    {trace : Trace} {state : Sys} (run : Run env start trace state)
    (resolved : Runs.Along (fun _ event => changesVlans up event.before event.input ∧
      ResolvesOwn own up event.after) trace)
    (safe : Runs.Along (fun _ event => SyncsSafely env up event.before event.input) trace) :
    SyncInvariant env own up trace state := by
  refine Runs.Run.invariant (initial.syncInvariant isSystem) ?_ run (resolved.and safe)
  intro trace s call rc next invariant taken allowed
  obtain ⟨⟨changes, resolves⟩, safely⟩ := allowed
  exact invariant.step accepts readsBack taken changes resolves safely

end Invariant

/-- In every run that changes settings and VLANs in an order that deletes no entry another
VLAN needs, the switch and the pending maps follow. -/
theorem vlans_follow_settings (accepts : env.AcceptsChanges) (readsBack : env.ReadsBack)
    (own : Aux → OfportRef) (up : OfprotoRef) {start : Sys} (initial : Initial start)
    (isSystem : (start.ofprotos up).type = .system) {trace : Trace} {state : Sys}
    (run : Run env start trace state)
    (resolved : Runs.Along (fun _ event => changesVlans up event.before event.input ∧
      ResolvesOwn own up event.after) trace)
    (safe : Runs.Along (fun _ event => SyncsSafely env up event.before event.input) trace) :
    FollowsSettings env up trace state :=
  (syncInvariant_of_run accepts readsBack initial isSystem run resolved safe).follows readsBack

section AccessPort

def accessSettings (vlan : Fin 4096) : BundleSettings := { idleSettings with vlan }

def accessPort (vmap : Bitmap) : Ofport := ⟨1, systemNetdev 1, 1500, vmap⟩

def accessBundle : Bundle := ⟨100, some "1".toList, 1, none, none, []⟩

structure AccessPort (s : Sys) (vlans vmap : Bitmap) : Prop where
  isSystem : (s.ofprotos 0).type = .system
  isName : (s.ofprotos 0).name = "br0".toList
  isVlans : (s.ofprotos 0).vlans = vlans
  bundles : (s.ofprotos 0).bundles.values = [accessBundle]
  found : opsFpaFindBundle idealEnv s 0 100 = some accessBundle
  lookedUp : opsFpaGetOfportByPid s 1 = some 10
  isPort : s.ofports 10 = some (accessPort vmap)

variable {filled : Sys} {vlans vmap : Bitmap}

theorem AccessPort.visited (access : AccessPort s vlans vmap) (result : Hw × Bitmap) :
    AccessPort (setVmap s 10 (accessPort vmap) result) vlans result.2 where
  isSystem := access.isSystem
  isName := access.isName
  isVlans := access.isVlans
  bundles := access.bundles
  found := access.found
  lookedUp := access.lookedUp
  isPort := by
    simp only [setVmap, Function.update_self]
    rfl

theorem AccessPort.named (access : AccessPort s vlans vmap) :
    AccessPort (named s 0 100 "1".toList) vlans vmap := by
  have kept : SameOfprotos s (FpaPlugin.named s 0 100 "1".toList) := SameOfprotos.modifyBundle _
  obtain ⟨sameType, sameName, _, sameVlans⟩ := kept 0
  refine ⟨sameType.trans access.isSystem, sameName.trans access.isName,
    sameVlans.trans access.isVlans, ?_, ?_, access.lookedUp, access.isPort⟩
  · simp only [FpaPlugin.named, modifyBundle, Function.update_self, Hmap.values_modify,
      access.bundles]
    rfl
  · rw [findBundle_named, access.found]
    rfl

theorem AccessPort.ensured (access : AccessPort s vlans vmap) :
    ensureBundle idealEnv s 0 100 1 "1".toList = .ok (FpaPlugin.named s 0 100 "1".toList) := by
  simp only [ensureBundle, access.found]
  rfl

theorem AccessPort.resolves (access : AccessPort s vlans vmap) :
    ResolvesOwn (fun _ => 10) 0 s := by
  intro bundle member
  rw [access.bundles, List.mem_singleton] at member
  subst member
  rw [if_neg (by decide)]
  exact ⟨_, access.lookedUp, access.isPort, rfl, by decide⟩

theorem vnewInBounds_access (vlan : Fin 4096) : vnewInBounds (accessSettings vlan) = true := by
  have bound : ((vlan : Nat) : Int) < 4096 := by omega
  have isVlan : (accessSettings vlan).vlan = ((vlan : Nat) : Int) := rfl
  simp only [vnewInBounds, isVlan, vmapBits, Bool.or_eq_true, Bool.and_eq_true, decide_eq_true_eq]
  omega

theorem AccessPort.bundleSet (access : AccessPort filled vlans vmap)
    (created : ensureBundle idealEnv s 0 100 1 "1".toList = .ok filled) (vlan : Fin 4096) :
    step idealEnv s (.bundleSet 0 100 (some (accessSettings vlan))) =
      .ok (.ok, setVmap filled 10 (accessPort vmap)
        (applyDiff idealEnv filled.hw vlans (vnew (accessSettings vlan)) 1)) := by
  have external : accessBundle.name ≠ some "br0".toList := by decide
  have valid : accessBundle.intfId ≠ fpaInvalidIntfId := by decide
  have slaves : (accessSettings vlan).slaves = [1] := rfl
  have isNamed : (accessSettings vlan).name = "1".toList := rfl
  have isPid : accessBundle.intfId = 1 := rfl
  simp only [step, opsFpaOfprotoBundleSet, slaves, isNamed, created, access.found, access.isSystem,
    configureL2, if_neg valid, access.isName, if_neg external, vnewInBounds_access,
    Bool.not_true, Bool.false_eq_true, if_false]
  simp only [isPid, access.lookedUp, derefOfport, access.isPort, access.isVlans]
  rfl

theorem AccessPort.configuredRef (access : AccessPort filled vlans vmap)
    (created : ensureBundle idealEnv s 0 100 1 "1".toList = .ok filled) (vlan : Fin 4096) :
    configuredRef idealEnv s 0 100 (accessSettings vlan) = some 10 := by
  obtain ⟨sameType, sameName, _⟩ := ensureBundle_ofproto created 0
  have skipped : ¬ (accessBundle.intfId = fpaInvalidIntfId ∨
      accessBundle.name = some "br0".toList) := by decide
  have slaves : (accessSettings vlan).slaves = [1] := rfl
  have isNamed : (accessSettings vlan).name = "1".toList := rfl
  simp only [FpaPlugin.configuredRef, slaves, isNamed, ← sameType, ← sameName, access.isSystem,
    access.isName, created, access.found, Option.bind_some, if_neg skipped]
  exact access.lookedUp

theorem resolvesOwn_none (bundles : (s.ofprotos 0).bundles.values = []) :
    ResolvesOwn (fun _ => 10) 0 s := by
  intro bundle member
  rw [bundles] at member
  cases member

theorem vnew_access (vlan : Fin 4096) : vnew (accessSettings vlan) =
    (Bitmap.zero.set1 (vidxIngress vlan false)).set1 (vidxEgress vlan true) := rfl

theorem oneEgressForm_access (vlan : Fin 4096) : OneEgressForm (vnew (accessSettings vlan)) := by
  rintro vid bound ⟨isSet, _⟩
  rw [vnew_access] at isSet
  simp only [Bitmap.set1_apply, Bitmap.zero_apply, Bool.or_false, Bool.or_eq_true,
    beq_iff_eq] at isSet
  rcases isSet with same | same
  · exact Bool.false_ne_true (vidxEgress_inj bound vlan.isLt same).2
  · exact vidxIngress_ne_egress vlan.isLt bound same.symm

def onePort : Sys := opsFpaOfprotoPortConstruct idealSys 0 1 10 (systemNetdev 1) 1500

def withVlan (s : Sys) (vid : Nat) : Sys :=
  { s with
    ofprotos := Function.update s.ofprotos 0
      { s.ofprotos 0 with vlans := (s.ofprotos 0).vlans.set vid true } }

def bothVlans : Sys := withVlan (withVlan onePort 100) 200

def enabledBoth : Bitmap := (Bitmap.zero.set 100 true).set 200 true

def withBundle100 : Sys :=
  match ensureBundle idealEnv bothVlans 0 100 1 "1".toList with
  | .ok ensured => ensured
  | .error _ => bothVlans

theorem accessPort_created : AccessPort withBundle100 enabledBoth Bitmap.zero :=
  ⟨rfl, rfl, rfl, rfl, rfl, rfl, rfl⟩

def access200 : Sys :=
  setVmap withBundle100 10 (accessPort Bitmap.zero)
    (applyDiff idealEnv withBundle100.hw enabledBoth (vnew (accessSettings 200)) 1)

theorem accessPort_access200 : ∃ vmap, AccessPort access200 enabledBoth vmap :=
  ⟨_, accessPort_created.visited _⟩

def trace200 : Trace :=
  [⟨bothVlans, .bundleSet 0 100 (some (accessSettings 200)), .ok, access200⟩,
    ⟨withVlan onePort 100, .setVlan 0 200 true, .ok, bothVlans⟩,
    ⟨onePort, .setVlan 0 100 true, .ok, withVlan onePort 100⟩,
    ⟨idealSys, .portConstruct 0 1 10 (systemNetdev 1) 1500, .ok, onePort⟩]

theorem run200 : Run idealEnv idealSys trace200 access200 := by
  refine Runs.Run.cons ?_ (accessPort_created.bundleSet rfl 200)
  refine Runs.Run.cons ?_ (rfl : step idealEnv (withVlan onePort 100) (.setVlan 0 200 true) = _)
  refine Runs.Run.cons ?_ (rfl : step idealEnv onePort (.setVlan 0 100 true) = _)
  exact Runs.Run.nil.cons rfl

theorem resolves200 : Runs.Along (fun _ event => changesVlans 0 event.before event.input ∧
    ResolvesOwn (fun _ => 10) 0 event.after) trace200 :=
  ⟨⟨⟨rfl, oneEgressForm_access 200⟩, (accessPort_created.visited _).resolves⟩,
    ⟨rfl, resolvesOwn_none rfl⟩, ⟨rfl, resolvesOwn_none rfl⟩, ⟨rfl, resolvesOwn_none rfl⟩, trivial⟩

theorem safe200 :
    Runs.Along (fun _ event => SyncsSafely idealEnv 0 event.before event.input) trace200 := by
  refine ⟨?_, trivial, trivial, trivial, trivial⟩
  intro ref port _ _ gone wanted _ _ _ _ fetched
  rw [fetch_iff] at fetched
  rcases fetched with ⟨group, absent, _⟩ | ⟨flow, absent, _⟩
  · cases absent
  · cases absent

theorem desired200 : desiredOf idealEnv 0 trace200 10 = some (vnew (accessSettings 200)) := by
  rw [trace200, desiredOf_bundleSet rfl, if_pos]
  exact accessPort_created.configuredRef rfl 200

theorem untagged100_deleted :
    opsFpaVlanFetch idealEnv (applyDiff idealEnv access200.hw enabledBoth
      (vnew (accessSettings 100)) 1).1.fpa 1 (vidxIngress 100 false) = false := by
  have accepts := idealEnv_allSucceed.acceptsChanges
  have invariant := syncInvariant_of_run accepts idealEnv_readsBack idealSys_initial rfl run200
    resolves200 safe200
  obtain ⟨vmap, access⟩ := accessPort_access200
  obtain ⟨installed, mirrors⟩ := invariant.mirrors
  have isBundlePort := invariant.configured 10 (by rw [desired200]; exact Option.some_ne_none _)
  have synced := mirrors.synced 10 (accessPort vmap) isBundlePort access.isPort
  rw [wantedOf, desired200, Option.getD_some, access.isVlans] at synced
  have isInstalled : ∀ vidx, vidx < vmapBits → installed 1 vidx =
      (vnew (accessSettings 200) vidx && enabledBoth (vidxVid vidx)) := synced.installed
  have reached := @applyDiff_reached idealEnv installed access200.hw 1 enabledBoth
    (vnew (accessSettings 100)) accepts idealEnv_readsBack mirrors.tables (by decide) ?_
  · have present : installed 1 (vidxIngress 200 false) = true := by
      rw [isInstalled _ (by decide)]
      decide
    have unwanted : passTarget enabledBoth (vnew (accessSettings 100)) (installed 1)
        (vidxIngress 200 false) = false := by
      rw [passTarget, if_pos (by decide)]
      decide
    have wanted : passTarget enabledBoth (vnew (accessSettings 100)) (installed 1)
        (vidxIngress 100 false) = true := by
      rw [passTarget, if_pos (by decide)]
      decide
    have sameKey : vidxKey (vidxIngress 200 false) = vidxKey (vidxIngress 100 false) := by decide
    have lost := pass_lost present unwanted wanted sameKey (.inl (by decide)) vmapBits (by decide)
    rw [show ((1 : Nat) : Int) = 1 from rfl] at reached
    rw [reached.tables.fetch idealEnv_readsBack, show portNum 1 = 1 from rfl,
      Function.update_self, lost]
  · intro vidx popTag inside egress enabled wanted missing
    have isVidx : vidx = vidxEgress 100 true := by
      rw [vnew_access] at wanted
      simp only [Bitmap.set1_apply, Bitmap.zero_apply, Bool.or_false, Bool.or_eq_true,
        beq_iff_eq] at wanted
      rcases wanted with same | same
      · exact same
      · rw [same, vidxIsEgress_ingress (by decide)] at egress
        cases egress
    subst isVidx
    rw [vidxVid_egress (by decide)]
    have absent : installed 1 (vidxEgress 100 popTag) = false := by
      rw [isInstalled _ (vidxEgress_lt (by decide) popTag)]
      cases popTag <;> decide
    rw [Bool.eq_false_iff]
    intro isSet
    cases popTag with
    | true =>
        rw [pass_later (Nat.le_refl _) isSet] at absent
        cases absent
    | false =>
        rcases pass_subset isSet with was | isTarget
        · rw [was] at absent
          cases absent
        · rw [passTarget, if_pos (by decide)] at isTarget
          revert isTarget
          decide

end AccessPort

theorem vlans_followed_on_access_port :
    desiredOf idealEnv 0 trace200 10 = some (vnew (accessSettings 200)) ∧
      FollowsSettings idealEnv 0 trace200 access200 :=
  ⟨desired200, vlans_follow_settings idealEnv_allSucceed.acceptsChanges idealEnv_readsBack
    (fun _ => 10) 0 idealSys_initial rfl run200 resolves200 safe200⟩

/-- The untagged entries of a port share one cookie, so that moving a port from VLAN 200 to
VLAN 100 leaves it without either. -/
theorem untagged_vlan_lost : idealEnv.AcceptsChanges ∧ idealEnv.ReadsBack ∧ Initial idealSys ∧
    ∃ trace state, Run idealEnv idealSys trace state ∧
      Runs.Along (fun _ event => changesVlans 0 event.before event.input ∧
        ResolvesOwn (fun _ => 10) 0 event.after) trace ∧
      ¬ FollowsSettings idealEnv 0 trace state := by
  refine ⟨idealEnv_allSucceed.acceptsChanges, idealEnv_readsBack, idealSys_initial, ?_⟩
  obtain ⟨vmap, access⟩ := accessPort_access200
  refine ⟨_, _, run200.cons (access.named.bundleSet access.ensured 100),
    ⟨⟨⟨rfl, oneEgressForm_access 100⟩, (access.named.visited _).resolves⟩, resolves200⟩, ?_⟩
  intro follows
  have after := (follows 10 (vnew (accessSettings 100)) _ ?_
    (access.named.visited _).isPort).installed (vidxIngress 100 false) (by decide)
  · have sameHw : ∀ s : Sys, (named s 0 100 "1".toList).hw = s.hw := fun _ => rfl
    have isPid : ∀ vmap, netdevGetIfindex (accessPort vmap).netdev = 1 := fun _ => rfl
    rw [hw_setVmap, (access.named.visited _).isVlans, sameHw, isPid, untagged100_deleted] at after
    revert after
    decide
  · rw [desiredOf_bundleSet rfl, if_pos]
    exact access.named.configuredRef access.ensured 100

end FpaPlugin
