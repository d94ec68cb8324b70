import FpaPlugin.Lib.HmapCursor
import FpaPlugin.System

/-! Dumping the ports of an ofproto. `ops_fpa_ofproto_port_add` collects names that
`ops_fpa_ofproto_port_del` never removes, and the dump hands the error of the first name without
a netdev to a caller that stops there. -/

namespace FpaPlugin

inductive DumpRc
  | ok
  | enodev
  | eof
  deriving DecidableEq, Repr

structure OfprotoPort where
  name : CString
  type : CString
  ofpPort : Nat
  deriving DecidableEq, Repr

def ofppNone : Nat := 0xffff

/-- What a dump reads: the name set of the ofproto, its `port_by_name`, and the types of the
netdevs that exist. -/
structure PortNames where
  portNames : Hmap CString
  portByName : CString → Option Nat
  netdevType : CString → Option CString

def ssetContains (env : Env) (names : Hmap CString) (name : CString) : Bool :=
  (names.withHash (env.hashString name)).any fun known => known = name

def ssetAdd (env : Env) (names : Hmap CString) (name : CString) : Hmap CString :=
  if ssetContains env names name then names
  else names.insert env.growth (env.hashString name) name

def opsFpaOfprotoPortAdd (env : Env) (names : Hmap CString) (devname : CString) : Hmap CString :=
  ssetAdd env names devname

def opsFpaOfprotoPortDel (names : Hmap CString) (_ofpPort : Nat) : Hmap CString := names

def opsFpaOfprotoPortQueryByName (env : Env) (up : PortNames) (devname : CString) :
    DumpRc × Option OfprotoPort :=
  if ssetContains env up.portNames devname then
    match up.netdevType devname with
    | some type => (.ok, some ⟨devname, type, (up.portByName devname).getD ofppNone⟩)
    | none => (.enodev, none)
  else (.enodev, none)

def opsFpaOfprotoPortDumpStart : Hmap.Position := ⟨0, 0⟩

def opsFpaOfprotoPortDumpNext (env : Env) (up : PortNames) (iter : Hmap.Position) :
    (DumpRc × Option OfprotoPort) × Hmap.Position :=
  match up.portNames.atPosition iter with
  | (some name, iter) => (opsFpaOfprotoPortQueryByName env up name, iter)
  | (none, iter) => ((.eof, none), iter)

/-- The ofproto layer: it takes ports until a call returns something other than 0. `none` where
the calls have not ended. -/
def ofprotoPortDump (env : Env) (up : PortNames) : Nat → Hmap.Position →
    Option (List OfprotoPort × DumpRc)
  | 0, _ => none
  | calls + 1, iter =>
      match opsFpaOfprotoPortDumpNext env up iter with
      | ((.ok, port), iter) =>
          (ofprotoPortDump env up calls iter).map fun later => (port.toList ++ later.1, later.2)
      | ((rc, _), _) => some ([], rc)

inductive PortCall
  | add (devname : CString)
  | del (ofpPort : Nat)
  deriving DecidableEq, Repr

def portCall (env : Env) (names : Hmap CString) : PortCall → Hmap CString
  | .add devname => opsFpaOfprotoPortAdd env names devname
  | .del ofpPort => opsFpaOfprotoPortDel names ofpPort

def accumulated (env : Env) (calls : List PortCall) : Hmap CString :=
  calls.foldl (portCall env) (Hmap.empty 0)

/-- The dump ends with EOF, and has reported each of the added names that has a netdev once. -/
def DumpsExisting (env : Env) (calls : List PortCall) (portByName : CString → Option Nat)
    (netdevType : CString → Option CString) : Prop :=
  ∃ limit ports, ofprotoPortDump env ⟨accumulated env calls, portByName, netdevType⟩ limit
      opsFpaOfprotoPortDumpStart = some (ports, .eof) ∧
    (ports.map OfprotoPort.name).Nodup ∧
    ∀ name, name ∈ ports.map OfprotoPort.name ↔
      .add name ∈ calls ∧ (netdevType name).isSome = true

variable {env : Env} {names : Hmap CString} {up : PortNames}

theorem ssetContains_iff (keyed : names.Keyed env.hashString id) (name : CString) :
    ssetContains env names name = true ↔ name ∈ names.values := by
  rw [ssetContains, List.any_eq_true]
  constructor
  · rintro ⟨known, member, same⟩
    obtain rfl := of_decide_eq_true same
    exact Hmap.mem_values.mpr ⟨_, Hmap.mem_withHash.mp member⟩
  · intro member
    obtain ⟨hash, inNodes⟩ := Hmap.mem_values.mp member
    have isHash : hash = env.hashString name := keyed.hashed _ inNodes
    exact ⟨name, Hmap.mem_withHash.mpr (isHash ▸ inNodes), decide_eq_true rfl⟩

theorem ssetAdd_keyed (keyed : names.Keyed env.hashString id) (name : CString) :
    (ssetAdd env names name).Keyed env.hashString id := by
  rw [ssetAdd]
  split
  · exact keyed
  · rename_i absent
    refine keyed.insert env.growth ?_
    cases found : names.lookup env.hashString id name with
    | none => exact found
    | some known =>
        obtain ⟨member, same⟩ := Hmap.lookup_some found
        obtain rfl : known = name := same
        exact (absent ((ssetContains_iff keyed known).mpr member)).elim

theorem mem_ssetAdd (keyed : names.Keyed env.hashString id) (name other : CString) :
    other ∈ (ssetAdd env names name).values ↔ other = name ∨ other ∈ names.values := by
  rw [ssetAdd]
  split
  · rename_i known
    have member := (ssetContains_iff keyed name).mp known
    constructor
    · exact .inr
    · rintro (rfl | old)
      · exact member
      · exact old
  · rw [(Hmap.values_insert_perm _ _ _ _).mem_iff, List.mem_cons]

theorem portCall_keyed (keyed : names.Keyed env.hashString id) (call : PortCall) :
    (portCall env names call).Keyed env.hashString id := by
  cases call with
  | add name => exact ssetAdd_keyed keyed name
  | del => exact keyed

theorem mem_portCall (keyed : names.Keyed env.hashString id) (call : PortCall) (name : CString) :
    name ∈ (portCall env names call).values ↔ call = .add name ∨ name ∈ names.values := by
  cases call with
  | add added => simp only [portCall, opsFpaOfprotoPortAdd, mem_ssetAdd keyed, PortCall.add.injEq,
      eq_comm]
  | del => simp [portCall, opsFpaOfprotoPortDel]

theorem foldl_portCall (calls : List PortCall) : ∀ {names : Hmap CString},
    names.Keyed env.hashString id →
      (calls.foldl (portCall env) names).Keyed env.hashString id ∧
      ∀ name, name ∈ (calls.foldl (portCall env) names).values ↔
        .add name ∈ calls ∨ name ∈ names.values := by
  induction calls with
  | nil => exact fun keyed => ⟨keyed, fun name => by simp⟩
  | cons call calls ih =>
      intro names keyed
      obtain ⟨laterKeyed, members⟩ := ih (portCall_keyed keyed call)
      refine ⟨laterKeyed, fun name => ?_⟩
      rw [List.foldl_cons, members, mem_portCall keyed, List.mem_cons, eq_comm]
      tauto

theorem accumulated_keyed (env : Env) (calls : List PortCall) :
    (accumulated env calls).Keyed env.hashString id :=
  (foldl_portCall calls (Hmap.Keyed.empty 0)).1

theorem mem_accumulated (env : Env) (calls : List PortCall) (name : CString) :
    name ∈ (accumulated env calls).values ↔ .add name ∈ calls := by
  rw [accumulated, (foldl_portCall calls (Hmap.Keyed.empty 0)).2]
  simp [Hmap.values]

theorem opsFpaOfprotoPortDumpNext_cases (env : Env) (up : PortNames) (iter : Hmap.Position) :
    (∃ next, opsFpaOfprotoPortDumpNext env up iter = ((.eof, none), next) ∧
      up.portNames.valuesFrom iter = []) ∨
    ∃ name next,
      opsFpaOfprotoPortDumpNext env up iter = (opsFpaOfprotoPortQueryByName env up name, next) ∧
      up.portNames.valuesFrom iter = name :: up.portNames.valuesFrom next := by
  rcases up.portNames.atPosition_cases iter with ⟨ended, nothing⟩ | ⟨name, next, found, split⟩
  · refine .inl ⟨⟨0, 0⟩, ?_, nothing⟩
    rw [opsFpaOfprotoPortDumpNext, ended]
  · refine .inr ⟨name, next, ?_, split⟩
    rw [opsFpaOfprotoPortDumpNext, found]

theorem queryByName_existing {name type : CString}
    (known : ssetContains env up.portNames name = true) (exists' : up.netdevType name = some type) :
    ∃ ofpPort, opsFpaOfprotoPortQueryByName env up name = (.ok, some ⟨name, type, ofpPort⟩) := by
  refine ⟨(up.portByName name).getD ofppNone, ?_⟩
  rw [opsFpaOfprotoPortQueryByName, if_pos known, exists']

theorem queryByName_missing {name : CString} (missing : up.netdevType name = none) :
    opsFpaOfprotoPortQueryByName env up name = (.enodev, none) := by
  rw [opsFpaOfprotoPortQueryByName, missing]
  split <;> rfl

/-- One call for each name that is left and one more: the dump reports these names in order. -/
theorem ofprotoPortDump_reports (env : Env) (up : PortNames) (left : List CString) : ∀ iter,
    up.portNames.valuesFrom iter = left →
    (∀ name ∈ left, ssetContains env up.portNames name = true ∧ (up.netdevType name).isSome = true) →
      ∃ ports, ofprotoPortDump env up (left.length + 1) iter = some (ports, .eof) ∧
        ports.map OfprotoPort.name = left := by
  induction left with
  | nil =>
      intro iter isLeft _
      rcases opsFpaOfprotoPortDumpNext_cases env up iter with ⟨next, ended, _⟩ | ⟨_, _, _, split⟩
      · refine ⟨[], ?_, rfl⟩
        rw [List.length_nil, ofprotoPortDump, ended]
      · rw [isLeft] at split
        cases split
  | cons name left ih =>
      intro iter isLeft exist
      rcases opsFpaOfprotoPortDumpNext_cases env up iter with ⟨_, _, nothing⟩ | ⟨_, next, taken, split⟩
      · rw [isLeft] at nothing
        cases nothing
      · rw [isLeft] at split
        obtain ⟨rfl, isNext⟩ := List.cons.inj split
        obtain ⟨known, isSome⟩ := exist name List.mem_cons_self
        obtain ⟨type, hasType⟩ := Option.isSome_iff_exists.mp isSome
        obtain ⟨ofpPort, query⟩ := queryByName_existing known hasType
        obtain ⟨ports, dumped, reported⟩ :=
          ih next isNext.symm fun other member => exist other (List.mem_cons_of_mem _ member)
        refine ⟨⟨name, type, ofpPort⟩ :: ports, ?_, ?_⟩
        · rw [List.length_cons, ofprotoPortDump, taken, query]
          simp only [dumped, Option.map_some]
          rfl
        · rw [List.map_cons, reported]

theorem ofprotoPortDump_not_eof (limit : Nat) : ∀ iter {ports} {name : CString},
    name ∈ up.portNames.valuesFrom iter → up.netdevType name = none →
      ofprotoPortDump env up limit iter ≠ some (ports, .eof) := by
  induction limit with
  | zero =>
      intro _ _ _ _ _ dumped
      cases dumped
  | succ limit ih =>
      intro iter ports name member missing dumped
      rcases opsFpaOfprotoPortDumpNext_cases env up iter with ⟨_, _, nothing⟩ | ⟨first, next, taken, split⟩
      · rw [nothing] at member
        cases member
      · rw [ofprotoPortDump, taken] at dumped
        cases hasType : up.netdevType first with
        | none =>
            rw [queryByName_missing hasType] at dumped
            cases dumped
        | some type =>
            have later : name ∈ up.portNames.valuesFrom next := by
              rw [split] at member
              rcases List.mem_cons.mp member with rfl | later
              · rw [missing] at hasType
                cases hasType
              · exact later
            by_cases known : ssetContains env up.portNames first = true
            · obtain ⟨ofpPort, query⟩ := queryByName_existing known hasType
              rw [query] at dumped
              obtain ⟨⟨laterPorts, rc⟩, laterDump, same⟩ := Option.map_eq_some_iff.mp dumped
              obtain rfl : rc = .eof := (Prod.mk.inj same).2
              exact ih next later missing laterDump
            · rw [opsFpaOfprotoPortQueryByName, if_neg known] at dumped
              cases dumped

theorem dumps_existing_iff (env : Env) (calls : List PortCall) (portByName : CString → Option Nat)
    (netdevType : CString → Option CString) :
    DumpsExisting env calls portByName netdevType ↔
      ∀ name, .add name ∈ calls → (netdevType name).isSome = true := by
  have keyed := accumulated_keyed env calls
  have start := (accumulated env calls).valuesFrom_start
  constructor
  · rintro ⟨limit, ports, dumped, _⟩ name added
    cases missing : netdevType name with
    | some => rfl
    | none =>
        have member := start ▸ (mem_accumulated env calls name).mpr added
        exact (ofprotoPortDump_not_eof limit _ member missing dumped).elim
  · intro exist
    obtain ⟨ports, dumped, reported⟩ := ofprotoPortDump_reports env
      ⟨accumulated env calls, portByName, netdevType⟩ _ opsFpaOfprotoPortDumpStart start
      fun name member => ⟨(ssetContains_iff keyed name).mpr member,
        exist name ((mem_accumulated env calls name).mp member)⟩
    refine ⟨_, ports, dumped, ?_, fun name => ?_⟩
    · rw [reported]
      simpa using keyed.unique
    · rw [reported, mem_accumulated]
      exact ⟨fun added => ⟨added, exist name added⟩, And.left⟩

/-- Only "1" has a netdev: "2", in the same bucket and ahead of it, has been deleted. -/
def portOneOnly : CString → Option CString := fun name =>
  if name = ['1'] then some ['s', 'y', 's', 't', 'e', 'm'] else none

theorem deleted_port_hides_port :
    ofprotoPortDump idealEnv ⟨accumulated idealEnv [.add ['2'], .add ['1'], .del 2],
      fun _ => none, portOneOnly⟩ 1 opsFpaOfprotoPortDumpStart = some ([], .enodev) ∧
    ¬ DumpsExisting idealEnv [.add ['2'], .add ['1'], .del 2] (fun _ => none) portOneOnly := by
  refine ⟨by decide +kernel, ?_⟩
  rintro ⟨limit, ports, dumped, _⟩
  have deleted : (['2'] : CString) ∈ (accumulated idealEnv [.add ['2'], .add ['1'], .del 2]).valuesFrom
      opsFpaOfprotoPortDumpStart := by decide +kernel
  exact ofprotoPortDump_not_eof limit _ deleted (by decide) dumped

end FpaPlugin
