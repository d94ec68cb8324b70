import FpaPlugin.RouteReplace
import FpaPlugin.PrefixSyntax

/-! Sequences of route actions keep the L3-unicast table as a map from prefixes to next hops:
every action deletes by the cookie of its prefix before it adds, and no other prefix of 0 to 32
bits has that cookie. -/

namespace FpaPlugin

/-- Assumed of FPA: a cookie delete is refused only where it has nothing to remove. -/
def Env.RouteDeletesRemove (env : Env) : Prop :=
  ∀ calls cookie asic, env.verdict calls (.flowTableCookieDelete .l3Unicast cookie) asic = .fail →
    ¬ asic.Carries .l3Unicast cookie

structure RouteCall where
  action : RouteAction
  route : OfprotoRoute
  deriving DecidableEq

abbrev RoutePrefix := InAddr × Int

def RouteCall.routePrefix (call : RouteCall) : Option RoutePrefix := opsFpaStr2ip call.route.ipPrefix

def RoutePrefix.cookie (key : RoutePrefix) : Nat := opsFpaRouteIpv4Cookie key.1 key.2

def RoutePrefix.InRange (key : RoutePrefix) : Prop := 0 ≤ key.2 ∧ key.2 ≤ 32

instance (key : RoutePrefix) : Decidable key.InRange := inferInstanceAs (Decidable (_ ∧ _))

inductive RouteTarget
  | l3Group (group : Nat)
  | cpu
  deriving DecidableEq

def RouteTarget.flow (env : Env) (key : RoutePrefix) : RouteTarget → FlowEntry .l3Unicast
  | .l3Group group => routeFlow env group .none key.1 key.2
  | .cpu => routeFlow env 0xffffffff .controller key.1 key.2

def nexthopTarget (env : Env) (hosts : Hmap HostTableEntry) (nexthop : RouteNexthop) :
    Option RouteTarget :=
  if nexthop.resolved then
    (opsFpaStr2ip nexthop.id).bind fun address =>
      (hostTableFind env hosts address.1).map fun host => .l3Group host.l3Group
  else some .cpu

abbrev RouteTrace := List (Runs.Event Sys RouteCall Rc)

def routeStep (env : Env) (s : Sys) (call : RouteCall) : Except Fault (Rc × Sys) :=
  .ok (l3RouteAction env s call.action call.route)

abbrev RouteRun (env : Env) := Runs.Run (routeStep env)

def RouteTaken (event : Runs.Event Sys RouteCall Rc) : Prop :=
  event.reply = .ok ∧ (event.input.action = .add ∨ event.input.action = .delete) ∧
    ∀ key ∈ event.input.routePrefix, key.InRange

instance (event : Runs.Event Sys RouteCall Rc) : Decidable (RouteTaken event) :=
  inferInstanceAs (Decidable (_ ∧ _ ∧ ∀ key ∈ event.input.routePrefix, _))

def flowsOf (s : Sys) (key : RoutePrefix) : List (FlowEntry .l3Unicast) :=
  (s.hw.fpa.asic.flows .l3Unicast).filter fun flow => flow.cookie = key.cookie

/-- The last call on the prefix; a trace has its most recent event first. -/
def lastCall (key : RoutePrefix) (trace : RouteTrace) : Option RouteCall :=
  (trace.find? fun event => event.input.routePrefix = some key).map (·.input)

structure KeepsRouteMap (env : Env) (start : Sys) (trace : RouteTrace) (s : Sys)
    (key : RoutePrefix) : Prop where
  added : ∀ route, lastCall key trace = some ⟨.add, route⟩ →
    ∃ nexthop target, route.nexthops = [nexthop] ∧
      nexthopTarget env start.hostTable nexthop = some target ∧ flowsOf s key = [target.flow env key]
  deleted : ∀ route, lastCall key trace = some ⟨.delete, route⟩ → flowsOf s key = []
  untouched : lastCall key trace = none → flowsOf s key = flowsOf start key

variable {env : Env} {s next : Sys} {key other : RoutePrefix} {call : RouteCall}

theorem RoutePrefix.eq_of_cookie (inRange : key.InRange) (otherInRange : other.InRange)
    (same : key.cookie = other.cookie) : key = other := by
  obtain ⟨address, len⟩ := routeIpv4Cookie_inj same
  simp only [RoutePrefix.InRange] at inRange otherInRange
  exact Prod.ext address (by omega)

theorem RouteTarget.flow_cookie (target : RouteTarget) : (target.flow env key).cookie = key.cookie := by
  cases target <;> rfl

theorem delRoute_flows (deletes : env.RouteDeletesRemove) (fpa : Fpa) (key : RoutePrefix) :
    (opsFpaRouteDelRoute env fpa key.1 key.2).2.asic.flows .l3Unicast =
      (fpa.asic.flows .l3Unicast).filter fun flow => flow.cookie ≠ key.cookie := by
  rw [opsFpaRouteDelRoute]
  cases issued : fpa.issue env (.flowTableCookieDelete .l3Unicast key.cookie) with
  | mk status after =>
  have isAsic := asic_of_issue issued
  have isStatus := congrArg Prod.fst issued
  change (fpa.issue env (.flowTableCookieDelete .l3Unicast key.cookie)).2.asic.flows _ = _
  rw [issued, isAsic]
  cases status with
  | ok => rw [if_pos rfl, Asic.flows_cookieDelete]
  | fail =>
      rw [if_neg (by decide)]
      exact ((filter_cookie_iff _ _ _).mpr (deletes _ _ _ isStatus)).symm

theorem addRouteFlow_flows {fpa after : Fpa} {flow : FlowEntry .l3Unicast}
    (added : addRouteFlow env fpa flow = (.ok, after)) :
    after.asic.flows .l3Unicast = fpa.asic.flows .l3Unicast ++ [flow] := by
  simp only [addRouteFlow] at added
  cases init : fpa.issue env (.flowEntryInit .l3Unicast) with
  | mk status fpaInit =>
  have afterInit : fpaInit.asic = fpa.asic := by
    rw [asic_of_issue init]
    split <;> rfl
  rw [init] at added
  cases status with
  | fail => cases added
  | ok => rw [asic_of_issue added, if_pos rfl, Asic.flows_flowEntryAdd, afterInit]

theorem replacement_target {action : RouteAction} {route : OfprotoRoute}
    {flow : FlowEntry .l3Unicast} (parsed : opsFpaStr2ip route.ipPrefix = some key)
    (isFlow : replacement env s action route = some flow) :
    action = .add ∧ ∃ nexthop target, route.nexthops = [nexthop] ∧
      nexthopTarget env s.hostTable nexthop = some target ∧ flow = target.flow env key := by
  simp only [replacement] at isFlow
  split at isFlow
  · rename_i nexthop _ nexthops
    rw [parsed, Option.bind_some] at isFlow
    refine ⟨rfl, nexthop, ?_⟩
    rw [nexthopTarget]
    split at isFlow
    · rename_i resolved
      obtain ⟨address, hop, isFlow⟩ := Option.bind_eq_some_iff.mp isFlow
      obtain ⟨host, found, rfl⟩ := Option.map_eq_some_iff.mp isFlow
      refine ⟨.l3Group host.l3Group, nexthops, ?_, rfl⟩
      rw [if_pos resolved, hop, Option.bind_some, found, Option.map_some]
    · rename_i unresolved
      cases isFlow
      exact ⟨.cpu, nexthops, if_neg unresolved, rfl⟩
  · cases isFlow

theorem replaceRoute_ok {flow : FlowEntry .l3Unicast}
    (done : replaceRoute env s key.1 key.2 (fun fpa => addRouteFlow env fpa flow) = (.ok, next)) :
    addRouteFlow env (opsFpaRouteDelRoute env s.hw.fpa key.1 key.2).2 flow =
      (.ok, next.hw.fpa) := by
  simp only [replaceRoute] at done
  split at done
  · rename_i added
    cases done
    exact added
  · cases done

theorem routeAction_ok {action : RouteAction} {route : OfprotoRoute}
    (taken : l3RouteAction env s action route = (.ok, next)) :
    ∃ key : RoutePrefix, opsFpaStr2ip route.ipPrefix = some key ∧
      (action = .delete ∧
          next.hw.fpa = (opsFpaRouteDelRoute env s.hw.fpa key.1 key.2).2 ∨
        action = .add ∧ ∃ nexthop target, route.nexthops = [nexthop] ∧
          nexthopTarget env s.hostTable nexthop = some target ∧
          addRouteFlow env (opsFpaRouteDelRoute env s.hw.fpa key.1 key.2).2 (target.flow env key) =
            (.ok, next.hw.fpa)) := by
  rcases l3RouteAction_cases taken with ⟨_, refused, _⟩ |
    ⟨ipv4, maskLen, parsed, ⟨_, isDelete, _, isNext⟩ | ⟨flow, isFlow, _, replaced⟩⟩
  · cases refused
  · exact ⟨(ipv4, maskLen), parsed, .inl ⟨isDelete, isNext⟩⟩
  · obtain ⟨isAdd, nexthop, target, nexthops, isTarget, rfl⟩ := replacement_target parsed isFlow
    have added := @replaceRoute_ok env s next (ipv4, maskLen) _ replaced
    exact ⟨(ipv4, maskLen), parsed, .inr ⟨isAdd, nexthop, target, nexthops, isTarget, added⟩⟩

section Step

theorem filter_own (flows : List (FlowEntry .l3Unicast)) (cookie : Nat) :
    (flows.filter fun flow => flow.cookie ≠ cookie).filter (fun flow => flow.cookie = cookie) = [] := by
  rw [List.filter_filter, List.filter_eq_nil_iff]
  simp

theorem filter_others (flows : List (FlowEntry .l3Unicast)) {cookie kept : Nat}
    (apart : kept ≠ cookie) :
    (flows.filter fun flow => flow.cookie ≠ cookie).filter (fun flow => flow.cookie = kept) =
      flows.filter fun flow => flow.cookie = kept := by
  rw [List.filter_filter]
  refine List.filter_congr fun flow _ => ?_
  by_cases same : flow.cookie = kept <;> simp [same, apart]

theorem routeAction_flows (deletes : env.RouteDeletesRemove)
    (taken : l3RouteAction env s call.action call.route = (.ok, next)) :
    ∃ key : RoutePrefix, call.routePrefix = some key ∧
      (call.action = .delete ∧ flowsOf next key = [] ∨
        call.action = .add ∧ ∃ nexthop target, call.route.nexthops = [nexthop] ∧
          nexthopTarget env s.hostTable nexthop = some target ∧
          flowsOf next key = [target.flow env key]) ∧
      ∀ other : RoutePrefix, other.cookie ≠ key.cookie → flowsOf next other = flowsOf s other := by
  obtain ⟨key, isKey, done⟩ := routeAction_ok taken
  refine ⟨key, isKey, ?_⟩
  rcases done with ⟨isDelete, isNext⟩ | ⟨isAdd, nexthop, target, nexthops, isTarget, added⟩
  · have flows : next.hw.fpa.asic.flows .l3Unicast = _ :=
      isNext ▸ delRoute_flows deletes s.hw.fpa key
    simp only [flowsOf, flows]
    exact ⟨.inl ⟨isDelete, filter_own _ _⟩, fun other apart => filter_others _ apart⟩
  · have flows := addRouteFlow_flows added
    rw [delRoute_flows deletes] at flows
    have cookie : (target.flow env key).cookie = key.cookie := target.flow_cookie
    simp only [flowsOf, flows, List.filter_append]
    refine ⟨.inr ⟨isAdd, nexthop, target, nexthops, isTarget, ?_⟩, fun other apart => ?_⟩
    · rw [filter_own, List.nil_append, List.filter_singleton, cookie, decide_eq_true rfl]
      rfl
    · rw [filter_others _ apart, List.filter_singleton, cookie, decide_eq_false (Ne.symm apart)]
      simp

end Step

section Run

variable {start : Sys} {trace : RouteTrace}

structure RouteMapKept (env : Env) (start : Sys) (trace : RouteTrace) (s : Sys) : Prop where
  hosts : s.hostTable = start.hostTable
  each : ∀ key : RoutePrefix, key.InRange → KeepsRouteMap env start trace s key
  others : ∀ event ∈ trace, ∀ key : RoutePrefix, key.InRange →
    event.input.routePrefix ≠ some key → flowsOf event.after key = flowsOf event.before key

theorem lastCall_cons {event : Runs.Event Sys RouteCall Rc} (isKey : event.input.routePrefix = some key)
    (other : RoutePrefix) : lastCall other (event :: trace) =
      if key = other then some event.input else lastCall other trace := by
  rw [lastCall, List.find?_cons]
  by_cases same : key = other
  · simp [isKey, same]
  · simp [isKey, same, lastCall]

theorem RouteMapKept.step (deletes : env.RouteDeletesRemove)
    (kept : RouteMapKept env start trace s) {reply : Rc}
    (stepped : routeStep env s call = .ok (reply, next))
    (taken : RouteTaken ⟨s, call, reply, next⟩) :
    RouteMapKept env start (⟨s, call, reply, next⟩ :: trace) next := by
  obtain ⟨isOk, _, inRange⟩ := taken
  cases isOk
  have acted : l3RouteAction env s call.action call.route = (.ok, next) := Except.ok.inj stepped
  obtain ⟨key, isKey, own, others⟩ := routeAction_flows deletes acted
  have keyInRange : key.InRange := inRange key isKey
  have apart : ∀ other : RoutePrefix, other.InRange → key ≠ other →
      flowsOf next other = flowsOf s other := by
    intro other otherInRange different
    exact others other fun same => different (RoutePrefix.eq_of_cookie otherInRange keyInRange same).symm
  have hosts : next.hostTable = start.hostTable := by
    obtain ⟨fpa, rfl⟩ := l3RouteAction_frame acted
    exact kept.hosts
  refine ⟨hosts, fun other otherInRange => ?_, ?_⟩
  · have last : lastCall other (⟨s, call, .ok, next⟩ :: trace) =
        if key = other then some call else lastCall other trace := lastCall_cons isKey other
    by_cases same : key = other
    · subst same
      rw [if_pos rfl] at last
      rw [kept.hosts] at own
      constructor
      · intro route isLast
        rw [last] at isLast
        cases isLast
        rcases own with ⟨isDelete, _⟩ | ⟨_, nexthop, target, found⟩
        · cases isDelete
        · exact ⟨nexthop, target, found⟩
      · intro route isLast
        rw [last] at isLast
        cases isLast
        rcases own with ⟨_, none⟩ | ⟨isAdd, _⟩
        · exact none
        · cases isAdd
      · intro isLast
        rw [last] at isLast
        cases isLast
    · rw [if_neg same] at last
      obtain ⟨added, deleted, untouched⟩ := kept.each other otherInRange
      rw [← last, ← apart other otherInRange same] at added deleted untouched
      exact ⟨added, deleted, untouched⟩
  · intro event member other otherInRange notNamed
    rcases List.mem_cons.mp member with rfl | earlier
    · exact apart other otherInRange fun same => notNamed (same ▸ isKey)
    · exact kept.others event earlier other otherInRange notNamed

/-- After any sequence of route actions that return 0, on prefixes of 0 to 32 bits, each prefix has
the one flow of its last ADD, or none after a DELETE, and no action has touched another's flow. -/
theorem route_actions_keep_map (env : Env) (deletes : env.RouteDeletesRemove) (start : Sys)
    (trace : RouteTrace) (s : Sys) (run : RouteRun env start trace s)
    (taken : Runs.Along (fun _ event => RouteTaken event) trace) :
    RouteMapKept env start trace s := by
  refine Runs.Run.invariant ?_ ?_ run taken
  · refine ⟨rfl, fun key _ => ⟨?_, ?_, fun _ => rfl⟩, ?_⟩
    · intro route isLast
      cases isLast
    · intro route isLast
      cases isLast
    · intro event member
      cases member
  · intro earlier state input reply after kept stepped allowed
    exact kept.step deletes stepped allowed

end Run

def strictEnv : Env :=
  { idealEnv with
    verdict := fun _ call asic =>
      match call with
      | .flowTableCookieDelete table cookie =>
          if (asic.flows table).any fun flow => flow.cookie = cookie then .ok else .fail
      | _ => .ok }

theorem strictEnv_deletes : strictEnv.RouteDeletesRemove := by
  rintro calls cookie asic failed ⟨flow, member, same⟩
  have found : ((asic.flows .l3Unicast).any fun flow => flow.cookie = cookie) = true :=
    List.any_eq_true.mpr ⟨flow, member, decide_eq_true same⟩
  simp only [strictEnv, found, if_true] at failed
  cases failed

def neighbourSys : Sys :=
  { idealSys with
    hostTable := hostTableAdd idealEnv idealSys.hostTable ⟨0x0200000a#32, 5, 0x20000005, 7⟩ }

def neighbourRoutes : List RouteCall :=
  [⟨.add, ⟨.ipv4, "20.0.0.0/24".toList, [⟨false, []⟩]⟩⟩,
    ⟨.add, ⟨.ipv4, "20.0.0.0/16".toList, [⟨false, []⟩]⟩⟩,
    ⟨.add, ⟨.ipv4, "20.0.0.0/24".toList, [⟨true, "10.0.0.2".toList⟩]⟩⟩,
    ⟨.delete, ⟨.ipv4, "20.0.0.0/16".toList, []⟩⟩]

theorem route_actions_keep_map_neighbour :
    strictEnv.RouteDeletesRemove ∧ ∃ trace s, RouteRun strictEnv neighbourSys trace s ∧
      trace.length = 4 ∧ (s.hw.fpa.asic.flows .l3Unicast).map (·.data.groupId) = [0x20000005] ∧
      RouteMapKept strictEnv neighbourSys trace s := by
  obtain ⟨trace, s, run, four, groups, taken⟩ := Runs.Run.of_check neighbourRoutes
    (fun (trace : RouteTrace) (s : Sys) => trace.length = 4 ∧
      (s.hw.fpa.asic.flows .l3Unicast).map (·.data.groupId) = [0x20000005] ∧
      Runs.Along (fun _ event => RouteTaken event) trace)
    (by decide +kernel : (Runs.replay (routeStep strictEnv) [] neighbourSys neighbourRoutes).any _ = true)
  exact ⟨strictEnv_deletes, trace, s, run, four, groups,
    route_actions_keep_map strictEnv strictEnv_deletes neighbourSys trace s run taken⟩

end FpaPlugin
