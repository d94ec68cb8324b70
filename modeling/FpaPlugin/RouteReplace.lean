import FpaPlugin.RoutingFlows

/-! `l3_route_action` replaces a route by deleting it and adding the new one. Nothing brings
the old route back when the new one is refused. -/

namespace FpaPlugin

variable {env : Env} {s next : Sys} {rc : Rc} {action : RouteAction} {route : OfprotoRoute}

/-- The flow that the call is to install, once everything it checks has passed. -/
def replacement (env : Env) (s : Sys) (action : RouteAction) (route : OfprotoRoute) :
    Option (FlowEntry .l3Unicast) :=
  match action, route.family, route.nexthops with
  | .add, .ipv4, [nexthop] =>
      (opsFpaStr2ip route.ipPrefix).bind fun (ipv4, maskLen) =>
        if nexthop.resolved then
          (opsFpaStr2ip nexthop.id).bind fun (hostIpv4, _) =>
            (hostTableFind env s.hostTable hostIpv4).map fun host =>
              routeFlow env host.l3Group .none ipv4 maskLen
        else some (routeFlow env 0xffffffff .controller ipv4 maskLen)
  | _, _, _ => none

/-- Where the old routes are deleted and the new one is refused, there were none. -/
def KeepsRoutes (env : Env) (s : Sys) (action : RouteAction) (route : OfprotoRoute) : Prop :=
  ∀ flow, replacement env s action route = some flow →
    ∀ deleted, s.hw.fpa.issue env (.flowTableCookieDelete .l3Unicast flow.cookie) = (.ok, deleted) →
      (addRouteFlow env deleted flow).1 = .fail →
        ¬ s.hw.fpa.asic.Carries .l3Unicast flow.cookie

theorem addRouteFlow_refused {fpa after : Fpa} {flow : FlowEntry .l3Unicast}
    (refused : addRouteFlow env fpa flow = (.fail, after)) : after.asic = fpa.asic := by
  simp only [addRouteFlow] at refused
  cases init : fpa.issue env (.flowEntryInit .l3Unicast) with
  | mk status fpaInit =>
  have afterInit : fpaInit.asic = fpa.asic := by
    rw [asic_of_issue init]
    split <;> rfl
  rw [init] at refused
  cases status with
  | fail =>
      cases refused
      exact afterInit
  | ok => rw [asic_of_issue refused, if_neg (by decide), afterInit]

theorem l3RouteAction_cases (taken : l3RouteAction env s action route = (rc, next)) :
    replacement env s action route = none ∧ rc = .einval ∧ next = s ∨
    ∃ ipv4 maskLen, opsFpaStr2ip route.ipPrefix = some (ipv4, maskLen) ∧
      (replacement env s action route = none ∧ action = .delete ∧ rc = .ok ∧
          next.hw.fpa = (opsFpaRouteDelRoute env s.hw.fpa ipv4 maskLen).2 ∨
        ∃ flow, replacement env s action route = some flow ∧
          flow.cookie = opsFpaRouteIpv4Cookie ipv4 maskLen ∧
          replaceRoute env s ipv4 maskLen (fun fpa => addRouteFlow env fpa flow) = (rc, next)) := by
  simp only [l3RouteAction] at taken
  simp only [replacement]
  cases family : route.family with
  | ipv6 =>
      simp only [family] at taken
      cases taken
      refine .inl ⟨?_, rfl, rfl⟩
      split <;> first | rfl | contradiction
  | ipv4 =>
      simp only [family] at taken
      cases parsed : opsFpaStr2ip route.ipPrefix with
      | none =>
          simp only [parsed] at taken
          cases taken
          refine .inl ⟨?_, rfl, rfl⟩
          split <;> rfl
      | some address =>
          obtain ⟨ipv4, maskLen⟩ := address
          simp only [parsed] at taken
          cases action with
          | delete =>
              cases taken
              exact .inr ⟨ipv4, maskLen, rfl, .inl ⟨rfl, rfl, rfl, rfl⟩⟩
          | deleteNh =>
              cases taken
              exact .inl ⟨rfl, rfl, rfl⟩
          | add =>
              rcases nexthops : route.nexthops with _ | ⟨nexthop, _ | ⟨second, rest⟩⟩
              · simp only [nexthops] at taken
                cases taken
                exact .inl ⟨rfl, rfl, rfl⟩
              · simp only [nexthops, addRoute] at taken
                dsimp only [Option.bind_some]
                cases resolved : nexthop.resolved with
                | false =>
                    simp only [resolved, Bool.false_eq_true, if_false] at taken ⊢
                    exact .inr ⟨ipv4, maskLen, rfl, .inr ⟨_, rfl, rfl, taken⟩⟩
                | true =>
                    simp only [resolved, if_true] at taken ⊢
                    cases hop : opsFpaStr2ip nexthop.id with
                    | none =>
                        simp only [hop] at taken
                        cases taken
                        exact .inl ⟨rfl, rfl, rfl⟩
                    | some hostAddress =>
                        obtain ⟨hostIpv4, hostMaskLen⟩ := hostAddress
                        simp only [hop] at taken
                        dsimp only [Option.bind_some]
                        cases found : hostTableFind env s.hostTable hostIpv4 with
                        | none =>
                            simp only [found] at taken
                            cases taken
                            exact .inl ⟨rfl, rfl, rfl⟩
                        | some host =>
                            simp only [found] at taken
                            exact .inr ⟨ipv4, maskLen, rfl, .inr ⟨_, rfl, rfl, taken⟩⟩
              · simp only [nexthops] at taken
                cases taken
                exact .inl ⟨rfl, rfl, rfl⟩

/-- A refused route action leaves the L3-unicast table as it was exactly when no route is lost
as `KeepsRoutes` says. -/
theorem refused_route_keeps_table_iff (env : Env) (s : Sys) (action : RouteAction)
    (route : OfprotoRoute) {rc : Rc} {next : Sys}
    (taken : l3RouteAction env s action route = (rc, next)) :
    (rc ≠ .ok → next.hw.fpa.asic.flows .l3Unicast = s.hw.fpa.asic.flows .l3Unicast) ↔
      KeepsRoutes env s action route := by
  rcases l3RouteAction_cases taken with ⟨nothing, _, rfl⟩ |
    ⟨ipv4, maskLen, _, ⟨nothing, _, isOk, _⟩ | ⟨flow, isFlow, cookie, replaced⟩⟩
  · exact iff_of_true (fun _ => rfl) fun flow isFlow => by rw [nothing] at isFlow; cases isFlow
  · exact iff_of_true (fun refused => (refused isOk).elim)
      fun flow isFlow => by rw [nothing] at isFlow; cases isFlow
  · simp only [KeepsRoutes, isFlow, Option.some.injEq, forall_eq']
    simp only [replaceRoute, opsFpaRouteDelRoute, ← cookie] at replaced
    cases deletes : s.hw.fpa.issue env (.flowTableCookieDelete .l3Unicast flow.cookie) with
    | mk status deleted =>
    have afterDelete := asic_of_issue deletes
    rw [deletes] at replaced
    dsimp only at replaced
    cases adds : addRouteFlow env deleted flow with
    | mk added after =>
    rw [adds] at replaced
    cases added with
    | ok =>
        cases replaced
        refine iff_of_true (fun refused => (refused rfl).elim) (fun other isOther refused => ?_)
        cases isOther
        rw [adds] at refused
        cases refused
    | fail =>
        cases replaced
        have kept := addRouteFlow_refused adds
        cases status with
        | fail =>
            refine iff_of_true (fun _ => ?_) (fun other isOther => by cases isOther)
            rw [kept, afterDelete, if_neg (by decide)]
        | ok =>
            rw [if_pos rfl] at afterDelete
            simp only [Prod.mk.injEq, true_and, forall_eq', adds, kept, afterDelete,
              Asic.flows_cookieDelete, filter_cookie_iff]
            exact ⟨fun lost _ => lost (by decide), fun absent _ => absent trivial⟩

def routeTo (text : CString) : OfprotoRoute := ⟨.ipv4, text, [⟨false, []⟩]⟩

def oneRouteEnv : Env :=
  { idealEnv with
    verdict := fun calls call _ =>
      match call with
      | .flowEntryAdd .l3Unicast _ => if calls.length ≤ 2 then .ok else .fail
      | _ => .ok }

def trappedRoute : Sys := (l3RouteAction oneRouteEnv idealSys .add (routeTo "10.0.0.0/24".toList)).2

theorem refused_route_keeps_table_other : ∃ next,
    l3RouteAction oneRouteEnv trappedRoute .add (routeTo "10.0.1.0/24".toList) = (.einval, next) ∧
      next.hw.fpa.asic.flows .l3Unicast = trappedRoute.hw.fpa.asic.flows .l3Unicast ∧
      (trappedRoute.hw.fpa.asic.flows .l3Unicast).length = 1 := by
  have kept := refused_route_keeps_table_iff oneRouteEnv trappedRoute .add
    (routeTo "10.0.1.0/24".toList) rfl
  have apart : (replacement oneRouteEnv trappedRoute .add (routeTo "10.0.1.0/24".toList)).all
      (fun flow => (trappedRoute.hw.fpa.asic.flows .l3Unicast).all
        fun old => old.cookie ≠ flow.cookie) = true := by decide +kernel
  refine ⟨_, Prod.ext (by decide +kernel) rfl, kept.mpr ?_ (by decide +kernel), by decide +kernel⟩
  rintro flow isFlow deleted _ _ ⟨old, member, same⟩
  rw [isFlow, Option.all_some, List.all_eq_true] at apart
  exact of_decide_eq_true (apart old member) same

/-- The route that was there is gone when its replacement is refused. -/
theorem refused_replacement_loses_route : ∃ next,
    l3RouteAction oneRouteEnv trappedRoute .add (routeTo "10.0.0.0/24".toList) = (.einval, next) ∧
      (trappedRoute.hw.fpa.asic.flows .l3Unicast).length = 1 ∧
      next.hw.fpa.asic.flows .l3Unicast ≠ trappedRoute.hw.fpa.asic.flows .l3Unicast := by
  refine ⟨_, Prod.ext (by decide +kernel) rfl, by decide +kernel, fun same => ?_⟩
  have lengths := congrArg List.length same
  exact absurd lengths (by decide +kernel)

end FpaPlugin
