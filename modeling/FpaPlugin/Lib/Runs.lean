import Mathlib.Logic.Basic

/-! Runs of a deterministic step function that may fault. The trace is kept most
recent event first and records the state on both sides of every step, so that a
property may speak of what happened before as well as of where the run ended. -/

namespace Runs

variable {σ ι ρ ε : Type}

structure Event (σ ι ρ : Type) where
  before : σ
  input : ι
  reply : ρ
  after : σ

inductive Run (step : σ → ι → Except ε (ρ × σ)) (start : σ) : List (Event σ ι ρ) → σ → Prop
  | nil : Run step start [] start
  | cons {trace state input reply next} : Run step start trace state →
      step state input = .ok (reply, next) →
      Run step start (⟨state, input, reply, next⟩ :: trace) next

/-- Every event of the trace meets `allowed`, judged with the trace before it. -/
def Along (allowed : List (Event σ ι ρ) → Event σ ι ρ → Prop) : List (Event σ ι ρ) → Prop
  | [] => True
  | event :: earlier => allowed earlier event ∧ Along allowed earlier

instance Along.decidable (allowed : List (Event σ ι ρ) → Event σ ι ρ → Prop)
    [∀ earlier event, Decidable (allowed earlier event)] : ∀ trace, Decidable (Along allowed trace)
  | [] => isTrue trivial
  | event :: earlier =>
      have := Along.decidable allowed earlier
      inferInstanceAs (Decidable (allowed earlier event ∧ Along allowed earlier))

theorem Along.mono {allowed other : List (Event σ ι ρ) → Event σ ι ρ → Prop}
    {trace : List (Event σ ι ρ)} (along : Along allowed trace)
    (implies : ∀ earlier event, allowed earlier event → other earlier event) :
    Along other trace := by
  induction trace with
  | nil => trivial
  | cons event earlier ih => exact ⟨implies earlier event along.1, ih along.2⟩

theorem Along.and {allowed other : List (Event σ ι ρ) → Event σ ι ρ → Prop} :
    ∀ {trace}, Along allowed trace → Along other trace →
      Along (fun earlier event => allowed earlier event ∧ other earlier event) trace := by
  intro trace
  induction trace with
  | nil => exact fun _ _ => trivial
  | cons event earlier ih =>
      intro first second
      exact ⟨⟨first.1, second.1⟩, ih first.2 second.2⟩

theorem Along.of_mem {holds : Event σ ι ρ → Prop} {trace : List (Event σ ι ρ)}
    {event : Event σ ι ρ} (along : Along (fun _ event => holds event) trace)
    (member : event ∈ trace) : holds event := by
  induction trace with
  | nil => cases member
  | cons first earlier ih =>
      rcases List.mem_cons.mp member with rfl | later
      · exact along.1
      · exact ih along.2 later

theorem Run.taken {step : σ → ι → Except ε (ρ × σ)} {start state : σ}
    {trace : List (Event σ ι ρ)} (run : Run step start trace state) {event : Event σ ι ρ}
    (member : event ∈ trace) : step event.before event.input = .ok (event.reply, event.after) := by
  induction run with
  | nil => cases member
  | cons _ taken ih =>
      rcases List.mem_cons.mp member with rfl | earlier
      · exact taken
      · exact ih earlier

/-- Invariant rule: what holds at the start and is kept by every allowed step
holds at the end of every run of allowed steps. -/
theorem Run.invariant {step : σ → ι → Except ε (ρ × σ)} {start : σ}
    {allowed : List (Event σ ι ρ) → Event σ ι ρ → Prop}
    {holds : List (Event σ ι ρ) → σ → Prop} (initial : holds [] start)
    (preserved : ∀ trace state input reply next, holds trace state →
      step state input = .ok (reply, next) → allowed trace ⟨state, input, reply, next⟩ →
      holds (⟨state, input, reply, next⟩ :: trace) next)
    {trace : List (Event σ ι ρ)} {state : σ} (run : Run step start trace state)
    (along : Along allowed trace) : holds trace state := by
  induction run with
  | nil => exact initial
  | cons _ taken ih => exact preserved _ _ _ _ _ (ih along.2) taken along.1

theorem Run.stateInvariant {step : σ → ι → Except ε (ρ × σ)} {start : σ}
    {allowed : List (Event σ ι ρ) → Event σ ι ρ → Prop} {holds : σ → Prop} (initial : holds start)
    (preserved : ∀ trace state input reply next, holds state →
      step state input = .ok (reply, next) → allowed trace ⟨state, input, reply, next⟩ → holds next)
    {trace : List (Event σ ι ρ)} {state : σ} (run : Run step start trace state)
    (along : Along allowed trace) : holds state := by
  induction run with
  | nil => exact initial
  | cons _ taken ih => exact preserved _ _ _ _ _ (ih along.2) taken along.1

def replay (step : σ → ι → Except ε (ρ × σ)) :
    List (Event σ ι ρ) → σ → List ι → Option (List (Event σ ι ρ) × σ)
  | trace, state, [] => some (trace, state)
  | trace, state, input :: rest =>
      match step state input with
      | .error _ => none
      | .ok (reply, next) => replay step (⟨state, input, reply, next⟩ :: trace) next rest

theorem Run.replay {step : σ → ι → Except ε (ρ × σ)} {start : σ} : ∀ (inputs : List ι)
    {trace : List (Event σ ι ρ)} {state : σ} {result : List (Event σ ι ρ) × σ},
    Run step start trace state → Runs.replay step trace state inputs = some result →
      Run step start result.1 result.2 := by
  intro inputs
  induction inputs with
  | nil =>
      intro trace state result run replayed
      cases replayed
      exact run
  | cons input rest ih =>
      intro trace state result run replayed
      simp only [Runs.replay] at replayed
      split at replayed
      · cases replayed
      · rename_i taken
        exact ih (run.cons taken) replayed

theorem Run.of_check {step : σ → ι → Except ε (ρ × σ)} {start : σ} (inputs : List ι)
    (check : List (Event σ ι ρ) → σ → Prop) [∀ trace state, Decidable (check trace state)]
    (passed : (Runs.replay step [] start inputs).any (fun result => check result.1 result.2) = true) :
    ∃ trace state, Run step start trace state ∧ check trace state := by
  obtain ⟨result, replayed, checked⟩ := (Option.any_eq_true _ _).mp passed
  exact ⟨result.1, result.2, Run.nil.replay inputs replayed, of_decide_eq_true checked⟩

end Runs
