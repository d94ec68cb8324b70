import FpaPlugin.Lib.Runs

/-! A part of the state as a register: where every step either writes it or leaves it alone, a
run ends with what was written last. -/

namespace Runs

variable {σ ι ρ ε ν : Type}

def lastWrite (writes : Event σ ι ρ → Option ν) (initial : ν) (trace : List (Event σ ι ρ)) : ν :=
  (trace.findSome? writes).getD initial

theorem lastWrite_cons (writes : Event σ ι ρ → Option ν) (initial : ν) (event : Event σ ι ρ)
    (trace : List (Event σ ι ρ)) :
    lastWrite writes initial (event :: trace) =
      (writes event).getD (lastWrite writes initial trace) := by
  rw [lastWrite, List.findSome?_cons]
  cases writes event <;> rfl

/-- Register rule: what one step does to the register, a whole run does with the last write. -/
theorem Run.register {step : σ → ι → Except ε (ρ × σ)} {start : σ} {read : σ → ν}
    {writes : Event σ ι ρ → Option ν} {allowed : List (Event σ ι ρ) → Event σ ι ρ → Prop}
    (kept : ∀ trace state input reply next, step state input = .ok (reply, next) →
      allowed trace ⟨state, input, reply, next⟩ →
      read next = (writes ⟨state, input, reply, next⟩).getD (read state))
    {trace : List (Event σ ι ρ)} {state : σ} (run : Run step start trace state)
    (along : Along allowed trace) : read state = lastWrite writes (read start) trace := by
  induction run with
  | nil => rfl
  | cons _ taken ih =>
      rw [lastWrite_cons, kept _ _ _ _ _ taken along.1, ih along.2]

end Runs
