import Mathlib.Logic.Basic

/-!
Executions of a partial step function. `exec` replays a list of actions and
stops at a refused one; `Along` says that every step taken on the way obeys a
law about its two states. An invariant is proved for one step and lifted here
to whole runs.
-/

namespace CycloneddsRs.StepRuns

universe u v
variable {State : Type u} {Action : Type v}

def exec (step : State → Action → Option State) : State → List Action → Option State
  | state, [] => some state
  | state, action :: rest => (step state action).bind fun next => exec step next rest

def Along (step : State → Action → Option State) (law : State → Action → State → Prop) :
    State → List Action → Prop
  | _, [] => True
  | state, action :: rest =>
      ∀ next, step state action = some next → law state action next ∧ Along step law next rest

theorem exec_snoc (step : State → Action → Option State) (past : List Action) (action : Action)
    (start state next : State) (reached : exec step start past = some state)
    (taken : step state action = some next) : exec step start (past ++ [action]) = some next := by
  induction past generalizing start with
  | nil =>
      cases reached
      rw [List.nil_append, exec, taken]
      rfl
  | cons first rest ih =>
      obtain ⟨middle, head, tail⟩ := Option.bind_eq_some_iff.mp reached
      rw [List.cons_append, exec, head, Option.bind_some]
      exact ih middle tail

/-- The invariant may speak of the actions taken so far. -/
theorem exec_invariant (step : State → Action → Option State)
    (inv : List Action → State → Prop)
    (kept : ∀ past state action next, inv past state → step state action = some next →
      inv (past ++ [action]) next)
    (past actions : List Action) (state final : State)
    (start : inv past state) (run : exec step state actions = some final) :
    inv (past ++ actions) final := by
  induction actions generalizing past state with
  | nil =>
      cases run
      simpa using start
  | cons action rest ih =>
      obtain ⟨next, taken, tail⟩ := Option.bind_eq_some_iff.mp run
      have later := ih (past ++ [action]) next (kept past state action next start taken) tail
      simpa using later

/-- Two laws agree on every run when they agree on each single step from a state
where the invariant holds, and the first law carries the invariant on. -/
theorem along_iff (step : State → Action → Option State)
    (inv : State → Prop) (law condition : State → Action → State → Prop)
    (agree : ∀ state action next, inv state → step state action = some next →
      (law state action next ↔ condition state action next))
    (kept : ∀ state action next, inv state → step state action = some next →
      law state action next → inv next)
    (state : State) (actions : List Action) (start : inv state) :
    Along step law state actions ↔ Along step condition state actions := by
  induction actions generalizing state with
  | nil => exact Iff.rfl
  | cons action rest ih =>
      constructor
      · intro lawful next taken
        obtain ⟨head, tail⟩ := lawful next taken
        have nextInv := kept state action next start taken head
        exact ⟨(agree state action next start taken).mp head, (ih next nextInv).mp tail⟩
      · intro conditioned next taken
        obtain ⟨head, tail⟩ := conditioned next taken
        have lawHead := (agree state action next start taken).mpr head
        have nextInv := kept state action next start taken lawHead
        exact ⟨lawHead, (ih next nextInv).mpr tail⟩

end CycloneddsRs.StepRuns
