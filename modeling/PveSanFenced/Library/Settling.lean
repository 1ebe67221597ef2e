import Mathlib.Algebra.BigOperators.Group.Finset.Basic
import Mathlib.Algebra.Order.Ring.Nat
import Mathlib.Logic.Function.Basic

/-!
# Work that comes to an end

Parties that start nothing new do what they still have to do. If every step
makes a weight smaller, no order of the steps goes on for longer than the
weight; if there is always a step left until the work is settled, every order
that cannot go on has settled it.
-/

namespace PveSanFenced.Library.Settling

set_option autoImplicit false

section Steps

variable {State : Type*} (step : State → State → Prop)

inductive Steps : ℕ → State → State → Prop
  | none (state : State) : Steps 0 state state
  | next {count : ℕ} {state between last : State} (steps : Steps count state between)
      (moved : step between last) : Steps (count + 1) state last

variable {step} {Inv Settled : State → Prop} {weight : State → ℕ} {state last : State} {count : ℕ}

theorem steps_invariant (preserved : ∀ before after, Inv before → step before after → Inv after)
    (initially : Inv state) (steps : Steps step count state last) : Inv last := by
  induction steps with
  | none state => exact initially
  | next steps moved ih => exact preserved _ _ (ih initially) moved

theorem steps_bounded (preserved : ∀ before after, Inv before → step before after → Inv after)
    (lighter : ∀ before after, Inv before → step before after → weight after < weight before)
    (initially : Inv state) (steps : Steps step count state last) :
    count + weight last ≤ weight state := by
  induction steps with
  | none state => omega
  | next steps moved ih =>
      have before := ih initially
      have lost := lighter _ _ (steps_invariant preserved initially steps) moved
      omega

theorem steps_cons {between : State} (moved : step state between)
    (steps : Steps step count between last) : Steps step (count + 1) state last := by
  induction steps with
  | none between => exact Steps.next (Steps.none state) moved
  | next steps last ih => exact Steps.next (ih moved) last

theorem exists_settled (preserved : ∀ before after, Inv before → step before after → Inv after)
    (lighter : ∀ before after, Inv before → step before after → weight after < weight before)
    (goesOn : ∀ before, Inv before → ¬Settled before → ∃ after, step before after)
    (initially : Inv state) : ∃ count last, Steps step count state last ∧ Settled last := by
  induction bound : weight state using Nat.strong_induction_on generalizing state with
  | _ heavy ih =>
      by_cases settled : Settled state
      · exact ⟨0, state, Steps.none state, settled⟩
      · obtain ⟨after, moved⟩ := goesOn state initially settled
        have lost := lighter state after initially moved
        obtain ⟨count, last, steps, done⟩ :=
          ih (weight after) (by omega) (preserved state after initially moved) rfl
        exact ⟨count + 1, last, steps_cons moved steps, done⟩

end Steps

section Sums

variable {Index Value : Type*} [DecidableEq Index] (weight : Value → ℕ)

theorem sum_update {indices : Finset Index} {index : Index} (member : index ∈ indices)
    (values : Index → Value) (value : Value) :
    (∑ other ∈ indices, weight (Function.update values index value other)) +
        weight (values index) =
      (∑ other ∈ indices, weight (values other)) + weight value := by
  rw [← Finset.add_sum_erase indices _ member, ← Finset.add_sum_erase indices
    (fun other => weight (values other)) member, Function.update_self]
  have rest : ∑ other ∈ indices.erase index, weight (Function.update values index value other) =
      ∑ other ∈ indices.erase index, weight (values other) := by
    apply Finset.sum_congr rfl
    intro other inside
    rw [Function.update_of_ne (Finset.ne_of_mem_erase inside)]
  rw [rest]
  omega

theorem sum_update_outside {indices : Finset Index} {index : Index} (outside : index ∉ indices)
    (values : Index → Value) (value : Value) :
    ∑ other ∈ indices, weight (Function.update values index value other) =
      ∑ other ∈ indices, weight (values other) := by
  apply Finset.sum_congr rfl
  intro other inside
  have different : other ≠ index := by
    intro same
    rw [same] at inside
    exact outside inside
  rw [Function.update_of_ne different]

end Sums

end PveSanFenced.Library.Settling
