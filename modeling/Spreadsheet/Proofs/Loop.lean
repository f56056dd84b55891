/-! Loops without a bound on their rounds. -/

set_option autoImplicit false

namespace Spreadsheet

/-- The loop that starts in a state stops after some rounds and gives the answer. A round leads
to the next state or stops the loop. -/
inductive Ends {σ α : Type} (round : σ → σ ⊕ α) : σ → α → Prop where
  | stop {state : σ} {answer : α} : round state = .inr answer → Ends round state answer
  | again {state next : σ} {answer : α} : round state = .inl next → Ends round next answer →
      Ends round state answer

variable {σ α : Type} {round : σ → σ ⊕ α} {state : σ} {first second answer : α}

theorem Ends.unique (here : Ends round state first) (there : Ends round state second) :
    first = second := by
  induction here with
  | stop stops =>
      cases there with
      | stop again => exact Sum.inr.inj (stops.symm.trans again)
      | again goes => exact nomatch stops.symm.trans goes
  | again goes _ ih =>
      cases there with
      | stop stops => exact nomatch stops.symm.trans goes
      | again same further => exact ih (Sum.inl.inj (goes.symm.trans same) ▸ further)

theorem Ends.iff_eq (ends : Ends round state answer) (other : α) :
    Ends round state other ↔ other = answer :=
  ⟨fun again => again.unique ends, fun same => same ▸ ends⟩

end Spreadsheet
