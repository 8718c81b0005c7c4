/-
**Credits for traced computations.**

A weight says what each event of a traced computation costs, and `cost` adds up the events. `Pays`
is a judgement about cost: with `before` credits the program pays for all its events, and leaves
`after a` of them with its result `a`. Credits that a state holds make it a potential, and what a
program leaves unspent pays for programs that come later:

* `Pays.bind`, `Pays.ite` — one rule for each construct;
* `trace_sum_le` — the rule for runs: where every step pays from its budget and from the potential
  of the state it starts in, a run pays from the budgets of its steps and from the potential of its
  first state.
-/

import Mathlib.Algebra.BigOperators.Group.List.Basic
import Mathlib.Algebra.Ring.Nat
import Dynostatic.Lib.Runs
import Dynostatic.Lib.Traced

namespace Tracing.Traced

open Runs

variable {ε α β : Type} {weight : ε → Nat}

/-- The events of the computation, each with its weight. -/
def cost (weight : ε → Nat) (program : Traced ε α) : Nat := (program.events.map weight).sum

@[simp] theorem cost_pure (a : α) : (pure a : Traced ε α).cost weight = 0 := rfl

@[simp] theorem cost_emit (event : ε) : (emit event).cost weight = weight event :=
  List.sum_singleton

@[simp] theorem cost_bind (program : Traced ε α) (rest : α → Traced ε β) :
    (program >>= rest).cost weight =
      program.cost weight + (rest program.value).cost weight := by
  rw [cost, events_bind, List.map_append, List.sum_append]
  rfl

@[simp] theorem cost_ite {condition : Prop} [Decidable condition] (program other : Traced ε α) :
    (if condition then program else other).cost weight =
      if condition then program.cost weight else other.cost weight := by
  split <;> rfl

/-- **The program pays for its events from `before`, and leaves `after`.** -/
def Pays (weight : ε → Nat) (program : Traced ε α) (before : Nat) (after : α → Nat) : Prop :=
  program.cost weight + after program.value ≤ before

section Rules

variable {program other : Traced ε α} {before before' : Nat} {after : α → Nat}

theorem pays_pure {a : α} (kept : after a ≤ before) : Pays weight (pure a) before after :=
  (Nat.zero_add _).trans_le kept

/-- **The sequencing rule**: the rest pays from what the first part leaves. -/
theorem Pays.bind {rest : α → Traced ε β} {after : β → Nat} (middle : α → Nat)
    (first : Pays weight program before middle)
    (second : Pays weight (rest program.value) (middle program.value) after) :
    Pays weight (program >>= rest) before after := by
  unfold Pays at *
  rw [cost_bind, value_bind]
  omega

theorem Pays.ite {condition : Prop} [Decidable condition]
    (first : condition → Pays weight program before after)
    (second : ¬ condition → Pays weight other before after) :
    Pays weight (if condition then program else other) before after := by
  split
  · exact first ‹_›
  · exact second ‹_›

/-- More credits do no harm. -/
theorem Pays.mono (pays : Pays weight program before after) (more : before ≤ before') :
    Pays weight program before' after :=
  Nat.le_trans pays more

/-- **The frame rule**: credits that are set aside are left. -/
theorem Pays.frame (pays : Pays weight program before after) (aside : Nat) :
    Pays weight program (before + aside) fun a => after a + aside :=
  (Nat.add_assoc _ _ _).ge.trans (Nat.add_le_add_right pays aside)

/-- A surcharge on top of the events is paid for by as many credits. -/
theorem Pays.surcharge (pays : Pays weight program before after) {extra more : Nat}
    (bound : extra ≤ more) :
    program.cost weight + extra + after program.value ≤ more + before := by
  unfold Pays at pays
  omega

/-- A part that costs at most `price` leaves `middle` for the rest. -/
theorem Pays.spend {rest : α → Traced ε β} {after : β → Nat} (price middle : Nat)
    (bound : program.cost weight ≤ price) (enough : middle + price ≤ before)
    (second : Pays weight (rest program.value) middle after) :
    Pays weight (program >>= rest) before after := by
  refine Pays.bind (fun _ => middle) ?_ second
  show program.cost weight + middle ≤ before
  omega

end Rules

/-- **The rule for runs.** -/
theorem trace_sum_le {State Action : Type*} {next : State → Action → State}
    {spends : State → Action → Nat} {budget : Action → Nat} {potential : State → Nat}
    (step : ∀ state action,
      spends state action + potential (next state action) ≤ budget action + potential state)
    (actions : List Action) (start : State) :
    (trace next spends start actions).sum + potential (run next start actions) ≤
      (actions.map budget).sum + potential start := by
  induction actions generalizing start with
  | nil => exact le_rfl
  | cons action actions ih =>
    have now := step start action
    have later := ih (next start action)
    rw [trace, List.sum_cons, List.map_cons, List.sum_cons, run]
    omega

end Tracing.Traced
