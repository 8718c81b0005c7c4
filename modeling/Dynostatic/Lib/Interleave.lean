/-
**Components side by side.**

A family of deterministic systems runs in one world. A move names a component and an action of it,
and `weave` makes that component take the action while the others stay where they are. `project`
keeps the moves of one component, in order.

* `run_weave` — a component ends where it ends when it runs alone;
* `project_trace_weave` — and shows on the way what it shows alone.
-/

import Mathlib.Logic.Function.Basic
import Dynostatic.Lib.Runs

namespace Runs

variable {ι State Action Label : Type*} [DecidableEq ι]

/-- The component that a move names takes the action. -/
def weave (next : ι → State → Action → State) (world : ι → State) (move : ι × Action) : ι → State :=
  Function.update world move.1 (next move.1 (world move.1) move.2)

/-- What is tagged with one component, in order. -/
def project (i : ι) : List (ι × Action) → List Action
  | [] => []
  | move :: moves => if move.1 = i then move.2 :: project i moves else project i moves

variable {next : ι → State → Action → State}

theorem project_cons_self (i : ι) (action : Action) (moves : List (ι × Action)) :
    project i ((i, action) :: moves) = action :: project i moves :=
  if_pos rfl

theorem project_cons_of_ne {i j : ι} (other : j ≠ i) (action : Action) (moves : List (ι × Action)) :
    project i ((j, action) :: moves) = project i moves :=
  if_neg other

theorem weave_self (world : ι → State) (i : ι) (action : Action) :
    weave next world (i, action) i = next i (world i) action :=
  Function.update_self _ _ _

theorem weave_of_ne (world : ι → State) {i j : ι} (other : j ≠ i) (action : Action) :
    weave next world (j, action) i = world i :=
  Function.update_of_ne other.symm _ _

/-- **A component ends where it ends alone.** -/
theorem run_weave (i : ι) (world : ι → State) (moves : List (ι × Action)) :
    run (weave next) world moves i = run (next i) (world i) (project i moves) := by
  induction moves generalizing world with
  | nil => rfl
  | cons move moves ih =>
    obtain ⟨j, action⟩ := move
    by_cases same : j = i
    · subst same
      rw [project_cons_self, run, run, ih, weave_self]
    · rw [project_cons_of_ne same, run, ih, weave_of_ne _ same]

/-- **And shows what it shows alone.** -/
theorem project_trace_weave (label : ι → State → Action → Label) (i : ι) (world : ι → State)
    (moves : List (ι × Action)) :
    project i (trace (weave next) (fun world move => (move.1, label move.1 (world move.1) move.2))
        world moves) = trace (next i) (label i) (world i) (project i moves) := by
  induction moves generalizing world with
  | nil => rfl
  | cons move moves ih =>
    obtain ⟨j, action⟩ := move
    by_cases same : j = i
    · subst same
      rw [trace, project_cons_self, project_cons_self, trace, ih, weave_self]
    · rw [trace, project_cons_of_ne same, project_cons_of_ne same, ih, weave_of_ne _ same]

end Runs
