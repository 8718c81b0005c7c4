/-
**Finite runs of a deterministic system.**

A system is a function `next` from a state and an action to a state. `run` folds it over a list of
actions; `Obeys guard` says that every action of the list meets `guard` in the state it is taken in.
Assumptions about what an environment does (it never frees this block, it only writes there) are
guards.

* `run_invariant` — the induction rule: what one guarded step preserves, a guarded run preserves;
* `forall_ok_iff`, `isLeast_failing_iff` — the budget rule: when a step succeeds exactly while a
  budget lasts, all steps succeed exactly when it lasts for all, and the first one to fail is the
  first one it does not last for;
* `attempt_perm` — the diamond rule: when two steps that may fail can be taken in either order, so
  can any number of them;
* `run_simulates` — the simulation rule: when every guarded step is a labelled step of an abstract
  system, a guarded run is a `Path` of the abstract system with the same labels;
* `run_lockstep`, `trace_eq_iff_obeys`, `trace_related` — the rules for two systems that run side by
  side: under an abstraction function, under a relation that a condition on the steps keeps, and
  with actions that are related themselves.
-/

import Mathlib.Data.List.Basic
import Mathlib.Data.List.ReduceOption
import Mathlib.Order.Bounds.Basic

namespace Runs

variable {State Action : Type*}

/-- The state after a list of actions: `List.foldl`, with the system first. -/
def run (next : State → Action → State) (start : State) : List Action → State
  | [] => start
  | action :: actions => run next (next start action) actions

/-- Every action of the list meets the guard in the state it is taken in. -/
def Obeys (next : State → Action → State) (guard : State → Action → Prop) :
    State → List Action → Prop
  | _, [] => True
  | start, action :: actions => guard start action ∧ Obeys next guard (next start action) actions

variable {next : State → Action → State} {guard : State → Action → Prop}

theorem run_eq_foldl (start : State) (actions : List Action) :
    run next start actions = actions.foldl next start := by
  induction actions generalizing start with
  | nil => rfl
  | cons action actions ih => exact ih (next start action)

theorem run_append (start : State) (first second : List Action) :
    run next start (first ++ second) = run next (run next start first) second := by
  simp only [run_eq_foldl, List.foldl_append]

/-- A run that obeys a guard obeys any weaker one. -/
theorem Obeys.imp {weaker : State → Action → Prop} {start : State} {actions : List Action}
    (obeys : Obeys next guard start actions)
    (implies : ∀ state action, guard state action → weaker state action) :
    Obeys next weaker start actions := by
  induction actions generalizing start with
  | nil => trivial
  | cons action actions ih => exact ⟨implies start action obeys.1, ih obeys.2⟩

theorem obeys_append {start : State} (first second : List Action) :
    Obeys next guard start (first ++ second) ↔
      Obeys next guard start first ∧ Obeys next guard (run next start first) second := by
  induction first generalizing start with
  | nil => exact iff_of_eq (true_and _).symm
  | cons action actions ih =>
    exact (and_congr_right fun _ => ih).trans and_assoc.symm

/-- **The invariant rule.** -/
theorem run_invariant {holds : State → Prop}
    (step : ∀ state action, guard state action → holds state → holds (next state action)) :
    ∀ (actions : List Action) (start : State), Obeys next guard start actions → holds start →
      holds (run next start actions)
  | [], _, _, first => first
  | action :: actions, start, obeys, first =>
      run_invariant step actions (next start action) obeys.2 (step start action obeys.1 first)

/-- **The invariant rule without a guard.** -/
theorem run_invariant_of_all {holds : State → Prop}
    (step : ∀ state action, holds state → holds (next state action)) (actions : List Action)
    (start : State) (first : holds start) : holds (run next start actions) := by
  induction actions generalizing start with
  | nil => exact first
  | cons action actions ih => exact ih (next start action) (step start action first)

/-- **The step rule**: what every guarded step does where an invariant holds, every step of a
guarded run does. -/
theorem obeys_of_invariant {holds : State → Prop} {does : State → Action → Prop}
    (step : ∀ state action, guard state action → holds state →
      does state action ∧ holds (next state action)) {start : State} {actions : List Action}
    (obeys : Obeys next guard start actions) (first : holds start) :
    Obeys next does start actions := by
  induction actions generalizing start with
  | nil => trivial
  | cons action actions ih =>
    obtain ⟨now, after⟩ := step start action obeys.1 first
    exact ⟨now, ih obeys.2 after⟩

/-- Two guards that agree wherever an invariant holds are obeyed by the same runs. -/
theorem obeys_congr {holds : State → Prop} {guard' : State → Action → Prop}
    (same : ∀ state action, holds state → (guard state action ↔ guard' state action))
    (step : ∀ state action, holds state → holds (next state action)) {start : State}
    {actions : List Action} (first : holds start) :
    Obeys next guard start actions ↔ Obeys next guard' start actions := by
  induction actions generalizing start with
  | nil => exact Iff.rfl
  | cons action actions ih =>
    exact and_congr (same start action first) (ih (step start action first))

/-! ### Steps under a budget -/

section Budget

variable {ok lasts : Nat → Prop} {count : Nat} (first : lasts 0)
  (lower : ∀ i, lasts (i + 1) → lasts i) (step : ∀ i < count, lasts i → (ok i ↔ lasts (i + 1)))

include lower in
theorem lasts_of_le {high : Nat} (holds : lasts high) {low : Nat} (ordered : low ≤ high) :
    lasts low := by
  induction high, ordered using Nat.le_induction with
  | base => exact holds
  | succ high _ ih => exact ih (lower high holds)

include first step in
/-- While the steps succeed the budget lasts. -/
theorem lasts_of_ok {i : Nat} (inside : i ≤ count) (succeed : ∀ j < i, ok j) : lasts i := by
  induction i with
  | zero => exact first
  | succ i ih =>
    have before := ih (Nat.le_of_lt inside) fun j below => succeed j (Nat.lt_succ_of_lt below)
    exact (step i inside before).mp (succeed i (Nat.lt_succ_self i))

include first step in
/-- The budget lasts up to the first step that fails. -/
theorem lasts_of_isLeast_failing {i : Nat} (least : IsLeast {j | j < count ∧ ¬ ok j} i) :
    lasts i := by
  refine lasts_of_ok first step (Nat.le_of_lt least.1.1) fun j below => ?_
  by_contra failed
  exact Nat.not_le_of_lt below (least.2 ⟨Nat.lt_trans below least.1.1, failed⟩)

include lower step in
/-- While the budget lasts the steps succeed. -/
theorem ok_of_lasts {i : Nat} (inside : i < count) (holds : lasts (i + 1)) : ok i :=
  (step i inside (lower i holds)).mpr holds

include first lower step

/-- **The budget rule**: all steps succeed exactly when the budget lasts for all. -/
theorem forall_ok_iff : (∀ i < count, ok i) ↔ lasts count := by
  refine ⟨lasts_of_ok first step (Nat.le_refl count), fun holds i inside => ?_⟩
  exact ok_of_lasts lower step inside (lasts_of_le lower holds inside)

/-- **The budget rule for failures**: the first step that fails is the first one the budget does not
last for. -/
theorem isLeast_failing_iff {i : Nat} :
    IsLeast {j | j < count ∧ ¬ ok j} i ↔ IsLeast {j | j < count ∧ ¬ lasts (j + 1)} i := by
  constructor
  · intro least
    obtain ⟨inside, fails⟩ := least.1
    have before := lasts_of_isLeast_failing first step least
    refine ⟨⟨inside, fun holds => fails ((step i inside before).mpr holds)⟩, fun j short => ?_⟩
    by_contra below
    exact short.2 (lasts_of_le lower before (Nat.lt_of_not_le below))
  · rintro ⟨⟨inside, short⟩, least⟩
    have before : ∀ j < i, lasts (j + 1) := by
      intro j below
      by_contra failed
      exact Nat.not_le_of_lt below (least ⟨Nat.lt_trans below inside, failed⟩)
    have reached : lasts i := by
      cases i with
      | zero => exact first
      | succ i => exact before i (Nat.lt_succ_self i)
    refine ⟨⟨inside, fun succeeds => short ((step i inside reached).mp succeeds)⟩, ?_⟩
    intro j failed
    by_contra below
    exact failed.2 (ok_of_lasts lower step failed.1 (before j (Nat.lt_of_not_le below)))

end Budget

/-! ### Steps that may fail -/

/-- Take every step of the list in order, if none fails. -/
def attempt (take : State → Action → Option State) (start : State) : List Action → Option State
  | [] => some start
  | action :: actions => (take start action).bind fun state => attempt take state actions

/-- **The diamond rule.** -/
theorem attempt_perm {take : State → Action → Option State} {holds : State → Prop}
    (kept : ∀ state action after, holds state → take state action = some after → holds after)
    (diamond : ∀ state first second, holds state →
      (take state first).bind (take · second) = (take state second).bind (take · first))
    {actions order : List Action} (perm : actions.Perm order) {start : State}
    (first : holds start) : attempt take start actions = attempt take start order := by
  induction perm generalizing start with
  | nil => rfl
  | cons action _ ih =>
    rcases taken : take start action with _ | after
    · rw [attempt, attempt, taken, Option.bind_none, Option.bind_none]
    · rw [attempt, attempt, taken, Option.bind_some, Option.bind_some]
      exact ih (kept _ _ _ first taken)
  | swap one other rest =>
    show (take start other).bind (fun state => (take state one).bind (attempt take · rest)) =
      (take start one).bind (fun state => (take state other).bind (attempt take · rest))
    rw [← Option.bind_assoc, ← Option.bind_assoc, diamond start other one first]
  | trans _ _ ih ih' => exact (ih first).trans (ih' first)

/-! ### Simulation -/

variable {Abstract Label : Type*}

/-- The labels of the steps of a run. -/
def trace (next : State → Action → State) (label : State → Action → Label) (start : State) :
    List Action → List Label
  | [] => []
  | action :: actions => label start action :: trace next label (next start action) actions

/-- The abstract system takes the steps that the labels say, in order. -/
inductive Path (step : Abstract → Label → Abstract → Prop) :
    Abstract → List Label → Abstract → Prop
  | nil (a : Abstract) : Path step a [] a
  | cons {a b c : Abstract} {label : Label} {labels : List Label} (first : step a label b)
      (rest : Path step b labels c) : Path step a (label :: labels) c

/-- What one abstract step preserves, a path preserves. -/
theorem Path.invariant {step : Abstract → Label → Abstract → Prop} {holds : Abstract → Prop}
    (preserves : ∀ a label b, step a label b → holds a → holds b) {a c : Abstract}
    {labels : List Label} (path : Path step a labels c) (first : holds a) : holds c := by
  induction path with
  | nil => exact first
  | cons taken rest ih => exact ih (preserves _ _ _ taken first)

/-- **The simulation rule.** -/
theorem run_simulates {holds : State → Prop} {abstract : State → Abstract}
    {label : State → Action → Label} {step : Abstract → Label → Abstract → Prop}
    (simulates : ∀ state action, guard state action → holds state →
      step (abstract state) (label state action) (abstract (next state action)) ∧
        holds (next state action)) :
    ∀ (actions : List Action) (start : State), Obeys next guard start actions → holds start →
      Path step (abstract start) (trace next label start actions)
        (abstract (run next start actions))
  | [], _, _, _ => .nil _
  | action :: actions, start, obeys, first =>
      have taken := simulates start action obeys.1 first
      .cons taken.1 (run_simulates simulates actions _ obeys.2 taken.2)

/-- **The lockstep rule.** -/
theorem run_lockstep {holds : State → Prop} {abstract : State → Abstract}
    {next' : Abstract → Action → Abstract} {label : State → Action → Label}
    {label' : Abstract → Action → Label}
    (labels : ∀ state action, holds state → label state action = label' (abstract state) action)
    (steps : ∀ state action, holds state →
      abstract (next state action) = next' (abstract state) action)
    (kept : ∀ state action, holds state → holds (next state action)) (actions : List Action)
    {start : State} (first : holds start) :
    trace next label start actions = trace next' label' (abstract start) actions ∧
      abstract (run next start actions) = run next' (abstract start) actions := by
  induction actions generalizing start with
  | nil => exact ⟨rfl, rfl⟩
  | cons action actions ih =>
    obtain ⟨shown, last⟩ := ih (kept start action first)
    rw [steps start action first] at shown last
    exact ⟨List.cons_eq_cons.mpr ⟨labels start action first, shown⟩, last⟩

/-- **The agreement rule.** Two systems take the same actions. In related states they show the same
exactly in the steps that meet a condition, and such a step keeps them related. Then their traces
are equal exactly when every step meets the condition. -/
theorem trace_eq_iff_obeys {Other : Type*} {next' : Other → Action → Other}
    {rel : State → Other → Prop} {agrees : State → Action → Prop} {label : State → Action → Label}
    {label' : Other → Action → Label}
    (labels : ∀ state other action, guard state action → rel state other →
      (label state action = label' other action ↔ agrees state action))
    (steps : ∀ state other action, guard state action → rel state other → agrees state action →
      rel (next state action) (next' other action)) (actions : List Action) {start : State}
    {other : Other} (obeys : Obeys next guard start actions) (related : rel start other) :
    trace next label start actions = trace next' label' other actions ↔
      Obeys next agrees start actions := by
  induction actions generalizing start other with
  | nil => exact iff_of_true rfl trivial
  | cons action actions ih =>
    have here := labels start other action obeys.1 related
    refine List.cons_eq_cons.trans ((and_congr_left fun _ => here).trans ?_)
    refine and_congr_right fun now => ?_
    exact ih obeys.2 (steps start other action obeys.1 related now)

/-- **The relational rule.** Two systems take related actions. If related states show related labels
and step to related states, so do their runs. -/
theorem trace_related {Other Action' Label' : Type*} {next' : Other → Action' → Other}
    {rel : State → Other → Prop} {moved : Action → Action' → Prop}
    {shown : Label → Label' → Prop} {label : State → Action → Label}
    {label' : Other → Action' → Label'}
    (step : ∀ state other action action', rel state other → moved action action' →
      shown (label state action) (label' other action') ∧
        rel (next state action) (next' other action')) {actions : List Action}
    {actions' : List Action'} (related : List.Forall₂ moved actions actions') {start : State}
    {other : Other} (first : rel start other) :
    List.Forall₂ shown (trace next label start actions) (trace next' label' other actions') ∧
      rel (run next start actions) (run next' other actions') := by
  induction related generalizing start other with
  | nil => exact ⟨.nil, first⟩
  | cons here _ ih =>
    obtain ⟨now, after⟩ := step start other _ _ first here
    obtain ⟨later, last⟩ := ih after
    exact ⟨.cons now later, last⟩

/-! ### Steps that can be left out -/

section Silent

variable {Action' : Type*} {pick : Action → Option Action'} {next' : State → Action' → State}
  (steps : ∀ state action, next state action = (pick action).elim state (next' state))

include steps

theorem run_filterMap (start : State) (actions : List Action) :
    run next start actions = run next' start (actions.filterMap pick) := by
  induction actions generalizing start with
  | nil => rfl
  | cons action actions ih =>
    rw [run, ih, steps]
    rcases picked : pick action with _ | action'
    · rw [List.filterMap_cons_none picked]
      rfl
    · rw [List.filterMap_cons_some picked]
      rfl

theorem reduceOption_trace {label : State → Action → Option Label}
    {label' : State → Action' → Label}
    (labels : ∀ state action, label state action = (pick action).map (label' state))
    (start : State) (actions : List Action) :
    (trace next label start actions).reduceOption =
      trace next' label' start (actions.filterMap pick) := by
  induction actions generalizing start with
  | nil => rfl
  | cons action actions ih =>
    rw [trace, labels, steps]
    rcases picked : pick action with _ | action'
    · rw [List.filterMap_cons_none picked, Option.map_none, List.reduceOption_cons_of_none]
      exact ih start
    · rw [List.filterMap_cons_some picked, Option.map_some, List.reduceOption_cons_of_some, trace]
      exact congrArg (_ :: ·) (ih (next' start action'))

end Silent

/-! ### States that cannot be told apart -/

/-- No run tells the two states apart by its labels. -/
def Alike (next : State → Action → State) (label : State → Action → Label) (first second : State) :
    Prop :=
  ∀ actions, trace next label first actions = trace next label second actions

namespace Alike

variable {label : State → Action → Label} {first second : State}

theorem symm (alike : Alike next label first second) : Alike next label second first :=
  fun actions => (alike actions).symm

theorem label_eq (alike : Alike next label first second) (action : Action) :
    label first action = label second action :=
  (List.cons_eq_cons.mp (alike [action])).1

/-- They stay alike after the same action. -/
theorem step (alike : Alike next label first second) (action : Action) :
    Alike next label (next first action) (next second action) :=
  fun actions => (List.cons_eq_cons.mp (alike (action :: actions))).2

end Alike

/-- States are alike when their images under a map in lockstep are. -/
theorem alike_iff_of_lockstep {holds : State → Prop} {abstract : State → Abstract}
    {next' : Abstract → Action → Abstract} {label : State → Action → Label}
    {label' : Abstract → Action → Label}
    (labels : ∀ state action, holds state → label state action = label' (abstract state) action)
    (steps : ∀ state action, holds state →
      abstract (next state action) = next' (abstract state) action)
    (kept : ∀ state action, holds state → holds (next state action)) {first second : State}
    (holds_first : holds first) (holds_second : holds second) :
    Alike next label first second ↔ Alike next' label' (abstract first) (abstract second) := by
  refine forall_congr' fun actions => ?_
  rw [(run_lockstep labels steps kept actions holds_first).1,
    (run_lockstep labels steps kept actions holds_second).1]

end Runs
