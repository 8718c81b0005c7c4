/-
**Programs that check themselves.**

A `Checked` program works on a state and stops at the first assertion that fails. `Passes` says that
it runs to its end from a state, and what it leaves. The rules follow the program, one for each
construct, so a self-checking program is verified like any other: an assertion that never fails is
one whose condition is proved where it stands. As the programs are deterministic, what comes before
a point can also be run once and for all (`passes_bind_iff`).
-/

namespace Checking

/-- A program over a state that stops at a failed assertion. -/
abbrev Checked (State : Type) := StateT State Option

variable {State Value Result Item : Type}

/-- An assertion. -/
def check (condition : Prop) [Decidable condition] : Checked State Unit :=
  if condition then pure () else failure

/-- **The program runs to its end**, and `post` holds of what it leaves. -/
def Passes (program : Checked State Value) (state : State) (post : Value → State → Prop) : Prop :=
  ∃ value after, program.run state = some (value, after) ∧ post value after

variable {program : Checked State Value} {state : State} {post post' : Value → State → Prop}

theorem passes_pure {value : Value} (holds : post value state) : Passes (pure value) state post :=
  ⟨value, state, rfl, holds⟩

theorem Passes.imp (passes : Passes program state post)
    (weaker : ∀ value after, post value after → post' value after) :
    Passes program state post' := by
  obtain ⟨value, after, ran, holds⟩ := passes
  exact ⟨value, after, ran, weaker value after holds⟩

/-- The first part has run, and the rest goes on from what it left. -/
theorem run_bind_of_run {rest : Value → Checked State Result} {value : Value} {after : State}
    (ran : program.run state = some (value, after)) :
    (program >>= rest).run state = (rest value).run after := by
  show (program.run state).bind (fun ended => (rest ended.1).run ended.2) = _
  rw [ran]
  rfl

/-- **The sequencing rule.** -/
theorem Passes.bind {rest : Value → Checked State Result} {post : Result → State → Prop}
    {middle : Value → State → Prop} (first : Passes program state middle)
    (second : ∀ value after, middle value after → Passes (rest value) after post) :
    Passes (program >>= rest) state post := by
  obtain ⟨value, between, ran, holds⟩ := first
  obtain ⟨result, after, ran', holds'⟩ := second value between holds
  exact ⟨result, after, (run_bind_of_run ran).trans ran', holds'⟩

/-- **What passes first does not decide the rest.** -/
theorem passes_bind_iff {rest : Value → Checked State Result} {post : Result → State → Prop}
    {middle : Value → State → Prop} {condition : Prop} (first : Passes program state middle)
    (second : ∀ value after, middle value after → (Passes (rest value) after post ↔ condition)) :
    Passes (program >>= rest) state post ↔ condition := by
  obtain ⟨value, between, ran, holds⟩ := first
  rw [← second value between holds]
  unfold Passes
  rw [run_bind_of_run ran]

/-! ### The state -/

section State

variable {change : State → State} {post : Result → State → Prop}

/-- What is read is the state. -/
theorem passes_get_bind {rest : State → Checked State Result}
    (passes : Passes (rest state) state post) : Passes (get >>= rest) state post :=
  passes

/-- The rest goes on from the changed state. -/
theorem passes_modify_bind {rest : Unit → Checked State Result}
    (passes : Passes (rest ()) (change state) post) :
    Passes (modify change >>= rest) state post :=
  passes

theorem passes_modify {post : Unit → State → Prop} (holds : post () (change state)) :
    Passes (modify change) state post :=
  ⟨(), change state, rfl, holds⟩

end State

/-! ### Assertions -/

section Assertions

variable {condition : Prop} [Decidable condition] {post : Unit → State → Prop}

theorem passes_check (true : condition) (holds : post () state) :
    Passes (check condition) state post := by
  unfold check
  rw [if_pos true]
  exact passes_pure holds

/-- Nothing runs past an assertion that fails. -/
theorem not_passes_check_bind {rest : Unit → Checked State Result} {post : Result → State → Prop}
    (false : ¬ condition) : ¬ Passes (check condition >>= rest) state post := by
  rintro ⟨result, after, ran, -⟩
  unfold check at ran
  rw [if_neg false] at ran
  cases ran

/-- A true assertion in front changes nothing. -/
theorem passes_check_bind_iff {rest : Unit → Checked State Result} {post : Result → State → Prop}
    (true : condition) :
    Passes (check condition >>= rest) state post ↔ Passes (rest ()) state post := by
  have asserts : Passes (check condition) state fun _ after => after = state :=
    passes_check true rfl
  refine passes_bind_iff asserts ?_
  rintro ⟨⟩ after rfl
  exact Iff.rfl

/-- **The rule for an assertion**: its condition is proved where it stands. -/
theorem passes_check_bind {rest : Unit → Checked State Result} {post : Result → State → Prop}
    (true : condition) (passes : Passes (rest ()) state post) :
    Passes (check condition >>= rest) state post :=
  (passes_check_bind_iff true).mpr passes

end Assertions

/-! ### Programs that only assert -/

/-- The program runs to its end, and changes nothing. -/
def Asserts (program : Checked State Unit) (state : State) : Prop :=
  Passes program state fun _ after => after = state

theorem Asserts.bind {program : Checked State Unit} {rest : Unit → Checked State Result}
    {post : Result → State → Prop} (asserts : Asserts program state)
    (passes : Passes (rest ()) state post) : Passes (program >>= rest) state post := by
  refine Passes.bind asserts ?_
  rintro ⟨⟩ after rfl
  exact passes

theorem asserts_pure : Asserts (pure ()) state :=
  passes_pure rfl

theorem asserts_check {condition : Prop} [Decidable condition] (true : condition) :
    Asserts (check condition) state :=
  passes_check true rfl

/-- A loop whose rounds change nothing. -/
theorem asserts_forM {body : Item → Checked State Unit} {items : List Item}
    (round : ∀ item ∈ items, Asserts (body item) state) : Asserts (items.forM body) state := by
  induction items with
  | nil => exact asserts_pure
  | cons item items ih =>
    exact Asserts.bind (round item List.mem_cons_self)
      (ih fun item member => round item (List.mem_cons_of_mem _ member))

/-! ### Branches and loops -/

theorem Passes.of_pos {condition : Prop} [Decidable condition] {other : Checked State Value}
    (holds : condition) (passes : Passes program state post) :
    Passes (if condition then program else other) state post := by
  rwa [if_pos holds]

theorem Passes.of_neg {condition : Prop} [Decidable condition] {other : Checked State Value}
    (fails : ¬ condition) (passes : Passes program state post) :
    Passes (if condition then other else program) state post := by
  rwa [if_neg fails]

/-- **The rule for a loop over a list**: what every round keeps, the loop keeps. -/
theorem passes_forM {holds : State → Prop} {body : Item → Checked State Unit} {items : List Item}
    (round : ∀ item ∈ items, ∀ state, holds state →
      Passes (body item) state fun _ after => holds after)
    (first : holds state) : Passes (items.forM body) state fun _ after => holds after := by
  induction items generalizing state with
  | nil => exact passes_pure first
  | cons item items ih =>
    refine Passes.bind (round item List.mem_cons_self state first) fun _ after kept => ?_
    exact ih (fun item member => round item (List.mem_cons_of_mem _ member)) kept

end Checking
