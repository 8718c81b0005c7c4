/-
**Traced computations.**

A traced computation returns a value together with the events it goes through, in order. The value
is what a caller of the program sees; the events are what a checker standing beside the program
would see: an assertion evaluated, an index used, an addition performed. A program is written once,
over the traced monad, and then read in two ways:

* `Traced.value` forgets the events;
* `Traced.Every P` says that every event satisfies `P`. It is compositional
  (`Traced.every_bind`): a computation is safe when its first part is, and its continuation is at
  the value the first part returns.

`Traced.Yields P program a` is both at once, the program returns `a` and goes through good events
only. Its rules follow the program: one for each construct, so a function's result and its safety
have one proof.

The monad is the writer monad over lists of events.
-/

import Mathlib.Control.Monad.Writer

namespace Tracing

/-- A computation that returns a value and logs the events it goes through. -/
def Traced (ε α : Type) : Type := Writer (List ε) α

instance (ε : Type) : Monad (Traced ε) := inferInstanceAs (Monad (Writer (List ε)))

namespace Traced

variable {ε α β : Type}

/-- The value a computation returns. -/
def value (program : Traced ε α) : α := (WriterT.run program).1

/-- The events a computation goes through, in order. -/
def events (program : Traced ε α) : List ε := (WriterT.run program).2

/-- Log one event. -/
def emit (event : ε) : Traced ε Unit := (tell [event] : Writer (List ε) PUnit)

/-- Every event of the computation satisfies `P`. -/
def Every (P : ε → Prop) (program : Traced ε α) : Prop := ∀ event ∈ program.events, P event

/-! ### Values -/

@[simp] theorem value_pure (a : α) : (pure a : Traced ε α).value = a := rfl

@[simp] theorem value_bind (program : Traced ε α) (rest : α → Traced ε β) :
    (program >>= rest).value = (rest program.value).value := rfl

@[simp] theorem value_ite {condition : Prop} [Decidable condition] (program other : Traced ε α) :
    (if condition then program else other).value =
      if condition then program.value else other.value := by
  split <;> rfl

/-! ### Events -/

@[simp] theorem events_bind (program : Traced ε α) (rest : α → Traced ε β) :
    (program >>= rest).events = program.events ++ (rest program.value).events := rfl

@[simp] theorem events_emit (event : ε) : (emit event).events = [event] := rfl

@[simp] theorem every_pure (P : ε → Prop) (a : α) : Every P (pure a : Traced ε α) := by
  intro event member
  cases member

/-- **The sequencing rule.** The rest of the program is judged at the value its first part
returns. -/
@[simp] theorem every_bind (P : ε → Prop) (program : Traced ε α) (rest : α → Traced ε β) :
    Every P (program >>= rest) ↔ Every P program ∧ Every P (rest program.value) := by
  simp only [Every, events_bind, List.mem_append, or_imp, forall_and]

@[simp] theorem every_emit (P : ε → Prop) (event : ε) : Every P (emit event) ↔ P event := by
  simp only [Every, events_emit, List.mem_singleton, forall_eq]

@[simp] theorem every_ite (P : ε → Prop) {condition : Prop} [Decidable condition]
    (program other : Traced ε α) : Every P (if condition then program else other) ↔
      (condition → Every P program) ∧ (¬ condition → Every P other) := by
  by_cases holds : condition
  · rw [if_pos holds]
    exact ⟨fun every => ⟨fun _ => every, fun fails => absurd holds fails⟩, fun both => both.1 holds⟩
  · rw [if_neg holds]
    exact ⟨fun every => ⟨fun holds' => absurd holds' holds, fun _ => every⟩,
      fun both => both.2 holds⟩

/-! ### Results and events together -/

/-- The program returns `a`, and every event on the way satisfies `P`. -/
structure Yields (P : ε → Prop) (program : Traced ε α) (a : α) : Prop where
  value : program.value = a
  every : Every P program

variable {P : ε → Prop} {program : Traced ε α} {a : α} {b : β}

theorem yields_pure : Yields P (pure a) a :=
  ⟨rfl, every_pure P a⟩

theorem yields_emit {event : ε} (good : P event) : Yields P (emit event) () :=
  ⟨rfl, (every_emit P event).mpr good⟩

/-- **The sequencing rule**: the rest starts from what the first part yields. -/
theorem Yields.bind {rest : α → Traced ε β} (first : Yields P program a)
    (second : Yields P (rest a) b) : Yields P (program >>= rest) b := by
  obtain ⟨rfl, good⟩ := first
  exact ⟨second.value, (every_bind P program rest).mpr ⟨good, second.every⟩⟩

theorem Yields.of_pos {condition : Prop} [Decidable condition] {other : Traced ε α}
    (holds : condition) (yields : Yields P program a) :
    Yields P (if condition then program else other) a := by
  rwa [if_pos holds]

theorem Yields.of_neg {condition : Prop} [Decidable condition] {other : Traced ε α}
    (fails : ¬ condition) (yields : Yields P program a) :
    Yields P (if condition then other else program) a := by
  rwa [if_neg fails]

end Traced

end Tracing
