/-
**Two programs in step.**

`Coupled related program other` says that two traced computations go through the same events, one by
one, and return related values. The programs may carry different states and different results; what
a checker standing beside them sees is the same. The rules follow the programs: where both make the
same step, `coupled_bind_same`; where the step differs, `Coupled.bind`. Where the relation is a
function, the programs are equal up to that function (`Coupled.eq_bind_pure`).
-/

import Dynostatic.Lib.Traced

namespace Tracing.Traced

variable {ε α α' β β' : Type}

/-- **The same events, and related values.** -/
structure Coupled (related : α → β → Prop) (program : Traced ε α) (other : Traced ε β) : Prop where
  events : program.events = other.events
  value : related program.value other.value

variable {related : α → β → Prop} {related' : α' → β' → Prop}

theorem coupled_pure {a : α} {b : β} (holds : related a b) :
    Coupled related (pure a : Traced ε α) (pure b) :=
  ⟨rfl, holds⟩

/-- **The sequencing rule**: the rests are compared at the values the first parts return. -/
theorem Coupled.bind {program : Traced ε α} {other : Traced ε β} {rest : α → Traced ε α'}
    {rest' : β → Traced ε β'} (first : Coupled related program other)
    (second : related program.value other.value →
      Coupled related' (rest program.value) (rest' other.value)) :
    Coupled related' (program >>= rest) (other >>= rest') := by
  obtain ⟨events, value⟩ := second first.value
  refine ⟨?_, value⟩
  rw [events_bind, events_bind, first.events, events]

/-- The rule for a part that both programs have. -/
theorem coupled_bind_same {program : Traced ε α} {rest : α → Traced ε α'} {rest' : α → Traced ε β'}
    (second : Coupled related' (rest program.value) (rest' program.value)) :
    Coupled related' (program >>= rest) (program >>= rest') := by
  obtain ⟨events, value⟩ := second
  refine ⟨?_, value⟩
  rw [events_bind, events_bind, events]

/-- The rule for a test that both programs make. -/
theorem Coupled.ite {condition : Prop} [Decidable condition] {program other : Traced ε α}
    {program' other' : Traced ε β} (first : condition → Coupled related program program')
    (second : ¬ condition → Coupled related other other') :
    Coupled related (if condition then program else other)
      (if condition then program' else other') := by
  split
  · exact first ‹_›
  · exact second ‹_›

/-- A program that always returns a function of what the other returns is the other program with
that function at its end. -/
theorem Coupled.eq_bind_pure {f : β → α} {program : Traced ε α} {other : Traced ε β}
    (coupled : Coupled (fun a b => a = f b) program other) :
    program = other >>= fun b => pure (f b) := by
  have events : program.events = (other >>= fun b => (pure (f b) : Traced ε α)).events :=
    coupled.events.trans (List.append_nil _).symm
  exact Prod.ext coupled.value events

end Tracing.Traced
