/-
**No error is reachable.**

In every reachable state every call of every public function goes through good events only
(`no_error_reachable`): no assertion fails, no index leaves the record table, no `size_t` addition
or subtraction wraps, no byte outside the arena is written; and none returns
`ERROR_DS_CRITICAL_ERR`.

The functions were verified together with their events, so there is nothing left to prove about them
here.
-/

import Dynostatic.Atomicity

namespace Dynostatic

open Tracing Tracing.Traced

variable {q : Placement}

/-- **Every call on a well formed state is free of error.** -/
theorem WellFormed.every_call {s : DynostaticBuffer} (formed : WellFormed q s) (op : Op) :
    (call q s op).Every (Event.Safe q) := by
  rcases formed with raw | ⟨layout, memory, rfl⟩
  · rcases call_uninitialized (q := q) raw op with ⟨code, -, -, yields⟩ | ⟨-, yields⟩
    · exact yields.every
    · exact yields.every
  · obtain ⟨r, -, yields⟩ := call_outcome layout memory op
    exact yields.every

/-- **No assertion, index or bookkeeping arithmetic error is reachable.** -/
theorem no_error_reachable {s : DynostaticBuffer} (reachable : Reachable q s) (op : Op) :
    (∀ event ∈ (call q s op).events, Event.Safe q event) ∧ (reply q s op).code ≠ .criticalErr :=
  ⟨reachable.wellFormed.every_call op, reply_code_ne_criticalErr reachable.wellFormed op⟩

/-- A block is moved past another one, and freed where it was. -/
theorem no_error_reachable_moved :
    (∀ event ∈ (call defaultPlacement twoLive (.realloc .self (some 4096) 40)).events,
        Event.Safe defaultPlacement event) ∧
      (reply defaultPlacement twoLive (.realloc .self (some 4096) 40)).code ≠ .criticalErr :=
  no_error_reachable twoLive_reachable (.realloc .self (some 4096) 40)

end Dynostatic
