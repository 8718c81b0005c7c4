/-
**`ds_calloc` is `ds_malloc` and zeros.**

`ds_calloc` multiplies in `size_t` and divides back to see whether the product wrapped. What the
division lets through is the product itself, so the rest of the call is the `ds_malloc` of the
product, followed by zeros in the block it hands out and nowhere else (`calloc_refines_malloc`).
-/

import Dynostatic.Outcome

namespace Dynostatic

open Tracing Tracing.Traced Tiling Rounding Bytes

variable {q : Placement}

/-- The branches of a call with two positive factors, which multiplies in `size_t`. -/
theorem reply_calloc {s : DynostaticBuffer} (initialized : s.initMagic = dsMagicNumber) (p : Nat)
    {len sizeOfElem : Nat} (left : 0 < len) (right : 0 < sizeOfElem) {r : Reply}
    (taken : reply q s (.malloc .self (some p) (sizeMul q.toConfig len sizeOfElem)) = r) :
    reply q s (.calloc .self (some p) len sizeOfElem) =
      if sizeMul q.toConfig len sizeOfElem / len ≠ sizeOfElem then ⟨.invalidArg, s, some p⟩
      else if r.code ≠ .ok then r
      else ⟨.ok, storeBytes q r.buffer (r.cell.getD 0) (sizeMul q.toConfig len sizeOfElem)
        fun _ => 0, r.cell⟩ := by
  have nonZero : ¬ (BufferArg.self = .null ∨ len = 0 ∨ sizeOfElem = 0) := by
    simp only [reduceCtorEq, false_or]
    omega
  subst taken
  show (dsCalloc q s .self (some p) len sizeOfElem).value = _
  simp only [dsCalloc, if_neg nonZero, if_neg (not_not.mpr initialized), value_bind, value_ite]
  rfl

/-- A product beyond `size_t` is seen, and nothing is done. -/
theorem reply_calloc_wraps {s : DynostaticBuffer} (initialized : s.initMagic = dsMagicNumber)
    (p : Nat) {len sizeOfElem : Nat} (left : 0 < len) (right : 0 < sizeOfElem)
    (wraps : 2 ^ q.sizeBits ≤ len * sizeOfElem) :
    reply q s (.calloc .self (some p) len sizeOfElem) = ⟨.invalidArg, s, some p⟩ := by
  have seen : sizeMul q.toConfig len sizeOfElem / len ≠ sizeOfElem := fun same =>
    absurd ((sizeMul_div_iff left).mp same) (Nat.not_lt_of_le wraps)
  rw [reply_calloc initialized p left right rfl, if_pos seen]

/-- Any other call is the `ds_malloc` of the product, and then a write of zeros where that
succeeds. -/
theorem reply_calloc_exact {s : DynostaticBuffer} (initialized : s.initMagic = dsMagicNumber)
    (p : Nat) {len sizeOfElem : Nat} (left : 0 < len) (right : 0 < sizeOfElem)
    (exact : len * sizeOfElem < 2 ^ q.sizeBits) {r : Reply}
    (taken : reply q s (.malloc .self (some p) (len * sizeOfElem)) = r) :
    reply q s (.calloc .self (some p) len sizeOfElem) =
      if r.code ≠ .ok then r
      else ⟨.ok, storeBytes q r.buffer (r.cell.getD 0) (len * sizeOfElem) fun _ => 0, r.cell⟩ := by
  have product : sizeMul q.toConfig len sizeOfElem = len * sizeOfElem := Nat.mod_eq_of_lt exact
  have passes : sizeMul q.toConfig len sizeOfElem / len = sizeOfElem :=
    (sizeMul_div_iff left).mpr exact
  rw [← product] at taken
  rw [reply_calloc initialized p left right taken, if_neg (not_not.mpr passes), product]

/-- **`ds_calloc` refines `ds_malloc`.** In a reachable initialized instance, for any pointer and
any two positive factors: where the product exceeds `SIZE_MAX` the call fails and changes nothing.
Otherwise it replies what the `ds_malloc` of the product replies, with one difference where that
succeeds: the first bytes of the block handed out, as many as the product says, are zero, and the
rest of the arena is as it was before the call. -/
theorem calloc_refines_malloc {s : DynostaticBuffer} (reachable : Reachable q s)
    (initialized : s.initMagic = dsMagicNumber) (p len sizeOfElem : Nat) (left : 1 ≤ len)
    (right : 1 ≤ sizeOfElem) :
    (2 ^ q.sizeBits - 1 < len * sizeOfElem →
      reply q s (.calloc .self (some p) len sizeOfElem) = ⟨.invalidArg, s, some p⟩) ∧
    (len * sizeOfElem ≤ 2 ^ q.sizeBits - 1 → ∀ r,
      reply q s (.malloc .self (some p) (len * sizeOfElem)) = r →
      (r.code ≠ .ok → reply q s (.calloc .self (some p) len sizeOfElem) = r) ∧
      (r.code = .ok → ∃ head capacity,
        r.cell = some (q.base + head) ∧ len * sizeOfElem ≤ capacity ∧
        LiveBlock q (reply q s (.calloc .self (some p) len sizeOfElem)).buffer (q.base + head)
          capacity ∧
        reply q s (.calloc .self (some p) len sizeOfElem) =
          ⟨.ok, { r.buffer with memory := fill s.memory head (len * sizeOfElem) 0 }, r.cell⟩)) := by
  have wide := Nat.two_pow_pos q.sizeBits
  refine ⟨fun wraps => reply_calloc_wraps initialized p left right (by omega), ?_⟩
  intro exact r taken
  have answer := reply_calloc_exact initialized p left right (by omega) taken
  refine ⟨fun notOk => by rw [answer, if_pos notOk], fun ok => ?_⟩
  rw [if_neg (not_not.mpr ok)] at answer
  obtain ⟨layout, memory, rfl⟩ := reachable.of_initialized initialized
  obtain ⟨-, -, -, after, index, placed, handed⟩ :=
    (reply_outcome layout memory _).of_requests (.malloc p (len * sizeOfElem)) (taken ▸ ok)
  rw [taken, fill_empty] at handed
  subst handed
  obtain ⟨capacity, large, found⟩ := placed.getElem?_eq
  rw [Option.getD_some, storeBytes_base] at answer
  refine ⟨start after.blocks index, capacity, rfl,
    (le_roundUp q.alignment_pos _).trans large, ?_, answer⟩
  rw [answer]
  show LiveBlock q (after.encode (fill memory (start after.blocks index) _ 0)) _ capacity
  exact liveBlock_start found

/-- Three elements of five bytes, after two blocks. -/
theorem calloc_refines_malloc_twoLive :
    ∃ head capacity, 3 * 5 ≤ capacity ∧
      LiveBlock defaultPlacement
        (reply defaultPlacement twoLive (.calloc .self (some 0) 3 5)).buffer (4096 + head)
        capacity := by
  obtain ⟨head, capacity, -, large, live, -⟩ :=
    ((calloc_refines_malloc twoLive_reachable rfl 0 3 5 (by decide) (by decide)).2 (by decide) _
      rfl).2 (by decide)
  exact ⟨head, capacity, large, live⟩

end Dynostatic
