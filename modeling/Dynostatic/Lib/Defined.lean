/-
**Heaps that agree where they are defined.**

A block that is handed out holds what the allocator left there, so its owner can rely on some of its
bytes only: those it wrote, those it was promised to be zero, and those a resize carried over from
such bytes. `Label.define` follows these defined bytes along the steps. Two heaps of one shape that
agree on them still agree after any two steps with one label that lead to heaps of one shape
(`Step.agrees`), whatever the other bytes are.
-/

import Dynostatic.Lib.Heap

namespace Heaps

open Bytes

variable {Byte : Type*}

/-- The block at the address has a byte at the index. -/
def HasByte (heap : Heap Byte) (address i : Nat) : Prop :=
  ∃ bytes, heap.lookup address = some bytes ∧ i < bytes.length

/-- **The defined bytes after a step**, by the address of their block and their index in it. -/
def Label.define (heap : Heap Byte) (defined : Nat → Nat → Prop) : Label Byte → Nat → Nat → Prop
  | .skip => defined
  | .allocate _ _ zeroed handed => Function.update defined handed fun i => i < zeroed
  | .free address => Function.update defined address fun _ => False
  | .resize address _ handed =>
      Function.update (Function.update defined address fun _ => False) handed
        fun i => HasByte heap address i ∧ defined address i
  | .write dst bytes => fun address i =>
      defined address i ∨
        HasByte heap address i ∧ dst ≤ address + i ∧ address + i < dst + bytes.length

/-- The two heaps have blocks of the same lengths at the same addresses. -/
def SameShape (heap heap' : Heap Byte) : Prop :=
  ∀ address, (heap.lookup address).map List.length = (heap'.lookup address).map List.length

/-- **Two heaps of one shape that hold the same defined bytes.** -/
structure Agree (defined : Nat → Nat → Prop) (heap heap' : Heap Byte) : Prop where
  shape : SameShape heap heap'
  bytes : ∀ address old old', heap.lookup address = some old → heap'.lookup address = some old' →
    ∀ i, defined address i → old[i]? = old'[i]?

theorem SameShape.length_eq {heap heap' : Heap Byte} (shape : SameShape heap heap') {address : Nat}
    {old old' : List Byte} (found : heap.lookup address = some old)
    (found' : heap'.lookup address = some old') : old.length = old'.length := by
  have same := shape address
  rw [found, found'] at same
  exact Option.some.inj same

theorem SameShape.lookup {heap heap' : Heap Byte} (shape : SameShape heap heap') {address : Nat}
    {old : List Byte} (found : heap.lookup address = some old) :
    ∃ old', heap'.lookup address = some old' := by
  have same := shape address
  rw [found] at same
  obtain ⟨old', found', -⟩ := Option.map_eq_some_iff.mp same.symm
  exact ⟨old', found'⟩

theorem agree_empty (defined : Nat → Nat → Prop) : Agree defined (∅ : Heap Byte) ∅ :=
  ⟨fun _ => rfl, fun _ _ _ found => nomatch found⟩

/-! ### What a step leaves at an address -/

section Lookup

variable {zero : Byte} {heap heap' : Heap Byte} {address size handed : Nat}

/-- A resize touches two addresses at most. -/
theorem Step.lookup_of_resize (step : Step zero heap (.resize address size handed) heap')
    {other : Nat} (different : other ≠ address) (different' : other ≠ handed) :
    heap'.lookup other = heap.lookup other := by
  cases step with
  | resize => exact Finmap.lookup_insert_of_ne _ different
  | move =>
    rw [Finmap.lookup_erase_ne different]
    exact Finmap.lookup_insert_of_ne _ different'

/-- A block that moves is gone from its old address. -/
theorem Step.lookup_of_moved (step : Step zero heap (.resize address size handed) heap')
    (moved : address ≠ handed) : heap'.lookup address = none := by
  cases step with
  | resize => exact absurd rfl moved
  | move => exact Finmap.lookup_erase _ _

/-- A resize carries the bytes of the block over. -/
theorem Step.carried (step : Step zero heap (.resize address size handed) heap')
    {old new : List Byte} (found : heap.lookup address = some old)
    (found' : heap'.lookup handed = some new) {i : Nat} (inside : i < old.length)
    (inside' : i < new.length) : new[i]? = old[i]? := by
  cases step with
  | resize here _ _ kept =>
    rw [Finmap.lookup_insert] at found'
    cases found'
    cases here.symm.trans found
    exact kept i (lt_min inside inside')
  | move here new _ _ kept =>
    have different : handed ≠ address := by
      rintro rfl
      exact new (Finmap.mem_of_lookup_eq_some here)
    rw [Finmap.lookup_erase_ne different, Finmap.lookup_insert] at found'
    cases found'
    cases here.symm.trans found
    exact kept i (lt_min inside inside')

/-- **A write changes the addressed bytes**, in whichever block they lie. -/
theorem Step.written {dst : Nat} {bytes new : List Byte} (separated : Separated heap)
    (step : Step zero heap (.write dst bytes) heap') (found : heap'.lookup address = some new) :
    ∃ old, heap.lookup address = some old ∧ new.length = old.length ∧
      ∀ i < old.length, new[i]? =
        if dst ≤ address + i ∧ address + i < dst + bytes.length then bytes[address + i - dst]?
        else old[i]? := by
  cases step with
  | @write block offset whole _ here fits =>
    by_cases same : address = block
    · subst same
      rw [Finmap.lookup_insert] at found
      cases found
      refine ⟨whole, here, length_splice fits, fun i _ => ?_⟩
      rw [getElem?_splice fits]
      simp only [Nat.add_le_add_iff_left, Nat.add_assoc, Nat.add_lt_add_iff_left,
        Nat.add_sub_add_left]
    · rw [Finmap.lookup_insert_of_ne _ same] at found
      have apart := separated.apart here found same
      refine ⟨new, found, rfl, fun i inside => ?_⟩
      rw [if_neg (by omega)]

end Lookup

/-! ### Two steps with one label -/

section Agree

variable {zero : Byte} {heap heap' after after' : Heap Byte} {defined : Nat → Nat → Prop}

theorem Agree.allocate (agree : Agree defined heap heap') {holder size zeroed handed : Nat}
    (step : Step zero heap (.allocate holder size zeroed handed) after)
    (step' : Step zero heap' (.allocate holder size zeroed handed) after')
    (shape : SameShape after after') :
    Agree (Function.update defined handed fun i => i < zeroed) after after' := by
  refine ⟨shape, fun address old old' found found' i known => ?_⟩
  cases step with
  | allocate _ _ _ _ zeros =>
  cases step' with
  | allocate _ _ _ _ zeros' =>
  by_cases here : address = handed
  · subst here
    rw [Finmap.lookup_insert] at found found'
    cases found
    cases found'
    rw [Function.update_self] at known
    rw [zeros i known, zeros' i known]
  · rw [Finmap.lookup_insert_of_ne _ here] at found found'
    rw [Function.update_of_ne here] at known
    exact agree.bytes address old old' found found' i known

theorem Agree.free (agree : Agree defined heap heap') {block : Nat}
    (step : Step zero heap (.free block) after) (step' : Step zero heap' (.free block) after')
    (shape : SameShape after after') :
    Agree (Function.update defined block fun _ => False) after after' := by
  refine ⟨shape, fun address old old' found found' i known => ?_⟩
  cases step
  cases step'
  by_cases here : address = block
  · rw [here, Function.update_self] at known
    exact known.elim
  · rw [Finmap.lookup_erase_ne here] at found found'
    rw [Function.update_of_ne here] at known
    exact agree.bytes address old old' found found' i known

theorem Agree.resize (agree : Agree defined heap heap') {block size handed : Nat}
    (step : Step zero heap (.resize block size handed) after)
    (step' : Step zero heap' (.resize block size handed) after')
    (shape : SameShape after after') :
    Agree (Label.define heap defined (.resize block size handed)) after after' := by
  refine ⟨shape, fun address new new' found found' i known => ?_⟩
  have known : Function.update (Function.update defined block fun _ => False) handed
    (fun i => HasByte heap block i ∧ defined block i) address i := known
  by_cases here : address = handed
  · subst here
    rw [Function.update_self] at known
    obtain ⟨⟨old, before, inside⟩, known⟩ := known
    obtain ⟨old', before'⟩ := agree.shape.lookup before
    have inside' : i < old'.length := (agree.shape.length_eq before before') ▸ inside
    have length := shape.length_eq found found'
    rcases Nat.lt_or_ge i new.length with within | past
    · rw [step.carried before found inside within,
        step'.carried before' found' inside' (length ▸ within)]
      exact agree.bytes block old old' before before' i known
    · rw [List.getElem?_eq_none past, List.getElem?_eq_none (length ▸ past)]
  · rw [Function.update_of_ne here] at known
    by_cases there : address = block
    · subst there
      rw [step.lookup_of_moved here] at found
      cases found
    · rw [Function.update_of_ne there] at known
      rw [step.lookup_of_resize there here] at found
      rw [step'.lookup_of_resize there here] at found'
      exact agree.bytes address new new' found found' i known

theorem Agree.write (agree : Agree defined heap heap') {dst : Nat} {bytes : List Byte}
    (separated : Separated heap) (separated' : Separated heap')
    (step : Step zero heap (.write dst bytes) after)
    (step' : Step zero heap' (.write dst bytes) after') (shape : SameShape after after') :
    Agree (Label.define heap defined (.write dst bytes)) after after' := by
  refine ⟨shape, fun address new new' found found' i known => ?_⟩
  obtain ⟨old, before, length, content⟩ := step.written separated found
  obtain ⟨old', before', length', content'⟩ := step'.written separated' found'
  have same := agree.shape.length_eq before before'
  rcases Nat.lt_or_ge i old.length with inside | past
  · rw [content i inside, content' i (same ▸ inside)]
    split
    · rfl
    · rename_i elsewhere
      refine agree.bytes address old old' before before' i (known.resolve_right fun written => ?_)
      exact elsewhere written.2
  · rw [List.getElem?_eq_none (by omega), List.getElem?_eq_none (by omega)]

/-- **Two steps with one label keep the agreement.** -/
theorem Step.agrees {label : Label Byte} (step : Step zero heap label after)
    (step' : Step zero heap' label after') (separated : Separated heap)
    (separated' : Separated heap') (shape : SameShape after after')
    (agree : Agree defined heap heap') : Agree (label.define heap defined) after after' := by
  cases label with
  | skip =>
    cases step
    cases step'
    exact agree
  | allocate => exact agree.allocate step step' shape
  | free => exact agree.free step step' shape
  | resize => exact agree.resize step step' shape
  | write => exact agree.write separated separated' step step' shape

end Agree

end Heaps
