/-
**The members of an object.**

A family of words in one memory, each in a format of its own at an address of its own, no two of
them with a byte in common. `load` reads the family, `store` lays a family of values over a memory.

* `load_store`, `store_load` — what is stored is loaded, and storing what is there changes nothing;
* `load_congr`, `store_outside` — only the bytes of the members are read, and only they are written.
-/

import Dynostatic.Lib.Words

namespace Words

/-- **A family of words in memory**, apart from each other. -/
structure Members (ι : Type) (Byte : Type*) (bound : ι → Nat) where
  format : ∀ m, Format Byte (bound m)
  address : ι → Nat
  /-- The members in some order. -/
  all : List ι
  mem_all : ∀ m, m ∈ all
  apart : ∀ m n, m ≠ n → address m + (format m).width ≤ address n ∨
    address n + (format n).width ≤ address m

namespace Members

variable {ι : Type} {Byte : Type*} {bound : ι → Nat} (members : Members ι Byte bound)

/-- The byte at the address is one of the member's. -/
def Covers (m : ι) (k : Nat) : Prop :=
  members.address m ≤ k ∧ k < members.address m + (members.format m).width

instance (m : ι) (k : Nat) : Decidable (members.Covers m k) :=
  inferInstanceAs (Decidable (_ ∧ _))

/-- The byte is one of some member's. -/
def Owns (k : Nat) : Prop := ∃ m ∈ members.all, members.Covers m k

instance (k : Nat) : Decidable (members.Owns k) :=
  inferInstanceAs (Decidable (∃ m ∈ members.all, members.Covers m k))

/-- The member whose byte is at the address. -/
def holder (k : Nat) : Option ι := members.all.find? fun m => members.Covers m k

/-- Read all members. -/
def load (memory : Nat → Byte) (m : ι) : Nat := (members.format m).load memory (members.address m)

/-- A memory with the members written over it. -/
def store (values : ι → Nat) (memory : Nat → Byte) (k : Nat) : Byte :=
  (members.holder k).elim (memory k) fun m =>
    (members.format m).encode (values m) (k - members.address m)

variable {members} {values : ι → Nat} {memory memory' : Nat → Byte} {k : Nat} {m : ι}

theorem owns_of_covers (covers : members.Covers m k) : members.Owns k :=
  ⟨m, members.mem_all m, covers⟩

theorem eq_of_covers {n : ι} (covers : members.Covers m k) (covers' : members.Covers n k) :
    m = n := by
  unfold Covers at covers covers'
  by_contra other
  rcases members.apart m n other with below | above <;> omega

theorem holder_of_covers (covers : members.Covers m k) : members.holder k = some m := by
  unfold holder
  rcases found : members.all.find? fun m => decide (members.Covers m k) with _ | n
  · have missed := List.find?_eq_none.mp found m (members.mem_all m)
    exact absurd (decide_eq_true covers) missed
  · have hit := List.find?_some found
    rw [eq_of_covers (of_decide_eq_true hit) covers]

theorem holder_eq_none (free : ¬ members.Owns k) : members.holder k = none := by
  rw [holder, List.find?_eq_none]
  intro m member covers
  exact free ⟨m, member, of_decide_eq_true covers⟩

theorem store_inside (covers : members.Covers m k) :
    members.store values memory k =
      (members.format m).encode (values m) (k - members.address m) := by
  rw [store, holder_of_covers covers, Option.elim_some]

/-- Only the members are written. -/
theorem store_outside (free : ¬ members.Owns k) : members.store values memory k = memory k := by
  rw [store, holder_eq_none free, Option.elim_none]

/-- Only the members are read. -/
theorem load_congr (same : ∀ k, members.Owns k → memory k = memory' k) :
    members.load memory = members.load memory' := by
  funext m
  apply Format.load_congr
  intro k above below
  exact same k (owns_of_covers ⟨above, below⟩)

/-- **What is stored is loaded**, if it is in range or was loaded before. -/
theorem load_store
    (held : ∀ m, values m < bound m ∨ ∃ other : Nat → Byte, values m = members.load other m) :
    members.load (members.store values memory) = values := by
  funext m
  have bytes : members.load (members.store values memory) m =
      (members.format m).decode ((members.format m).encode (values m)) := by
    apply Format.decode_congr
    intro i inside
    rw [store_inside ⟨Nat.le_add_right _ _, Nat.add_lt_add_left inside _⟩, Nat.add_sub_cancel_left]
  rw [bytes]
  rcases held m with small | ⟨other, same⟩
  · exact (members.format m).decode_encode _ small
  · rw [same]
    apply Format.decode_congr
    intro i inside
    exact (members.format m).encode_decode _ i inside

/-- Storing what is there changes nothing. -/
@[simp] theorem store_load : members.store (members.load memory) memory = memory := by
  funext k
  by_cases owned : members.Owns k
  · obtain ⟨m, -, covers⟩ := owned
    obtain ⟨above, below⟩ := covers
    rw [store_inside ⟨above, below⟩, load, Format.load,
      (members.format m).encode_decode _ _ (by omega), Nat.add_sub_cancel' above]
  · exact store_outside owned

end Members

end Words
