/-
**Variables that hold the live keys of a store.**

A store hands out keys and takes them back; its clients keep them in variables. The variables
`Track` the live keys when each variable is null or holds a live key, each live key is in a
variable, and no two variables hold the same key. Nothing is leaked then, nothing dangles, and
nothing is aliased: the variables in use and the live keys are in bijection (`Tracks.equiv`).

* `Tracks.take` — a new key goes to a null variable;
* `Tracks.drop` — a key is given back, and its variable becomes null;
* `Tracks.move` — a variable's key is replaced by a new one.
-/

import Mathlib.Logic.Equiv.Basic
import Mathlib.Logic.Function.Basic

namespace Holders

variable {Key Variable : Type*} {live live' : Key → Prop} {null : Key} {held : Variable → Key}

/-- **The variables hold the live keys**, each in one variable. -/
structure Tracks (live : Key → Prop) (null : Key) (held : Variable → Key) : Prop where
  null_dead : ¬ live null
  live_of_ne : ∀ i, held i ≠ null → live (held i)
  exists_held : ∀ key, live key → ∃ i, held i = key
  unique : ∀ i j, held i ≠ null → held i = held j → i = j

namespace Tracks

/-- At first nothing is live, and every variable is null. -/
theorem empty (dead : ∀ key, ¬ live key) : Tracks live null fun _ : Variable => null where
  null_dead := dead null
  live_of_ne := fun _ used => absurd rfl used
  exists_held := fun key alive => absurd alive (dead key)
  unique := fun _ _ used => absurd rfl used

theorem congr (tracks : Tracks live null held) (same : ∀ key, live' key ↔ live key) :
    Tracks live' null held where
  null_dead := fun alive => tracks.null_dead ((same null).mp alive)
  live_of_ne := fun i used => (same _).mpr (tracks.live_of_ne i used)
  exists_held := fun key alive => tracks.exists_held key ((same key).mp alive)
  unique := tracks.unique

/-- A variable that holds no live key is null. -/
theorem eq_null (tracks : Tracks live null held) {i : Variable} (dead : ¬ live (held i)) :
    held i = null := by
  by_contra used
  exact dead (tracks.live_of_ne i used)

variable [DecidableEq Variable]

/-- **A new key goes to a null variable.** -/
theorem take (tracks : Tracks live null held) {i : Variable} {key : Key} (free : held i = null)
    (fresh : ¬ live key) (nonNull : key ≠ null) (grows : ∀ k, live' k ↔ k = key ∨ live k) :
    Tracks live' null (Function.update held i key) where
  null_dead := by
    rw [grows]
    rintro (same | alive)
    · exact nonNull same.symm
    · exact tracks.null_dead alive
  live_of_ne := by
    intro j used
    rw [grows]
    by_cases here : j = i
    · subst here
      exact .inl (Function.update_self _ _ _)
    · rw [Function.update_of_ne here] at used ⊢
      exact .inr (tracks.live_of_ne j used)
  exists_held := by
    intro k alive
    rcases (grows k).mp alive with rfl | old
    · exact ⟨i, Function.update_self _ _ _⟩
    · obtain ⟨j, rfl⟩ := tracks.exists_held k old
      refine ⟨j, Function.update_of_ne ?_ _ _⟩
      rintro rfl
      exact tracks.null_dead (free ▸ old)
  unique := by
    -- the new key is in no other variable, because no other variable holds a dead key but null
    have other : ∀ j, j ≠ i → held j ≠ key := by
      rintro j - rfl
      exact fresh (tracks.live_of_ne j nonNull)
    intro j k used same
    by_cases first : j = i <;> by_cases second : k = i
    · rw [first, second]
    · rw [first, Function.update_self, Function.update_of_ne second] at same
      exact absurd same.symm (other k second)
    · rw [second, Function.update_self, Function.update_of_ne first] at same
      exact absurd same (other j first)
    · rw [Function.update_of_ne first] at used same
      rw [Function.update_of_ne second] at same
      exact tracks.unique j k used same

/-- **A key is given back, and its variable becomes null.** -/
theorem drop (tracks : Tracks live null held) {i : Variable} (used : held i ≠ null)
    (shrinks : ∀ k, live' k ↔ k ≠ held i ∧ live k) :
    Tracks live' null (Function.update held i null) where
  null_dead := fun alive => tracks.null_dead ((shrinks null).mp alive).2
  live_of_ne := by
    intro j used'
    by_cases here : j = i
    · subst here
      exact absurd (Function.update_self _ _ _) used'
    · rw [Function.update_of_ne here] at used' ⊢
      refine (shrinks _).mpr ⟨fun same => here ?_, tracks.live_of_ne j used'⟩
      exact tracks.unique j i used' same
  exists_held := by
    intro k alive
    obtain ⟨different, old⟩ := (shrinks k).mp alive
    obtain ⟨j, rfl⟩ := tracks.exists_held k old
    refine ⟨j, Function.update_of_ne ?_ _ _⟩
    rintro rfl
    exact different rfl
  unique := by
    intro j k used' same
    by_cases first : j = i
    · subst first
      exact absurd (Function.update_self _ _ _) used'
    · by_cases second : k = i
      · rw [second, Function.update_self] at same
        exact absurd same used'
      · rw [Function.update_of_ne first] at used' same
        rw [Function.update_of_ne second] at same
        exact tracks.unique j k used' same

/-- **A variable's key is replaced by a new one.** -/
theorem move (tracks : Tracks live null held) {i : Variable} {key : Key} (used : held i ≠ null)
    (fresh : ¬ live key) (nonNull : key ≠ null)
    (moves : ∀ k, live' k ↔ k = key ∨ (k ≠ held i ∧ live k)) :
    Tracks live' null (Function.update held i key) := by
  have dropped := tracks.drop used fun k => Iff.rfl
  have taken := dropped.take (Function.update_self _ _ _) (fun alive => fresh alive.2) nonNull moves
  rwa [Function.update_idem] at taken

end Tracks

/-- **The variables in use and the live keys are in bijection.** -/
noncomputable def Tracks.equiv (tracks : Tracks live null held) :
    {i // held i ≠ null} ≃ {key // live key} :=
  Equiv.ofBijective (fun i => ⟨held i.1, tracks.live_of_ne i.1 i.2⟩) <| by
    constructor
    · intro i j same
      exact Subtype.ext (tracks.unique i.1 j.1 i.2 (congrArg Subtype.val same))
    · rintro ⟨key, alive⟩
      obtain ⟨i, rfl⟩ := tracks.exists_held key alive
      refine ⟨⟨i, fun free => tracks.null_dead (free ▸ alive)⟩, rfl⟩

@[simp] theorem Tracks.equiv_apply (tracks : Tracks live null held) (i : {i // held i ≠ null}) :
    (tracks.equiv i).1 = held i.1 :=
  rfl

end Holders
