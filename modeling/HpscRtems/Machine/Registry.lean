/-
HpscRtems.Machine.Registry — allocated objects, each with one owner.

An object on the heap is in one place of a store or in the hands of the
party that moves it, and a place or a hand has no address of a freed
object. `Owned` says so; allocating, storing, taking out, freeing and
overwriting an object keep it.

  `Owned.empty_of`   with nothing in a place or in the hands, nothing is
                     allocated: there is no leak.
-/
import Mathlib.Logic.Function.Basic

namespace HpscRtems.Machine

/-- Objects `δ` on a heap, and a store with places `π`. -/
structure Registry (π δ : Type*) where
  heap : Nat → Option δ
  place : π → Option Nat
  hand : Option Nat

variable {π δ : Type*}

namespace Registry

/-! ## §1 Ownership -/

structure Owned (r : Registry π δ) : Prop where
  /-- No place has the address of a freed object. -/
  ofPlace : ∀ p a, r.place p = some a → (r.heap a).isSome = true
  ofHand : ∀ a, r.hand = some a → (r.heap a).isSome = true
  /-- What is allocated has an owner, and only one. -/
  owner : ∀ a, (r.heap a).isSome = true → r.hand = some a ∨ ∃ p, r.place p = some a
  inj : ∀ p q a, r.place p = some a → r.place q = some a → p = q
  apart : ∀ p a, r.place p = some a → r.hand ≠ some a

variable {r : Registry π δ}

theorem Owned.empty_of (h : r.Owned) (hhand : r.hand = none) (hplace : ∀ p, r.place p = none)
    (a : Nat) : r.heap a = none := by
  cases ha : r.heap a with
  | none => rfl
  | some d =>
    rcases h.owner a (by rw [ha]; rfl) with hh | ⟨p, hp⟩
    · rw [hhand] at hh
      cases hh
    · rw [hplace p] at hp
      cases hp

theorem owned_empty (heap : Nat → Option δ) (hheap : ∀ a, heap a = none) :
    Owned (⟨heap, fun _ => none, none⟩ : Registry π δ) where
  ofPlace _ _ h := by cases h
  ofHand _ h := by cases h
  owner a h := by
    have : (heap a).isSome = true := h
    rw [hheap a] at this
    cases this
  inj _ _ _ h := by cases h
  apart _ _ h := by cases h

/-! ## §2 Operations -/

/-- `malloc` answers with `a`, which the party keeps in its hands. -/
def alloc (r : Registry π δ) (a : Nat) (d : δ) : Registry π δ :=
  { r with heap := Function.update r.heap a (some d), hand := some a }

/-- The party puts what it has in its hands into the place `p`. -/
def put [DecidableEq π] (r : Registry π δ) (p : π) : Registry π δ :=
  { r with place := Function.update r.place p r.hand, hand := none }

/-- The party takes what is in the place `p`. -/
def take [DecidableEq π] (r : Registry π δ) (p : π) : Registry π δ :=
  { r with place := Function.update r.place p none, hand := r.place p }

/-- The party frees the object `a` in its hands. -/
def free (r : Registry π δ) (a : Nat) : Registry π δ :=
  { r with heap := Function.update r.heap a none, hand := none }

/-- The object `a` becomes `d`. -/
def modify (r : Registry π δ) (a : Nat) (d : δ) : Registry π δ :=
  { r with heap := Function.update r.heap a (some d) }

theorem isSome_update_some {heap : Nat → Option δ} {a b : Nat} (d : δ)
    (h : (heap b).isSome = true) : (Function.update heap a (some d) b).isSome = true := by
  by_cases hb : b = a
  · subst hb
    simp
  · rwa [Function.update_of_ne hb]

theorem Owned.alloc (h : r.Owned) (hhand : r.hand = none) {a : Nat} (ha : r.heap a = none)
    (d : δ) : (r.alloc a d).Owned where
  ofPlace p b hp := isSome_update_some d (h.ofPlace p b hp)
  ofHand b hb := by
    cases hb
    simp [Registry.alloc]
  owner b hb := by
    by_cases hba : b = a
    · exact .inl (by rw [hba]; rfl)
    · simp only [Registry.alloc, Function.update_of_ne hba] at hb
      rcases h.owner b hb with hh | hp
      · rw [hhand] at hh
        cases hh
      · exact .inr hp
  inj := h.inj
  apart p b hp hb := by
    cases hb
    have := h.ofPlace p a hp
    rw [ha] at this
    cases this

theorem Owned.put [DecidableEq π] (h : r.Owned) {p : π} (hfree : r.place p = none) :
    (r.put p).Owned where
  ofPlace q b hq := by
    by_cases hqp : q = p
    · subst hqp
      simp only [Registry.put, Function.update_self] at hq
      exact h.ofHand b hq
    · simp only [Registry.put, Function.update_of_ne hqp] at hq
      exact h.ofPlace q b hq
  ofHand _ hb := by cases hb
  owner b hb := by
    rcases h.owner b hb with hh | ⟨q, hq⟩
    · exact .inr ⟨p, by simp only [Registry.put, Function.update_self]; exact hh⟩
    · have hqp : q ≠ p := fun he => by
        rw [he, hfree] at hq
        cases hq
      exact .inr ⟨q, by simp only [Registry.put, Function.update_of_ne hqp]; exact hq⟩
  inj q q' b hq hq' := by
    by_cases hqp : q = p <;> by_cases hqp' : q' = p
    · rw [hqp, hqp']
    · subst hqp
      simp only [Registry.put, Function.update_self, Function.update_of_ne hqp'] at hq hq'
      exact absurd hq (h.apart q' b hq')
    · subst hqp'
      simp only [Registry.put, Function.update_self, Function.update_of_ne hqp] at hq hq'
      exact absurd hq' (h.apart q b hq)
    · simp only [Registry.put, Function.update_of_ne hqp, Function.update_of_ne hqp'] at hq hq'
      exact h.inj q q' b hq hq'
  apart _ _ _ hb := by cases hb

theorem Owned.take [DecidableEq π] (h : r.Owned) {p : π} (hhand : r.hand = none) :
    (r.take p).Owned where
  ofPlace q b hq := by
    by_cases hqp : q = p
    · subst hqp
      simp only [Registry.take, Function.update_self] at hq
      cases hq
    · simp only [Registry.take, Function.update_of_ne hqp] at hq
      exact h.ofPlace q b hq
  ofHand b hb := h.ofPlace p b hb
  owner b hb := by
    rcases h.owner b hb with hh | ⟨q, hq⟩
    · rw [hhand] at hh
      cases hh
    · by_cases hqp : q = p
      · subst hqp
        exact .inl hq
      · exact .inr ⟨q, by simp only [Registry.take, Function.update_of_ne hqp]; exact hq⟩
  inj q q' b hq hq' := by
    by_cases hqp : q = p <;> by_cases hqp' : q' = p
    · rw [hqp, hqp']
    · subst hqp
      simp only [Registry.take, Function.update_self] at hq
      cases hq
    · subst hqp'
      simp only [Registry.take, Function.update_self] at hq'
      cases hq'
    · simp only [Registry.take, Function.update_of_ne hqp, Function.update_of_ne hqp'] at hq hq'
      exact h.inj q q' b hq hq'
  apart q b hq hb := by
    by_cases hqp : q = p
    · subst hqp
      simp only [Registry.take, Function.update_self] at hq
      cases hq
    · simp only [Registry.take, Function.update_of_ne hqp] at hq
      exact hqp (h.inj q p b hq hb)

theorem Owned.free (h : r.Owned) {a : Nat} (hhand : r.hand = some a) : (r.free a).Owned where
  ofPlace p b hp := by
    have hba : b ≠ a := fun he => h.apart p b hp (by rw [he, hhand])
    simp only [Registry.free, Function.update_of_ne hba]
    exact h.ofPlace p b hp
  ofHand _ hb := by cases hb
  owner b hb := by
    have hba : b ≠ a := fun he => by
      subst he
      simp [Registry.free] at hb
    simp only [Registry.free, Function.update_of_ne hba] at hb
    rcases h.owner b hb with hh | hp
    · rw [hhand] at hh
      cases hh
      exact absurd rfl hba
    · exact .inr hp
  inj := h.inj
  apart _ _ _ hb := by cases hb

theorem Owned.modify (h : r.Owned) {a : Nat} (ha : (r.heap a).isSome = true) (d : δ) :
    (r.modify a d).Owned where
  ofPlace p b hp := isSome_update_some d (h.ofPlace p b hp)
  ofHand b hb := isSome_update_some d (h.ofHand b hb)
  owner b hb := by
    by_cases hba : b = a
    · rw [hba]
      exact h.owner a ha
    · simp only [Registry.modify, Function.update_of_ne hba] at hb
      exact h.owner b hb
  inj := h.inj
  apart := h.apart

end Registry

end HpscRtems.Machine
