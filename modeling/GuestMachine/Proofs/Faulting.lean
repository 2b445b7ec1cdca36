import GuestMachine.Fault
import Mathlib.Logic.Relation

/-!
# What a computation may do to its state

A computation that may fault leaves a state in every case. `Observes` says that it leaves the
state it was given, `Within` that the state it leaves is reached by a sequence of moves of a
given kind, `FaultsTo` which states a fault can leave, and `Respects` that states it is not to tell
apart get the same answer. All four follow the shape of the computation, so a bound on the single
accesses bounds every computation made of them.
-/

namespace GuestMachine

theorem bind_eq_ok {ε α β : Type} {x : Except ε α} {f : α → Except ε β} {b : β} :
    (x >>= f) = .ok b ↔ ∃ a, x = .ok a ∧ f a = .ok b := by
  cases x with
  | error e => simp [bind, Except.bind]
  | ok a => simp [bind, Except.bind]

namespace Faulting

open Relation (ReflTransGen)

variable {σ α β : Type}

/-- The computation leaves every state as it was. -/
def Observes (x : Faulting σ α) : Prop := ∀ s, (x.run s).2 = s

/-- From `s` the computation does nothing but moves of the kind `A`, whether it faults or not. -/
def Within (A : σ → σ → Prop) (x : Faulting σ α) (s : σ) : Prop := ReflTransGen A s (x.run s).2

/-- Whenever the computation faults from `s`, the state it leaves satisfies `P`. -/
def FaultsTo (P : σ → Prop) (x : Faulting σ α) (s : σ) : Prop :=
  ∀ fault s', x.run s = (.error fault, s') → P s'

/-- The computation gives the same answer on related states and leaves related states. -/
def Respects (R : σ → σ → Prop) (x : Faulting σ α) : Prop :=
  ∀ s t, R s t → (x.run s).1 = (x.run t).1 ∧ R (x.run s).2 (x.run t).2

theorem run_bind_ok {x : Faulting σ α} {f : α → Faulting σ β} {s s' : σ} {a : α}
    (h : x.run s = (.ok a, s')) : (x >>= f).run s = (f a).run s' := by
  rw [run_bind, h]

theorem run_bind_error {x : Faulting σ α} {f : α → Faulting σ β} {s s' : σ} {fault : Fault}
    (h : x.run s = (.error fault, s')) : (x >>= f).run s = (.error fault, s') := by
  rw [run_bind, h]

/-- A computation that completes has completed each of its parts. -/
theorem run_bind_eq_ok {x : Faulting σ α} {f : α → Faulting σ β} {s s' : σ} {b : β}
    (h : (x >>= f).run s = (.ok b, s')) :
    ∃ a s₁, x.run s = (.ok a, s₁) ∧ (f a).run s₁ = (.ok b, s') := by
  cases first : x.run s with
  | mk result s₁ =>
    cases result with
    | error fault =>
      rw [run_bind_error first] at h
      cases h
    | ok a =>
      rw [run_bind_ok first] at h
      exact ⟨a, s₁, rfl, h⟩

theorem run_bind_pure (x : Faulting σ α) (g : α → β) (s : σ) :
    (x >>= fun a => pure (g a)).run s = ((x.run s).1.map g, (x.run s).2) := by
  rw [run_bind]
  cases x.run s with
  | mk result s' => cases result <;> rfl

theorem run_guard (f : σ → Option Fault) (s : σ) :
    (guard f).run s = (match f s with
      | none => .ok ()
      | some fault => .error fault, s) := by
  unfold guard Faulting.run
  dsimp only
  cases f s <;> rfl

theorem run_orFault (fault : Fault) (o : Option α) (s : σ) :
    (orFault fault o : Faulting σ α).run s = (match o with
      | some a => .ok a
      | none => .error fault, s) := by
  cases o <;> rfl

namespace Observes

theorem pure (a : α) : Observes (Pure.pure a : Faulting σ α) := fun _ => rfl

theorem fail (fault : Fault) : Observes (fail fault : Faulting σ α) := fun _ => rfl

theorem read (f : σ → α) : Observes (read f) := fun _ => rfl

theorem query (f : σ → Except Fault α) : Observes (query f) := fun _ => rfl

theorem guard (f : σ → Option Fault) : Observes (guard f) := fun s => by rw [run_guard]

theorem orFault (fault : Fault) (o : Option α) : Observes (orFault fault o : Faulting σ α) :=
  fun s => by rw [run_orFault]

theorem bind {x : Faulting σ α} {f : α → Faulting σ β} (hx : Observes x)
    (hf : ∀ a, Observes (f a)) : Observes (x >>= f) := by
  intro s
  have same := hx s
  generalize outcome : x.run s = r at same
  obtain ⟨result, s'⟩ := r
  obtain rfl : s' = s := same
  cases result with
  | ok a => rw [run_bind_ok outcome, hf a]
  | error fault => rw [run_bind_error outcome]

end Observes

namespace Within

variable {A B : σ → σ → Prop} {x : Faulting σ α} {f : α → Faulting σ β} {s : σ}

theorem mono (h : Within A x s) (le : ∀ a b, A a b → B a b) : Within B x s :=
  ReflTransGen.mono le _ _ h

theorem of_observes (h : Observes x) : Within A x s := by
  unfold Within
  rw [h]

/-- A sequence stays within `A` if its first part does, and its second part does from wherever
the first part may have led. -/
theorem bind (hx : Within A x s)
    (hf : ∀ a s', x.run s = (.ok a, s') → Within A (f a) s') : Within A (x >>= f) s := by
  unfold Within at hx ⊢
  generalize outcome : x.run s = r at hx
  obtain ⟨result, s'⟩ := r
  cases result with
  | ok a =>
    rw [run_bind_ok outcome]
    exact hx.trans (hf a s' outcome)
  | error fault =>
    rw [run_bind_error outcome]
    exact hx

/-- An observation only hands its answer on. -/
theorem bind_observes (hx : Observes x)
    (hf : ∀ a, x.run s = (.ok a, s) → Within A (f a) s) : Within A (x >>= f) s := by
  refine bind (of_observes hx) fun a s' outcome => ?_
  have same := hx s
  rw [outcome] at same
  obtain rfl : s' = s := same
  exact hf a outcome

theorem update {g : σ → σ} (h : A s (g s)) : Within A (update g) s := .single h

end Within

namespace FaultsTo

variable {P : σ → Prop} {x : Faulting σ α} {f : α → Faulting σ β} {s : σ}

theorem of_observes (hx : Observes x) (holds : P s) : FaultsTo P x s := by
  intro fault s' faulted
  have same := hx s
  rw [faulted] at same
  obtain rfl : s' = s := same
  exact holds

theorem pure (a : α) : FaultsTo P (Pure.pure a : Faulting σ α) s := by
  intro fault s' faulted
  cases faulted

theorem read (g : σ → α) : FaultsTo P (read g) s := by
  intro fault s' faulted
  cases faulted

theorem update (g : σ → σ) : FaultsTo P (update g) s := by
  intro fault s' faulted
  cases faulted

/-- A sequence faults in its first part, or in its second from wherever the first has led. -/
theorem bind (hx : FaultsTo P x s)
    (hf : ∀ a s', x.run s = (.ok a, s') → FaultsTo P (f a) s') : FaultsTo P (x >>= f) s := by
  intro fault s' faulted
  cases outcome : x.run s with
  | mk result middle =>
    cases result with
    | ok a =>
      rw [run_bind_ok outcome] at faulted
      exact hf a middle outcome fault s' faulted
    | error fault' =>
      rw [run_bind_error outcome] at faulted
      cases faulted
      exact hx fault s' outcome

/-- An observation may fault where it is, and otherwise only hands its answer on. -/
theorem bind_observes (hx : Observes x) (holds : P s)
    (hf : ∀ a, x.run s = (.ok a, s) → FaultsTo P (f a) s) : FaultsTo P (x >>= f) s := by
  refine bind (of_observes hx holds) fun a s' outcome => ?_
  have same := hx s
  rw [outcome] at same
  obtain rfl : s' = s := same
  exact hf a outcome

end FaultsTo

namespace Respects

variable {R : σ → σ → Prop} {x : Faulting σ α} {f : α → Faulting σ β}

theorem pure (a : α) : Respects R (Pure.pure a : Faulting σ α) := fun _ _ h => ⟨rfl, h⟩

theorem fail (fault : Fault) : Respects R (fail fault : Faulting σ α) := fun _ _ h => ⟨rfl, h⟩

theorem orFault (fault : Fault) (o : Option α) : Respects R (orFault fault o : Faulting σ α) := by
  cases o with
  | some a => exact pure a
  | none => exact fail fault

theorem read {g : σ → α} (same : ∀ s t, R s t → g s = g t) : Respects R (read g) :=
  fun s t h => ⟨congrArg Except.ok (same s t h), h⟩

theorem query {g : σ → Except Fault α} (same : ∀ s t, R s t → g s = g t) : Respects R (query g) :=
  fun s t h => ⟨same s t h, h⟩

theorem guard {g : σ → Option Fault} (same : ∀ s t, R s t → g s = g t) :
    Respects R (guard g) := by
  intro s t h
  rw [run_guard, run_guard, same s t h]
  exact ⟨rfl, h⟩

theorem update {g : σ → σ} (kept : ∀ s t, R s t → R (g s) (g t)) : Respects R (update g) :=
  fun s t h => ⟨rfl, kept s t h⟩

/-- The answer of the first part is the same, so the second part is the same computation. -/
theorem bind (hx : Respects R x) (hf : ∀ a, Respects R (f a)) : Respects R (x >>= f) := by
  intro s t h
  obtain ⟨same, related⟩ := hx s t h
  cases outcome : x.run s with
  | mk result s' =>
    cases outcome' : x.run t with
    | mk result' t' =>
      rw [outcome, outcome'] at same related
      obtain rfl : result = result' := same
      cases result with
      | ok a =>
        rw [run_bind_ok outcome, run_bind_ok outcome']
        exact hf a s' t' related
      | error fault =>
        rw [run_bind_error outcome, run_bind_error outcome']
        exact ⟨rfl, related⟩

end Respects

end Faulting

end GuestMachine
