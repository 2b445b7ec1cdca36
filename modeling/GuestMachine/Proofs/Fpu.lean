import GuestMachine.Fpu

/-!
# Values left behind on the floating-point stack

A slot that is released keeps its value. Two stacks that differ at most in such values are alike:
no operation tells them apart, and every operation leaves them alike, since each looks at a slot
only after it has found the slot in use.
-/

namespace GuestMachine.Fpu

/-- `f` and `g` differ at most in the values of slots that are not in use. -/
structure Alike (f g : Fpu) : Prop where
  top : g.top = f.top
  used : g.used = f.used
  values : ∀ s : Fin 8, f.used[s] = true → g.values[s] = f.values[s]

variable {f g : Fpu}

namespace Alike

theorem refl (f : Fpu) : f.Alike f := ⟨rfl, rfl, fun _ _ => rfl⟩

theorem slot (h : f.Alike g) (i : UInt8) : g.slot i = f.slot i := by
  unfold Fpu.slot
  rw [h.top]

theorem inUse (h : f.Alike g) (i : UInt8) : g.inUse i = f.inUse i := by
  unfold Fpu.inUse
  simp only [h.slot, h.used]

theorem st (h : f.Alike g) (i : UInt8) : g.st i = f.st i := by
  unfold Fpu.st
  rw [h.inUse]
  split
  · next used => simp only [h.slot, h.values _ used]
  · rfl

theorem withTop (h : f.Alike g) (top : Fin 8) :
    Alike { f with top := top } { g with top := top } := ⟨rfl, h.used, h.values⟩

theorem incrementTop (h : f.Alike g) : f.incrementTop.Alike g.incrementTop := by
  unfold Fpu.incrementTop
  rw [h.top]
  exact h.withTop _

theorem decrementTop (h : f.Alike g) : f.decrementTop.Alike g.decrementTop := by
  unfold Fpu.decrementTop
  rw [h.top]
  exact h.withTop _

theorem claim (h : f.Alike g) (s : Fin 8) (value : Double) :
    (f.claim s value).Alike (g.claim s value) := by
  refine ⟨h.top, ?_, ?_⟩
  · simp only [Fpu.claim, h.used]
  · intro t used
    simp only [Fpu.claim, Fin.getElem_fin, Vector.getElem_set] at used ⊢
    split
    · rfl
    · next other =>
      rw [if_neg other] at used
      exact h.values t used

theorem release (h : f.Alike g) (s : Fin 8) : (f.release s).Alike (g.release s) := by
  refine ⟨h.top, ?_, ?_⟩
  · simp only [Fpu.release, h.used]
  · intro t used
    simp only [Fpu.release, Fin.getElem_fin, Vector.getElem_set] at used ⊢
    split at used
    · cases used
    · exact h.values t used

theorem reset (f g : Fpu) : f.reset.Alike g.reset := by
  refine ⟨rfl, rfl, ?_⟩
  intro s used
  simp [Fpu.reset] at used

theorem store (h : f.Alike g) (i : UInt8) (value : Double) :
    (f.store i value).Alike (g.store i value) := by
  unfold Fpu.store
  rw [h.slot]
  exact h.claim _ value

theorem free (h : f.Alike g) (i : UInt8) : (f.free i).Alike (g.free i) := by
  unfold Fpu.free
  rw [h.slot]
  exact h.release _

end Alike

/-- The change is possible on both of two stacks that are alike, or on neither for the same reason,
and it leaves them alike. -/
def Blind (change : Fpu → Except Fault Fpu) : Prop :=
  ∀ f g, f.Alike g →
    (∃ f' g', change f = .ok f' ∧ change g = .ok g' ∧ f'.Alike g') ∨
    ∃ fault, change f = .error fault ∧ change g = .error fault

namespace Blind

theorem ok {change : Fpu → Fpu} (kept : ∀ f g, f.Alike g → (change f).Alike (change g)) :
    Blind fun f => .ok (change f) :=
  fun f g h => .inl ⟨_, _, rfl, rfl, kept f g h⟩

/-- A change that is made under a condition which says nothing about values left behind. -/
theorem ite {allowed : Fpu → Bool} {change : Fpu → Fpu} (fault : Fault)
    (same : ∀ f g, f.Alike g → allowed g = allowed f)
    (kept : ∀ f g, f.Alike g → allowed f = true → (change f).Alike (change g)) :
    Blind fun f => if allowed f then .ok (change f) else .error fault := by
  intro f g h
  cases condition : allowed f with
  | true =>
    refine .inl ⟨change f, change g, ?_, ?_, kept f g h condition⟩
    · simp [condition]
    · simp [same f g h, condition]
  | false =>
    refine .inr ⟨fault, ?_, ?_⟩
    · simp [condition]
    · simp [same f g h, condition]

theorem push (value : Double) : Blind fun f => f.push value := by
  have guarded : (fun f : Fpu => f.push value) = fun f =>
      if !f.used[(f.top - 1 : Fin 8)] then .ok { f.claim (f.top - 1) value with top := f.top - 1 }
      else .error .undefinedBehavior := by
    funext f
    unfold Fpu.push
    dsimp only
    cases f.used[(f.top - 1 : Fin 8)] <;> rfl
  rw [guarded]
  refine ite _ (fun f g h => ?_) fun f g h _ => ?_
  · simp only [h.top, h.used]
  · rw [h.top]
    exact (h.claim _ value).withTop _

theorem pop : Blind fun f => f.pop.map Prod.snd := by
  have guarded : (fun f : Fpu => f.pop.map Prod.snd) = fun f =>
      if f.used[f.top] then .ok { f.release f.top with top := f.top + 1 }
      else .error .undefinedBehavior := by
    funext f
    unfold Fpu.pop
    cases f.used[f.top] <;> rfl
  rw [guarded]
  refine ite _ (fun f g h => ?_) fun f g h _ => ?_
  · simp only [h.top, h.used]
  · rw [h.top]
    exact (h.release _).withTop _

theorem setSt (i : UInt8) (value : Double) : Blind fun f => f.setSt i value :=
  ite _ (fun _ _ h => h.inUse i) fun _ _ h _ => h.store i value

theorem swap (i : UInt8) : Blind fun f => f.swap i := by
  refine ite _ (fun f g h => by rw [h.inUse, h.inUse]) fun f g h used => ?_
  obtain ⟨top, entry⟩ := (Bool.and_eq_true _ _).mp used
  simp only [h.slot, h.values _ top, h.values _ entry]
  exact (h.store 0 _).store i _

end Blind

end GuestMachine.Fpu
