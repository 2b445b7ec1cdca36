import GuestMachine.Proofs.Core.Access
import Mathlib.Algebra.Group.Fin.Basic
import Mathlib.Data.Fin.Tuple.Basic

/-!
# The floating-point stack as eight entries

Seen from the top, the circle of slots is a row of eight entries, each empty or holding a value.
Every operation of the stack is one of a few plain changes of that row: shift, rotate, or replace an
entry. The slots, the place of the top and the values that released slots keep cannot be told from
the answers.
-/

namespace GuestMachine

namespace Fpu

/-- The entries of a floating-point stack, the top first. An empty entry holds nothing. -/
abbrev Entries := Fin 8 → Option Double

/-- The entries of the stack, whatever slots they are in. -/
def entries (f : Fpu) : Entries := fun i => f.slot? (f.top + i)

/-- The number of an entry: a byte, taken modulo eight. -/
def entryOf (i : UInt8) : Fin 8 := ⟨i.toNat % 8, Nat.mod_lt _ (by decide)⟩

/-- Something asked of the floating-point stack. -/
inductive Request where
  | push (value : Double)
  | pop
  | read (i : UInt8)
  | overwrite (i : UInt8) (value : Double)
  | fill (i : UInt8) (value : Double)
  | exchange (i : UInt8)
  | free (i : UInt8)
  | increment
  | decrement
  | reset

/-- What a request does to the row of entries: the value it gives, if any, and the row it leaves.
Only a push with the last entry in use, and a use of an empty entry, are refused. -/
def Entries.serve (s : Entries) : Request → Except Fault (Option Double × Entries)
  | .push value =>
    match s (Fin.last 7) with
    | some _ => .error .undefinedBehavior
    | none => .ok (none, Fin.cons (some value) (Fin.init s))
  | .pop =>
    match s (entryOf 0) with
    | none => .error .undefinedBehavior
    | some value => .ok (some value, Fin.snoc (Fin.tail s) none)
  | .read i =>
    match s (entryOf i) with
    | none => .error .undefinedBehavior
    | some value => .ok (some value, s)
  | .overwrite i value =>
    match s (entryOf i) with
    | none => .error .undefinedBehavior
    | some _ => .ok (none, Function.update s (entryOf i) (some value))
  | .fill i value => .ok (none, Function.update s (entryOf i) (some value))
  | .exchange i =>
    match s (entryOf 0), s (entryOf i) with
    | some top, some other =>
      let first := Function.update s (entryOf 0) (some other)
      .ok (none, Function.update first (entryOf i) (some top))
    | _, _ => .error .undefinedBehavior
  | .free i => .ok (none, Function.update s (entryOf i) none)
  | .increment => .ok (none, Fin.snoc (Fin.tail s) (s (entryOf 0)))
  | .decrement => .ok (none, Fin.cons (s (Fin.last 7)) (Fin.init s))
  | .reset => .ok (none, fun _ => none)

/-- What a request does to the stack: the value it gives, if any, and the stack it leaves. -/
def serve (f : Fpu) : Request → Except Fault (Option Double × Fpu)
  | .push value => (f.push value).map fun g => (none, g)
  | .pop => f.pop.map fun (value, g) => (some value, g)
  | .read i => (f.st i).map fun value => (some value, f)
  | .overwrite i value => (f.setSt i value).map fun g => (none, g)
  | .fill i value => .ok (none, f.store i value)
  | .exchange i => (f.swap i).map fun g => (none, g)
  | .free i => .ok (none, f.free i)
  | .increment => .ok (none, f.incrementTop)
  | .decrement => .ok (none, f.decrementTop)
  | .reset => .ok (none, f.reset)

/-! ## The top as a byte

The machine keeps the top in a byte. It moves it by addition modulo 256 and then keeps the three low
bits; as eight divides 256, that is the addition of `Fin 8`. -/

variable (f : Fpu)

/-- The slot that a byte names: its three low bits. -/
def masked (b : UInt8) : Fin 8 :=
  ⟨(b &&& 7).toNat, by rw [UInt8.toNat_and]; exact Nat.lt_succ_of_le Nat.and_le_right⟩

theorem masked_val (b : UInt8) : (masked b).val = b.toNat % 8 := by
  show (b &&& 7).toNat = _
  rw [UInt8.toNat_and]
  exact Nat.and_two_pow_sub_one_eq_mod b.toNat 3

/-- The byte that holds the top. -/
def topByte (f : Fpu) : UInt8 := .ofNat f.top.val

theorem topByte_toNat : f.topByte.toNat = f.top.val := by
  have bound := f.top.isLt
  show f.top.val % 256 = _
  omega

theorem slot_eq_masked (i : UInt8) : f.slot i = masked (f.topByte + i) := by
  apply Fin.ext
  rw [masked_val, UInt8.toNat_add, topByte_toNat]
  simp only [slot, Fin.val_add, Fin.ofNat_eq_cast, Fin.val_natCast]
  omega

theorem top_add_one_eq_masked : f.top + 1 = masked (f.topByte + 1) := by
  rw [← slot_eq_masked]
  rfl

theorem top_sub_one_eq_masked : f.top - 1 = masked (f.topByte - 1) := by
  have bound := f.top.isLt
  apply Fin.ext
  rw [masked_val, UInt8.toNat_sub, topByte_toNat, Fin.val_sub]
  show (8 - 1 + _) % 8 = (2 ^ 8 - 1 + _) % 2 ^ 8 % 8
  omega

theorem push_eq_masked (value : Double) :
    f.push value =
      let s := masked (f.topByte - 1)
      if f.used[s] then .error .undefinedBehavior else .ok { f.claim s value with top := s } := by
  simp only [push, top_sub_one_eq_masked]

theorem pop_eq_masked :
    f.pop =
      if f.used.get f.top then
        .ok (f.values.get f.top, { f.release f.top with top := masked (f.topByte + 1) })
      else .error .undefinedBehavior := by
  rw [← top_add_one_eq_masked]
  rfl

theorem incrementTop_eq_masked :
    f.incrementTop = { f with top := masked (f.topByte + 1) } := by
  rw [← top_add_one_eq_masked]
  rfl

theorem decrementTop_eq_masked :
    f.decrementTop = { f with top := masked (f.topByte - 1) } := by
  rw [← top_sub_one_eq_masked]
  rfl

/-! ## Slots and entries -/

theorem slot?_claim (s t : Fin 8) (value : Double) :
    (f.claim s value).slot? t = if t = s then some value else f.slot? t := by
  by_cases same : t = s
  · subst same
    simp [slot?, claim]
  · have other : s.val ≠ t.val := fun equal => same (Fin.ext equal.symm)
    simp [slot?, claim, same, other]

theorem slot?_release (s t : Fin 8) :
    (f.release s).slot? t = if t = s then none else f.slot? t := by
  by_cases same : t = s
  · subst same
    simp [slot?, release]
  · have other : s.val ≠ t.val := fun equal => same (Fin.ext equal.symm)
    simp [slot?, release, same, other]

@[simp] theorem entries_claim (i : Fin 8) (value : Double) :
    (f.claim (f.top + i) value).entries = Function.update f.entries i (some value) := by
  funext j
  show (f.claim (f.top + i) value).slot? (f.top + j) = _
  rw [slot?_claim, Function.update_apply]
  simp only [add_right_inj, entries]

@[simp] theorem entries_release (i : Fin 8) :
    (f.release (f.top + i)).entries = Function.update f.entries i none := by
  funext j
  show (f.release (f.top + i)).slot? (f.top + j) = _
  rw [slot?_release, Function.update_apply]
  simp only [add_right_inj, entries]

/-- Turning the circle forward makes the top the last entry. -/
@[simp] theorem entries_incrementTop :
    f.incrementTop.entries = Fin.snoc (Fin.tail f.entries) (f.entries (entryOf 0)) := by
  have wraps : ∀ t : Fin 8, t + 1 + Fin.last 7 = t + 0 := by decide
  have shifts : ∀ (t : Fin 8) (j : Fin 7), t + 1 + j.castSucc = t + j.succ := by decide
  funext i
  show f.slot? (f.top + 1 + i) = _
  induction i using Fin.lastCases with
  | last =>
    rw [wraps, Fin.snoc_last]
    rfl
  | cast j =>
    rw [shifts, Fin.snoc_castSucc]
    rfl

/-- Turning the circle back makes the last entry the top. -/
@[simp] theorem entries_decrementTop :
    f.decrementTop.entries = Fin.cons (f.entries (Fin.last 7)) (Fin.init f.entries) := by
  have wraps : ∀ t : Fin 8, t - 1 + 0 = t + 7 := by decide
  have shifts : ∀ (t : Fin 8) (j : Fin 7), t - 1 + j.succ = t + j.castSucc := by decide
  funext i
  show f.slot? (f.top - 1 + i) = _
  induction i using Fin.cases with
  | zero =>
    rw [wraps, Fin.cons_zero]
    rfl
  | succ j =>
    rw [shifts, Fin.cons_succ]
    rfl

@[simp] theorem entries_reset : f.reset.entries = fun _ => none := by
  funext i
  simp [entries, slot?, reset]

/-! ## Operations -/

theorem push_eq (value : Double) :
    f.push value =
      if (f.entries (Fin.last 7)).isSome then .error .undefinedBehavior
      else .ok (f.claim (f.top + Fin.last 7) value).decrementTop := by
  have below : ∀ t : Fin 8, t + Fin.last 7 = t - 1 := by decide
  have used : (f.entries (Fin.last 7)).isSome = f.used[(f.top - 1 : Fin 8)] := by
    rw [entries, below, slot?]
    cases f.used[(f.top - 1 : Fin 8)] <;> rfl
  rw [used, push, below]
  rfl

theorem pop_eq :
    f.pop = match f.entries (entryOf 0) with
      | none => .error .undefinedBehavior
      | some value => .ok (value, (f.release (f.top + entryOf 0)).incrementTop) := by
  have first : f.top + entryOf 0 = f.top := add_zero f.top
  rw [entries, first, pop, slot?]
  split <;> rfl

theorem st_eq (i : UInt8) :
    f.st i = match f.entries (entryOf i) with
      | none => .error .undefinedBehavior
      | some value => .ok value := by
  show _ = match f.slot? (f.slot i) with
    | none => _
    | some value => _
  rw [st, inUse, slot?]
  split <;> rfl

theorem inUse_eq (i : UInt8) : f.inUse i = (f.entries (entryOf i)).isSome := by
  show _ = (f.slot? (f.slot i)).isSome
  rw [inUse, slot?]
  cases f.used[f.slot i] <;> rfl

theorem entries_store (i : UInt8) (value : Double) :
    (f.store i value).entries = Function.update f.entries (entryOf i) (some value) :=
  f.entries_claim (entryOf i) value

/-- A push turns the circle back onto the slot it claims. -/
theorem entries_pushed (value : Double) :
    (f.claim (f.top + Fin.last 7) value).decrementTop.entries =
      Fin.cons (some value) (Fin.init f.entries) := by
  have init : Fin.init (Function.update f.entries (Fin.last 7) (some value)) =
      Fin.init f.entries := Fin.init_update_last _ _
  rw [entries_decrementTop, entries_claim, Function.update_self]
  exact congrArg (fun rest : Fin 7 → Option Double => (Fin.cons (some value) rest : Entries)) init

/-- A pop turns the circle forward from the slot it releases. -/
theorem entries_popped :
    (f.release (f.top + entryOf 0)).incrementTop.entries = Fin.snoc (Fin.tail f.entries) none := by
  have tail : Fin.tail (Function.update f.entries (entryOf 0) none) = Fin.tail f.entries :=
    Fin.tail_update_zero _ _
  rw [entries_incrementTop, entries_release, Function.update_self, tail]

theorem swap_eq (i : UInt8) :
    f.swap i = match f.entries (entryOf 0), f.entries (entryOf i) with
      | some top, some other => .ok ((f.store 0 other).store i top)
      | _, _ => .error .undefinedBehavior := by
  show _ = match f.slot? (f.slot 0), f.slot? (f.slot i) with
    | some top, some other => _
    | _, _ => _
  rw [swap, inUse, inUse, slot?, slot?]
  cases f.used[f.slot 0] <;> cases f.used[f.slot i] <;> rfl

/-- Whatever is asked, the answer and the entries it leaves depend on the entries alone. -/
theorem serve_entries (q : Request) :
    f.entries.serve q = (f.serve q).map fun (answer, g) => (answer, g.entries) := by
  cases q with
  | push value =>
    rw [serve, push_eq, Entries.serve]
    cases last : f.entries (Fin.last 7) with
    | some held => rfl
    | none =>
      simp only [Option.isSome_none, Bool.false_eq_true, if_false, Except.map, entries_pushed]
  | pop =>
    rw [serve, pop_eq, Entries.serve]
    cases first : f.entries (entryOf 0) with
    | none => rfl
    | some value =>
      simp only [Except.map, entries_popped]
  | read i =>
    rw [serve, st_eq, Entries.serve]
    cases f.entries (entryOf i) <;> rfl
  | overwrite i value =>
    rw [serve, setSt, inUse_eq, Entries.serve]
    cases f.entries (entryOf i) with
    | none => rfl
    | some held => simp only [Option.isSome_some, if_true, Except.map, entries_store]
  | fill i value => simp only [serve, Entries.serve, Except.map, entries_store]
  | exchange i =>
    rw [serve, swap_eq, Entries.serve]
    cases f.entries (entryOf 0) with
    | none => rfl
    | some top =>
      cases f.entries (entryOf i) with
      | none => rfl
      | some other =>
        simp only [Except.map, entries_store]
  | free i => exact congrArg (fun s => Except.ok (none, s)) (f.entries_release (entryOf i)).symm
  | increment => simp only [serve, Entries.serve, Except.map, entries_incrementTop]
  | decrement => simp only [serve, Entries.serve, Except.map, entries_decrementTop]
  | reset => simp only [serve, Entries.serve, Except.map, entries_reset]

/-! ## Sequences of requests -/

/-- The answers to one request after another, and the state at the end. What is refused changes
nothing. -/
def serveAll {σ : Type} (serve : σ → Request → Except Fault (Option Double × σ)) :
    σ → List Request → List (Except Fault (Option Double)) × σ
  | s, [] => ([], s)
  | s, q :: rest =>
    match serve s q with
    | .ok (answer, next) =>
      let (answers, last) := serveAll serve next rest
      (.ok answer :: answers, last)
    | .error fault =>
      let (answers, last) := serveAll serve s rest
      (.error fault :: answers, last)

theorem serveAll_entries (qs : List Request) :
    serveAll Entries.serve f.entries qs =
      ((serveAll serve f qs).1, (serveAll serve f qs).2.entries) := by
  induction qs generalizing f with
  | nil => rfl
  | cons q rest ih =>
    have same := f.serve_entries q
    cases outcome : f.serve q with
    | error fault =>
      rw [outcome] at same
      simp only [serveAll, outcome, same, Except.map, ih f]
    | ok reply =>
      obtain ⟨answer, g⟩ := reply
      rw [outcome] at same
      simp only [serveAll, outcome, same, Except.map, ih g]

/-- Pushes one value after another. -/
def pushAll : Fpu → List Double → Except Fault Fpu
  | f, [] => .ok f
  | f, value :: rest => do pushAll (← f.push value) rest

/-- Pops so many values. -/
def popAll : Fpu → Nat → Except Fault (List Double × Fpu)
  | f, 0 => .ok ([], f)
  | f, count + 1 => do
    let (value, g) ← f.pop
    let (values, last) ← popAll g count
    return (value :: values, last)

variable {f}

theorem push_eq_ok {g : Fpu} {value : Double} (h : f.push value = .ok g) :
    f.entries (Fin.last 7) = none ∧ g.top = f.top - 1 ∧
      g.entries = Fin.cons (some value) (Fin.init f.entries) := by
  rw [push_eq] at h
  split at h
  · cases h
  · next free =>
    cases h
    exact ⟨by simpa using free, rfl, f.entries_pushed value⟩

theorem pop_of_entries {value : Double} (h : f.entries (entryOf 0) = some value) :
    ∃ g, f.pop = .ok (value, g) ∧ g.top = f.top + 1 ∧
      g.entries = Fin.snoc (Fin.tail f.entries) none := by
  rw [pop_eq, h]
  exact ⟨_, rfl, rfl, f.entries_popped⟩

/-- One more pop behind a number of pops. -/
theorem popAll_succ {g h : Fpu} {count : Nat} {values : List Double} {value : Double}
    (first : f.popAll count = .ok (values, g)) (last : g.pop = .ok (value, h)) :
    f.popAll (count + 1) = .ok (values ++ [value], h) := by
  induction count generalizing f values with
  | zero =>
    cases first
    rw [popAll, last]
    rfl
  | succ count ih =>
    rw [popAll, bind_eq_ok] at first
    obtain ⟨⟨top, middle⟩, popped, rest⟩ := first
    obtain ⟨⟨others, g'⟩, tail, done⟩ := bind_eq_ok.mp rest
    cases done
    rw [popAll, popped]
    exact bind_eq_ok.mpr ⟨_, rfl, bind_eq_ok.mpr ⟨_, ih tail, rfl⟩⟩

/-- What was pushed is popped in reverse order, and the entries and the top are as before. -/
theorem popAll_of_pushAll {g : Fpu} {values : List Double} (pushed : f.pushAll values = .ok g) :
    ∃ h, g.popAll values.length = .ok (values.reverse, h) ∧ h.top = f.top ∧
      h.entries = f.entries := by
  induction values generalizing f with
  | nil =>
    cases pushed
    exact ⟨_, rfl, rfl, rfl⟩
  | cons value rest ih =>
    obtain ⟨f', first, others⟩ := bind_eq_ok.mp pushed
    obtain ⟨free, top, entries⟩ := push_eq_ok first
    obtain ⟨h, popped, top', entries'⟩ := ih others
    have held : h.entries (entryOf 0) = some value := by
      rw [entries', entries]
      rfl
    obtain ⟨k, last, top'', entries''⟩ := pop_of_entries held
    refine ⟨k, ?_, ?_, ?_⟩
    · rw [List.reverse_cons]
      exact popAll_succ popped last
    · rw [top'', top', top, sub_add_cancel]
    · -- The push found the last entry empty, so the pop leaves it as it was.
      rw [entries'', entries', entries, Fin.tail_cons, ← free]
      exact Fin.snoc_init_self f.entries

/-- The circle of slots is a row of eight entries. Whatever is asked of any stack, it is granted or
refused by its entries alone, with the answer that they give, and leaves the entries that they
leave; so it is over every sequence of requests, in which the top stays one of eight slots. A
request that is refused leaves the processor as it was. After any number of pushes that all succeed,
as many pops succeed too, give the values in reverse order, and leave the top and every entry as
they were. -/
theorem entries_refined_by_slots :
    (∀ (f : Fpu) (q : Request),
      f.entries.serve q = (f.serve q).map fun (answer, g) => (answer, g.entries)) ∧
    (∀ (f : Fpu) (qs : List Request),
      let (answers, g) := serveAll serve f qs
      serveAll Entries.serve f.entries qs = (answers, g.entries) ∧ g.top.val ≤ 7) ∧
    (∀ (c : Core) (q : Request) (fault : Fault), c.fpu.serve q = .error fault →
      (Exec.changeFpu fun f => (f.serve q).map Prod.snd).run c = (.error fault, c)) ∧
    ∀ (f g : Fpu) (values : List Double), f.pushAll values = .ok g →
      ∃ h, g.popAll values.length = .ok (values.reverse, h) ∧ h.top = f.top ∧
        h.entries = f.entries := by
  refine ⟨serve_entries, ?_, ?_, ?_⟩
  · intro f qs
    exact ⟨f.serveAll_entries qs, Nat.le_of_lt_succ (serveAll serve f qs).2.top.isLt⟩
  · intro c q fault refused
    apply Exec.run_changeFpu_error
    rw [refused]
    rfl
  · intro f g values pushed
    exact popAll_of_pushAll pushed

/-- One and two are pushed and popped again; a pop of the empty stack is refused. -/
theorem entries_refined_by_slots_two_values :
    ∃ g h, empty.pushAll [⟨0x3FF0000000000000⟩, ⟨0x4000000000000000⟩] = .ok g ∧
      g.popAll 2 = .ok ([⟨0x4000000000000000⟩, ⟨0x3FF0000000000000⟩], h) ∧ h.top = 0 ∧
      h.entries = empty.entries ∧ Core.blank.fpu.serve .pop = .error .undefinedBehavior ∧
      (Exec.changeFpu fun f => (f.serve .pop).map Prod.snd).run Core.blank =
        (.error .undefinedBehavior, Core.blank) := by
  obtain ⟨-, -, refuses, pops⟩ := entries_refined_by_slots
  obtain ⟨g, pushed⟩ : ∃ g, empty.pushAll [⟨0x3FF0000000000000⟩, ⟨0x4000000000000000⟩] = .ok g :=
    ⟨_, rfl⟩
  obtain ⟨h, popped, top, entries⟩ := pops _ _ _ pushed
  exact ⟨g, h, pushed, popped, top, entries, rfl, refuses _ _ _ rfl⟩

end Fpu

end GuestMachine
