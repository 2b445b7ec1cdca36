import GuestMachine.Machine.Boot
import GuestMachine.Proofs.Faulting
import GuestMachine.Proofs.Memory

/-!
# A new process

A start as its checks in order (`startWith_eq`): the one that refuses it, with the machine as it
was, or the machine that a start which passes them leaves behind. The argument block is written like
anything else, so what it changes of the fresh address space is above the read-only barrier.
-/

namespace GuestMachine

namespace ArgumentLayout

theorem sealed_writeTexts {m m' : Memory} {texts : List (String × Nat)}
    (h : writeTexts m texts = .ok m') : m.Sealed m' := by
  induction texts generalizing m with
  | nil =>
    cases h
    exact .refl _
  | cons entry rest ih =>
    obtain ⟨next, written, later⟩ := bind_eq_ok.mp h
    exact (Memory.Sealed.writeBytes written).trans (ih later)

theorem sealed_writePointers {m m' : Memory} {address : Nat} {pointers : List Nat}
    (h : writePointers m address pointers = .ok m') : m.Sealed m' := by
  induction pointers generalizing m address with
  | nil =>
    cases h
    exact .refl _
  | cons pointer rest ih =>
    obtain ⟨next, written, later⟩ := bind_eq_ok.mp h
    exact (Memory.Sealed.writeBytes written).trans (ih later)

theorem sealed_writeTo {m m' : Memory} {args : List String} {l : ArgumentLayout}
    (h : l.writeTo args m = .ok m') : m.Sealed m' := by
  obtain ⟨m₁, texts, h⟩ := bind_eq_ok.mp h
  obtain ⟨m₂, pointers, h⟩ := bind_eq_ok.mp h
  obtain ⟨m₃, array, count⟩ := bind_eq_ok.mp h
  have block : m.Sealed m₂ := (sealed_writeTexts texts).trans (sealed_writePointers pointers)
  exact block.trans ((Memory.Sealed.writeBytes array).trans (Memory.Sealed.writeBytes count))

end ArgumentLayout

namespace Machine

variable {m m' : Machine} {e : Image} {args : List String} {reserve : UInt64}

theorem sealed_placeArguments {layout : Option ArgumentLayout} {memory memory' : Memory}
    {registers registers' : Registers}
    (h : placeArguments args layout memory registers = .ok (memory', registers')) :
    memory.Sealed memory' := by
  cases layout with
  | none =>
    cases h
    exact .refl _
  | some l =>
    obtain ⟨written, wrote, h⟩ := bind_eq_ok.mp h
    cases h
    exact ArgumentLayout.sealed_writeTo wrote

/-! ## Outcomes -/

section Run

variable {ε σ α β : Type}

theorem run_run_bind (x : ExceptT ε (StateM σ) α) (f : α → ExceptT ε (StateM σ) β) (s : σ) :
    (x >>= f).run.run s =
      match x.run.run s with
      | (.ok a, s') => (f a).run.run s'
      | (.error e, s') => (.error e, s') := by
  rw [ExceptT.run_bind, StateT.run_bind]
  cases x.run.run s with
  | mk result s' => cases result <;> rfl

theorem run_run_get (s : σ) : (get : ExceptT ε (StateM σ) σ).run.run s = (.ok s, s) := rfl

theorem run_run_ofExcept (x : Except ε α) (s : σ) :
    (ofExcept x : ExceptT ε (StateM σ) α).run.run s = (x, s) := by
  cases x <;> rfl

end Run

variable {noise : UInt64 → (size : Nat) → Noise size}

/-- The bytes a process needs, whatever a machine word can count. -/
def requested (e : Image) (reserve : UInt64) : Nat :=
  e.content.length + e.bss.toNat + reserve.toNat

/-- The machine with a process that has just been started. -/
def booted (m : Machine) (e : Image) (args : List String) (reserve : UInt64) (memory : Memory)
    (registers : Registers) : Machine :=
  { m.log .debug (bootMessage e args reserve m.config.seed (requested e reserve)) with
    core := ⟨memory, registers, 0, Flags.initial, Fpu.empty⟩
    life := .started }

@[simp] theorem core_booted {memory : Memory} {registers : Registers} :
    (m.booted e args reserve memory registers).core =
      ⟨memory, registers, 0, Flags.initial, Fpu.empty⟩ := rfl

@[simp] theorem life_booted {memory : Memory} {registers : Registers} :
    (m.booted e args reserve memory registers).life = .started := rfl

theorem descriptors_booted {memory : Memory} {registers : Registers} :
    (m.booted e args reserve memory registers).descriptors = (m.log .debug
      (bootMessage e args reserve m.config.seed (requested e reserve))).descriptors := rfl

/-- A start checks the limit, the arguments and the host, in this order, and touches the machine
after the last check. -/
theorem startWith_eq (noise : UInt64 → (size : Nat) → Noise size) (m : Machine) (e : Image)
    (args : List String) (reserve : UInt64) :
    m.startWith noise e args reserve =
      if m.config.maxMemory.toNat < requested e reserve then
        (.error (.addressSpaceTooLarge (requested e reserve) m.config.maxMemory), m)
      else
        match planArguments args (requested e reserve) (e.content.length + e.bss.toNat) reserve with
        | .error error => (.error error, m)
        | .ok layout =>
          if hostLimit < requested e reserve then
            (.error (.addressSpaceTooLarge (requested e reserve) m.config.maxMemory), m)
          else
            match placeArguments args layout
                (freshMemory e (noise m.config.seed reserve.toNat).stack)
                (noise m.config.seed reserve.toNat).registers with
            | .error _ => (.error (.argumentsTooLarge (ArgumentLayout.required args
                (UInt64.ofNat (requested e reserve))) reserve), m)
            | .ok (memory, registers) => (.ok (), m.booted e args reserve memory registers) := by
  unfold startWith setUp requested
  rw [run_run_bind, run_run_get]
  dsimp only
  split
  · rfl
  · rw [run_run_bind, run_run_ofExcept]
    cases planArguments args (e.content.length + e.bss.toNat + reserve.toNat)
        (e.content.length + e.bss.toNat) reserve with
    | error error => rfl
    | ok layout =>
      dsimp only
      split
      · rfl
      · cases placeArguments args layout (freshMemory e (noise m.config.seed reserve.toNat).stack)
            (noise m.config.seed reserve.toNat).registers with
        | error _ => rfl
        | ok placed => rfl

/-- A start is refused and changes nothing, or the process fits the limits, its arguments fit the
stack, and everything about it but descriptors and configuration is new. -/
theorem startWith_cases (noise : UInt64 → (size : Nat) → Noise size) (m : Machine) (e : Image)
    (args : List String) (reserve : UInt64) :
    (∃ error, m.startWith noise e args reserve = (.error error, m)) ∨
    ∃ layout memory registers,
      requested e reserve ≤ m.config.maxMemory.toNat ∧ requested e reserve ≤ hostLimit ∧
      planArguments args (requested e reserve) (e.content.length + e.bss.toNat) reserve =
        .ok layout ∧
      placeArguments args layout (freshMemory e (noise m.config.seed reserve.toNat).stack)
        (noise m.config.seed reserve.toNat).registers = .ok (memory, registers) ∧
      m.startWith noise e args reserve = (.ok (), m.booted e args reserve memory registers) := by
  rw [startWith_eq]
  split
  · exact .inl ⟨_, rfl⟩
  next allowed =>
  split
  · exact .inl ⟨_, rfl⟩
  next layout planned =>
  split
  · exact .inl ⟨_, rfl⟩
  next available =>
  split
  · exact .inl ⟨_, rfl⟩
  next memory registers placed =>
  exact .inr ⟨layout, memory, registers, Nat.le_of_not_lt allowed, Nat.le_of_not_lt available,
    planned, placed, rfl⟩

/-- A start that is refused leaves the machine as it was. -/
theorem startWith_of_error {error : BootError}
    (refused : (m.startWith noise e args reserve).1 = .error error) :
    m.startWith noise e args reserve = (.error error, m) := by
  rcases startWith_cases noise m e args reserve with ⟨_, run⟩ | ⟨_, _, _, -, -, -, -, run⟩
  · rw [run] at refused ⊢
    cases refused
    rfl
  · rw [run] at refused
    cases refused

theorem bootWith_eq_error_iff {error : BootError} :
    m.bootWith noise e args reserve = .error error ↔
      m.startWith noise e args reserve = (.error error, m) := by
  rcases startWith_cases noise m e args reserve with ⟨_, run⟩ | ⟨_, _, _, -, -, -, -, run⟩
  · simp [bootWith, run, Except.map]
  · simp [bootWith, run, Except.map]

theorem bootWith_eq_ok_iff :
    m.bootWith noise e args reserve = .ok m' ↔
      m.startWith noise e args reserve = (.ok (), m') := by
  rcases startWith_cases noise m e args reserve with ⟨_, run⟩ | ⟨_, _, _, -, -, -, -, run⟩
  · simp [bootWith, run, Except.map]
  · simp [bootWith, run, Except.map]

theorem bootWith_eq_ok (h : m.bootWith noise e args reserve = .ok m') :
    ∃ layout memory registers,
      requested e reserve ≤ m.config.maxMemory.toNat ∧ requested e reserve ≤ hostLimit ∧
      planArguments args (requested e reserve) (e.content.length + e.bss.toNat) reserve =
        .ok layout ∧
      placeArguments args layout (freshMemory e (noise m.config.seed reserve.toNat).stack)
        (noise m.config.seed reserve.toNat).registers = .ok (memory, registers) ∧
      m' = m.booted e args reserve memory registers := by
  have run := bootWith_eq_ok_iff.mp h
  rcases startWith_cases noise m e args reserve with
    ⟨_, refused⟩ | ⟨layout, memory, registers, allowed, available, planned, placed, started⟩
  · rw [refused] at run
    cases run
  · rw [started] at run
    cases run
    exact ⟨layout, memory, registers, allowed, available, planned, placed, rfl⟩

/-! ## The fresh address space -/

variable {n : Nat} (stack : Vector UInt8 n)

theorem size_freshMemory : (freshMemory e stack).size = e.content.length + e.bss.toNat + n := by
  simp [freshMemory, Memory.size, Nat.add_assoc]

theorem getElem?_freshMemory {i : Nat} (h : i < (freshMemory e stack).readonlyBarrier) :
    (freshMemory e stack).bytes[i]? = (e.text ++ e.rodata)[i]? := by
  have stored : i < (e.text ++ e.rodata).length := by
    rw [List.length_append]
    exact h
  have inContent : i < (e.text ++ e.rodata ++ e.data).toArray.size := by
    rw [List.size_toArray, List.length_append]
    omega
  simp only [freshMemory, Image.content]
  rw [Array.append_assoc, Array.getElem?_append_left inContent, List.getElem?_toArray,
    List.getElem?_append_left stored]

end Machine

end GuestMachine
