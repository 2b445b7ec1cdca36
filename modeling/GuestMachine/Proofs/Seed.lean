import GuestMachine.Proofs.Bootstrap

/-!
# What the seed decides

The seed fills what a start leaves uninitialised, and nothing else: the general registers other
than the three that describe the arguments, the free stack, and the padding between the pointers
to the arguments and their texts. Whether a process starts, and everything else about it, is the
same for every seed.
-/

namespace GuestMachine

namespace Memory

theorem Holds.agree {m m' : Memory} {address : Nat} {data : Bytes} (h : m.Holds address data)
    (h' : m'.Holds address data) {i : Nat} (lower : address ≤ i)
    (upper : i < address + data.length) : m.bytes[i]? = m'.bytes[i]? := by
  have place : address + (i - address) = i := by omega
  have here := h (i - address) (by omega)
  have there := h' (i - address) (by omega)
  rw [place] at here there
  rw [here, there]

theorem eq_of_getElem? {m m' : Memory} (bytes : ∀ i : Nat, m.bytes[i]? = m'.bytes[i]?)
    (exeBarrier : m.exeBarrier = m'.exeBarrier)
    (readonlyBarrier : m.readonlyBarrier = m'.readonlyBarrier)
    (stackBarrier : m.stackBarrier = m'.stackBarrier) : m = m' := by
  cases m
  cases m'
  cases exeBarrier
  cases readonlyBarrier
  cases stackBarrier
  have same := Array.ext_getElem? (by simpa using bytes)
  rw [same]

/-- Memories of one size are the same past their end. -/
theorem getElem?_eq_of_size_le {m m' : Memory} (size : m.size = m'.size) {i : Nat}
    (past : m.size ≤ i) : m.bytes[i]? = m'.bytes[i]? := by
  have past' : m'.size ≤ i := size ▸ past
  exact (Array.getElem?_eq_none past).trans (Array.getElem?_eq_none past').symm

/-- The memory with zeros from address `start` up to address `stop`. -/
def blank (m : Memory) (start stop : Nat) : Memory :=
  m.patch start (List.replicate (stop - start) 0)

@[simp] theorem size_blank (m : Memory) (start stop : Nat) :
    (m.blank start stop).size = m.size := by
  simp [blank]

theorem getElem?_blank_of_mem {m : Memory} {start stop i : Nat} (lower : start ≤ i)
    (upper : i < stop) (stored : i < m.size) : (m.blank start stop).bytes[i]? = some 0 := by
  have reached : start ≤ i ∧ i < start + (List.replicate (stop - start) (0 : UInt8)).length ∧
      i < m.bytes.size := by
    rw [List.length_replicate]
    exact ⟨lower, by omega, stored⟩
  rw [blank, patch, getElem?_overlay, if_pos reached, List.getElem?_replicate, if_pos (by omega)]

theorem getElem?_blank_of_not_mem {m : Memory} {start stop i : Nat}
    (outside : ¬(start ≤ i ∧ i < stop)) : (m.blank start stop).bytes[i]? = m.bytes[i]? := by
  rw [blank, patch, getElem?_overlay, if_neg]
  rw [List.length_replicate]
  omega

end Memory

namespace Core

/-- Where the padding ends that lies between the pointers to the arguments and their texts: at the
first pointer. Without arguments there is none. -/
def paddingEnd (c : Core) (args : List String) : Nat :=
  match args, c.memory.read (c.registers.get .rsi) .qword with
  | _ :: _, .ok first => first.toNat
  | _, _ => 0

/-- Where the padding starts: behind the pointers. -/
def paddingStart (c : Core) : Nat :=
  (c.registers.get .rsi).toNat + 8 * (c.registers.get .rdi).toNat

/-- The byte at address `i` is in the free stack or in the padding. -/
def Uninitialised (c : Core) (args : List String) (i : Nat) : Prop :=
  c.memory.stackBarrier ≤ i ∧ i < (c.registers.get .rsp).toNat ∨
    c.paddingStart ≤ i ∧ i < c.paddingEnd args

/-- The memory with zeros for all uninitialised bytes. -/
def scrubMemory (c : Core) (args : List String) : Memory :=
  (c.memory.blank c.memory.stackBarrier (c.registers.get .rsp).toNat).blank c.paddingStart
    (c.paddingEnd args)

/-- The registers with zeros for all but those that describe the arguments. -/
def scrubRegisters (c : Core) : Registers :=
  ((Registers.empty.set .rsp (c.registers.get .rsp)).set .rdi (c.registers.get .rdi)).set .rsi
    (c.registers.get .rsi)

/-- The core with zeros for everything that a start leaves uninitialised. -/
def scrub (c : Core) (args : List String) : Core :=
  { c with memory := c.scrubMemory args, registers := c.scrubRegisters }

section Scrub

variable {c d : Core} {args : List String} {i : Nat}

theorem size_scrubMemory (c : Core) (args : List String) :
    (c.scrubMemory args).size = c.memory.size := by
  simp [scrubMemory]

theorem getElem?_scrubMemory_of_uninitialised (h : c.Uninitialised args i)
    (stored : i < c.memory.size) : (c.scrubMemory args).bytes[i]? = some 0 := by
  unfold scrubMemory
  by_cases padding : c.paddingStart ≤ i ∧ i < c.paddingEnd args
  · exact Memory.getElem?_blank_of_mem padding.1 padding.2 (by simpa using stored)
  · have free := h.resolve_right padding
    rw [Memory.getElem?_blank_of_not_mem padding]
    exact Memory.getElem?_blank_of_mem free.1 free.2 stored

theorem getElem?_scrubMemory_of_initialised (h : ¬c.Uninitialised args i) :
    (c.scrubMemory args).bytes[i]? = c.memory.bytes[i]? := by
  obtain ⟨notFree, notPadding⟩ := not_or.mp h
  unfold scrubMemory
  rw [Memory.getElem?_blank_of_not_mem notPadding, Memory.getElem?_blank_of_not_mem notFree]

/-- The two cores are the same in everything that a start with `args` initialises. -/
structure Agrees (c d : Core) (args : List String) : Prop where
  size : c.memory.size = d.memory.size
  exeBarrier : c.memory.exeBarrier = d.memory.exeBarrier
  readonlyBarrier : c.memory.readonlyBarrier = d.memory.readonlyBarrier
  stackBarrier : c.memory.stackBarrier = d.memory.stackBarrier
  rsp : c.registers.get .rsp = d.registers.get .rsp
  rdi : c.registers.get .rdi = d.registers.get .rdi
  rsi : c.registers.get .rsi = d.registers.get .rsi
  rip : c.rip = d.rip
  flags : c.flags = d.flags
  fpu : c.fpu = d.fpu
  paddingEnd : c.paddingEnd args = d.paddingEnd args
  bytes : ∀ i, ¬c.Uninitialised args i → c.memory.bytes[i]? = d.memory.bytes[i]?

namespace Agrees

theorem uninitialised_iff (h : c.Agrees d args) (i : Nat) :
    c.Uninitialised args i ↔ d.Uninitialised args i := by
  unfold Uninitialised paddingStart
  rw [h.stackBarrier, h.rsp, h.rdi, h.rsi, h.paddingEnd]

theorem scrubMemory (h : c.Agrees d args) : c.scrubMemory args = d.scrubMemory args := by
  refine Memory.eq_of_getElem? (fun i => ?_) h.exeBarrier h.readonlyBarrier h.stackBarrier
  by_cases uninitialised : c.Uninitialised args i
  · have uninitialised' := (h.uninitialised_iff i).mp uninitialised
    by_cases stored : i < c.memory.size
    · rw [getElem?_scrubMemory_of_uninitialised uninitialised stored,
        getElem?_scrubMemory_of_uninitialised uninitialised' (h.size ▸ stored)]
    · refine Memory.getElem?_eq_of_size_le ?_ ?_
      · rw [size_scrubMemory, size_scrubMemory, h.size]
      · rw [size_scrubMemory]
        exact Nat.le_of_not_lt stored
  · have initialised' := fun u => uninitialised ((h.uninitialised_iff i).mpr u)
    rw [getElem?_scrubMemory_of_initialised uninitialised,
      getElem?_scrubMemory_of_initialised initialised', h.bytes i uninitialised]

/-- Zeros for all that is uninitialised make the cores the same. -/
theorem scrub (h : c.Agrees d args) : c.scrub args = d.scrub args := by
  unfold Core.scrub scrubRegisters
  rw [h.scrubMemory, h.rsp, h.rdi, h.rsi, h.rip, h.flags, h.fpu]

end Agrees

end Scrub

end Core

/-! ## Starting with another seed -/

namespace Machine

variable {m : Machine} {e : Image} {args : List String} {reserve : UInt64}

/-- The machine with another seed. -/
def seeded (m : Machine) (seed : UInt64) : Machine :=
  { m with config := { m.config with seed := seed } }

/-- The machine with a process that was started from a seed. The seed is also in its configuration
and in the message that the start leaves. -/
def started (m : Machine) (e : Image) (args : List String) (reserve seed : UInt64) (c : Core) :
    Machine :=
  { (m.seeded seed).log .debug (bootMessage e args reserve seed (requested e reserve)) with
    core := c
    life := .started }

/-- The core of a new process without arguments. -/
def bareCore (e : Image) {n : Nat} (fill : Noise n) : Core where
  memory := freshMemory e fill.stack
  registers := ((fill.registers.set .rsp (UInt64.ofNat (freshMemory e fill.stack).size)).set .rdi
    0).set .rsi 0
  rip := 0
  flags := Flags.initial
  fpu := Fpu.empty

/-- The core of a new process with its arguments laid out. -/
def laidCore (e : Image) (args : List String) (l : ArgumentLayout) (lowest : Nat) {n : Nat}
    (fill : Noise n) : Core where
  memory := l.written args lowest (freshMemory e fill.stack)
  registers := argumentRegisters l args fill.registers
  rip := 0
  flags := Flags.initial
  fpu := Fpu.empty

/-- Whether a process starts, and where its arguments are laid out, is decided before the noise is
drawn. -/
theorem bootWith_seeded (m : Machine) (e : Image) (args : List String) (reserve : UInt64) :
    (∃ error, ∀ noise seed, (m.seeded seed).bootWith noise e args reserve = .error error) ∨
    (args = [] ∧ requested e reserve < UInt64.size ∧
      ∀ noise seed, (m.seeded seed).bootWith noise e args reserve =
        .ok (m.started e args reserve seed (bareCore e (noise seed reserve.toNat)))) ∨
    ∃ l lowest, args ≠ [] ∧ requested e reserve < UInt64.size ∧
      l.Fills args (e.content.length + e.bss.toNat) lowest (requested e reserve) ∧
      ∀ noise seed, (m.seeded seed).bootWith noise e args reserve =
        .ok (m.started e args reserve seed
          (laidCore e args l lowest (noise seed reserve.toNat))) := by
  rcases Nat.lt_or_ge m.config.maxMemory.toNat (requested e reserve) with large | allowed
  · exact .inl ⟨.addressSpaceTooLarge (requested e reserve) m.config.maxMemory,
      fun noise seed => bootWith_eq_error_iff.mpr (startWith_of_lt (m := m.seeded seed) large)⟩
  have small : requested e reserve < UInt64.size :=
    Nat.lt_of_le_of_lt allowed (UInt64.toNat_lt_size _)
  cases planned : planArguments args (requested e reserve) (e.content.length + e.bss.toNat)
      reserve with
  | error error =>
    exact .inl ⟨error, fun noise seed => bootWith_eq_error_iff.mpr
      (startWith_of_refused (m := m.seeded seed) allowed planned)⟩
  | ok layout =>
    rcases Nat.lt_or_ge hostLimit (requested e reserve) with unavailable | available
    · exact .inl ⟨.addressSpaceTooLarge (requested e reserve) m.config.maxMemory,
        fun noise seed => bootWith_eq_error_iff.mpr
          (startWith_of_hostLimit_lt (m := m.seeded seed) allowed planned unavailable)⟩
    · rcases planArguments_eq_ok planned with ⟨none, rfl⟩ | ⟨given, l, lowest, rfl, fills⟩
      · refine .inr (.inl ⟨none, small, fun noise seed => ?_⟩)
        exact bootWith_eq_ok_iff.mpr
          (startWith_of_placed (m := m.seeded seed) allowed available planned rfl)
      · refine .inr (.inr ⟨l, lowest, given, small, fills, fun noise seed => ?_⟩)
        exact bootWith_eq_ok_iff.mpr (startWith_of_placed (m := m.seeded seed) allowed available
          planned (placeArguments_some _ _ fills small))

/-! ## What two starts have in common -/

section Common

variable {n : Nat} (fill fill' : Noise n)

theorem size_freshMemory_eq :
    (freshMemory e fill.stack).size = (freshMemory e fill'.stack).size := by
  rw [size_freshMemory, size_freshMemory]

/-- In front of the stack the noise has no part. -/
theorem getElem?_freshMemory_eq {i : Nat} (below : i < e.content.length + e.bss.toNat) :
    (freshMemory e fill.stack).bytes[i]? = (freshMemory e fill'.stack).bytes[i]? :=
  (holds_freshMemory fill.stack).agree (holds_freshMemory fill'.stack) (Nat.zero_le i)
    (by simpa using below)

theorem agrees_bareCore (small : e.content.length + e.bss.toNat + n < UInt64.size) :
    (bareCore e fill).Agrees (bareCore e fill') [] := by
  have size := size_freshMemory_eq (e := e) fill fill'
  obtain ⟨rsp, rdi, rsi⟩ := get_argumentRegisters fill.registers
    (UInt64.ofNat (freshMemory e fill.stack).size) 0 0
  obtain ⟨rsp', rdi', rsi'⟩ := get_argumentRegisters fill'.registers
    (UInt64.ofNat (freshMemory e fill'.stack).size) 0 0
  have top : (UInt64.ofNat (freshMemory e fill.stack).size).toNat =
      (freshMemory e fill.stack).size := by
    rw [size_freshMemory]
    exact UInt64.toNat_ofNat_of_lt small
  constructor
  case size => exact size
  case rsp => exact rsp.trans ((congrArg UInt64.ofNat size).trans rsp'.symm)
  case rdi => exact rdi.trans rdi'.symm
  case rsi => exact rsi.trans rsi'.symm
  case bytes =>
    intro i initialised
    by_cases below : i < e.content.length + e.bss.toNat
    · exact getElem?_freshMemory_eq fill fill' below
    · -- The whole stack is free, so anything else lies past the end.
      refine Memory.getElem?_eq_of_size_le size (Nat.le_of_not_lt fun stored => ?_)
      refine initialised (.inl ⟨Nat.le_of_not_lt below, ?_⟩)
      unfold bareCore
      rw [rsp, top]
      exact stored
  all_goals rfl

section Laid

variable {l : ArgumentLayout} {lowest : Nat}
variable (fills : l.Fills args (e.content.length + e.bss.toNat) lowest
  (e.content.length + e.bss.toNat + n))

include fills

/-- Every byte of the stack belongs to the argument block but for the free stack below it and the
padding within. -/
theorem getElem?_written_eq {i : Nat}
    (notFree : ¬(e.content.length + e.bss.toNat ≤ i ∧ i < l.rsp))
    (notPadding : ¬(l.pointers + 8 * args.length ≤ i ∧ i < lowest)) :
    (l.written args lowest (freshMemory e fill.stack)).bytes[i]? =
      (l.written args lowest (freshMemory e fill'.stack)).bytes[i]? := by
  have filled : ∀ fill : Noise n, l.Fills args (e.content.length + e.bss.toNat) lowest
      (freshMemory e fill.stack).size := by
    intro fill
    rw [size_freshMemory]
    exact fills
  have size : (freshMemory e fill.stack).size = e.content.length + e.bss.toNat + n :=
    size_freshMemory fill.stack
  have words := ArgumentLayout.length_flatMap_texts (filled fill)
  have texts := ArgumentLayout.length_flatMap_textBytes args
  have top := fills.top
  have array := fills.words
  by_cases image : i < e.content.length + e.bss.toNat
  · have held := fun fill => ArgumentLayout.holds_written_below (filled fill)
      (holds_freshMemory (e := e) fill.stack) (by simp)
    exact (held fill).agree (held fill') (Nat.zero_le i) (by simpa using image)
  by_cases inWords : i < l.pointers + 8 * args.length
  · have held := fun fill => ArgumentLayout.holds_written_words (filled fill)
    refine (held fill).agree (held fill') (by omega) ?_
    simp only [List.flatMap_cons, List.length_append, ArgumentLayout.length_pointerBytes, words]
    omega
  by_cases inTexts : i < e.content.length + e.bss.toNat + n
  · have held := fun fill => ArgumentLayout.holds_written_texts (filled fill)
    exact (held fill).agree (held fill') (by omega) (by omega)
  · refine Memory.getElem?_eq_of_size_le ?_ ?_
    · rw [ArgumentLayout.size_written, ArgumentLayout.size_written,
        size_freshMemory_eq fill fill']
    · rw [ArgumentLayout.size_written]
      omega

theorem toNat_ofNat_of_fills (small : e.content.length + e.bss.toNat + n < UInt64.size) :
    (UInt64.ofNat l.rsp).toNat = l.rsp ∧ (UInt64.ofNat args.length).toNat = args.length ∧
      (UInt64.ofNat l.pointers).toNat = l.pointers ∧ (UInt64.ofNat lowest).toNat = lowest := by
  obtain ⟨-, -, words, array, -, -, top⟩ := fills
  refine ⟨?_, ?_, ?_, ?_⟩ <;> exact UInt64.toNat_ofNat_of_lt (by omega)

/-- The padding ends where the first text begins. -/
theorem paddingEnd_laidCore (given : args ≠ [])
    (small : e.content.length + e.bss.toNat + n < UInt64.size) :
    (laidCore e args l lowest fill).paddingEnd args = lowest := by
  have size : (freshMemory e fill.stack).size = e.content.length + e.bss.toNat + n :=
    size_freshMemory fill.stack
  obtain ⟨-, -, -, start⟩ := toNat_ofNat_of_fills fills small
  obtain ⟨-, -, rsi⟩ := get_argumentRegisters fill.registers (UInt64.ofNat l.rsp)
    (UInt64.ofNat args.length) (UInt64.ofNat l.pointers)
  rw [← size] at fills small
  cases args with
  | nil => exact absurd rfl given
  | cons text rest =>
    have texts : l.texts = lowest :: ArgumentLayout.addresses
      (lowest + ArgumentLayout.textSize text) rest := fills.texts
    have place : l.rsp + 8 * 2 = l.pointers := fills.words.symm
    have word := ArgumentLayout.read_written fills small 2 (by simp [texts])
    simp only [texts, place, List.getElem_cons_succ, List.getElem_cons_zero] at word
    have first : (laidCore e (text :: rest) l lowest fill).memory.read
        ((laidCore e (text :: rest) l lowest fill).registers.get .rsi) .qword =
        .ok (UInt64.ofNat lowest) := by
      unfold laidCore argumentRegisters
      rw [rsi]
      exact word
    simp only [Core.paddingEnd, first, start]

theorem agrees_laidCore (given : args ≠ [])
    (small : e.content.length + e.bss.toNat + n < UInt64.size) :
    (laidCore e args l lowest fill).Agrees (laidCore e args l lowest fill') args := by
  have filled := toNat_ofNat_of_fills fills small
  obtain ⟨rsp, rdi, rsi⟩ := get_argumentRegisters fill.registers (UInt64.ofNat l.rsp)
    (UInt64.ofNat args.length) (UInt64.ofNat l.pointers)
  obtain ⟨rsp', rdi', rsi'⟩ := get_argumentRegisters fill'.registers (UInt64.ofNat l.rsp)
    (UInt64.ofNat args.length) (UInt64.ofNat l.pointers)
  have padding := paddingEnd_laidCore fill fills given small
  have barriers : ∀ fill : Noise n,
      let memory := (laidCore e args l lowest fill).memory
      memory.exeBarrier = e.text.length ∧
        memory.readonlyBarrier = e.text.length + e.rodata.length ∧
        memory.stackBarrier = e.content.length + e.bss.toNat := fun fill => ⟨rfl, rfl, rfl⟩
  constructor
  case size =>
    show (l.written args lowest _).size = (l.written args lowest _).size
    rw [ArgumentLayout.size_written, ArgumentLayout.size_written, size_freshMemory_eq fill fill']
  case rsp => exact rsp.trans rsp'.symm
  case rdi => exact rdi.trans rdi'.symm
  case rsi => exact rsi.trans rsi'.symm
  case paddingEnd => rw [padding, paddingEnd_laidCore fill' fills given small]
  case exeBarrier => exact (barriers fill).1.trans (barriers fill').1.symm
  case readonlyBarrier => exact (barriers fill).2.1.trans (barriers fill').2.1.symm
  case stackBarrier => exact (barriers fill).2.2.trans (barriers fill').2.2.symm
  case bytes =>
    intro i initialised
    refine getElem?_written_eq fill fill' fills ?_ ?_
    · intro free
      refine initialised (.inl ⟨?_, ?_⟩)
      · rw [(barriers fill).2.2]
        exact free.1
      · unfold laidCore argumentRegisters
        rw [rsp, filled.1]
        exact free.2
    · intro between
      refine initialised (.inr ⟨?_, ?_⟩)
      · unfold laidCore argumentRegisters Core.paddingStart
        rw [rdi, rsi, filled.2.1, filled.2.2.1]
        exact between.1
      · rw [padding]
        exact between.2
  case rip => rfl
  case flags => rfl
  case fpu => rfl

end Laid

end Common

/-- For any source of noise and any two seeds, either both starts are refused for the same reason,
or both succeed. Then the processes are the same, but for the seed itself and for what a start
leaves uninitialised: all general registers but RSP, RDI and RSI, the free stack, and the padding
below the texts of the arguments. With zeros for exactly these they are equal. -/
theorem boot_seed_independent (noise : UInt64 → (size : Nat) → Noise size) (m : Machine)
    (e : Image) (args : List String) (reserve seed seed' : UInt64) :
    (∃ error, (m.seeded seed).bootWith noise e args reserve = .error error ∧
      (m.seeded seed').bootWith noise e args reserve = .error error) ∨
    ∃ c d : Core,
      (m.seeded seed).bootWith noise e args reserve = .ok (m.started e args reserve seed c) ∧
      (m.seeded seed').bootWith noise e args reserve = .ok (m.started e args reserve seed' d) ∧
      c.Agrees d args ∧ c.scrub args = d.scrub args := by
  rcases bootWith_seeded m e args reserve with ⟨error, refused⟩ | ⟨rfl, small, bare⟩ |
    ⟨l, lowest, given, small, fills, laid⟩
  · exact .inl ⟨error, refused noise seed, refused noise seed'⟩
  · have agrees := agrees_bareCore (noise seed reserve.toNat) (noise seed' reserve.toNat) small
    exact .inr ⟨_, _, bare noise seed, bare noise seed', agrees, agrees.scrub⟩
  · have agrees := agrees_laidCore (noise seed reserve.toNat) (noise seed' reserve.toNat) fills
      given small
    exact .inr ⟨_, _, laid noise seed, laid noise seed', agrees, agrees.scrub⟩

end Machine

end GuestMachine
