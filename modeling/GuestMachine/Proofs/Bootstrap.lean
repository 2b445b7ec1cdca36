import GuestMachine.Proofs.Host
import GuestMachine.Proofs.Machine.Action
import GuestMachine.Proofs.Machine.Arguments

/-!
# Starting a process

A start is refused for one of two reasons, the address space or the arguments, and succeeds
otherwise. A process that starts finds its image, its zeros and its arguments where they belong,
all at once.
-/

namespace GuestMachine

/-- The arguments as a process finds them in memory and in three registers: at the stack pointer
their number and the address of the pointers to them, then the pointers, less than eight bytes of
padding, and the texts, each followed by a zero and the last one at the end of memory. -/
structure Memory.HoldsArguments (m : Memory) (args : List String) (rsp rdi rsi : UInt64) :
    Prop where
  count : rdi.toNat = args.length
  aligned : rsp.toNat % 8 = 0
  barrier : m.stackBarrier ≤ rsp.toNat
  array : rsi.toNat = rsp.toNat + 16
  countWord : m.read rsp .qword = .ok rdi
  arrayWord : m.read (rsp + 8) .qword = .ok rsi
  texts : ∃ pointer : Nat → UInt64,
    (∀ i (h : i < args.length),
      m.read (UInt64.ofNat (rsi.toNat + 8 * i)) .qword = .ok (pointer i) ∧
      m.slice (pointer i).toNat args[i].utf8ByteSize = Text.Utf8.encode args[i] ∧
      m.bytes[(pointer i).toNat + args[i].utf8ByteSize]? = some 0 ∧
      (pointer (i + 1)).toNat = (pointer i).toNat + args[i].utf8ByteSize + 1) ∧
    (pointer args.length).toNat = m.size ∧
    rsi.toNat + 8 * args.length ≤ (pointer 0).toNat ∧
    (pointer 0).toNat < rsi.toNat + 8 * args.length + 8

namespace ArgumentLayout

variable {l : ArgumentLayout} {args : List String} {barrier lowest : Nat} {m : Memory}

/-- The written block is found through the registers that point to it. -/
theorem holdsArguments_written (fills : l.Fills args barrier lowest m.size)
    (small : m.size < UInt64.size) (stack : m.stackBarrier = barrier) :
    (l.written args lowest m).HoldsArguments args (UInt64.ofNat l.rsp)
      (UInt64.ofNat args.length) (UInt64.ofNat l.pointers) := by
  have word := read_written fills small
  have text := holds_written_text fills
  have texts := fills.texts
  obtain ⟨above, aligned, array, pointers, padding, -, top⟩ := fills
  have rsp : (UInt64.ofNat l.rsp).toNat = l.rsp := UInt64.toNat_ofNat_of_lt (by omega)
  have rdi : (UInt64.ofNat args.length).toNat = args.length :=
    UInt64.toNat_ofNat_of_lt (by omega)
  have rsi : (UInt64.ofNat l.pointers).toNat = l.pointers := UInt64.toNat_ofNat_of_lt (by omega)
  have pointer (i : Nat) : (UInt64.ofNat (lowest + textsSize (args.take i))).toNat =
      lowest + textsSize (args.take i) := by
    have before := textsSize_take_le args i
    exact UInt64.toNat_ofNat_of_lt (by omega)
  have next : UInt64.ofNat l.rsp + 8 = UInt64.ofNat (l.rsp + 8) := (UInt64.ofNat_add _ _).symm
  constructor
  case count => exact rdi
  case aligned => rwa [rsp]
  case barrier => rwa [rsp, stackBarrier_written, stack]
  case array => rwa [rsp, rsi]
  case countWord => exact word 0 (by simp)
  case arrayWord =>
    rw [next]
    exact word 1 (by simp)
  case texts =>
    refine ⟨fun i => UInt64.ofNat (lowest + textsSize (args.take i)), ?_, ?_, ?_, ?_⟩
    · intro i hi
      have listed : i < l.texts.length := by
        rw [texts, length_addresses]
        exact hi
      have address : l.texts[i] = lowest + textsSize (args.take i) := by
        simp only [texts]
        exact getElem_addresses _
      have place : l.rsp + 8 * (i + 2) = l.pointers + 8 * i := by omega
      have read := word (i + 2) (by simpa using listed)
      simp only [List.getElem_cons_succ, address, place] at read
      have stored := text i hi
      rw [textBytes, Memory.holds_append, Text.Utf8.length_encode] at stored
      refine ⟨?_, ?_, ?_, ?_⟩
      · rw [rsi]
        exact read
      · rw [pointer, ← Text.Utf8.length_encode]
        exact stored.1.slice
      · rw [pointer]
        exact stored.2 0 (by simp)
      · rw [pointer, pointer, textsSize_take_succ hi]
        omega
    · rw [pointer, List.take_length, size_written, top]
    · rw [pointer, rsi, List.take_zero, textsSize]
      exact pointers
    · rw [pointer, rsi, List.take_zero, textsSize]
      exact padding

end ArgumentLayout

namespace Machine

open ArgumentLayout (demand)

variable {m : Machine} {e : Image} {args : List String} {reserve : UInt64}

/-! ## Arguments in the fresh address space -/

theorem readonlyBarrier_freshMemory_le {n : Nat} (stack : Vector UInt8 n) :
    (freshMemory e stack).readonlyBarrier ≤ e.content.length + e.bss.toNat := by
  simp only [freshMemory, Image.content, List.length_append]
  omega

/-- The registers of a process whose arguments are laid out. -/
def argumentRegisters (l : ArgumentLayout) (args : List String) (registers : Registers) :
    Registers :=
  ((registers.set .rsp (UInt64.ofNat l.rsp)).set .rdi (UInt64.ofNat args.length)).set .rsi
    (UInt64.ofNat l.pointers)

theorem get_argumentRegisters (registers : Registers) (rsp rdi rsi : UInt64) :
    let r := ((registers.set .rsp rsp).set .rdi rdi).set .rsi rsi
    r.get .rsp = rsp ∧ r.get .rdi = rdi ∧ r.get .rsi = rsi := by
  intro r
  refine ⟨?_, ?_, Registers.get_set_self _ _ _⟩
  · rw [Registers.get_set_of_ne _ _ (by decide), Registers.get_set_of_ne _ _ (by decide),
      Registers.get_set_self]
  · rw [Registers.get_set_of_ne _ _ (by decide), Registers.get_set_self]

theorem placeArguments_some {l : ArgumentLayout} {lowest : Nat}
    (stack : Vector UInt8 reserve.toNat) (registers : Registers)
    (fills : l.Fills args (e.content.length + e.bss.toNat) lowest (requested e reserve))
    (small : requested e reserve < UInt64.size) :
    placeArguments args (some l) (freshMemory e stack) registers =
      .ok (l.written args lowest (freshMemory e stack), argumentRegisters l args registers) := by
  have size : (freshMemory e stack).size = requested e reserve := size_freshMemory stack
  rw [← size] at fills small
  have written := ArgumentLayout.writeTo_eq fills (readonlyBarrier_freshMemory_le stack) small
  exact bind_eq_ok.mpr ⟨_, written, rfl⟩

/-- Once arguments are planned, nothing stops them from being written. -/
theorem exists_placeArguments {layout : Option ArgumentLayout}
    (planned : planArguments args (requested e reserve) (e.content.length + e.bss.toNat) reserve =
      .ok layout)
    (small : requested e reserve < UInt64.size) (stack : Vector UInt8 reserve.toNat)
    (registers : Registers) :
    ∃ placed, placeArguments args layout (freshMemory e stack) registers = .ok placed := by
  rcases planArguments_eq_ok planned with ⟨-, rfl⟩ | ⟨-, l, lowest, rfl, fills⟩
  · exact ⟨_, rfl⟩
  · exact ⟨_, placeArguments_some stack registers fills small⟩

/-! ## Outcomes -/

section Outcomes

variable {noise : UInt64 → (size : Nat) → Noise size}

theorem startWith_of_lt (large : m.config.maxMemory.toNat < requested e reserve) :
    m.startWith noise e args reserve =
      (.error (.addressSpaceTooLarge (requested e reserve) m.config.maxMemory), m) := by
  rw [startWith_eq, if_pos large]

theorem startWith_of_refused {error : BootError}
    (allowed : requested e reserve ≤ m.config.maxMemory.toNat)
    (refused : planArguments args (requested e reserve) (e.content.length + e.bss.toNat) reserve =
      .error error) :
    m.startWith noise e args reserve = (.error error, m) := by
  rw [startWith_eq, if_neg (Nat.not_lt_of_le allowed), refused]

theorem startWith_of_hostLimit_lt {layout : Option ArgumentLayout}
    (allowed : requested e reserve ≤ m.config.maxMemory.toNat)
    (planned : planArguments args (requested e reserve) (e.content.length + e.bss.toNat) reserve =
      .ok layout)
    (unavailable : hostLimit < requested e reserve) :
    m.startWith noise e args reserve =
      (.error (.addressSpaceTooLarge (requested e reserve) m.config.maxMemory), m) := by
  rw [startWith_eq, if_neg (Nat.not_lt_of_le allowed), planned]
  exact if_pos unavailable

theorem startWith_of_placed {layout : Option ArgumentLayout} {memory : Memory}
    {registers : Registers} (allowed : requested e reserve ≤ m.config.maxMemory.toNat)
    (available : requested e reserve ≤ hostLimit)
    (planned : planArguments args (requested e reserve) (e.content.length + e.bss.toNat) reserve =
      .ok layout)
    (placed : placeArguments args layout
      (freshMemory e (noise m.config.seed reserve.toNat).stack)
      (noise m.config.seed reserve.toNat).registers = .ok (memory, registers)) :
    m.startWith noise e args reserve = (.ok (), m.booted e args reserve memory registers) := by
  rw [startWith_eq, if_neg (Nat.not_lt_of_le allowed), planned]
  dsimp only
  rw [if_neg (Nat.not_lt_of_le available), placed]

theorem startWith_of_lt_demand (allowed : requested e reserve ≤ m.config.maxMemory.toNat)
    (given : args ≠ []) (short : reserve.toNat < demand args (requested e reserve)) :
    m.startWith noise e args reserve = (.error (.argumentsTooLarge
      (ArgumentLayout.required args (UInt64.ofNat (requested e reserve))) reserve), m) := by
  unfold requested at short
  have planned := planArguments_eq given (e.content.length + e.bss.toNat) reserve
  rw [if_neg (Nat.not_le_of_lt short)] at planned
  exact startWith_of_refused allowed planned

theorem startWith_of_demand_le (noise : UInt64 → (size : Nat) → Noise size)
    (allowed : requested e reserve ≤ m.config.maxMemory.toNat)
    (available : requested e reserve ≤ hostLimit)
    (fits : args = [] ∨ demand args (requested e reserve) ≤ reserve.toNat) :
    ∃ started, m.startWith noise e args reserve = (.ok (), started) := by
  have small : requested e reserve < UInt64.size :=
    Nat.lt_of_le_of_lt allowed (UInt64.toNat_lt_size _)
  have planned : ∃ layout, planArguments args (requested e reserve)
      (e.content.length + e.bss.toNat) reserve = .ok layout := by
    by_cases given : args = []
    · subst given
      exact ⟨none, rfl⟩
    · have plan := planArguments_eq given (e.content.length + e.bss.toNat) reserve
      have enough := fits.resolve_left given
      unfold requested at enough
      rw [if_pos enough] at plan
      exact ⟨_, plan⟩
  obtain ⟨layout, planned⟩ := planned
  obtain ⟨⟨memory, registers⟩, placed⟩ := exists_placeArguments planned small
    (noise m.config.seed reserve.toNat).stack (noise m.config.seed reserve.toNat).registers
  exact ⟨_, startWith_of_placed allowed available planned placed⟩

/-- Within the limits, either the arguments do not fit or the process starts. -/
theorem startWith_fits (noise : UInt64 → (size : Nat) → Noise size) (args : List String)
    (allowed : requested e reserve ≤ m.config.maxMemory.toNat)
    (available : requested e reserve ≤ hostLimit) :
    (args ≠ [] ∧ reserve.toNat < demand args (requested e reserve)) ∧
        m.startWith noise e args reserve = (.error (.argumentsTooLarge
          (ArgumentLayout.required args (UInt64.ofNat (requested e reserve))) reserve), m) ∨
      (args = [] ∨ demand args (requested e reserve) ≤ reserve.toNat) ∧
        ∃ started, m.startWith noise e args reserve = (.ok (), started) := by
  by_cases given : args = []
  · exact .inr ⟨.inl given, startWith_of_demand_le noise allowed available (.inl given)⟩
  · rcases Nat.lt_or_ge reserve.toNat (demand args (requested e reserve)) with short | fits
    · exact .inl ⟨⟨given, short⟩, startWith_of_lt_demand allowed given short⟩
    · exact .inr ⟨.inr fits, startWith_of_demand_le noise allowed available (.inr fits)⟩

end Outcomes

/-- A start is refused with the size of the address space exactly if that exceeds the limit, else
with the bytes that the arguments need exactly if there are arguments and these bytes are not
reserved, and succeeds otherwise. Planned arguments are always written, and a start that is refused
leaves the machine as it was. None of this depends on the noise. -/
theorem boot_outcome (noise : UInt64 → (size : Nat) → Noise size) (m : Machine) (e : Image)
    (args : List String) (reserve : UInt64)
    (representable : demand args (requested e reserve) < UInt64.size)
    (provided : requested e reserve ≤ m.config.maxMemory.toNat →
      requested e reserve ≤ hostLimit) :
    let (result, after) := m.startWith noise e args reserve
    (result = .error (.addressSpaceTooLarge (requested e reserve) m.config.maxMemory) ↔
      m.config.maxMemory.toNat < requested e reserve) ∧
    (requested e reserve ≤ m.config.maxMemory.toNat →
      ((∃ required : UInt64, required.toNat = demand args (requested e reserve) ∧
          result = .error (.argumentsTooLarge required reserve)) ↔
        args ≠ [] ∧ reserve.toNat < demand args (requested e reserve)) ∧
      (result = .ok () ↔ args = [] ∨ demand args (requested e reserve) ≤ reserve.toNat) ∧
      ∀ layout, planArguments args (requested e reserve) (e.content.length + e.bss.toNat) reserve =
          .ok layout →
        ∀ (stack : Vector UInt8 reserve.toNat) (registers : Registers),
          ∃ placed, placeArguments args layout (freshMemory e stack) registers = .ok placed) ∧
    (∀ error, result = .error error → after = m) := by
  dsimp only
  refine ⟨⟨?_, fun large => by rw [startWith_of_lt large]⟩, ?_, ?_⟩
  · intro refused
    refine Nat.lt_of_not_le fun allowed => ?_
    rcases startWith_fits noise args allowed (provided allowed) with
      ⟨-, short⟩ | ⟨-, started, run⟩
    · rw [short] at refused
      cases refused
    · rw [run] at refused
      cases refused
  · intro allowed
    have small : requested e reserve < UInt64.size :=
      Nat.lt_of_le_of_lt allowed (UInt64.toNat_lt_size _)
    refine ⟨?_, ?_, fun layout planned stack registers =>
      exists_placeArguments planned small stack registers⟩
    · constructor
      · rintro ⟨required, -, refused⟩
        rcases startWith_fits noise args allowed (provided allowed) with
          ⟨short, -⟩ | ⟨-, started, run⟩
        · exact short
        · rw [run] at refused
          cases refused
      · rintro ⟨given, short⟩
        exact ⟨_, ArgumentLayout.toNat_required representable,
          by rw [startWith_of_lt_demand allowed given short]⟩
    · constructor
      · intro completed
        rcases startWith_fits noise args allowed (provided allowed) with
          ⟨-, refused⟩ | ⟨fits, -⟩
        · rw [refused] at completed
          cases completed
        · exact fits
      · intro fits
        obtain ⟨started, run⟩ :=
          startWith_of_demand_le noise allowed (provided allowed) fits
        rw [run]
  · intro error refused
    rw [startWith_of_error refused]

/-- A stack of sixteen bytes is too short for one argument of two characters, which takes
thirty-three: its text, padding, a pointer and two words. The process that was running goes on. -/
theorem boot_outcome_short_stack :
    let m := ((new {} {}).startWith Noise.ofSeed { text := [0x00] } [] 16).2
    m.life.running = true ∧ demand ["ab"] (requested { text := [0x00] } 16) = 33 ∧
      ∃ required : UInt64, required.toNat = 33 ∧
        m.startWith Noise.ofSeed { text := [0x00] } ["ab"] 16 =
          (.error (.argumentsTooLarge required 16), m) := by
  intro m
  have running : m.life.running = true := rfl
  have need : demand ["ab"] (requested { text := [0x00] } 16) = 33 := by decide
  have outcome := boot_outcome Noise.ofSeed m { text := [0x00] } ["ab"] 16 (by decide)
    (fun _ => by decide)
  have allowed : requested { text := [0x00] } 16 ≤ m.config.maxMemory.toNat := by decide
  obtain ⟨required, value, refused⟩ := ((outcome.2.1 allowed).1).mpr ⟨by decide, by decide⟩
  have after := outcome.2.2 _ refused
  rw [need] at value
  exact ⟨running, need, required, value, Prod.ext refused after⟩

/-! ## Layout -/

theorem holds_freshMemory {n : Nat} (stack : Vector UInt8 n) :
    (freshMemory e stack).Holds 0 (e.content ++ List.replicate e.bss.toNat 0) := by
  intro i hi
  have stored : i < (e.content.toArray ++ Array.replicate e.bss.toNat 0).size := by
    simpa using hi
  rw [Nat.zero_add, freshMemory, Array.getElem?_append_left stored, ← Array.getElem?_toList]
  simp

section Placed

variable {layout : Option ArgumentLayout} {memory : Memory} {registers registers' : Registers}
variable {stack : Vector UInt8 reserve.toNat}

theorem placeArguments_eq_ok
    (planned : planArguments args (requested e reserve) (e.content.length + e.bss.toNat) reserve =
      .ok layout)
    (small : requested e reserve < UInt64.size)
    (placed : placeArguments args layout (freshMemory e stack) registers =
      .ok (memory, registers')) :
    args = [] ∧ memory = freshMemory e stack ∧
        registers' = ((registers.set .rsp (UInt64.ofNat memory.size)).set .rdi 0).set .rsi 0 ∨
      args ≠ [] ∧ ∃ l lowest,
        l.Fills args (e.content.length + e.bss.toNat) lowest (freshMemory e stack).size ∧
        memory = l.written args lowest (freshMemory e stack) ∧
        registers' = argumentRegisters l args registers := by
  rcases planArguments_eq_ok planned with ⟨none, rfl⟩ | ⟨given, l, lowest, rfl, fills⟩
  · obtain ⟨rfl, rfl⟩ := Prod.mk.inj (Except.ok.inj placed)
    exact .inl ⟨none, rfl, rfl⟩
  · rw [placeArguments_some stack registers fills small] at placed
    obtain ⟨rfl, rfl⟩ := Prod.mk.inj (Except.ok.inj placed)
    rw [← size_freshMemory stack] at fills
    exact .inr ⟨given, l, lowest, fills, rfl, rfl⟩

/-- Placing arguments leaves the image and its zeros in front of the stack. -/
theorem holds_placeArguments
    (planned : planArguments args (requested e reserve) (e.content.length + e.bss.toNat) reserve =
      .ok layout)
    (small : requested e reserve < UInt64.size)
    (placed : placeArguments args layout (freshMemory e stack) registers =
      .ok (memory, registers')) :
    memory.Holds 0 (e.content ++ List.replicate e.bss.toNat 0) := by
  rcases placeArguments_eq_ok planned small placed with
    ⟨-, rfl, -⟩ | ⟨-, l, lowest, fills, rfl, -⟩
  · exact holds_freshMemory stack
  · refine ArgumentLayout.holds_written_below fills (holds_freshMemory stack) ?_
    simp

/-- Without arguments the stack is empty, with arguments they are found on it. -/
theorem holdsArguments_placeArguments
    (planned : planArguments args (requested e reserve) (e.content.length + e.bss.toNat) reserve =
      .ok layout)
    (small : requested e reserve < UInt64.size)
    (placed : placeArguments args layout (freshMemory e stack) registers =
      .ok (memory, registers')) :
    (args = [] → registers'.get .rsp = UInt64.ofNat memory.size ∧ registers'.get .rdi = 0 ∧
      registers'.get .rsi = 0) ∧
    (args ≠ [] → memory.HoldsArguments args (registers'.get .rsp) (registers'.get .rdi)
      (registers'.get .rsi)) := by
  rcases placeArguments_eq_ok planned small placed with
    ⟨none, rfl, rfl⟩ | ⟨given, l, lowest, fills, rfl, rfl⟩
  · exact ⟨fun _ => get_argumentRegisters _ _ _ _, fun given => absurd none given⟩
  · refine ⟨fun none => absurd none given, fun _ => ?_⟩
    obtain ⟨rsp, rdi, rsi⟩ := get_argumentRegisters registers (UInt64.ofNat l.rsp)
      (UInt64.ofNat args.length) (UInt64.ofNat l.pointers)
    unfold argumentRegisters
    rw [rsp, rdi, rsi]
    unfold requested at small
    rw [← size_freshMemory stack] at small
    exact ArgumentLayout.holdsArguments_written fills small rfl

end Placed

/-- A process that was started has its image and its zeros in front of the stack, the barriers
between the segments, fresh flags and an empty floating-point stack, and the descriptors that were
there before. Without arguments the stack is empty; with arguments they are on it. -/
theorem boot_layout {noise : UInt64 → (size : Nat) → Noise size} {started : Machine}
    (booted : m.bootWith noise e args reserve = .ok started) :
    let memory := started.core.memory
    let registers := started.core.registers
    (memory.size = e.content.length + e.bss.toNat + reserve.toNat ∧
      memory.slice 0 e.content.length = e.content ∧
      memory.slice e.content.length e.bss.toNat = List.replicate e.bss.toNat 0) ∧
    (memory.exeBarrier = e.text.length ∧
      memory.readonlyBarrier = e.text.length + e.rodata.length ∧
      memory.stackBarrier = e.content.length + e.bss.toNat) ∧
    (started.core.rip = 0 ∧ started.core.flags.bits = 0x2 ∧
      (∀ i, started.core.fpu.inUse i = false) ∧ started.core.fpu.top = 0) ∧
    (started.descriptors.slots = m.descriptors.slots ∧ started.host.journal = m.host.journal) ∧
    (args = [] → (registers.get .rsp).toNat = memory.size ∧ registers.get .rdi = 0 ∧
      registers.get .rsi = 0) ∧
    (args ≠ [] → memory.HoldsArguments args (registers.get .rsp) (registers.get .rdi)
      (registers.get .rsi)) := by
  obtain ⟨layout, memory, registers, allowed, -, planned, placed, rfl⟩ := bootWith_eq_ok booted
  have small : requested e reserve < UInt64.size :=
    Nat.lt_of_le_of_lt allowed (UInt64.toNat_lt_size _)
  have sealed := sealed_placeArguments placed
  have size : memory.size = requested e reserve := by
    rw [sealed.size]
    exact size_freshMemory _
  have image := holds_placeArguments planned small placed
  rw [Memory.holds_append, Nat.zero_add] at image
  have zeros := image.2.slice
  rw [List.length_replicate] at zeros
  have arguments := holdsArguments_placeArguments planned small placed
  refine ⟨⟨size, image.1.slice, zeros⟩,
    ⟨sealed.exeBarrier, sealed.readonlyBarrier, sealed.stackBarrier⟩,
    ⟨rfl, rfl, ?_, rfl⟩, ?_, ?_, arguments.2⟩
  · intro i
    simp [core_booted, Fpu.inUse, Fpu.empty]
  · exact ⟨rfl, m.host.journal_log _ _⟩
  · intro none
    obtain ⟨rsp, rdi, rsi⟩ := arguments.1 none
    refine ⟨?_, rdi, rsi⟩
    rw [core_booted, rsp]
    exact UInt64.toNat_ofNat_of_lt (by omega)

/-- A byte of code and three zeros take four bytes; two arguments, one of them empty, are on the
sixty-four bytes of stack above them. -/
theorem boot_layout_two_arguments :
    ∃ started, (new {} {}).boot { text := [0x00], bss := 3 } ["hi", ""] 64 = .ok started ∧
      started.core.memory.size = 68 ∧ started.core.memory.stackBarrier = 4 ∧
      started.core.memory.HoldsArguments ["hi", ""] (started.core.registers.get .rsp)
        (started.core.registers.get .rdi) (started.core.registers.get .rsi) := by
  obtain ⟨started, run⟩ : ∃ started, (new {} {}).startWith Noise.ofSeed
      { text := [0x00], bss := 3 } ["hi", ""] 64 = (.ok (), started) :=
    startWith_of_demand_le _ (by decide) (by decide) (.inr (by decide))
  have booted := bootWith_eq_ok_iff.mpr run
  obtain ⟨⟨size, -⟩, ⟨-, -, barrier⟩, -, -, -, arguments⟩ := boot_layout booted
  exact ⟨started, booted, size, barrier, arguments (by simp)⟩

end Machine

end GuestMachine
