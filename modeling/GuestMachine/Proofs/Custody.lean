import GuestMachine.Host.Script
import GuestMachine.Proofs.Descriptors.Ledger
import GuestMachine.Proofs.Lifecycle
import GuestMachine.Proofs.Memory.Text
import GuestMachine.Proofs.Syscall
import Mathlib

/-!
# Closing streams

Over every history of a machine, a stream that got a slot stays there until it is closed, which
happens once, at the latest when the table itself is dropped, and takes one flush and one drop. A
closed slot keeps nothing of what it held, its interactive flag included. A file that is opened gets
the lowest closed slot, and is refused one only if there is none.
-/

namespace GuestMachine

open Relation (ReflTransGen)

/-- Whatever is asked of the table, its streams stay accounted for. -/
theorem Descriptors.advances_apply {t : Descriptors} (ledger : t.Ledger)
    (a : Descriptors.Action) : t.Advances (a.apply t) := by
  have same := Advances.refl ledger
  cases a with
  | install index backend interactive =>
    by_cases inside : index < 16
    · exact advances_install ledger ⟨index, inside⟩ backend interactive
    · exact advances_install_of_le ledger (Nat.le_of_not_lt inside) backend interactive
  | setInteractive index on =>
    refine run_found index same fun slot d opened => ?_
    have set : t.Advances (t.setSlot slot ((t.slot slot).setInteractive on)) := by
      rw [setSlot_setInteractive opened]
      exact .setInteractive ledger opened on
    exact set
  | read index count =>
    exact run_found index same fun slot d opened => .called ledger opened (called_readFrom count)
  | write index data =>
    exact run_found index same fun slot d opened => .called ledger opened (called_writeTo data)
  | seek index target =>
    exact run_found index same fun slot d opened => .called ledger opened (called_seekOn target)
  | flush index =>
    exact run_found index same fun slot d opened => .called ledger opened called_flushOn
  | close index => exact run_found index same fun slot d _ => .closeSlot ledger slot
  | closeAll => exact (Sheds.closeAll ledger).advances
  | feed pipe bytes => exact .host ledger rfl rfl
  | drain pipe => exact .host ledger rfl rfl

/-- The actions that close a slot. -/
def Descriptors.Action.Closing (slot : Slot) : Descriptors.Action → Prop
  | install index _ _ => index = slot.val
  | close index => index.toNat = slot.val
  | closeAll => True
  | _ => False

theorem Descriptors.closes_apply {t : Descriptors} {slot : Slot} {id : StreamId}
    (ledger : t.Ledger) (held : t.Holds slot id) {a : Descriptors.Action}
    (closing : a.Closing slot) : t.Closes (a.apply t) id := by
  cases a with
  | install index backend interactive =>
    obtain rfl : index = slot.val := closing
    exact closes_install ledger held backend interactive
  | close index => exact closes_close ledger held closing
  | closeAll => exact closes_closeAll ledger held
  | _ => exact closing.elim

namespace Machine

variable {m m' m'' : Machine} {slot : Slot} {id : StreamId}

/-- The streams of a machine stay accounted for. -/
def Advances (m m' : Machine) : Prop :=
  m.descriptors.Ledger → m.descriptors.Advances m'.descriptors

theorem Advances.refl (m : Machine) : m.Advances m := Descriptors.Advances.refl

theorem Advances.trans (first : m.Advances m') (second : m'.Advances m'') : m.Advances m'' :=
  .chain first second

theorem advances_log (level : Level) (message : String) (m : Machine) :
    m.Advances (m.log level message) := fun ledger =>
  .host ledger (Host.journal_log _ _ _) (Host.streams_log _ _ _)

theorem Change.advances (h : m.Change m') : m.Advances m' := by
  intro ledger
  cases h with
  | core c access => exact .refl ledger
  | deliver buffer length data writable => exact .refl ledger
  | read slot d count opened => exact .called ledger opened (Descriptors.called_readFrom count)
  | write slot d data opened => exact .called ledger opened (Descriptors.called_writeTo data)
  | seek slot d target opened => exact .called ledger opened (Descriptors.called_seekOn target)
  | flush slot d opened => exact .called ledger opened Descriptors.called_flushOn
  | close slot => exact .closeSlot ledger slot
  | install slot file enabled _ =>
    exact Descriptors.advances_install ledger slot (.file file) false
  | files files enabled => exact .host ledger rfl rfl
  | log level message => exact advances_log level message m ledger

theorem advances_stop (m : Machine) (fault : Option Fault) (code : Int32) :
    m.Advances (m.stop fault code) := by
  intro ledger
  rw [descriptors_stop]
  exact (Descriptors.Sheds.closeAll ledger).advances

theorem advances_tick (m : Machine) : m.Advances (m.tick SyscallTable.standard).2 :=
  tick_keeps Advances.refl (fun _ _ _ => .trans) (fun _ _ => Change.advances)
    (fun m => Advances.refl m) advances_stop m

theorem advances_perform (a : Action) (m : Machine) : m.Advances (m.perform a) := by
  cases a with
  | tick => exact advances_tick m
  | run fuel => exact run_keeps Advances.refl (fun _ _ _ => .trans) advances_tick fuel m
  | resume => exact Advances.refl m
  | terminate cause =>
    exact terminate_keeps (fun _ _ _ => .trans) (fun _ _ => Change.advances)
      advances_stop cause m
  | exit code => exact advances_stop m _ _
  | core a => exact Advances.refl m
  | descriptors a => exact fun ledger => Descriptors.advances_apply ledger a

/-- A start keeps the descriptors, and only notes it in the log. -/
theorem advances_serve (r : Request) (m : Machine) : m.Advances (m.serve r) := by
  cases r with
  | boot noise e args reserve =>
    rcases serve_boot_cases m noise e args reserve with ⟨-, refused⟩ | ⟨-, _, _, started⟩
    · rw [refused]
      exact .refl m
    · rw [started]
      unfold Advances
      rw [descriptors_booted]
      exact advances_log .debug _ m
  | action a => exact advances_perform a m

theorem advances_serveAll (requests : List Request) (m : Machine) :
    m.Advances (m.serveAll requests) :=
  serveAll_keeps Advances.refl (fun _ _ _ => .trans) advances_serve requests m

theorem ledger_new (config : Config) {host : Host}
    (unasked : ∀ id, host.streams ≤ id → host.history id = []) :
    (new config host).descriptors.Ledger where
  unasked := unasked
  numbered slot id held := absurd held (Descriptors.not_holds_closed host slot id)
  distinct slot _ id held := absurd held (Descriptors.not_holds_closed host slot id)
  undropped slot id held := absurd held (Descriptors.not_holds_closed host slot id)
  muted := .closed host

/-! ## Closing -/

/-- The actions that close a slot. -/
def Action.Closing (slot : Slot) : Action → Prop
  | .descriptors a => a.Closing slot
  | .terminate _ => True
  | .exit _ => True
  | _ => False

theorem closes_stop (ledger : m.descriptors.Ledger) (held : m.descriptors.Holds slot id)
    (fault : Option Fault) (code : Int32) :
    m.descriptors.Closes (m.stop fault code).descriptors id := by
  rw [descriptors_stop]
  exact Descriptors.closes_closeAll ledger held

/-- The message about the fault is nothing that a stream would notice. -/
theorem closes_terminate (ledger : m.descriptors.Ledger) (held : m.descriptors.Holds slot id)
    (cause : Fault) : m.descriptors.Closes (m.terminate cause).descriptors id := by
  unfold terminate
  split
  · have logged := advances_log .warn ("process terminated at rip " ++
      Text.Numeral.hex m.core.rip ++ ": " ++ cause.message) m ledger
    obtain ⟨retired, result, closing⟩ := closes_stop logged.ledger held (some cause) 0
    refine ⟨retired, result, closing.trans ?_⟩
    exact congrArg (· ++ _) (Host.history_log _ _ _ _)
  · exact closes_stop ledger held _ _

theorem closes_perform (ledger : m.descriptors.Ledger) (held : m.descriptors.Holds slot id)
    {a : Action} (closing : a.Closing slot) :
    m.descriptors.Closes (m.perform a).descriptors id := by
  cases a with
  | terminate cause => exact closes_terminate ledger held cause
  | exit code => exact closes_stop ledger held _ _
  | descriptors a => exact Descriptors.closes_apply ledger held closing
  | _ => exact closing.elim

/-- The stream of a number is in a slot, and whatever is asked of the machine from now on, it
stays there, and in no other slot, until it is closed. Each way to close it takes one flush and one
drop, and dropping the table is the last. Once it is closed, it is left alone. -/
structure ClosesOnce (m : Machine) (slot : Slot) (id : StreamId) : Prop where
  owned : m.descriptors.Owns slot id
  until_closed : ∀ later, (m.serveAll later).descriptors.Owns slot id ∨
    (m.serveAll later).descriptors.Retired id
  closing : ∀ later, (m.serveAll later).descriptors.Owns slot id → ∀ a : Action, a.Closing slot →
    (m.serveAll later).descriptors.Closes ((m.serveAll later).perform a).descriptors id
  dropped : ∀ later, (m.serveAll later).descriptors.closeAll.Retired id ∧
    ((m.serveAll later).descriptors.Owns slot id →
      (m.serveAll later).descriptors.Closes (m.serveAll later).descriptors.closeAll id)
  left_alone : ∀ later further, (m.serveAll later).descriptors.Retired id →
    ((m.serveAll later).serveAll further).host.history id = (m.serveAll later).host.history id ∧
      ((m.serveAll later).serveAll further).descriptors.closeAll.host.history id =
        (m.serveAll later).host.history id

/-- A stream that was handed out and is in no slot is left alone. -/
theorem history_of_unheld (ledger : m.descriptors.Ledger) (known : id < m.host.streams)
    (unheld : ∀ slot, ¬m.descriptors.Holds slot id) (later : List Request) :
    (m.serveAll later).host.history id = m.host.history id ∧
      (m.serveAll later).descriptors.closeAll.host.history id = m.host.history id := by
  have advanced := advances_serveAll later m ledger
  have emptied := advanced.trans (Descriptors.Sheds.closeAll advanced.ledger).advances
  exact ⟨(advanced.unheld id known unheld).2, (emptied.unheld id known unheld).2⟩

theorem closesOnce_of_holds (ledger : m.descriptors.Ledger) (held : m.descriptors.Holds slot id) :
    m.ClosesOnce slot id where
  owned := ledger.owns held
  until_closed later := by
    have advanced := advances_serveAll later m ledger
    exact (advanced.held slot id held).imp_left advanced.ledger.owns
  closing later owned a closing :=
    closes_perform (advances_serveAll later m ledger).ledger owned.holds closing
  dropped later := by
    have advanced := advances_serveAll later m ledger
    have emptied := (Descriptors.Sheds.closeAll advanced.ledger).advances
    refine ⟨?_, fun owned => Descriptors.closes_closeAll advanced.ledger owned.holds⟩
    rcases advanced.held slot id held with held | retired
    · exact (Descriptors.closes_closeAll advanced.ledger held).retired
    · exact emptied.retired advanced.ledger retired
  left_alone later further retired := by
    have ledger := (advances_serveAll later m ledger).ledger
    exact history_of_unheld ledger (retired.lt ledger) retired.unheld further

/-! ## Handing streams to slots -/

theorem closesOnce_install (ledger : m.descriptors.Ledger) (slot : Slot) (backend : Backend)
    (interactive : Bool) :
    let installed := m.perform (.descriptors (.install slot.val backend interactive))
    installed.descriptors.get? slot = some ⟨⟨m.host.streams, backend⟩, interactive⟩ ∧
      installed.ClosesOnce slot m.host.streams := by
  intro installed
  have found : installed.descriptors.get? slot =
      some ⟨⟨m.host.streams, backend⟩, interactive⟩ :=
    (Descriptors.get?_install slot slot backend interactive).trans (if_pos rfl)
  have advanced := Descriptors.advances_install ledger slot backend interactive
  exact ⟨found, closesOnce_of_holds advanced.ledger ⟨_, found, rfl⟩⟩

/-- A stream for a slot that does not exist is dropped and never asked for anything. -/
theorem history_install_refused (ledger : m.descriptors.Ledger) {index : Nat}
    (outside : 16 ≤ index) (backend : Backend) (interactive : Bool) (later : List Request) :
    let refused := m.perform (.descriptors (.install index backend interactive))
    (refused.serveAll later).host.history m.host.streams = [.drop] ∧
      (refused.serveAll later).descriptors.closeAll.host.history m.host.streams = [.drop] := by
  intro refused
  have advanced : m.descriptors.Advances refused.descriptors :=
    Descriptors.advances_install_of_le ledger outside backend interactive
  have dropped : refused.host.history m.host.streams = [.drop] := by
    have noted : refused.host.history m.host.streams = m.host.history m.host.streams ++
        if m.host.streams = m.host.streams then [.drop] else [] :=
      Descriptors.history_install_of_le outside backend interactive m.host.streams
    have unasked : m.host.history m.host.streams = [] := ledger.unasked _ (Nat.le_refl _)
    rw [noted, unasked, if_pos rfl, List.nil_append]
  have known : m.host.streams < refused.host.streams := by
    have counted : refused.host.streams = m.host.streams + 1 :=
      Descriptors.streams_install_of_le outside backend interactive
    rw [counted]
    exact Nat.lt_succ_self _
  have unheld (slot : Slot) (held : refused.descriptors.Holds slot m.host.streams) : False :=
    ledger.unheld_streams slot ((Descriptors.holds_install_of_le outside).mp held)
  have alone := history_of_unheld advanced.ledger known unheld later
  rw [dropped] at alone
  exact alone

theorem advances_openFile {opened : Machine} {result : Except Fault Unit}
    (h : Syscall.openFile.run m = (result, opened)) : m.Advances opened := by
  have changes : ReflTransGen Change m (Syscall.openFile.run m).2 :=
    within_change within_openFile
  rw [h] at changes
  exact changes_keep Advances.refl (fun _ _ _ => .trans) (fun _ _ => Change.advances) changes

/-- A file that was opened is in the lowest closed slot, and is closed once from then on. -/
theorem closesOnce_openFile {opened : Machine} (ledger : m.descriptors.Ledger)
    (done : Syscall.openFile.run m = (.ok (), opened)) :
    ∃ (slot : Slot) (file : OpenFile), m.descriptors.get? slot = none ∧
      (∀ lower < slot, (m.descriptors.get? lower).isSome = true) ∧
      opened.core.registers.get .rax = UInt64.ofNat slot.val ∧
      opened.descriptors.slots = m.descriptors.slots.set slot.val
        (.holding ⟨⟨m.host.streams, .file file⟩, false⟩) slot.isLt ∧
      opened.ClosesOnce slot m.host.streams := by
  obtain ⟨slot, file, free, rax, slots⟩ := Syscall.slots_openFile_ok done
  obtain ⟨closed, lowest⟩ := Descriptors.firstFree?_eq_some free
  have found : opened.descriptors.get? slot = some ⟨⟨m.host.streams, .file file⟩, false⟩ := by
    unfold Descriptors.get? Descriptors.slot
    simp [slots, SlotState.holding, SlotState.descriptor?]
  have advanced := advances_openFile done ledger
  exact ⟨slot, file, closed, lowest, rax, slots,
    closesOnce_of_holds advanced.ledger ⟨_, found, rfl⟩⟩

/-- A call to open a file finds no closed slot exactly if all sixteen are open. -/
theorem openFile_eq_noFreeDescriptor_iff :
    (Syscall.openFile.run m).1 = .error .noFreeDescriptor ↔
      m.config.fsEnabled = true ∧ ∀ slot, (m.descriptors.get? slot).isSome = true := by
  rw [← Descriptors.firstFree?_eq_none_iff, Syscall.run_openFile]
  cases m.config.fsEnabled with
  | false => simp
  | true =>
  cases m.descriptors.firstFree? with
  | none => simp
  | some slot =>
  -- A name that cannot be read runs out of memory, which is another fault.
  rcases m.core.memory.readText_cases (m.core.registers.get .rbx) with ⟨name, read⟩ | missing
  · rw [read]
    cases opens : m.host.files.openFile name
        (Syscall.openOptions (m.core.registers.get .rcx)) with
    | error e => simp [opens]
    | ok opened => simp [opens]
  · rw [missing]
    simp

/-- Over every history of a machine: what is in a slot is closed once. A stream handed to a slot is
in it. A stream handed to a slot that does not exist is dropped, is asked for nothing else ever, and
no slot notices. A closed slot is not interactive. Whatever core makes the call, closing a
descriptor closes its stream. Opening a file succeeds exactly if there is the capability, a closed
slot, a name and a file of that name that opens; it is refused for the want of a slot exactly if
all sixteen are open. A file that was opened is in the lowest closed slot and no other slot has
changed; a call that fails leaves slots and streams as they were. -/
theorem streams_closed_once (config : Config) (host : Host)
    (unasked : ∀ id, host.streams ≤ id → host.history id = []) (history : List Request) :
    let m := (new config host).serveAll history
    (∀ slot id, m.descriptors.Holds slot id → m.ClosesOnce slot id) ∧
    (∀ (slot : Slot) backend interactive,
      let installed := m.perform (.descriptors (.install slot.val backend interactive))
      installed.descriptors.get? slot = some ⟨⟨m.host.streams, backend⟩, interactive⟩ ∧
        installed.ClosesOnce slot m.host.streams) ∧
    (∀ index backend interactive, 16 ≤ index →
      let refused := m.perform (.descriptors (.install index backend interactive))
      refused.descriptors.slots = m.descriptors.slots ∧
      ∀ later, (refused.serveAll later).host.history m.host.streams = [.drop] ∧
        (refused.serveAll later).descriptors.closeAll.host.history m.host.streams = [.drop]) ∧
    (∀ slot, (m.descriptors.slot slot).stream = none →
      (m.descriptors.slot slot).interactive = false) ∧
    (∀ core slot id, m.descriptors.Holds slot id →
      (core.registers.get .rbx).toNat = slot.val →
      m.descriptors.Closes (Syscall.close.run { m with core := core }).2.descriptors id) ∧
    (∀ core, (Syscall.openFile.run { m with core := core }).1 = .ok () ↔
      m.config.fsEnabled = true ∧ (∃ slot, m.descriptors.get? slot = none) ∧
        ∃ name, core.memory.readText (core.registers.get .rbx) = .ok name ∧
          ∃ opened, m.host.files.openFile name
            (Syscall.openOptions (core.registers.get .rcx)) = .ok opened) ∧
    (∀ core, (Syscall.openFile.run { m with core := core }).1 = .error .noFreeDescriptor ↔
      m.config.fsEnabled = true ∧ ∀ slot, (m.descriptors.get? slot).isSome = true) ∧
    (∀ core opened, Syscall.openFile.run { m with core := core } = (.ok (), opened) →
      ∃ (slot : Slot) (file : OpenFile), m.descriptors.get? slot = none ∧
        (∀ lower < slot, (m.descriptors.get? lower).isSome = true) ∧
        opened.core.registers.get .rax = UInt64.ofNat slot.val ∧
        opened.descriptors.slots = m.descriptors.slots.set slot.val
          (.holding ⟨⟨m.host.streams, .file file⟩, false⟩) slot.isLt ∧
        opened.ClosesOnce slot m.host.streams) ∧
    (∀ core fault failed,
      Syscall.openFile.run { m with core := core } = (.error fault, failed) →
      failed.descriptors.slots = m.descriptors.slots ∧
        failed.host.journal = m.host.journal ∧ failed.host.streams = m.host.streams) := by
  intro m
  have ledger : m.descriptors.Ledger :=
    (advances_serveAll history _ (ledger_new config unasked)).ledger
  refine ⟨?_, ?_, ?_, ?_, ?_, ?_, ?_, ?_, ?_⟩
  · intro slot id held
    exact closesOnce_of_holds ledger held
  · intro slot backend interactive
    exact closesOnce_install ledger slot backend interactive
  · intro index backend interactive outside refused
    refine ⟨?_, history_install_refused ledger outside backend interactive⟩
    exact Descriptors.slots_install_of_le outside
  · intro slot closed
    exact ledger.muted slot (Descriptors.get?_eq_none_iff.mpr closed)
  · intro core slot id held number
    rw [Syscall.descriptors_close]
    exact Descriptors.closes_close ledger held number
  · intro core
    rw [← Descriptors.exists_firstFree?_iff]
    exact Syscall.openFile_eq_ok_iff
  · intro core
    exact openFile_eq_noFreeDescriptor_iff (m := { m with core := core })
  · intro core opened done
    exact closesOnce_openFile (m := { m with core := core }) ledger done
  · intro core fault failed refused
    exact Syscall.slots_openFile_error (m := { m with core := core }) refused

/-- Puts an interactive pipe into every slot. -/
def crowding : List Request :=
  (List.range 16).map fun index => .action (.descriptors (.install index (.pipe "in") true))

/-- A core that is about to open the file named at address zero. -/
def naming : Core := { Core.blank with
  memory := ⟨#[0x61, 0], 0, 0, 0⟩
  registers := Registers.empty.set .rcx 1 }

/-- A device whose flush fails is replaced by a pipe: the failed flush is its last but one event. No
file can be opened while all slots are taken; once two of them are closed, which are not interactive
any more, the lower one gets the file. -/
theorem streams_closed_once_crowded :
    let device := Script.device { bytes := [], failsFlush := true }
    let failing := (new {} {}).serveAll [.action (.descriptors (.install 4 (.device device) true))]
    let replaced := failing.perform (.descriptors (.install 4 (.pipe "in") false))
    let machine := new { fsEnabled := true }
      { files := ⟨Table.empty.insert ["a"] (.file 0), #[[]]⟩ }
    let full := machine.serveAll crowding
    let m := machine.serveAll
      (crowding ++ [.action (.descriptors (.close 9)), .action (.descriptors (.close 5))])
    (failing.ClosesOnce 4 0 ∧ failing.descriptors.Closes replaced.descriptors 0 ∧
      replaced.ClosesOnce 4 1 ∧
      replaced.host.history 0 = [.flush (.error (.device "flush failed")), .drop]) ∧
    (full.descriptors.interactiveSlots = List.finRange 16 ∧
      (Syscall.openFile.run { full with core := naming }).1 = .error .noFreeDescriptor) ∧
    (m.descriptors.slot 5).interactive = false ∧
    ∃ opened, Syscall.openFile.run { m with core := naming } = (.ok (), opened) ∧
      opened.core.registers.get .rax = 5 ∧ opened.ClosesOnce 5 16 := by
  intro device failing replaced machine full m
  obtain ⟨held, installed, -⟩ := streams_closed_once {} {} (fun _ _ => rfl)
    [.action (.descriptors (.install 4 (.device device) true))]
  obtain ⟨-, -, -, -, -, -, refused, -, -⟩ := streams_closed_once { fsEnabled := true }
    { files := ⟨Table.empty.insert ["a"] (.file 0), #[[]]⟩ } (fun _ _ => rfl) crowding
  obtain ⟨-, -, -, muted, -, opens, -, placed, -⟩ := streams_closed_once { fsEnabled := true }
    { files := ⟨Table.empty.insert ["a"] (.file 0), #[[]]⟩ } (fun _ _ => rfl)
    (crowding ++ [.action (.descriptors (.close 9)), .action (.descriptors (.close 5))])
  have first : failing.ClosesOnce 4 0 := held 4 0 ⟨_, rfl, rfl⟩
  have closed := first.closing [] first.owned
    (.descriptors (.install 4 (.pipe "in") false)) rfl
  have flushed : replaced.host.history 0 = [.flush (.error (.device "flush failed")), .drop] := rfl
  have second : replaced.ClosesOnce 4 1 := (installed 4 (.pipe "in") false).2
  have interactive : full.descriptors.interactiveSlots = List.finRange 16 := by decide +kernel
  have crowded : (Syscall.openFile.run { full with core := naming }).1 =
      .error .noFreeDescriptor := (refused naming).mpr ⟨by decide +kernel, by decide +kernel⟩
  refine ⟨⟨first, closed, second, flushed⟩, ⟨interactive, crowded⟩, ?_⟩
  have free : m.descriptors.get? 5 = none := Option.isNone_iff_eq_none.mp (by decide +kernel)
  have below : ∀ slot < 5, (m.descriptors.get? slot).isSome = true := by decide +kernel
  have named : naming.memory.readText (naming.registers.get .rbx) = .ok "a" := by decide +kernel
  have file : ∃ opened, m.host.files.openFile "a"
      (Syscall.openOptions (naming.registers.get .rcx)) = .ok opened := by
    have files : m.host.files = ⟨⟨[(["a"], .file 0)]⟩, #[[]]⟩ := by
      have tree : m.host.files.tree.entries = [(["a"], .file 0)] := by decide +kernel
      have contents : m.host.files.contents = #[[]] := by decide +kernel
      rw [← tree, ← contents]
    rw [files]
    exact ⟨(⟨.file 0, 0, true, false, false⟩, ⟨⟨[(["a"], .file 0)]⟩, #[[]]⟩), by cbv⟩
  have completed : (Syscall.openFile.run { m with core := naming }).1 = .ok () :=
    (opens naming).mpr ⟨by decide +kernel, ⟨5, free⟩, "a", named, file⟩
  generalize run : Syscall.openFile.run { m with core := naming } = outcome at completed
  obtain ⟨result, opened⟩ := outcome
  obtain rfl : result = .ok () := completed
  obtain ⟨slot, file, vacant, lowest, rax, -, once⟩ := placed naming opened run
  obtain rfl : slot = 5 := by
    rcases lt_trichotomy slot 5 with lower | same | above
    · exact absurd vacant (Option.isSome_iff_ne_none.mp (below slot lower))
    · exact same
    · exact absurd free (Option.isSome_iff_ne_none.mp (lowest 5 above))
  have streams : m.host.streams = 16 := by decide +kernel
  rw [streams] at once
  exact ⟨muted 5 (Descriptors.get?_eq_none_iff.mp free), opened, rfl, rax, once⟩

end Machine

end GuestMachine
