import GuestMachine.Proofs.Descriptors
import GuestMachine.Proofs.Host.Pipe

/-!
# Pipes behind descriptors

A pipe changes only when a descriptor that stands for it is read or written: a read takes from its
front, a write adds to its end. Seeking, flushing, closing and installing leave every pipe alone.
-/

namespace GuestMachine.Descriptors

variable {t : Descriptors} {slot : Slot} {d : Descriptor} {name : String}

theorem pipe_settle {α : Type} (call : String) (slot : Slot) (d : Descriptor) (r : Reply α)
    (t : Descriptors) (name : String) :
    ((settle call slot d r).run t).2.host.pipe name = r.host.pipe name := by
  unfold settle Faulting.run
  cases r.result with
  | ok a => rfl
  | error e => exact Host.pipe_log _ _ _ _

theorem result_settle {α : Type} {call : String} {r : Reply α} {a : α} (given : r.result = .ok a) :
    ((settle call slot d r).run t).1 = .ok a := by
  simp only [settle, Faulting.run, given]

theorem pipe_readFrom (slot : Slot) (d : Descriptor) (count : Nat) (t : Descriptors)
    (name : String) :
    ((readFrom slot d count).run t).2.host.pipe name =
      if d.stream.backend.pipe? = some name then (t.host.pipe name).drop count
      else t.host.pipe name := by
  rw [← Stream.pipe_read]
  exact pipe_settle _ _ _ _ _ _

theorem result_readFrom (pipe : d.stream.backend.pipe? = some name) (count : Nat) :
    ((readFrom slot d count).run t).1 = .ok ((t.host.pipe name).take count) :=
  result_settle (Stream.result_read pipe count)

theorem pipe_writeTo (slot : Slot) (d : Descriptor) (data : Bytes) (t : Descriptors)
    (name : String) :
    ((writeTo slot d data).run t).2.host.pipe name =
      t.host.pipe name ++ if d.stream.backend.pipe? = some name then data else [] := by
  rw [← Stream.pipe_writeAll]
  exact pipe_settle _ _ _ _ _ _

theorem result_writeTo (pipe : d.stream.backend.pipe? = some name) (data : Bytes) :
    ((writeTo slot d data).run t).1 = .ok () :=
  result_settle (Stream.result_writeAll pipe data)

theorem pipe_seekOn (slot : Slot) (d : Descriptor) (target : SeekTarget) (t : Descriptors)
    (name : String) :
    ((seekOn slot d target).run t).2.host.pipe name = t.host.pipe name := by
  rw [← Stream.pipe_seek d.stream t.host target]
  exact pipe_settle _ _ _ _ _ _

theorem pipe_flushOn (slot : Slot) (d : Descriptor) (t : Descriptors) (name : String) :
    ((flushOn slot d).run t).2.host.pipe name = t.host.pipe name := by
  rw [← Stream.pipe_flush d.stream t.host]
  exact pipe_settle _ _ _ _ _ _

theorem pipe_closeSlot (t : Descriptors) (slot : Slot) (name : String) :
    (t.closeSlot slot).host.pipe name = t.host.pipe name := by
  unfold closeSlot
  split
  · rfl
  · next stream held =>
    dsimp only
    rw [Stream.drop, Host.pipe_record, ← Stream.pipe_flush stream t.host]
    split
    · rfl
    · exact Host.pipe_log _ _ _ _

theorem pipe_closeAll (t : Descriptors) (name : String) :
    t.closeAll.host.pipe name = t.host.pipe name :=
  closeAll_keeps (R := fun t t' => t'.host.pipe name = t.host.pipe name) (fun _ => rfl)
    (fun _ _ _ first second => second.trans first) (fun t slot => pipe_closeSlot t slot name) t

theorem pipe_install (index : Nat) (backend : Backend) (interactive : Bool) (t : Descriptors)
    (name : String) :
    ((install index backend interactive).run t).2.host.pipe name = t.host.pipe name := by
  by_cases inside : index < 16
  · rw [run_install ⟨index, inside⟩]
    exact pipe_closeSlot _ _ _
  · rw [run_install_of_le (Nat.le_of_not_lt inside)]
    rfl

/-! ## By number -/

/-- The pipe behind the descriptor of a number. -/
def pipeAt? (t : Descriptors) (index : UInt64) : Option String :=
  match t.find index with
  | .ok (_, d) => d.stream.backend.pipe?
  | .error _ => none

variable {index : UInt64}

theorem pipeAt?_of_find (found : t.find index = .ok (slot, d)) :
    t.pipeAt? index = d.stream.backend.pipe? := by
  unfold pipeAt?
  rw [found]

theorem find_of_pipeAt? (h : t.pipeAt? index = some name) :
    ∃ slot d, t.find index = .ok (slot, d) ∧ d.stream.backend.pipe? = some name := by
  cases found : t.find index with
  | error fault =>
    unfold pipeAt? at h
    rw [found] at h
    cases h
  | ok entry => exact ⟨entry.1, entry.2, rfl, (pipeAt?_of_find found).symm.trans h⟩

theorem pipe_run_found {α : Type} {x : Slot × Descriptor → Faulting Descriptors α} (index : UInt64)
    (kept : ∀ slot d, ((x (slot, d)).run t).2.host.pipe name = t.host.pipe name) :
    ((Faulting.query (fun t : Descriptors => t.find index) >>= x).run t).2.host.pipe name =
      t.host.pipe name :=
  run_found (P := fun t' => t'.host.pipe name = t.host.pipe name) index rfl
    fun slot d _ => kept slot d

theorem run_read_of_pipeAt? (holds : t.pipeAt? index = some name) (count : Nat) :
    ((read index count).run t).1 = .ok ((t.host.pipe name).take count) ∧
      ((read index count).run t).2.host.pipe name = (t.host.pipe name).drop count := by
  obtain ⟨slot, d, found, pipe⟩ := find_of_pipeAt? holds
  have run : (read index count).run t = (readFrom slot d count).run t := run_of_find found
  rw [run, result_readFrom pipe, pipe_readFrom, if_pos pipe]
  exact ⟨rfl, rfl⟩

theorem pipe_read_of_other (other : t.pipeAt? index ≠ some name) (count : Nat) :
    ((read index count).run t).2.host.pipe name = t.host.pipe name := by
  cases found : t.find index with
  | error fault =>
    have run : (read index count).run t = (.error fault, t) := run_of_missing found
    rw [run]
  | ok entry =>
    have run : (read index count).run t = (readFrom entry.1 entry.2 count).run t :=
      run_of_find found
    rw [pipeAt?_of_find found] at other
    rw [run, pipe_readFrom, if_neg other]

theorem pipe_write (index : UInt64) (data : Bytes) (t : Descriptors) (name : String) :
    ((write index data).run t).2.host.pipe name =
      t.host.pipe name ++ if t.pipeAt? index = some name then data else [] := by
  cases found : t.find index with
  | error fault =>
    have run : (write index data).run t = (.error fault, t) := run_of_missing found
    have nowhere : t.pipeAt? index = none := by rw [pipeAt?, found]
    rw [run, nowhere, if_neg (nomatch ·), List.append_nil]
  | ok entry =>
    have run : (write index data).run t = (writeTo entry.1 entry.2 data).run t :=
      run_of_find found
    rw [run, pipe_writeTo, pipeAt?_of_find found]

end GuestMachine.Descriptors
