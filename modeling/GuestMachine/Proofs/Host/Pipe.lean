import GuestMachine.Proofs.Host

/-!
# Pipes

What a call on a stream does to the bytes queued in a pipe. Only a read or a write of a stream with
that pipe behind it changes them: a read takes bytes off the front, a write adds all of its bytes
at the end, and neither is ever refused.
-/

namespace GuestMachine

namespace Host

variable (h : Host)

@[simp] theorem pipe_setPipe (name : String) (bytes : Bytes) :
    (h.setPipe name bytes).pipe name = bytes := by
  simp [pipe, setPipe, Table.get?_insert]

theorem pipe_setPipe_of_ne {name other : String} (bytes : Bytes) (differ : other ≠ name) :
    (h.setPipe name bytes).pipe other = h.pipe other := by
  simp [pipe, setPipe, Table.get?_insert, differ]

theorem setPipe_setPipe (name : String) (old new : Bytes) :
    (h.setPipe name old).setPipe name new = h.setPipe name new := by
  simp only [setPipe, Table.insert, Table.put_put]

theorem pipe_pushPipe (name other : String) (bytes : Bytes) :
    (h.pushPipe other bytes).pipe name =
      h.pipe name ++ if other = name then bytes else [] := by
  unfold pushPipe
  by_cases same : other = name
  · subst same
    simp
  · rw [pipe_setPipe_of_ne _ _ (Ne.symm same), if_neg same, List.append_nil]

theorem pipe_takePipe (name other : String) :
    (h.takePipe other).2.pipe name = if other = name then [] else h.pipe name := by
  unfold takePipe
  by_cases same : other = name
  · subst same
    simp
  · rw [pipe_setPipe_of_ne _ _ (Ne.symm same), if_neg same]

@[simp] theorem pipe_log (level : Level) (message name : String) :
    (h.log level message).pipe name = h.pipe name := by
  unfold log print emit
  split <;> rfl

@[simp] theorem pipe_record (id : StreamId) (event : StreamEvent) (name : String) :
    (h.record id event).pipe name = h.pipe name := rfl

end Host

namespace Stream

variable {s : Stream} {h : Host} {name : String}

/-! ## Reading -/

/-- Reading nothing is what taking no byte, or taking from no bytes, amounts to. -/
theorem idle_read {queue : Bytes} {count : Nat} (idle : (queue.isEmpty || count == 0) = true) :
    queue.take count = [] ∧ queue.drop count = queue := by
  simp only [Bool.or_eq_true, List.isEmpty_iff, beq_iff_eq] at idle
  rcases idle with empty | zero
  · simp [empty]
  · simp [zero]

theorem pipe_read (s : Stream) (h : Host) (count : Nat) (name : String) :
    (s.read h count).host.pipe name =
      if s.backend.pipe? = some name then (h.pipe name).drop count else h.pipe name := by
  unfold read readBackend
  rw [Host.pipe_record]
  by_cases pipe : s.backend.pipe? = some name
  · rw [if_pos pipe, Backend.pipe?_eq_some.mp pipe]
    dsimp only
    split
    · next idle => exact (idle_read idle).2.symm
    · exact Host.pipe_setPipe _ _ _
  · rw [if_neg pipe]
    split
    · split <;> rfl
    · rfl
    · rfl
    · next other backend =>
      have differ : name ≠ other := fun same => pipe (by rw [backend, same]; rfl)
      dsimp only
      split
      · rfl
      · exact Host.pipe_setPipe_of_ne _ _ differ
    · rfl

/-- A pipe gives its first bytes, as many as were asked for or as there are. -/
theorem result_read (pipe : s.backend.pipe? = some name) (count : Nat) :
    (s.read h count).result = .ok ((h.pipe name).take count) := by
  unfold read readBackend
  rw [Backend.pipe?_eq_some.mp pipe]
  dsimp only
  split
  · next idle => rw [(idle_read idle).1]
  · rfl

/-! ## Writing -/

theorem pipe_writeSome (s : Stream) (h : Host) (data : Bytes) (name : String) :
    (s.writeSome h data).host.pipe name =
      h.pipe name ++ if s.backend.pipe? = some name then data else [] := by
  unfold writeSome writeBackend
  rw [Host.pipe_record]
  cases backend : s.backend with
  | file f =>
    dsimp only [Backend.pipe?]
    split <;> simp [Host.pipe]
  | source rest => simp [Backend.pipe?]
  | sink o => simp [Backend.pipe?, Host.emit, Host.pipe]
  | device d => simp [Backend.pipe?]
  | pipe other => simp [Backend.pipe?, Host.pipe_pushPipe]

theorem result_writeSome (pipe : s.backend.pipe? = some name) (data : Bytes) :
    (s.writeSome h data).result = .ok data.length := by
  unfold writeSome writeBackend
  rw [Backend.pipe?_eq_some.mp pipe]

/-- However often bytes are offered, each of them gets into the pipe once. -/
theorem pipe_writeAll (s : Stream) (h : Host) (data : Bytes) (name : String) :
    (s.writeAll h data).host.pipe name =
      h.pipe name ++ if s.backend.pipe? = some name then data else [] := by
  fun_induction writeAll s h data with
  | case1 s h => simp
  | case2 s h b rest r e failed =>
    by_cases pipe : s.backend.pipe? = some name
    · rw [result_writeSome pipe] at failed
      cases failed
    · rw [pipe_writeSome, if_neg pipe]
  | case3 s h b rest r stuck =>
    by_cases pipe : s.backend.pipe? = some name
    · rw [result_writeSome pipe] at stuck
      cases stuck
    · rw [pipe_writeSome, if_neg pipe]
  | case4 s h b rest r n taken ih =>
    have kept : r.stream.backend.pipe? = s.backend.pipe? := (serves_writeSome s h (b :: rest)).pipe
    have first := pipe_writeSome s h (b :: rest) name
    rw [kept, first] at ih
    rw [ih]
    by_cases pipe : s.backend.pipe? = some name
    · have all : n = rest.length := by
        rw [result_writeSome pipe] at taken
        cases taken
        rfl
      simp [pipe, all]
    · simp [pipe]

theorem result_writeAll (pipe : s.backend.pipe? = some name) (data : Bytes) :
    (s.writeAll h data).result = .ok () := by
  fun_induction writeAll s h data with
  | case1 s h => rfl
  | case2 s h b rest r e failed =>
    rw [result_writeSome pipe] at failed
    cases failed
  | case3 s h b rest r stuck =>
    rw [result_writeSome pipe] at stuck
    cases stuck
  | case4 s h b rest r n taken ih =>
    exact ih ((serves_writeSome s h (b :: rest)).pipe.trans pipe)

/-! ## Seeking and flushing -/

theorem pipe_seek (s : Stream) (h : Host) (target : SeekTarget) (name : String) :
    (s.seek h target).host.pipe name = h.pipe name := by
  unfold seek seekBackend
  rw [Host.pipe_record]
  split
  · split <;> rfl
  · rfl
  · rfl

theorem pipe_flush (s : Stream) (h : Host) (name : String) :
    (s.flush h).host.pipe name = h.pipe name := rfl

end Stream

end GuestMachine
