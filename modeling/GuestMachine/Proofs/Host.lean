import GuestMachine.Host.Stream

/-!
# What reaches the host

A message goes to an output and nowhere else. A call on a stream goes to the journal under the
number of the stream, and to the file system only if a file is behind the stream.
-/

namespace GuestMachine

namespace Host

variable (h : Host)

@[simp] theorem journal_log (level : Level) (message : String) :
    (h.log level message).journal = h.journal := by
  unfold log print emit
  split <;> rfl

@[simp] theorem files_log (level : Level) (message : String) :
    (h.log level message).files = h.files := by
  unfold log print emit
  split <;> rfl

@[simp] theorem streams_log (level : Level) (message : String) :
    (h.log level message).streams = h.streams := by
  unfold log print emit
  split <;> rfl

theorem history_eq {h h' : Host} (same : h'.journal = h.journal) (id : StreamId) :
    h'.history id = h.history id := by
  unfold history
  rw [same]

@[simp] theorem history_log (level : Level) (message : String) (id : StreamId) :
    (h.log level message).history id = h.history id := history_eq (h.journal_log level message) id

theorem history_record (id : StreamId) (event : StreamEvent) (other : StreamId) :
    (h.record id event).history other =
      h.history other ++ if id = other then [event] else [] := by
  unfold history record
  by_cases same : id = other
  · simp [same]
  · simp [same]

theorem record_log (level : Level) (message : String) (id : StreamId) (event : StreamEvent) :
    (h.log level message).record id event = (h.record id event).log level message := by
  unfold log print emit
  split
  · next enabled => exact (if_pos enabled).symm
  · next disabled => exact (if_neg disabled).symm

/-- One host is the other with at most one debug message more in its log. -/
def Notes (h h' : Host) : Prop := h' = h ∨ ∃ message, h' = h.log .debug message

theorem Notes.history {h h' : Host} (notes : h.Notes h') (id : StreamId) :
    h'.history id = h.history id := by
  rcases notes with rfl | ⟨message, rfl⟩
  · rfl
  · exact h.history_log _ _ _

theorem Notes.record {h h' : Host} (notes : h.Notes h') (id : StreamId) (event : StreamEvent) :
    (h.record id event).Notes (h'.record id event) := by
  rcases notes with rfl | ⟨message, rfl⟩
  · exact .inl rfl
  · exact .inr ⟨message, h.record_log _ _ _ _⟩

end Host

theorem OpenFile.length_le_of_read {f f' : OpenFile} {files : FileSystem} {count : Nat}
    {data : Bytes} (read : f.read files count = .ok (data, f')) : data.length ≤ count := by
  unfold OpenFile.read at read
  split at read
  · cases read
  · split at read
    · cases read
    · split at read
      · cases read
      · obtain ⟨rfl, -⟩ := Prod.mk.inj (Except.ok.inj read)
        exact List.length_take_le _ _

/-- Tells whether a file of the host is behind a stream. -/
def Backend.isFile : Backend → Bool
  | .file _ => true
  | _ => false

/-- The pipe behind a stream. -/
def Backend.pipe? : Backend → Option String
  | .pipe name => some name
  | _ => none

theorem Backend.pipe?_eq_some {b : Backend} {name : String} :
    b.pipe? = some name ↔ b = .pipe name := by
  cases b <;> simp [pipe?]

namespace Stream

/-- What calls on a stream may do to it and to the host: the stream keeps its number and its pipe,
its own history grows and no other, it is not dropped, and the file system stays as it is unless a
file is behind the stream. -/
structure Serves (s : Stream) (h : Host) (s' : Stream) (h' : Host) : Prop where
  id : s'.id = s.id
  pipe : s'.backend.pipe? = s.backend.pipe?
  streams : h'.streams = h.streams
  history : ∃ events : List StreamEvent, .drop ∉ events ∧
    ∀ id, h'.history id = h.history id ++ if s.id = id then events else []
  files : s.backend.isFile = false → s'.backend.isFile = false ∧ h'.files = h.files

namespace Serves

variable {s s' s'' : Stream} {h h' h'' : Host}

/-- As long as nothing is noted in the journal, no history grows. -/
theorem of_journal (id : s'.id = s.id) (pipe : s'.backend.pipe? = s.backend.pipe?)
    (streams : h'.streams = h.streams) (journal : h'.journal = h.journal)
    (files : s.backend.isFile = false → s'.backend.isFile = false ∧ h'.files = h.files) :
    s.Serves h s' h' where
  id := id
  pipe := pipe
  streams := streams
  history := ⟨[], List.not_mem_nil, fun id => by rw [Host.history_eq journal]; simp⟩
  files := files

/-- A file behind a stream may move its position and change the file system. -/
theorem of_file {f f' : OpenFile} (file : s.backend = .file f) (files : FileSystem) :
    s.Serves h { s with backend := .file f' } { h with files := files } := by
  refine of_journal rfl ?_ rfl rfl fun none => ?_
  · rw [file]
    rfl
  · simp [file, Backend.isFile] at none

theorem refl (s : Stream) (h : Host) : s.Serves h s h :=
  of_journal rfl rfl rfl rfl fun file => ⟨file, rfl⟩

theorem trans (first : s.Serves h s' h') (second : s'.Serves h' s'' h'') : s.Serves h s'' h'' := by
  obtain ⟨before, kept, grown⟩ := first.history
  obtain ⟨after, keptAfter, grownAfter⟩ := second.history
  refine ⟨second.id.trans first.id, second.pipe.trans first.pipe,
    second.streams.trans first.streams, ⟨before ++ after, ?_, ?_⟩, ?_⟩
  · simp [kept, keptAfter]
  · intro id
    rw [grownAfter, grown, first.id]
    by_cases mine : s.id = id
    · simp [mine]
    · simp [mine]
  · intro file
    obtain ⟨file', files⟩ := first.files file
    obtain ⟨file'', files'⟩ := second.files file'
    exact ⟨file'', files'.trans files⟩

/-- The call is noted in the journal. -/
theorem record (served : s.Serves h s' h') {event : StreamEvent} (kept : event ≠ .drop) :
    s.Serves h s' (h'.record s.id event) := by
  obtain ⟨events, none, grown⟩ := served.history
  refine ⟨served.id, served.pipe, served.streams, ⟨events ++ [event], ?_, ?_⟩, served.files⟩
  · simp [none, kept.symm]
  · intro id
    rw [Host.history_record, grown]
    by_cases mine : s.id = id
    · simp [mine]
    · simp [mine]

theorem log (served : s.Serves h s' h') (level : Level) (message : String) :
    s.Serves h s' (h'.log level message) := by
  obtain ⟨events, none, grown⟩ := served.history
  refine ⟨served.id, served.pipe, ?_, ⟨events, none, ?_⟩, ?_⟩
  · rw [Host.streams_log, served.streams]
  · intro id
    rw [Host.history_log, grown]
  · intro file
    rw [Host.files_log]
    exact served.files file

end Serves

variable (s : Stream) (h : Host)

theorem serves_readBackend (count : Nat) :
    s.Serves h (s.readBackend h count).stream (s.readBackend h count).host := by
  unfold readBackend
  split
  · next f file =>
    split
    · exact .of_file file _
    · exact .refl s h
  · next rest source => exact .of_journal rfl (by rw [source]; rfl) rfl rfl fun _ => ⟨rfl, rfl⟩
  · exact .refl s h
  · next name pipe =>
    dsimp only
    split
    · exact .refl s h
    · exact .of_journal rfl rfl rfl rfl fun file => ⟨file, rfl⟩
  · exact .refl s h

theorem serves_read (count : Nat) :
    s.Serves h (s.read h count).stream (s.read h count).host :=
  (s.serves_readBackend h count).record (by simp)

theorem serves_writeBackend (data : Bytes) :
    s.Serves h (s.writeBackend h data).stream (s.writeBackend h data).host := by
  unfold writeBackend
  split
  · next f file =>
    split
    · exact .of_file file _
    · exact .refl s h
  · exact .refl s h
  · exact .of_journal rfl rfl rfl rfl fun file => ⟨file, rfl⟩
  · exact .of_journal rfl rfl rfl rfl fun file => ⟨file, rfl⟩
  · exact .refl s h

theorem serves_writeSome (data : Bytes) :
    s.Serves h (s.writeSome h data).stream (s.writeSome h data).host :=
  (s.serves_writeBackend h data).record (by simp)

theorem serves_seekBackend (target : SeekTarget) :
    s.Serves h (s.seekBackend h target).stream (s.seekBackend h target).host := by
  unfold seekBackend
  split
  · next f file =>
    split
    · exact .of_file file _
    · exact .refl s h
  · exact .refl s h
  · exact .refl s h

theorem serves_seek (target : SeekTarget) :
    s.Serves h (s.seek h target).stream (s.seek h target).host :=
  (s.serves_seekBackend h target).record (by simp)

theorem serves_flush : s.Serves h (s.flush h).stream (s.flush h).host :=
  (Serves.refl s h).record (by simp)

/-- However often bytes are offered, it is the same stream that is asked. -/
theorem serves_writeAll (data : Bytes) :
    s.Serves h (s.writeAll h data).stream (s.writeAll h data).host := by
  fun_induction writeAll s h data with
  | case1 s h => exact .refl s h
  | case2 s h b rest r e failed => exact serves_writeSome s h (b :: rest)
  | case3 s h b rest r stuck => exact serves_writeSome s h (b :: rest)
  | case4 s h b rest r n taken ih => exact (serves_writeSome s h (b :: rest)).trans ih

/-! ## What a call leaves in the journal -/

theorem journal_readBackend (count : Nat) :
    (s.readBackend h count).host.journal = h.journal := by
  unfold readBackend
  split
  · split <;> rfl
  · rfl
  · rfl
  · dsimp only
    split <;> rfl
  · rfl

theorem journal_writeBackend (data : Bytes) :
    (s.writeBackend h data).host.journal = h.journal := by
  unfold writeBackend
  split
  · split <;> rfl
  · rfl
  · rfl
  · rfl
  · rfl

theorem journal_seekBackend (target : SeekTarget) :
    (s.seekBackend h target).host.journal = h.journal := by
  unfold seekBackend
  split
  · split <;> rfl
  · rfl
  · rfl

theorem history_read (count : Nat) (id : StreamId) :
    (s.read h count).host.history id =
      h.history id ++ if s.id = id then [.read (s.read h count).result] else [] := by
  unfold read
  rw [Host.history_record, Host.history_eq (s.journal_readBackend h count)]

theorem history_writeSome (data : Bytes) (id : StreamId) :
    (s.writeSome h data).host.history id =
      h.history id ++ if s.id = id then [.write data (s.writeSome h data).result] else [] := by
  unfold writeSome
  rw [Host.history_record, Host.history_eq (s.journal_writeBackend h data)]

theorem history_seek (target : SeekTarget) (id : StreamId) :
    (s.seek h target).host.history id =
      h.history id ++ if s.id = id then [.seek target (s.seek h target).result] else [] := by
  unfold seek
  rw [Host.history_record, Host.history_eq (s.journal_seekBackend h target)]

theorem history_flush (id : StreamId) :
    (s.flush h).host.history id =
      h.history id ++ if s.id = id then [.flush (s.flush h).result] else [] :=
  Host.history_record _ _ _ _

/-- A stream never gives more than it was asked for. -/
theorem length_le_of_read {count : Nat} {data : Bytes}
    (given : (s.read h count).result = .ok data) : data.length ≤ count := by
  have given : (s.readBackend h count).result = .ok data := given
  unfold readBackend at given
  split at given
  · split at given
    · next read =>
      obtain rfl := Except.ok.inj given
      exact OpenFile.length_le_of_read read
    · cases given
  · obtain rfl := Except.ok.inj given
    exact List.length_take_le _ _
  · cases given
  · dsimp only at given
    split at given
    · obtain rfl := Except.ok.inj given
      exact Nat.zero_le _
    · obtain rfl := Except.ok.inj given
      exact List.length_take_le _ _
  · next device _ =>
    dsimp only at given
    cases answered : device.read (h.history s.id) count with
    | error e =>
      rw [answered] at given
      cases given
    | ok all =>
      rw [answered] at given
      obtain rfl := Except.ok.inj given
      exact List.length_take_le _ _

end Stream

end GuestMachine
