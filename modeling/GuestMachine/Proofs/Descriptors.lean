import GuestMachine.Descriptors
import GuestMachine.Proofs.Faulting
import GuestMachine.Proofs.Host

/-!
# The descriptor table

How the operations of the table move slots between closed and open, what calls on the stream of a
slot and its closing leave in the journal, and what a read of a pipe delivers.
-/

namespace GuestMachine.Descriptors

variable {t : Descriptors}

theorem find_eq_ok {index : UInt64} {slot : Slot} {d : Descriptor}
    (h : t.find index = .ok (slot, d)) : slot? index = some slot ∧ t.get? slot = some d := by
  unfold find at h
  split at h
  · cases h
  · next found =>
    split at h
    · cases h
    · next opened =>
      cases h
      exact ⟨found, opened⟩

theorem find_of_get? {index : UInt64} {slot : Slot} {d : Descriptor}
    (number : index.toNat = slot.val) (opened : t.get? slot = some d) :
    t.find index = .ok (slot, d) := by
  have bound : index.toNat < 16 := by
    rw [number]
    exact slot.isLt
  have same : (⟨index.toNat, bound⟩ : Slot) = slot := Fin.ext number
  simp only [find, slot?, dif_pos bound, same, opened]

theorem run_of_find {index : UInt64} {slot : Slot} {d : Descriptor} {α : Type}
    {x : Slot × Descriptor → Faulting Descriptors α} (found : t.find index = .ok (slot, d)) :
    (Faulting.query (fun t : Descriptors => t.find index) >>= x).run t = (x (slot, d)).run t := by
  have looked := Faulting.run_query (fun t : Descriptors => t.find index) t
  rw [found] at looked
  exact Faulting.run_bind_ok looked

theorem run_of_missing {index : UInt64} {fault : Fault} {α : Type}
    {x : Slot × Descriptor → Faulting Descriptors α} (missing : t.find index = .error fault) :
    (Faulting.query (fun t : Descriptors => t.find index) >>= x).run t = (.error fault, t) := by
  have looked := Faulting.run_query (fun t : Descriptors => t.find index) t
  rw [missing] at looked
  exact Faulting.run_bind_error looked

theorem run_query_find {index : UInt64} {α : Type}
    (x : Slot × Descriptor → Faulting Descriptors α) (t : Descriptors) :
    (Faulting.query (fun t : Descriptors => t.find index) >>= x).run t =
      match t.find index with
      | .error fault => (.error fault, t)
      | .ok entry => (x entry).run t := by
  cases lookup : t.find index with
  | ok entry => exact run_of_find lookup
  | error fault => exact run_of_missing lookup

/-- A computation on the descriptor found under a number leaves a table as it was if there is none
to be found. -/
theorem run_found {P : Descriptors → Prop} {α : Type}
    {x : Slot × Descriptor → Faulting Descriptors α} (index : UInt64) (missing : P t)
    (found : ∀ slot d, t.get? slot = some d → P ((x (slot, d)).run t).2) :
    P ((Faulting.query (fun t : Descriptors => t.find index) >>= x).run t).2 := by
  cases lookup : t.find index with
  | ok r =>
    rw [run_of_find lookup]
    exact found r.1 r.2 (find_eq_ok lookup).2
  | error fault =>
    rw [run_of_missing lookup]
    exact missing

theorem firstFree?_eq_some {slot : Slot} (h : t.firstFree? = some slot) :
    t.get? slot = none ∧ ∀ lower < slot, (t.get? lower).isSome = true := by
  obtain ⟨closed, place, inside, rfl, before⟩ := List.find?_eq_some_iff_getElem.mp h
  refine ⟨Option.isNone_iff_eq_none.mp closed, fun lower below => ?_⟩
  simp only [List.getElem_finRange] at below before
  have opened := before lower.val below
  simpa using opened

theorem firstFree?_eq_none_iff : t.firstFree? = none ↔ ∀ slot, (t.get? slot).isSome = true := by
  simp [firstFree?, Option.isSome_iff_ne_none]

theorem exists_firstFree?_iff :
    (∃ slot, t.firstFree? = some slot) ↔ ∃ slot, t.get? slot = none := by
  rw [← Option.isSome_iff_exists, Option.isSome_iff_ne_none, ne_eq, firstFree?_eq_none_iff]
  simp [Option.isSome_iff_ne_none]

theorem mem_interactiveSlots {slot : Slot} :
    slot ∈ t.interactiveSlots ↔ (t.slot slot).interactive = true := by
  simp [interactiveSlots]

theorem slot_congr {t' : Descriptors} (same : t'.slots = t.slots) (slot : Slot) :
    t'.slot slot = t.slot slot := by
  unfold Descriptors.slot
  rw [same]

theorem slot_setSlot (t : Descriptors) (slot slot' : Slot) (s : SlotState) :
    (t.setSlot slot s).slot slot' = if slot = slot' then s else t.slot slot' := by
  unfold setSlot Descriptors.slot
  by_cases same : slot = slot'
  · subst same
    simp
  · have differ : slot.val ≠ slot'.val := fun h => same (Fin.ext h)
    simp [same, differ]

theorem get?_closed (host : Host) (slot : Slot) : (closed host).get? slot = none := by
  simp [closed, get?, Descriptors.slot, SlotState.free, SlotState.descriptor?]

theorem get?_put (t : Descriptors) (slot slot' : Slot) (d : Option Descriptor) :
    (t.put slot d).get? slot' = if slot = slot' then d else t.get? slot' := by
  unfold get?
  cases d with
  | none =>
    rw [put, slot_setSlot, apply_ite SlotState.descriptor?]
    rfl
  | some d =>
    rw [put, slot_setSlot, apply_ite SlotState.descriptor?]
    rfl

theorem host_put (t : Descriptors) (slot : Slot) (d : Option Descriptor) :
    (t.put slot d).host = t.host := by
  cases d <;> rfl

/-- An open slot holds its descriptor and nothing else. -/
theorem slot_eq_holding {slot : Slot} {d : Descriptor} (opened : t.get? slot = some d) :
    t.slot slot = .holding d := by
  obtain ⟨stream, held, rfl⟩ := Option.map_eq_some_iff.mp opened
  unfold SlotState.holding
  rw [← held]

theorem get?_eq_none_iff {slot : Slot} : t.get? slot = none ↔ (t.slot slot).stream = none :=
  Option.map_eq_none_iff

/-- Putting back what an open slot holds changes nothing. -/
theorem put_eq_self {slot : Slot} {d : Descriptor} (opened : t.get? slot = some d) :
    t.put slot (some d) = t := by
  rw [put, ← slot_eq_holding opened]
  unfold setSlot Descriptors.slot
  simp

/-- Making an open descriptor interactive or not puts it back with that flag. -/
theorem setSlot_setInteractive {slot : Slot} {d : Descriptor} (opened : t.get? slot = some d)
    (on : Bool) : t.setSlot slot ((t.slot slot).setInteractive on) =
      t.put slot (some { d with interactive := on }) := by
  rw [slot_eq_holding opened]
  rfl

theorem get?_closeSlot (t : Descriptors) (slot slot' : Slot) :
    (t.closeSlot slot).get? slot' = if slot = slot' then none else t.get? slot' := by
  have emptied : (t.setSlot slot (t.slot slot).close).get? slot' =
      if slot = slot' then none else t.get? slot' := get?_put t slot slot' none
  unfold closeSlot
  cases (t.slot slot).stream with
  | none => exact emptied
  | some stream => exact emptied

theorem slots_closeSlot (t : Descriptors) (slot : Slot) :
    (t.closeSlot slot).slots = t.slots.set slot.val .free slot.isLt := by
  unfold closeSlot
  cases (t.slot slot).stream with
  | none => rfl
  | some stream => rfl

theorem get?_foldl_closeSlot {slots : List Slot} {t : Descriptors} {slot : Slot}
    (h : slot ∈ slots ∨ t.get? slot = none) : (slots.foldl closeSlot t).get? slot = none := by
  induction slots generalizing t with
  | nil => exact h.resolve_left List.not_mem_nil
  | cons first rest ih =>
    rw [List.foldl_cons]
    apply ih
    rw [get?_closeSlot]
    by_cases same : first = slot
    · exact .inr (if_pos same)
    · rw [if_neg same]
      rcases h with member | closed
      · exact .inl ((List.mem_cons.mp member).resolve_left fun here => same here.symm)
      · exact .inr closed

/-- Closing all descriptors leaves none open. -/
theorem get?_closeAll (t : Descriptors) (slot : Slot) : t.closeAll.get? slot = none :=
  get?_foldl_closeSlot (.inl (List.mem_finRange slot))

/-- What the closing of every slot keeps, the closing of all keeps. -/
theorem closeAll_keeps {R : Descriptors → Descriptors → Prop} (refl : ∀ t, R t t)
    (trans : ∀ a b c, R a b → R b c → R a c) (close : ∀ t slot, R t (t.closeSlot slot))
    (t : Descriptors) : R t t.closeAll :=
  List.foldlRecOn _ closeSlot (refl t) fun t' kept slot _ => trans _ _ _ kept (close t' slot)

/-! ## The interactive flag -/

/-- No closed slot is interactive. -/
def Muted (t : Descriptors) : Prop := ∀ slot, t.get? slot = none → (t.slot slot).interactive = false

namespace Muted

theorem closed (host : Host) : (Descriptors.closed host).Muted := by
  intro slot _
  simp [Descriptors.closed, Descriptors.slot, SlotState.free]

theorem of_slots {t' : Descriptors} (muted : t.Muted) (same : t'.slots = t.slots) : t'.Muted := by
  intro slot free
  rw [get?, slot_congr same] at free
  rw [slot_congr same]
  exact muted slot free

theorem put (muted : t.Muted) (slot : Slot) (d : Option Descriptor) : (t.put slot d).Muted := by
  intro other free
  rw [get?_put] at free
  by_cases here : slot = other
  · rw [if_pos here] at free
    subst here free
    rw [Descriptors.put, slot_setSlot, if_pos rfl]
    rfl
  · rw [if_neg here] at free
    have still : (t.put slot d).slot other = t.slot other := by
      cases d with
      | none => rw [Descriptors.put, slot_setSlot, if_neg here]
      | some d => rw [Descriptors.put, slot_setSlot, if_neg here]
    rw [still]
    exact muted other free

theorem closeSlot (muted : t.Muted) (slot : Slot) : (t.closeSlot slot).Muted :=
  (muted.put slot none).of_slots (slots_closeSlot t slot)

end Muted

/-! ## Calls on an open slot -/

/-- The stream in a slot was called, and is in the slot still. -/
def Called (t : Descriptors) (slot : Slot) (d : Descriptor) (t' : Descriptors) : Prop :=
  ∃ stream host, d.stream.Serves t.host stream host ∧
    t' = { t.put slot (some { d with stream := stream }) with host := host }

variable {slot : Slot} {d : Descriptor}

/-- The host once a call was answered, with the refusal in its log if there was one. -/
def noted {α : Type} (call : String) (r : Reply α) : Host :=
  match r.result with
  | .ok _ => r.host
  | .error e => r.host.log .debug ("host " ++ call ++ " failed: " ++ e.message)

theorem notes_noted {α : Type} (call : String) (r : Reply α) : r.host.Notes (noted call r) := by
  unfold noted
  split
  · exact .inl rfl
  · exact .inr ⟨_, rfl⟩

theorem run_settle {α : Type} (call : String) (slot : Slot) (d : Descriptor) (r : Reply α)
    (t : Descriptors) :
    (settle call slot d r).run t = (r.result.mapError fun _ => .hostFailure,
      { t.put slot (some { d with stream := r.stream }) with host := noted call r }) := by
  unfold settle noted Faulting.run
  cases r.result <;> rfl

theorem run_readFrom (slot : Slot) (d : Descriptor) (count : Nat) (t : Descriptors) :
    (readFrom slot d count).run t = (settle "read" slot d (d.stream.read t.host count)).run t := rfl

theorem run_writeTo (slot : Slot) (d : Descriptor) (data : Bytes) (t : Descriptors) :
    (writeTo slot d data).run t =
      (settle "write" slot d (d.stream.writeAll t.host data)).run t := rfl

theorem run_seekOn (slot : Slot) (d : Descriptor) (target : SeekTarget) (t : Descriptors) :
    (seekOn slot d target).run t = (settle "seek" slot d (d.stream.seek t.host target)).run t := rfl

theorem run_flushOn (slot : Slot) (d : Descriptor) (t : Descriptors) :
    (flushOn slot d).run t = (settle "flush" slot d (d.stream.flush t.host)).run t := rfl

theorem called_settle {α : Type} {call : String} {r : Reply α}
    (served : d.stream.Serves t.host r.stream r.host) :
    t.Called slot d ((settle call slot d r).run t).2 := by
  unfold settle Faulting.run
  cases r.result with
  | ok a => exact ⟨r.stream, r.host, served, rfl⟩
  | error e => exact ⟨r.stream, _, served.log _ _, rfl⟩

theorem called_readFrom (count : Nat) : t.Called slot d ((readFrom slot d count).run t).2 :=
  called_settle (d.stream.serves_read t.host count)

theorem called_writeTo (data : Bytes) : t.Called slot d ((writeTo slot d data).run t).2 :=
  called_settle (d.stream.serves_writeAll t.host data)

theorem called_seekOn (target : SeekTarget) : t.Called slot d ((seekOn slot d target).run t).2 :=
  called_settle (d.stream.serves_seek t.host target)

theorem called_flushOn : t.Called slot d ((flushOn slot d).run t).2 :=
  called_settle (d.stream.serves_flush t.host)

/-! ## Closing -/

/-- An open slot is closed whatever its stream says to the flush, which is at most noted in the
log. -/
theorem closeSlot_eq (opened : t.get? slot = some d) :
    ∃ host, (d.stream.drop (d.stream.flush t.host).host).Notes host ∧
      t.closeSlot slot = { t.put slot none with host := host } := by
  have held : (t.slot slot).stream = some d.stream := by rw [slot_eq_holding opened]; rfl
  simp only [closeSlot, held]
  refine ⟨_, ?_, rfl⟩
  apply Host.Notes.record
  split
  · exact .inl rfl
  · exact .inr ⟨_, rfl⟩

/-- Closing asks a stream for one flush, which may fail, and then drops it. No other stream is
asked for anything. -/
theorem history_closeSlot (opened : t.get? slot = some d) :
    ∃ result, ∀ id, (t.closeSlot slot).host.history id =
      t.host.history id ++ if d.stream.id = id then [.flush result, .drop] else [] := by
  obtain ⟨host, notes, closed⟩ := closeSlot_eq opened
  refine ⟨(d.stream.flush t.host).result, fun id => ?_⟩
  have same : (t.closeSlot slot).host = host := by rw [closed]
  rw [same, notes.history, Stream.drop, Host.history_record, Stream.history_flush]
  by_cases mine : d.stream.id = id
  · simp [mine]
  · simp [mine]

/-- Closing a closed slot resets its flag and asks no stream for anything. -/
theorem closeSlot_of_closed (closed : t.get? slot = none) : t.closeSlot slot = t.put slot none := by
  unfold closeSlot
  rw [get?_eq_none_iff.mp closed]
  rfl

/-- Closing all slots asks a stream for flushes and for being dropped, and for nothing else. -/
theorem history_closeAll (t : Descriptors) (id : StreamId) :
    ∃ closing : List StreamEvent,
      (∀ event ∈ closing, event = .drop ∨ ∃ result, event = .flush result) ∧
      t.closeAll.host.history id = t.host.history id ++ closing := by
  refine closeAll_keeps (R := fun t t' => ∃ closing : List StreamEvent,
    (∀ event ∈ closing, event = .drop ∨ ∃ result, event = .flush result) ∧
    t'.host.history id = t.host.history id ++ closing) ?_ ?_ ?_ t
  · exact fun t => ⟨[], by simp⟩
  · rintro a b c ⟨first, plain, grown⟩ ⟨second, plain', grown'⟩
    refine ⟨first ++ second, ?_, by rw [grown', grown, List.append_assoc]⟩
    exact fun event member => (List.mem_append.mp member).elim (plain event) (plain' event)
  · intro t slot
    cases opened : t.get? slot with
    | none => exact ⟨[], by simp [closeSlot_of_closed opened, host_put]⟩
    | some d =>
      obtain ⟨result, grown⟩ := history_closeSlot opened
      refine ⟨_, fun event member => ?_, grown id⟩
      split at member
      · simp only [List.mem_cons, List.not_mem_nil, or_false] at member
        rcases member with flushed | dropped
        · exact .inr ⟨result, flushed⟩
        · exact .inl dropped
      · cases member

theorem streams_closeSlot (t : Descriptors) (slot : Slot) :
    (t.closeSlot slot).host.streams = t.host.streams := by
  unfold closeSlot
  split
  · rfl
  · dsimp only
    split
    · rfl
    · exact Host.streams_log _ _ _

theorem files_closeSlot (t : Descriptors) (slot : Slot) :
    (t.closeSlot slot).host.files = t.host.files := by
  unfold closeSlot
  split
  · rfl
  · dsimp only
    split
    · rfl
    · exact Host.files_log _ _ _

/-! ## Installing -/

theorem run_install (slot : Slot) (backend : Backend) (interactive : Bool) :
    (install slot.val backend interactive).run t =
      (.ok (), ((t.adopt backend).2.closeSlot slot).put slot
        (some ⟨⟨t.host.streams, backend⟩, interactive⟩)) := by
  unfold install Faulting.run
  exact dif_pos slot.isLt

theorem get?_install (slot other : Slot) (backend : Backend) (interactive : Bool) :
    ((install slot.val backend interactive).run t).2.get? other =
      if slot = other then some ⟨⟨t.host.streams, backend⟩, interactive⟩ else t.get? other := by
  rw [run_install, get?_put]
  split
  · rfl
  · next differ =>
    rw [get?_closeSlot, if_neg differ]
    rfl

/-- Installing a stream touches no other slot. -/
theorem slots_install (slot : Slot) (backend : Backend) (interactive : Bool) :
    ((install slot.val backend interactive).run t).2.slots =
      t.slots.set slot.val (.holding ⟨⟨t.host.streams, backend⟩, interactive⟩) slot.isLt := by
  rw [run_install]
  unfold put setSlot
  dsimp only
  rw [slots_closeSlot, Vector.set_set]
  rfl

theorem run_install_of_le {index : Nat} {backend : Backend} {interactive : Bool}
    (outside : 16 ≤ index) :
    (install index backend interactive).run t = (.error .outOfBounds, { t with
      host := { t.host with streams := t.host.streams + 1 }.record t.host.streams .drop }) := by
  unfold install Faulting.run
  exact dif_neg (Nat.not_lt_of_le outside)

theorem slots_install_of_le {index : Nat} {backend : Backend} {interactive : Bool}
    (outside : 16 ≤ index) :
    ((install index backend interactive).run t).2.slots = t.slots := by
  rw [run_install_of_le outside]

/-! ## Pipes -/

/-- An empty pipe gives nothing, and only the journal remembers that it was asked. -/
theorem run_readFrom_empty {slot : Slot} {d : Descriptor} {name : String} (count : Nat)
    (opened : t.get? slot = some d) (pipe : d.stream.backend = .pipe name)
    (empty : t.host.pipe name = []) :
    (readFrom slot d count).run t =
      (.ok [], { t with host := t.host.record d.stream.id (.read (.ok [])) }) := by
  have reply : d.stream.read t.host count =
      ⟨.ok [], d.stream, t.host.record d.stream.id (.read (.ok []))⟩ := by
    simp [Stream.read, Stream.readBackend, pipe, empty]
  simp only [readFrom, settle, Faulting.run, reply]
  rw [put_eq_self opened]

/-- A pipe that holds something gives as much of it as was asked for and keeps the rest. -/
theorem run_readFrom_pipe {slot : Slot} {d : Descriptor} {name : String} {count : Nat}
    {queue : Bytes} (opened : t.get? slot = some d) (pipe : d.stream.backend = .pipe name)
    (asked : count ≠ 0) (queued : t.host.pipe name = queue) (some : queue ≠ []) :
    (readFrom slot d count).run t = (.ok (queue.take (min count queue.length)), { t with
      host := (t.host.setPipe name (queue.drop (min count queue.length))).record d.stream.id
        (.read (.ok (queue.take (min count queue.length)))) }) := by
  have reply : d.stream.read t.host count = ⟨.ok (queue.take count), d.stream,
      (t.host.setPipe name (queue.drop count)).record d.stream.id
        (.read (.ok (queue.take count)))⟩ := by
    simp [Stream.read, Stream.readBackend, pipe, asked, queued, some]
  rw [← List.take_eq_take_min, ← List.drop_eq_drop_min]
  simp only [readFrom, settle, Faulting.run, reply]
  rw [put_eq_self opened]

end GuestMachine.Descriptors
