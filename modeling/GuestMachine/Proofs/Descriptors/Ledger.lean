import GuestMachine.Proofs.Descriptors

/-!
# Where streams are

Every stream that was handed to the table is in one slot, or was closed and is in none. Whatever
is done to the table, a stream in a slot stays there until it is closed, and a stream that is in no
slot stays out of all of them and is not asked for anything any more.
-/

namespace GuestMachine.Descriptors

variable {t t' t'' : Descriptors} {slot : Slot} {d : Descriptor} {id : StreamId}

/-- The stream of a number is in a slot. -/
def Holds (t : Descriptors) (slot : Slot) (id : StreamId) : Prop :=
  ∃ d, t.get? slot = some d ∧ d.stream.id = id

/-- The stream of a number is in one slot and in no other, and was not dropped. -/
structure Owns (t : Descriptors) (slot : Slot) (id : StreamId) : Prop where
  holds : t.Holds slot id
  alone : ∀ other, t.Holds other id → other = slot
  undropped : .drop ∉ t.host.history id

/-- The stream of a number is in no slot and was closed: its last two events are a flush, failed or
not, and the only drop. -/
structure Retired (t : Descriptors) (id : StreamId) : Prop where
  unheld : ∀ slot, ¬t.Holds slot id
  closing : ∃ before result, .drop ∉ before ∧
    t.host.history id = before ++ [.flush result, .drop]

/-- On the way from one table to another a stream is closed: all that is asked of it is one flush,
and then it is dropped. -/
structure Closes (t t' : Descriptors) (id : StreamId) : Prop where
  retired : t'.Retired id
  closing : ∃ result, t'.host.history id = t.host.history id ++ [.flush result, .drop]

/-- What is true of every table: only streams that were handed out were asked for something, those
in the slots are among them, all different, and not dropped, and no closed slot is interactive. -/
structure Ledger (t : Descriptors) : Prop where
  unasked : ∀ id, t.host.streams ≤ id → t.host.history id = []
  numbered : ∀ slot id, t.Holds slot id → id < t.host.streams
  distinct : ∀ slot other id, t.Holds slot id → t.Holds other id → other = slot
  undropped : ∀ slot id, t.Holds slot id → .drop ∉ t.host.history id
  muted : t.Muted

theorem Ledger.owns (ledger : t.Ledger) (held : t.Holds slot id) : t.Owns slot id where
  holds := held
  alone other := ledger.distinct slot other id held
  undropped := ledger.undropped slot id held

theorem Retired.lt (retired : t.Retired id) (ledger : t.Ledger) : id < t.host.streams := by
  refine Nat.lt_of_not_le fun fresh => ?_
  obtain ⟨before, result, -, closing⟩ := retired.closing
  rw [ledger.unasked id fresh] at closing
  simp at closing

/-! ## Who holds what -/

theorem not_holds_closed (host : Host) (slot : Slot) (id : StreamId) :
    ¬(closed host).Holds slot id := by
  rintro ⟨d, found, -⟩
  rw [get?_closed] at found
  cases found

theorem holds_put {other : Slot} :
    (t.put slot (some d)).Holds other id ↔
      if slot = other then d.stream.id = id else t.Holds other id := by
  unfold Holds
  rw [get?_put]
  split
  · simp
  · rfl

theorem holds_closeSlot {other : Slot} :
    (t.closeSlot slot).Holds other id ↔ slot ≠ other ∧ t.Holds other id := by
  unfold Holds
  rw [get?_closeSlot]
  by_cases same : slot = other
  · simp [same]
  · simp [same]

/-- A slot holds what it held if its descriptor is put back with the same stream number. -/
theorem holds_put_of_opened (opened : t.get? slot = some d) {d' : Descriptor}
    (same : d'.stream.id = d.stream.id) (other : Slot) (id : StreamId) :
    (t.put slot (some d')).Holds other id ↔ t.Holds other id := by
  rw [holds_put]
  split
  · next here =>
    subst here
    rw [same]
    unfold Holds
    simp [opened]
  · rfl

theorem history_closeSlot_of_not_holds (unheld : ¬t.Holds slot id) :
    (t.closeSlot slot).host.history id = t.host.history id := by
  cases opened : t.get? slot with
  | none => rw [closeSlot_of_closed opened, host_put]
  | some d =>
    have other : d.stream.id ≠ id := fun mine => unheld ⟨d, opened, mine⟩
    obtain ⟨result, history⟩ := history_closeSlot opened
    rw [history, if_neg other, List.append_nil]

/-- The stream of a slot that is closed is in no other slot, and is flushed and dropped. -/
theorem closes_closeSlot (ledger : t.Ledger) (held : t.Holds slot id) :
    t.Closes (t.closeSlot slot) id := by
  have undropped := ledger.undropped slot id held
  obtain ⟨d, opened, rfl⟩ := held
  obtain ⟨result, history⟩ := history_closeSlot opened
  have grown := history d.stream.id
  rw [if_pos rfl] at grown
  refine ⟨⟨?_, _, result, undropped, grown⟩, result, grown⟩
  intro other held
  obtain ⟨differ, held⟩ := holds_closeSlot.mp held
  exact differ (ledger.distinct other slot _ held ⟨d, opened, rfl⟩)

/-! ## From table to table -/

/-- How a table follows from another: a stream in a slot is still there or was closed, and one that
was handed out and is in no slot stays out and is not asked for anything. -/
structure Advances (t t' : Descriptors) : Prop where
  ledger : t'.Ledger
  streams : t.host.streams ≤ t'.host.streams
  held : ∀ slot id, t.Holds slot id → t'.Holds slot id ∨ t'.Retired id
  unheld : ∀ id, id < t.host.streams → (∀ slot, ¬t.Holds slot id) →
    (∀ slot, ¬t'.Holds slot id) ∧ t'.host.history id = t.host.history id

namespace Advances

theorem refl (ledger : t.Ledger) : t.Advances t where
  ledger := ledger
  streams := Nat.le_refl _
  held _ _ held := .inl held
  unheld _ _ unheld := ⟨unheld, rfl⟩

theorem retired (h : t.Advances t') (ledger : t.Ledger) (retired : t.Retired id) :
    t'.Retired id := by
  obtain ⟨unheld, same⟩ := h.unheld id (retired.lt ledger) retired.unheld
  refine ⟨unheld, ?_⟩
  rw [same]
  exact retired.closing

theorem trans (first : t.Advances t') (second : t'.Advances t'') : t.Advances t'' where
  ledger := second.ledger
  streams := Nat.le_trans first.streams second.streams
  held slot id held := by
    rcases first.held slot id held with still | closed
    · exact second.held slot id still
    · exact .inr (second.retired first.ledger closed)
  unheld id known unheld := by
    obtain ⟨unheld', same⟩ := first.unheld id known unheld
    obtain ⟨unheld'', same'⟩ :=
      second.unheld id (Nat.lt_of_lt_of_le known first.streams) unheld'
    exact ⟨unheld'', same'.trans same⟩

theorem chain (first : t.Ledger → t.Advances t') (second : t'.Ledger → t'.Advances t'')
    (ledger : t.Ledger) : t.Advances t'' := (first ledger).trans (second (first ledger).ledger)

/-- Nothing moves, nothing in a slot is dropped, and whatever is in no slot is left alone. -/
theorem of_unmoved (ledger : t.Ledger) (muted : t'.Muted)
    (streams : t.host.streams ≤ t'.host.streams)
    (holds : ∀ slot id, t'.Holds slot id ↔ t.Holds slot id)
    (unasked : ∀ id, t'.host.streams ≤ id → t'.host.history id = [])
    (undropped : ∀ slot id, t.Holds slot id → .drop ∉ t'.host.history id)
    (quiet : ∀ id, id < t.host.streams → (∀ slot, ¬t.Holds slot id) →
      t'.host.history id = t.host.history id) :
    t.Advances t' := by
  refine ⟨⟨unasked, ?_, ?_, ?_, muted⟩, streams, ?_, ?_⟩
  · intro slot id held
    have before := ledger.numbered slot id ((holds slot id).mp held)
    exact Nat.lt_of_lt_of_le before streams
  · intro slot other id here there
    exact ledger.distinct slot other id ((holds slot id).mp here) ((holds other id).mp there)
  · intro slot id held
    exact undropped slot id ((holds slot id).mp held)
  · intro slot id held
    exact .inl ((holds slot id).mpr held)
  · intro id known unheld
    exact ⟨fun slot held => unheld slot ((holds slot id).mp held), quiet id known unheld⟩

/-- Only streams in slots are asked for something, and none of them is dropped. -/
theorem of_calls (ledger : t.Ledger) (muted : t'.Muted)
    (streams : t'.host.streams = t.host.streams)
    (holds : ∀ slot id, t'.Holds slot id ↔ t.Holds slot id)
    (calls : ∀ id, t'.host.history id = t.host.history id ∨ (∃ slot, t.Holds slot id) ∧
      ∃ events : List StreamEvent, .drop ∉ events ∧
        t'.host.history id = t.host.history id ++ events) :
    t.Advances t' := by
  have quiet (id : StreamId) (unheld : ∀ slot, ¬t.Holds slot id) :
      t'.host.history id = t.host.history id := by
    rcases calls id with same | ⟨⟨slot, held⟩, -⟩
    · exact same
    · exact absurd held (unheld slot)
  refine of_unmoved ledger muted (Nat.le_of_eq streams.symm) holds ?_ ?_ fun id _ => quiet id
  · intro id fresh
    rw [streams] at fresh
    rw [quiet id fun slot held => Nat.not_lt_of_le fresh (ledger.numbered slot id held)]
    exact ledger.unasked id fresh
  · intro slot id held
    have before := ledger.undropped slot id held
    rcases calls id with same | ⟨-, events, kept, grown⟩
    · rw [same]
      exact before
    · rw [grown, List.mem_append]
      exact not_or.mpr ⟨before, kept⟩

/-- A change of the host that no stream takes part in. -/
theorem host (ledger : t.Ledger) {host : Host} (journal : host.journal = t.host.journal)
    (streams : host.streams = t.host.streams) : t.Advances { t with host := host } := by
  refine of_calls ledger (ledger.muted.of_slots rfl) streams (fun _ _ => Iff.rfl) fun id => ?_
  exact .inl (Host.history_eq journal id)

theorem called (ledger : t.Ledger) (opened : t.get? slot = some d) (h : t.Called slot d t') :
    t.Advances t' := by
  obtain ⟨stream, host, served, rfl⟩ := h
  obtain ⟨events, kept, grown⟩ := served.history
  have muted := ledger.muted.put slot (some { d with stream := stream })
  refine of_calls ledger (muted.of_slots rfl) served.streams
    (holds_put_of_opened opened served.id) fun id => ?_
  by_cases mine : d.stream.id = id
  · refine .inr ⟨⟨slot, d, opened, mine⟩, events, kept, ?_⟩
    rw [grown, if_pos mine]
  · refine .inl ?_
    rw [grown, if_neg mine, List.append_nil]

theorem setInteractive (ledger : t.Ledger) (opened : t.get? slot = some d) (on : Bool) :
    t.Advances (t.put slot (some { d with interactive := on })) :=
  of_calls ledger (ledger.muted.put slot _) rfl (holds_put_of_opened opened rfl) fun _ => .inl rfl

/-- One stream is closed, and the others stay where they are. -/
theorem closeSlot (ledger : t.Ledger) (slot : Slot) : t.Advances (t.closeSlot slot) := by
  have streams := streams_closeSlot t slot
  refine ⟨⟨?_, ?_, ?_, ?_, ledger.muted.closeSlot slot⟩, Nat.le_of_eq streams.symm, ?_, ?_⟩
  · intro id fresh
    rw [streams] at fresh
    have unheld : ¬t.Holds slot id := fun held =>
      Nat.not_lt_of_le fresh (ledger.numbered slot id held)
    rw [history_closeSlot_of_not_holds unheld]
    exact ledger.unasked id fresh
  · intro place id held
    rw [streams]
    exact ledger.numbered place id (holds_closeSlot.mp held).2
  · intro here there id heldHere heldThere
    exact ledger.distinct here there id (holds_closeSlot.mp heldHere).2
      (holds_closeSlot.mp heldThere).2
  · intro place id held
    obtain ⟨differ, held⟩ := holds_closeSlot.mp held
    have unheld : ¬t.Holds slot id := fun mine => differ (ledger.distinct place slot id held mine)
    rw [history_closeSlot_of_not_holds unheld]
    exact ledger.undropped place id held
  · intro place id held
    by_cases here : slot = place
    · subst here
      exact .inr (closes_closeSlot ledger held).retired
    · exact .inl (holds_closeSlot.mpr ⟨here, held⟩)
  · intro id _ unheld
    exact ⟨fun place held => unheld place (holds_closeSlot.mp held).2,
      history_closeSlot_of_not_holds (unheld slot)⟩

/-- A stream gets its number before it gets its slot. -/
theorem adopt (ledger : t.Ledger) (backend : Backend) : t.Advances (t.adopt backend).2 :=
  of_unmoved ledger (ledger.muted.of_slots rfl) (Nat.le_succ _) (fun _ _ => Iff.rfl)
    (fun id fresh => ledger.unasked id (Nat.le_of_succ_le fresh)) ledger.undropped
    fun _ _ _ => rfl

/-- A new stream, which is nowhere yet, is put into a closed slot. -/
theorem put (ledger : t.Ledger) (h : t.Advances t') (closed : t'.get? slot = none)
    (new : t.host.streams ≤ d.stream.id) (numbered : d.stream.id < t'.host.streams)
    (unheld : ∀ slot, ¬t'.Holds slot d.stream.id) (kept : .drop ∉ t'.host.history d.stream.id) :
    t.Advances (t'.put slot (some d)) := by
  -- The slot was closed, so whatever is held elsewhere or was held before is as it was.
  have cases {place : Slot} {id : StreamId} (held : (t'.put slot (some d)).Holds place id) :
      place = slot ∧ id = d.stream.id ∨ t'.Holds place id := by
    rw [holds_put] at held
    split at held
    · next here => exact .inl ⟨here.symm, held.symm⟩
    · exact .inr held
  have still {place : Slot} {id : StreamId} (held : t'.Holds place id) :
      (t'.put slot (some d)).Holds place id := by
    rw [holds_put, if_neg]
    · exact held
    · rintro rfl
      obtain ⟨d', found, -⟩ := held
      rw [closed] at found
      cases found
  have fresh {id : StreamId} (known : id < t.host.streams) : id ≠ d.stream.id :=
    Nat.ne_of_lt (Nat.lt_of_lt_of_le known new)
  obtain ⟨unasked, numbered', distinct, undropped, muted⟩ := h.ledger
  refine ⟨⟨unasked, ?_, ?_, ?_, muted.put slot (some d)⟩, h.streams, ?_, ?_⟩
  · intro place id held
    rcases cases held with ⟨-, rfl⟩ | held
    · exact numbered
    · exact numbered' place id held
  · intro here there id heldHere heldThere
    rcases cases heldHere with ⟨rfl, rfl⟩ | heldHere
    · exact ((cases heldThere).resolve_right (unheld there)).1
    · rcases cases heldThere with ⟨-, rfl⟩ | heldThere
      · exact absurd heldHere (unheld here)
      · exact distinct here there id heldHere heldThere
  · intro place id held
    rcases cases held with ⟨-, rfl⟩ | held
    · exact kept
    · exact undropped place id held
  · intro place id held
    have known := ledger.numbered place id held
    rcases h.held place id held with held | retired
    · exact .inl (still held)
    · refine .inr ⟨fun other held => ?_, retired.closing⟩
      rcases cases held with ⟨-, rfl⟩ | held
      · exact fresh known rfl
      · exact retired.unheld other held
  · intro id known none
    obtain ⟨none, same⟩ := h.unheld id known none
    refine ⟨fun place held => ?_, same⟩
    rcases cases held with ⟨-, rfl⟩ | held
    · exact fresh known rfl
    · exact none place held

end Advances

/-! ## Closing -/

/-- Nothing but closing happens: a stream is in its slot still and was asked for nothing, or it was
closed. -/
structure Sheds (t t' : Descriptors) : Prop where
  advances : t.Advances t'
  sheds : ∀ slot id, t.Holds slot id →
    t'.Holds slot id ∧ t'.host.history id = t.host.history id ∨ t.Closes t' id

namespace Sheds

theorem refl (ledger : t.Ledger) : t.Sheds t where
  advances := .refl ledger
  sheds _ _ held := .inl ⟨held, rfl⟩

theorem trans (first : t.Sheds t') (second : t'.Sheds t'') : t.Sheds t'' := by
  refine ⟨first.advances.trans second.advances, fun slot id held => ?_⟩
  rcases first.sheds slot id held with ⟨held, same⟩ | ⟨retired, result, closing⟩
  · rcases second.sheds slot id held with ⟨held, same'⟩ | closes
    · exact .inl ⟨held, same'.trans same⟩
    · refine .inr ⟨closes.retired, ?_⟩
      rw [← same]
      exact closes.closing
  · have ledger := first.advances.ledger
    obtain ⟨-, same⟩ := second.advances.unheld id (retired.lt ledger) retired.unheld
    exact .inr ⟨second.advances.retired ledger retired, result, same.trans closing⟩

theorem closeSlot (ledger : t.Ledger) (slot : Slot) : t.Sheds (t.closeSlot slot) := by
  refine ⟨.closeSlot ledger slot, fun place id held => ?_⟩
  by_cases here : slot = place
  · subst here
    exact .inr (closes_closeSlot ledger held)
  · have unheld : ¬t.Holds slot id := fun mine =>
      here (ledger.distinct place slot id held mine)
    exact .inl ⟨holds_closeSlot.mpr ⟨here, held⟩, history_closeSlot_of_not_holds unheld⟩

theorem closeAll (ledger : t.Ledger) : t.Sheds t.closeAll :=
  closeAll_keeps (R := fun t t' => t.Ledger → t.Sheds t') (fun _ => refl)
    (fun _ _ _ first second ledger => (first ledger).trans (second (first ledger).advances.ledger))
    (fun _ slot ledger => closeSlot ledger slot) t ledger

end Sheds

/-- Dropping the table closes what is in it. -/
theorem closes_closeAll (ledger : t.Ledger) (held : t.Holds slot id) :
    t.Closes t.closeAll id := by
  refine ((Sheds.closeAll ledger).sheds slot id held).resolve_left ?_
  rintro ⟨⟨d, found, -⟩, -⟩
  rw [get?_closeAll] at found
  cases found

theorem closes_close (ledger : t.Ledger) (held : t.Holds slot id) {index : UInt64}
    (number : index.toNat = slot.val) : t.Closes ((close index).run t).2 id := by
  have closed := closes_closeSlot ledger held
  obtain ⟨d, opened, rfl⟩ := held
  have found := Faulting.run_query (fun t : Descriptors => t.find index) t
  rw [find_of_get? number opened] at found
  unfold close
  rw [Faulting.run_bind_ok found]
  exact closed

/-! ## Installing -/

/-- A stream that is handed to the table is new to it. -/
theorem Ledger.unheld_streams (ledger : t.Ledger) (slot : Slot) :
    ¬t.Holds slot t.host.streams := fun held =>
  Nat.lt_irrefl _ (ledger.numbered slot _ held)

theorem advances_install (ledger : t.Ledger) (slot : Slot) (backend : Backend)
    (interactive : Bool) : t.Advances ((install slot.val backend interactive).run t).2 := by
  have adopted := Advances.adopt ledger backend
  have closed := Advances.closeSlot adopted.ledger slot
  have unheld : ∀ place, ¬(t.adopt backend).2.Holds place t.host.streams := ledger.unheld_streams
  obtain ⟨unheld, same⟩ := closed.unheld t.host.streams (Nat.lt_succ_self _) unheld
  rw [run_install]
  refine .put ledger (adopted.trans closed) ?_ (Nat.le_refl _) ?_ unheld ?_
  · rw [get?_closeSlot, if_pos rfl]
  · rw [streams_closeSlot]
    exact Nat.lt_succ_self _
  · have unasked : (t.adopt backend).2.host.history t.host.streams = [] :=
      ledger.unasked _ (Nat.le_refl _)
    rw [same, unasked]
    exact List.not_mem_nil

/-- What the slot of an installed stream held before is closed. -/
theorem closes_install (ledger : t.Ledger) (held : t.Holds slot id) (backend : Backend)
    (interactive : Bool) : t.Closes ((install slot.val backend interactive).run t).2 id := by
  have replaced : ¬((install slot.val backend interactive).run t).2.Holds slot id := by
    rw [run_install, holds_put, if_pos rfl]
    exact Nat.ne_of_gt (ledger.numbered slot id held)
  refine ⟨((advances_install ledger slot backend interactive).held slot id held).resolve_left
    replaced, ?_⟩
  have held' : (t.adopt backend).2.Holds slot id := held
  have closed := closes_closeSlot (Advances.adopt ledger backend).ledger held'
  rw [run_install]
  exact closed.closing

theorem streams_install_of_le {index : Nat} (outside : 16 ≤ index) (backend : Backend)
    (interactive : Bool) :
    ((install index backend interactive).run t).2.host.streams = t.host.streams + 1 := by
  rw [run_install_of_le outside]
  rfl

theorem holds_install_of_le {index : Nat} {backend : Backend} {interactive : Bool}
    (outside : 16 ≤ index) :
    ((install index backend interactive).run t).2.Holds slot id ↔ t.Holds slot id := by
  rw [run_install_of_le outside]
  rfl

/-- A stream for a slot that does not exist is dropped, and that is all. -/
theorem history_install_of_le {index : Nat} (outside : 16 ≤ index) (backend : Backend)
    (interactive : Bool) (id : StreamId) :
    ((install index backend interactive).run t).2.host.history id =
      t.host.history id ++ if t.host.streams = id then [.drop] else [] := by
  rw [run_install_of_le outside]
  exact Host.history_record _ _ _ _

theorem advances_install_of_le {index : Nat} (ledger : t.Ledger) (outside : 16 ≤ index)
    (backend : Backend) (interactive : Bool) :
    t.Advances ((install index backend interactive).run t).2 := by
  have quiet (id : StreamId) (other : t.host.streams ≠ id) :
      ((install index backend interactive).run t).2.host.history id = t.host.history id := by
    rw [history_install_of_le outside, if_neg other, List.append_nil]
  have streams := streams_install_of_le (t := t) outside backend interactive
  have muted : ((install index backend interactive).run t).2.Muted :=
    ledger.muted.of_slots (slots_install_of_le outside)
  refine .of_unmoved ledger muted ?_ (fun _ _ => holds_install_of_le outside) ?_ ?_ ?_
  · rw [streams]
    exact Nat.le_succ _
  · intro id fresh
    rw [streams] at fresh
    rw [quiet id (Nat.ne_of_lt fresh)]
    exact ledger.unasked id (Nat.le_of_succ_le fresh)
  · intro slot id held
    rw [quiet id (Nat.ne_of_gt (ledger.numbered slot id held))]
    exact ledger.undropped slot id held
  · intro id known _
    exact quiet id (Nat.ne_of_gt known)

end GuestMachine.Descriptors
