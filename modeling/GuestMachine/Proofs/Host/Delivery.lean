import GuestMachine.Proofs.Host

/-!
# Handing bytes to a stream

A stream may take fewer bytes than it is offered, so it is offered the rest again until it has them
all, fails, or takes none. The journal tells what happened: each call offers what was not taken
before, and the bytes that were taken, put together, are the front of what was to be handed over.
-/

namespace GuestMachine

namespace StreamEvent

/-- The bytes that a stream took. -/
def accepted : StreamEvent → Bytes
  | .write offered (.ok count) => offered.take count
  | _ => []

/-- Why a stream that was offered bytes took none of them, if so. -/
def refusal? : StreamEvent → Option HostError
  | .write _ (.error e) => some e
  | .write _ (.ok 0) => some .writeZero
  | _ => none

/-- The bytes that a stream took in the course of events. -/
def allAccepted (events : List StreamEvent) : Bytes := events.flatMap accepted

/-- No answer among the events is that more bytes were taken than were offered. -/
def Counted (events : List StreamEvent) : Prop :=
  ∀ offered count, .write offered (.ok count) ∈ events → count ≤ offered.length

theorem allAccepted_cons (event : StreamEvent) (events : List StreamEvent) :
    allAccepted (event :: events) = event.accepted ++ allAccepted events := rfl

end StreamEvent

open StreamEvent (allAccepted allAccepted_cons Counted)

namespace Stream

/-- The stream never tells that it took more than it was offered. -/
def Measured (s : Stream) : Prop :=
  ∀ device, s.backend = .device device → ∀ events data count, data ≠ [] →
    device.write events data = .ok count → count ≤ data.length

namespace Measured

variable {s : Stream} {h : Host} {data : Bytes} {count : Nat}

theorem count_le (measured : s.Measured) (left : data ≠ [])
    (taken : (s.writeSome h data).result = .ok count) : count ≤ data.length := by
  have taken : (s.writeBackend h data).result = .ok count := taken
  unfold writeBackend at taken
  split at taken
  · split at taken
    · exact Nat.le_of_eq (Except.ok.inj taken).symm
    · cases taken
  · cases taken
  · exact Nat.le_of_eq (Except.ok.inj taken).symm
  · exact Nat.le_of_eq (Except.ok.inj taken).symm
  · next device backend => exact measured device backend _ _ _ left taken

theorem writeSome (measured : s.Measured) (h : Host) (data : Bytes) :
    (s.writeSome h data).stream.Measured := by
  show (s.writeBackend h data).stream.Measured
  unfold writeBackend
  split
  · split
    · exact fun device backend => nomatch backend
    · exact measured
  · exact measured
  · exact measured
  · exact measured
  · exact measured

end Measured

/-! ## The calls that hand bytes over -/

/-- The calls by which `data` is offered to a stream until it is taken, and the outcome. -/
inductive Offers : Bytes → List StreamEvent → Except HostError Unit → Prop
  | done : Offers [] [] (.ok ())
  | refused {data : Bytes} (e : HostError) (left : data ≠ []) :
    Offers data [.write data (.error e)] (.error e)
  | stuck {data : Bytes} (left : data ≠ []) :
    Offers data [.write data (.ok 0)] (.error .writeZero)
  | taken {data : Bytes} {events : List StreamEvent} {result : Except HostError Unit} {count : Nat}
    (left : data ≠ []) (some : 0 < count) (rest : Offers (data.drop count) events result) :
    Offers data (.write data (.ok count) :: events) result

/-- However a stream answers, it is offered what is left until nothing is, and asked for nothing
else. -/
theorem offers_writeAll (s : Stream) (h : Host) (data : Bytes) :
    ∃ events, Offers data events (s.writeAll h data).result ∧ (s.Measured → Counted events) ∧
      ∀ id, (s.writeAll h data).host.history id =
        h.history id ++ if s.id = id then events else [] := by
  fun_induction writeAll s h data with
  | case1 s h => exact ⟨[], .done, fun _ => by simp [Counted], by simp⟩
  | case2 s h b rest r e failed =>
    have grown := s.history_writeSome h (b :: rest)
    rw [show (s.writeSome h (b :: rest)).result = .error e from failed] at grown
    exact ⟨_, .refused e (List.cons_ne_nil b rest), fun _ => by simp [Counted], grown⟩
  | case3 s h b rest r stuck =>
    have grown := s.history_writeSome h (b :: rest)
    rw [show (s.writeSome h (b :: rest)).result = .ok 0 from stuck] at grown
    exact ⟨_, .stuck (List.cons_ne_nil b rest), fun _ => by simp [Counted], grown⟩
  | case4 s h b rest r n taken ih =>
    have same : r.stream.id = s.id := (serves_writeSome s h (b :: rest)).id
    obtain ⟨events, offers, counted, grown⟩ := ih
    refine ⟨_, .taken (List.cons_ne_nil b rest) (Nat.succ_pos n) offers, fun measured => ?_,
      fun id => ?_⟩
    · intro offered count told
      rcases List.mem_cons.mp told with first | later
      · cases first
        exact measured.count_le (List.cons_ne_nil b rest) taken
      · exact counted (measured.writeSome h (b :: rest)) offered count later
    · rw [grown, same, s.history_writeSome h (b :: rest),
        show (s.writeSome h (b :: rest)).result = .ok (n + 1) from taken]
      by_cases mine : s.id = id
      · simp [mine]
      · simp [mine]

namespace Offers

variable {data : Bytes} {events : List StreamEvent} {result : Except HostError Unit}

/-- A stream is called at most once for each byte. -/
theorem length_le (offers : Offers data events result) : events.length ≤ data.length := by
  induction offers with
  | done => exact Nat.le_refl 0
  | refused e left => exact List.length_pos_iff.mpr left
  | stuck left => exact List.length_pos_iff.mpr left
  | taken left some rest ih =>
    have nonempty := List.length_pos_iff.mpr left
    rw [List.length_drop] at ih
    rw [List.length_cons]
    omega

/-- What was taken is the front of what was to be handed over. -/
theorem isPrefix (offers : Offers data events result) : allAccepted events <+: data := by
  induction offers with
  | done => exact List.nil_prefix
  | refused e left => exact List.nil_prefix
  | stuck left => exact List.nil_prefix
  | @taken data events result count left some rest ih =>
    have joined : data.take count ++ allAccepted events <+: data.take count ++ data.drop count :=
      (List.prefix_append_right_inj _).mpr ih
    rwa [List.take_append_drop] at joined

theorem result_eq_ok_iff (offers : Offers data events result) :
    result = .ok () ↔ allAccepted events = data := by
  induction offers with
  | done => exact iff_of_true rfl rfl
  | refused e left => exact iff_of_false nofun fun all => left all.symm
  | stuck left => exact iff_of_false nofun fun all => left all.symm
  | @taken data events result count left some rest ih =>
    have split : allAccepted (.write data (.ok count) :: events) = data ↔
        data.take count ++ allAccepted events = data.take count ++ data.drop count := by
      rw [List.take_append_drop]
      rfl
    rw [ih, split, List.append_cancel_left_eq]

/-- Each call offers what was not taken before it, and there is something left. -/
theorem offered (offers : Offers data events result) {before after : List StreamEvent}
    {event : StreamEvent} (split : events = before ++ event :: after) :
    (allAccepted before).length < data.length ∧
      ∃ answer, event = .write (data.drop (allAccepted before).length) answer := by
  induction offers generalizing before with
  | done => simp at split
  | refused e left | stuck left =>
    cases before with
    | nil =>
      obtain ⟨rfl, -⟩ := List.cons.inj split
      exact ⟨List.length_pos_iff.mpr left, _, rfl⟩
    | cons first more => simp at split
  | @taken data events result count left some rest ih =>
    cases before with
    | nil =>
      obtain ⟨rfl, -⟩ := List.cons.inj split
      exact ⟨List.length_pos_iff.mpr left, _, rfl⟩
    | cons first more =>
      obtain ⟨rfl, later⟩ := List.cons.inj split
      obtain ⟨inside, answer, offer⟩ := ih later
      rw [List.drop_drop] at offer
      rw [List.length_drop] at inside
      have most : count ≤ data.length := by omega
      have length : (allAccepted (.write data (.ok count) :: more)).length =
          count + (allAccepted more).length := by
        rw [allAccepted_cons, List.length_append]
        congr 1
        exact List.length_take_of_le most
      rw [length]
      exact ⟨by omega, answer, offer⟩

/-- After a call by which nothing was taken there is no other. -/
theorem last_of_refusal (offers : Offers data events result) {before after : List StreamEvent}
    {event : StreamEvent} {e : HostError} (split : events = before ++ event :: after)
    (refused : event.refusal? = some e) : after = [] := by
  induction offers generalizing before with
  | done => simp at split
  | refused e left | stuck left =>
    cases before with
    | nil => exact (List.cons.inj split).2.symm
    | cons first more => simp at split
  | @taken data events result count left some rest ih =>
    cases before with
    | nil =>
      obtain ⟨rfl, -⟩ := List.cons.inj split
      obtain ⟨n, rfl⟩ := Nat.exists_eq_add_one.mpr some
      cases refused
    | cons first more => exact ih (List.cons.inj split).2

theorem result_eq_error_iff (offers : Offers data events result) (e : HostError) :
    result = .error e ↔ ∃ event ∈ events, event.refusal? = some e := by
  induction offers with
  | done => simp
  | refused e' left => simp [StreamEvent.refusal?]
  | stuck left => simp [StreamEvent.refusal?]
  | @taken data events result count left some rest ih =>
    obtain ⟨n, rfl⟩ := Nat.exists_eq_add_one.mpr some
    have fine : (StreamEvent.write data (.ok (n + 1))).refusal? = none := rfl
    simp only [ih, List.mem_cons, exists_eq_or_imp, fine, reduceCtorEq, false_or]

end Offers

/-! ## What was delivered -/

/-- By the calls `events` the stream got `data`, or its front if the result is an error. -/
structure Delivers (data : Bytes) (events : List StreamEvent) (result : Except HostError Unit) :
    Prop where
  /-- There is at most one call for each byte. -/
  calls : events.length ≤ data.length
  /-- Each call offers what was not taken before it, and something is left to offer. -/
  offered : ∀ before event after, events = before ++ event :: after →
    (allAccepted before).length < data.length ∧
      ∃ answer, event = .write (data.drop (allAccepted before).length) answer
  /-- The stream never told that it took more than it was offered. -/
  counted : Counted events
  /-- What was taken, put together in order, is the front of the data. -/
  front : allAccepted events <+: data
  whole : result = .ok () ↔ allAccepted events = data
  /-- An error is that of a call which failed, or by which nothing was taken. -/
  refused : ∀ e, result = .error e ↔ ∃ event ∈ events, event.refusal? = some e
  /-- Nothing is offered after that. -/
  last : ∀ before event after e, events = before ++ event :: after →
    event.refusal? = some e → after = []

theorem Offers.delivers {data : Bytes} {events : List StreamEvent} {result : Except HostError Unit}
    (offers : Offers data events result) (counted : Counted events) :
    Delivers data events result where
  calls := offers.length_le
  offered _ _ _ := offers.offered
  counted := counted
  front := offers.isPrefix
  whole := offers.result_eq_ok_iff
  refused := offers.result_eq_error_iff
  last _ _ _ _ := offers.last_of_refusal

theorem delivers_writeAll {s : Stream} (measured : s.Measured) (h : Host) (data : Bytes) :
    ∃ events, Delivers data events (s.writeAll h data).result ∧
      ∀ id, (s.writeAll h data).host.history id =
        h.history id ++ if s.id = id then events else [] := by
  obtain ⟨events, offers, counted, grown⟩ := offers_writeAll s h data
  exact ⟨events, offers.delivers (counted measured), grown⟩

end Stream

end GuestMachine
