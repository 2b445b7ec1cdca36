import GuestMachine.Codec
import GuestMachine.Proofs.Bytes
import GuestMachine.Proofs.Faulting

/-!
# The codec of fixed-layout records

Every layout writes its values to byte strings of one length, one for each string of that length,
and reads them back whatever follows. Main statement: `Layout.faithful`; from it, what reading and
counting give on any whole input.
-/

namespace GuestMachine.Layout

/-! ## Writing -/

theorem encodeTo_eq_append (layout : Layout) (v : layout.Value) (out : Bytes) :
    layout.encodeTo v out = out ++ layout.encode v := by
  induction layout generalizing out with
  | unit => exact (List.append_nil out).symm
  | byte => rfl
  | word => rfl
  | array count item ih =>
    have appends : (fun (out : Bytes) x => item.encodeTo x out) =
        fun out x => out ++ item.encode x := by
      funext out x
      exact ih x out
    show v.toList.foldl (fun out x => item.encodeTo x out) out =
      out ++ v.toList.foldl (fun out x => item.encodeTo x out) []
    rw [appends, List.foldl_append_eq_append, List.foldl_append_eq_append, List.nil_append]
  | pair first second ihFirst ihSecond =>
    obtain ⟨x, y⟩ := v
    show second.encodeTo y (first.encodeTo x out) =
      out ++ second.encodeTo y (first.encodeTo x [])
    rw [ihSecond, ihFirst, ihSecond y (first.encodeTo x []), List.append_assoc]
    rfl

theorem encode_pair {first second : Layout} (x : first.Value) (y : second.Value) :
    (pair first second).encode (x, y) = first.encode x ++ second.encode y :=
  encodeTo_eq_append second y (first.encodeTo x [])

theorem encode_array {count : Nat} {item : Layout} (items : Vector item.Value count) :
    (array count item).encode items = items.toList.flatMap item.encode := by
  have appends : (fun (out : Bytes) x => item.encodeTo x out) =
      fun out x => out ++ item.encode x := by
    funext out x
    exact encodeTo_eq_append item x out
  show items.toList.foldl (fun out x => item.encodeTo x out) [] = items.toList.flatMap item.encode
  rw [appends, List.foldl_append_eq_append, List.nil_append, List.flatMap_def]

/-! ## Reading -/

/-- `read` takes a value off the front of its input if there are `size` bytes, and it is undone by
`write`, which writes one value as every string of `size` bytes. -/
structure Faithful {α : Type} (size : Nat) (write : α → Bytes)
    (read : Bytes → Except DecodeError (α × Bytes)) : Prop where
  length : ∀ x, (write x).length = size
  onto : ∀ bytes : Bytes, bytes.length = size → ∃ x, write x = bytes
  append : ∀ x rest, read (write x ++ rest) = .ok (x, rest)
  short : ∀ input : Bytes, input.length < size → read input = .error .unexpectedEnd

namespace Faithful

variable {α β : Type} {size size' : Nat} {write : α → Bytes} {write' : β → Bytes}
  {read : Bytes → Except DecodeError (α × Bytes)} {read' : Bytes → Except DecodeError (β × Bytes)}

/-- Enough input is a value and what follows it. -/
theorem split (h : Faithful size write read) {input : Bytes} (enough : size ≤ input.length) :
    ∃ x, input = write x ++ input.drop size ∧ read input = .ok (x, input.drop size) := by
  obtain ⟨x, written⟩ := h.onto (input.take size) (List.length_take_of_le enough)
  have whole : input = write x ++ input.drop size := by
    rw [written, List.take_append_drop]
  refine ⟨x, whole, ?_⟩
  have back := h.append x (input.drop size)
  rw [← whole] at back
  exact back

theorem sound (h : Faithful size write read) {input rest : Bytes} {x : α}
    (ok : read input = .ok (x, rest)) : input = write x ++ rest := by
  by_cases enough : size ≤ input.length
  · obtain ⟨y, whole, again⟩ := h.split enough
    rw [again] at ok
    cases ok
    exact whole
  · rw [h.short input (Nat.lt_of_not_le enough)] at ok
    cases ok

theorem of_eq (h : Faithful size write read) {write' : α → Bytes}
    {read' : Bytes → Except DecodeError (α × Bytes)} (writes : ∀ x, write' x = write x)
    (reads : ∀ input, read' input = read input) : Faithful size write' read' := by
  rw [funext writes, funext reads]
  exact h

theorem unit : Faithful Layout.unit.size Layout.unit.encode Layout.unit.decode where
  length _ := rfl
  onto _ h := ⟨(), (List.length_eq_zero_iff.mp h).symm⟩
  append _ _ := rfl
  short _ h := absurd h (Nat.not_lt_zero _)

theorem scalar {count : Nat} (ofBytes : Bytes → α) (length : ∀ x, (write x).length = count)
    (back : ∀ x, ofBytes (write x) = x)
    (forth : ∀ bytes : Bytes, bytes.length = count → write (ofBytes bytes) = bytes) :
    Faithful count write fun input => do
      let (head, rest) ← take count input
      return (ofBytes head, rest) where
  length := length
  onto bytes h := ⟨ofBytes bytes, forth bytes h⟩
  append x rest := by
    have enough : ¬(write x ++ rest).length < count := by
      rw [List.length_append, length]
      omega
    have taken : take count (write x ++ rest) = .ok (write x, rest) := by
      rw [take, if_neg enough, List.splitAt_eq, List.take_left' (length x),
        List.drop_left' (length x)]
    rw [taken]
    show Except.ok (ofBytes (write x), rest) = .ok (x, rest)
    rw [back]
  short input h := by
    rw [take, if_pos h]
    rfl

theorem byte : Faithful Layout.byte.size Layout.byte.encode Layout.byte.decode := by
  have single : ∀ b : UInt8, UInt8.ofNat (Bytes.value [b]) = b := by
    intro b
    show UInt8.ofNat (b.toNat + 256 * 0) = b
    rw [Nat.mul_zero, Nat.add_zero]
    exact UInt8.ofNat_toNat
  refine scalar (fun bytes => UInt8.ofNat (Bytes.value bytes)) (fun _ => rfl) single ?_
  intro bytes h
  obtain ⟨b, rfl⟩ := List.length_eq_one_iff.mp h
  show [UInt8.ofNat (Bytes.value [b])] = [b]
  rw [single]

theorem word : Faithful Layout.word.size Layout.word.encode Layout.word.decode :=
  scalar Bytes.toWord Bytes.length_ofWord Bytes.toWord_ofWord fun _ h => Bytes.ofWord_toWord h

theorem pair (first : Faithful size write read) (second : Faithful size' write' read') :
    Faithful (size + size') (fun v => write v.1 ++ write' v.2) fun input => do
      let (x, input) ← read input
      let (y, input) ← read' input
      return ((x, y), input) where
  length v := by rw [List.length_append, first.length, second.length]
  onto bytes h := by
    obtain ⟨x, front⟩ := first.onto (bytes.take size) (by rw [List.length_take]; omega)
    obtain ⟨y, back⟩ := second.onto (bytes.drop size) (by rw [List.length_drop]; omega)
    exact ⟨(x, y), by rw [front, back, List.take_append_drop]⟩
  append v rest := by
    rw [List.append_assoc, first.append]
    show (do let (y, input) ← read' (write' v.2 ++ rest); return ((v.1, y), input)) = .ok (v, rest)
    rw [second.append]
    rfl
  short input h := by
    by_cases enough : size ≤ input.length
    · obtain ⟨x, -, taken⟩ := first.split enough
      have little : (input.drop size).length < size' := by
        rw [List.length_drop]
        omega
      rw [taken]
      show (do let (y, rest) ← read' (input.drop size); return ((x, y), rest)) = _
      rw [second.short _ little]
      rfl
    · rw [first.short input (Nat.lt_of_not_le enough)]
      rfl

theorem map (h : Faithful size write read) (f : α → β) (g : β → α) (fg : ∀ y, f (g y) = y)
    (gf : ∀ x, g (f x) = x) :
    Faithful size (fun y => write (g y)) fun input => do
      let (x, rest) ← read input
      return (f x, rest) where
  length y := h.length (g y)
  onto bytes length := by
    obtain ⟨x, written⟩ := h.onto bytes length
    exact ⟨f x, by rw [gf, written]⟩
  append y rest := by
    rw [h.append]
    show Except.ok (f (g y), rest) = .ok (y, rest)
    rw [fg]
  short input little := by
    rw [h.short input little]
    rfl

/-- Items one after the other: the last item follows an array of the others. -/
theorem items (item : Faithful size write read) (count : Nat) :
    Faithful (count * size) (fun v : Vector α count => v.toList.flatMap write)
      (decodeItems read count) := by
  induction count with
  | zero =>
    have nothing : ∀ v : Vector α 0, v = #v[] := fun v => Vector.eq_empty
    refine ⟨fun v => ?_, fun bytes h => ⟨#v[], ?_⟩, fun v rest => ?_, fun input h => ?_⟩
    · rw [nothing v, Nat.zero_mul]
      rfl
    · rw [Nat.zero_mul] at h
      exact (List.length_eq_zero_iff.mp h).symm
    · rw [nothing v]
      rfl
    · omega
  | succ count ih =>
    have split : ∀ v : Vector α count × α, ((v.1.push v.2).pop, (v.1.push v.2).back) = v := by
      intro v
      simp [Vector.back]
    have grown := (ih.pair item).map (fun v => v.1.push v.2)
      (fun v : Vector α (count + 1) => (v.pop, v.back)) Vector.push_pop_back split
    rw [Nat.succ_mul]
    refine grown.of_eq (fun v => ?_) fun input => ?_
    · have ends : v.toList = v.pop.toList ++ [v.back] := by
        rw [← Vector.toList_push, Vector.push_pop_back]
      rw [ends, List.flatMap_append, List.flatMap_singleton]
    · simp only [decodeItems, bind_assoc, pure_bind]

end Faithful

/-- Every layout reads back what it writes, and nothing else. -/
theorem faithful (layout : Layout) : Faithful layout.size layout.encode layout.decode := by
  induction layout with
  | unit => exact .unit
  | byte => exact .byte
  | word => exact .word
  | array count item ih => exact (ih.items count).of_eq encode_array fun _ => rfl
  | pair first second ihFirst ihSecond =>
    exact (ihFirst.pair ihSecond).of_eq (fun v => encode_pair v.1 v.2) fun _ => rfl

/-! ## Counting -/

/-- The counting sink grows by the size of the layout, whatever the value. -/
theorem total_encodeTo (layout : Layout) (v : layout.Value) (count : ByteCount) :
    (layout.encodeTo v count).total = count.total + layout.size := by
  induction layout generalizing count with
  | unit => rfl
  | byte => rfl
  | word => exact congrArg (count.total + ·) (Bytes.length_ofWord v)
  | array n item ih =>
    have counted : ∀ (items : List item.Value) (count : ByteCount),
        (items.foldl (fun out x => item.encodeTo x out) count).total =
          count.total + items.length * item.size := by
      intro items
      induction items with
      | nil => simp
      | cons x rest ihItems =>
        intro count
        rw [List.foldl_cons, ihItems, ih, List.length_cons, Nat.succ_mul]
        omega
    have all := counted v.toList count
    rw [Vector.length_toList] at all
    exact all
  | pair first second ihFirst ihSecond =>
    obtain ⟨x, y⟩ := v
    show (second.encodeTo y (first.encodeTo x count)).total = _
    rw [ihSecond, ihFirst, size, Nat.add_assoc]

theorem encodedLength_eq (layout : Layout) (v : layout.Value) :
    layout.encodedLength v = layout.size := by
  simp [encodedLength, total_encodeTo, ByteCount.zero]

/-! ## Whole inputs -/

variable {layout : Layout} {input : Bytes}

/-- Reading succeeds on a written value with anything behind it, and on nothing else. -/
theorem decode_eq_ok_iff {v : layout.Value} {rest : Bytes} :
    layout.decode input = .ok (v, rest) ↔ input = layout.encode v ++ rest := by
  constructor
  · exact layout.faithful.sound
  · rintro rfl
    exact layout.faithful.append v rest

theorem decode_eq_error_iff :
    layout.decode input = .error .unexpectedEnd ↔ input.length < layout.size := by
  constructor
  · intro failed
    refine Nat.lt_of_not_le fun enough => ?_
    obtain ⟨v, -, read⟩ := layout.faithful.split enough
    rw [read] at failed
    cases failed
  · exact layout.faithful.short input

/-- The outcome of reading a whole input is decided by its length. -/
theorem decodeAll_cases (layout : Layout) (input : Bytes) :
    (input.length < layout.size ∧ layout.decodeAll input = .error .unexpectedEnd) ∨
    (∃ v, input = layout.encode v ∧ layout.decodeAll input = .ok v) ∨
    (layout.size < input.length ∧
      layout.decodeAll input = .error (.trailingBytes (input.length - layout.size))) := by
  unfold decodeAll
  by_cases short : input.length < layout.size
  · rw [decode_eq_error_iff.mpr short]
    exact .inl ⟨short, rfl⟩
  · obtain ⟨v, whole, read⟩ := layout.faithful.split (Nat.le_of_not_lt short)
    rw [read]
    by_cases exactly : input.length = layout.size
    · have nothing : input.drop layout.size = [] := List.drop_eq_nil_of_le (Nat.le_of_eq exactly)
      rw [nothing, List.append_nil] at whole
      rw [nothing]
      exact .inr (.inl ⟨v, whole, rfl⟩)
    · have long : layout.size < input.length := by omega
      have some : (input.drop layout.size).isEmpty = false := by
        rw [List.isEmpty_eq_false_iff, ne_eq, List.drop_eq_nil_iff]
        omega
      refine .inr (.inr ⟨long, ?_⟩)
      show (if (input.drop layout.size).isEmpty then _ else _) = _
      rw [some, List.length_drop]
      rfl

theorem decodeAll_eq_ok_iff {v : layout.Value} :
    layout.decodeAll input = .ok v ↔ input = layout.encode v := by
  constructor
  · intro ok
    rcases decodeAll_cases layout input with ⟨-, failed⟩ | ⟨v', written, read⟩ | ⟨-, failed⟩
    · rw [failed] at ok
      cases ok
    · rw [read] at ok
      cases ok
      exact written
    · rw [failed] at ok
      cases ok
  · rintro rfl
    have whole := layout.faithful.append v []
    rw [List.append_nil] at whole
    unfold decodeAll
    rw [whole]
    rfl

theorem decodeAll_eq_trailingBytes_iff {n : Nat} :
    layout.decodeAll input = .error (.trailingBytes n) ↔
      layout.size < input.length ∧ n = input.length - layout.size := by
  constructor
  · intro failed
    rcases decodeAll_cases layout input with ⟨-, failed'⟩ | ⟨v, -, read⟩ | ⟨long, failed'⟩
    · rw [failed'] at failed
      cases failed
    · rw [read] at failed
      cases failed
    · rw [failed'] at failed
      cases failed
      exact ⟨long, rfl⟩
  · rintro ⟨long, rfl⟩
    rcases decodeAll_cases layout input with ⟨short, -⟩ | ⟨v, written, -⟩ | ⟨-, failed⟩
    · omega
    · rw [written, layout.faithful.length] at long
      exact absurd long (Nat.lt_irrefl _)
    · exact failed

/-- Every layout has one size, which depends on nothing but the layout: a value is written to so
many bytes, and the counting sink counts so many. Reading gives a value and leaves a rest exactly
for what is written for the value with that rest behind it, whatever the rest, and reports the end
of the input exactly if there are fewer bytes. A whole input is a value exactly if it has that many
bytes, and the bytes beyond are reported exactly if it has more. -/
theorem codec_exact (layout : Layout) :
    (∀ v, (layout.encode v).length = layout.size ∧ layout.encodedLength v = layout.size) ∧
    (∀ v input rest, layout.decode input = .ok (v, rest) ↔ input = layout.encode v ++ rest) ∧
    (∀ input, layout.decode input = .error .unexpectedEnd ↔ input.length < layout.size) ∧
    (∀ v input, layout.decodeAll input = .ok v ↔ input = layout.encode v) ∧
    (∀ input, (∃ v, layout.decodeAll input = .ok v) ↔ input.length = layout.size) ∧
    (∀ input n, layout.decodeAll input = .error (.trailingBytes n) ↔
      layout.size < input.length ∧ n = input.length - layout.size) := by
  refine ⟨fun v => ⟨layout.faithful.length v, layout.encodedLength_eq v⟩,
    fun _ _ _ => decode_eq_ok_iff, fun _ => decode_eq_error_iff, fun _ _ => decodeAll_eq_ok_iff,
    fun input => ⟨?_, ?_⟩, fun _ _ => decodeAll_eq_trailingBytes_iff⟩
  · rintro ⟨v, read⟩
    rw [decodeAll_eq_ok_iff.mp read, layout.faithful.length]
  · intro length
    obtain ⟨v, written⟩ := layout.faithful.onto input length
    exact ⟨v, decodeAll_eq_ok_iff.mpr written.symm⟩

end GuestMachine.Layout
