import GuestMachine.Proofs.Machine.Boot
import GuestMachine.Proofs.Memory
import GuestMachine.Proofs.Text.Utf8

/-!
# The argument block

The plan goes down from the top of the stack text by text, and the report of how much it needs
goes up from the sizes. Both agree: the block is planned above the stack barrier exactly if the
bytes it needs are reserved. What is then written is four strings of bytes that do not overlap, so
no write is refused and each is still there at the end.
-/

namespace GuestMachine

/-- Each part of a sequence is where the parts before it end. -/
theorem Memory.Holds.flatMap {α : Type} {m : Memory} {address : Nat} {f : α → Bytes} {xs : List α}
    (h : m.Holds address (xs.flatMap f)) {i : Nat} (hi : i < xs.length) :
    m.Holds (address + ((xs.take i).flatMap f).length) (f xs[i]) := by
  have split : xs.flatMap f = (xs.take i).flatMap f ++ (f xs[i] ++ (xs.drop (i + 1)).flatMap f) := by
    rw [← List.flatMap_cons, ← List.drop_eq_getElem_cons hi, ← List.flatMap_append,
      List.take_append_drop]
  rw [split, Memory.holds_append, Memory.holds_append] at h
  exact h.2.1

namespace ArgumentLayout

/-! ## Planning -/

/-- The addresses of texts that stand one above the other from `start` on. -/
def addresses (start : Nat) : List String → List Nat
  | [] => []
  | text :: rest => start :: addresses (start + textSize text) rest

theorem length_addresses (start : Nat) (args : List String) :
    (addresses start args).length = args.length := by
  induction args generalizing start with
  | nil => rfl
  | cons text rest ih => simp [addresses, ih]

theorem getElem_addresses {start : Nat} {args : List String} {i : Nat}
    (hi : i < (addresses start args).length) :
    (addresses start args)[i] = start + textsSize (args.take i) := by
  induction args generalizing start i with
  | nil => cases hi
  | cons text rest ih =>
    cases i with
    | zero => simp [addresses, textsSize]
    | succ i => simp [addresses, textsSize, ih, Nat.add_assoc]

/-- The size of the first texts grows by one text at a time. -/
theorem textsSize_take_succ {args : List String} {i : Nat} (hi : i < args.length) :
    textsSize (args.take (i + 1)) = textsSize (args.take i) + args[i].utf8ByteSize + 1 := by
  induction args generalizing i with
  | nil => cases hi
  | cons text rest ih =>
    cases i with
    | zero => simp [textsSize, textSize]
    | succ i =>
      have step := ih (Nat.lt_of_succ_lt_succ hi)
      simp only [List.take_succ_cons, textsSize, List.getElem_cons_succ, step]
      omega

theorem textsSize_take_le (args : List String) (i : Nat) :
    textsSize (args.take i) ≤ textsSize args := by
  induction args generalizing i with
  | nil => simp
  | cons text rest ih =>
    cases i with
    | zero => simp [textsSize]
    | succ i =>
      have step := ih i
      simp only [List.take_succ_cons, textsSize]
      omega

theorem placeTexts_eq (top : Nat) (args : List String) :
    placeTexts top args =
      if textsSize args ≤ top then
        some (addresses (top - textsSize args) args, top - textsSize args)
      else none := by
  induction args with
  | nil => simp [placeTexts, textsSize, addresses]
  | cons text rest ih =>
    rw [placeTexts, ih, textsSize]
    by_cases enough : textsSize rest ≤ top
    · rw [if_pos enough]
      by_cases fits : textSize text ≤ top - textsSize rest
      · have all : textSize text + textsSize rest ≤ top := by omega
        have lowest : top - (textSize text + textsSize rest) =
            top - textsSize rest - textSize text := by omega
        have next : top - textsSize rest - textSize text + textSize text =
            top - textsSize rest := by omega
        simp [fits, all, lowest, addresses, next]
      · have short : ¬textSize text + textsSize rest ≤ top := by omega
        simp [fits, short]
    · have short : ¬textSize text + textsSize rest ≤ top := by omega
      simp [enough, short]

/-- The layout of arguments whose lowest text is at `lowest`. -/
def under (args : List String) (lowest : Nat) : ArgumentLayout :=
  ⟨addresses lowest args, lowest / 8 * 8 - 8 * args.length,
    lowest / 8 * 8 - 8 * args.length - 16⟩

theorem plan?_eq (args : List String) (top : Nat) :
    plan? args top =
      if textsSize args ≤ top ∧ 8 * args.length + 16 ≤ (top - textsSize args) / 8 * 8 then
        some (under args (top - textsSize args))
      else none := by
  unfold plan?
  rw [placeTexts_eq]
  by_cases fits : textsSize args ≤ top
  · simp [fits, under]
  · simp [fits]

/-- The stack bytes that arguments need below `top`: the texts with a terminator each, padding
down to a multiple of eight, a pointer to each text, and two words. -/
def demand (args : List String) (top : Nat) : Nat :=
  textsSize args + (((top : Int) - textsSize args) % 8).toNat + 8 * args.length + 16

/-- What is reported as required is what is needed, if a word can hold it. -/
theorem toNat_required {args : List String} {top : Nat} (small : demand args top < UInt64.size) :
    (required args (UInt64.ofNat top)).toNat = demand args top := by
  have lowBits (x : UInt64) : (x &&& 7).toNat = x.toNat % 8 := by
    rw [UInt64.toNat_and]
    exact Nat.and_two_pow_sub_one_eq_mod _ 3
  have sixteen : (16 : UInt64).toNat = 16 := rfl
  unfold demand at small ⊢
  unfold required
  simp only [UInt64.toNat_add, UInt64.toNat_sub, UInt64.toNat_ofNat', UInt64.size, lowBits] at small ⊢
  omega

/-- The layout fills the stack from the count of arguments at `rsp` up to `top`, with the texts
from `lowest` on and less than eight bytes of padding below them. -/
structure Fills (l : ArgumentLayout) (args : List String) (barrier lowest top : Nat) : Prop where
  barrier : barrier ≤ l.rsp
  aligned : l.rsp % 8 = 0
  words : l.pointers = l.rsp + 16
  pointers : l.pointers + 8 * args.length ≤ lowest
  padding : lowest < l.pointers + 8 * args.length + 8
  texts : l.texts = addresses lowest args
  top : lowest + textsSize args = top

theorem fills_under {args : List String} {barrier reserve : Nat}
    (fits : demand args (barrier + reserve) ≤ reserve) :
    (under args (barrier + reserve - textsSize args)).Fills args barrier
      (barrier + reserve - textsSize args) (barrier + reserve) := by
  unfold demand at fits
  unfold under
  constructor
  case texts => rfl
  case top => omega
  all_goals
    simp only
    omega

theorem planned_iff (args : List String) (barrier reserve : Nat) :
    ((textsSize args ≤ barrier + reserve ∧
        8 * args.length + 16 ≤ (barrier + reserve - textsSize args) / 8 * 8) ∧
      barrier ≤ (under args (barrier + reserve - textsSize args)).rsp) ↔
      demand args (barrier + reserve) ≤ reserve := by
  simp only [under, demand]
  omega

end ArgumentLayout

namespace Machine

/-- Arguments are laid out exactly if the bytes that they need are reserved. -/
theorem planArguments_eq {args : List String} (given : args ≠ []) (barrier : Nat)
    (reserve : UInt64) :
    planArguments args (barrier + reserve.toNat) barrier reserve =
      if ArgumentLayout.demand args (barrier + reserve.toNat) ≤ reserve.toNat then
        .ok (some (ArgumentLayout.under args
          (barrier + reserve.toNat - ArgumentLayout.textsSize args)))
      else .error (.argumentsTooLarge
        (ArgumentLayout.required args (UInt64.ofNat (barrier + reserve.toNat))) reserve) := by
  have planned := ArgumentLayout.planned_iff args barrier reserve.toNat
  have some : args.isEmpty = false := by
    rw [List.isEmpty_eq_false_iff]
    exact given
  rw [planArguments, some, ArgumentLayout.plan?_eq]
  simp only [Bool.false_eq_true, if_false]
  by_cases room : ArgumentLayout.textsSize args ≤ barrier + reserve.toNat ∧
      8 * args.length + 16 ≤ (barrier + reserve.toNat - ArgumentLayout.textsSize args) / 8 * 8
  · rw [if_pos room]
    simp only [← planned, room, true_and]
  · rw [if_neg room, if_neg]
    exact fun fits => room (planned.mpr fits).1

/-- A plan is no layout for no arguments, and one that fills the stack for some. -/
theorem planArguments_eq_ok {args : List String} {barrier : Nat} {reserve : UInt64}
    {layout : Option ArgumentLayout}
    (h : planArguments args (barrier + reserve.toNat) barrier reserve = .ok layout) :
    args = [] ∧ layout = none ∨
      args ≠ [] ∧ ∃ l lowest, layout = some l ∧
        l.Fills args barrier lowest (barrier + reserve.toNat) := by
  by_cases given : args = []
  · subst given
    cases h
    exact .inl ⟨rfl, rfl⟩
  · rw [planArguments_eq given] at h
    split at h
    · next fits =>
      cases h
      exact .inr ⟨given, _, _, rfl, ArgumentLayout.fills_under fits⟩
    · cases h

end Machine

namespace ArgumentLayout

/-! ## Writing -/

/-- A text as it is written: its bytes and a zero. -/
def textBytes (text : String) : Bytes := Text.Utf8.encode text ++ [0]

theorem length_textBytes (text : String) : (textBytes text).length = textSize text :=
  Text.Utf8.length_encode_append_zero text

theorem length_flatMap_textBytes (args : List String) :
    (args.flatMap textBytes).length = textsSize args := by
  induction args with
  | nil => rfl
  | cons text rest ih =>
    rw [List.flatMap_cons, List.length_append, length_textBytes, ih, textsSize]

/-- A pointer as it is written. -/
def pointerBytes (pointer : Nat) : Bytes := Bytes.ofWord (UInt64.ofNat pointer)

theorem length_pointerBytes (pointer : Nat) : (pointerBytes pointer).length = 8 :=
  Bytes.length_ofWord _

theorem length_flatMap_pointerBytes (pointers : List Nat) :
    (pointers.flatMap pointerBytes).length = 8 * pointers.length := by
  induction pointers with
  | nil => rfl
  | cons pointer rest ih =>
    rw [List.flatMap_cons, List.length_append, length_pointerBytes, ih, List.length_cons]
    omega

/-- Texts that are written one above the other are one string of bytes. -/
theorem writeTexts_eq {m : Memory} {start : Nat} {args : List String}
    (above : m.readonlyBarrier ≤ start) (fits : start + textsSize args ≤ m.size)
    (small : m.size < UInt64.size) :
    writeTexts m (args.zip (addresses start args)) = .ok (m.patch start (args.flatMap textBytes)) := by
  induction args generalizing m start with
  | nil => rfl
  | cons text rest ih =>
    rw [textsSize] at fits
    have length := length_textBytes text
    have first : m.writeText (UInt64.ofNat start) text = .ok (m.patch start (textBytes text)) :=
      Memory.writeBytes_of_fits above (by rw [← textBytes]; omega) (by omega)
    have later : writeTexts (m.patch start (textBytes text))
        (rest.zip (addresses (start + textSize text) rest)) =
          .ok ((m.patch start (textBytes text)).patch (start + textSize text)
            (rest.flatMap textBytes)) := by
      apply ih
      · simp only [Memory.readonlyBarrier_patch]
        omega
      · simp only [Memory.size_patch]
        omega
      · simpa only [Memory.size_patch] using small
    rw [addresses, List.zip_cons_cons, writeTexts, first, List.flatMap_cons, Memory.patch_append,
      length]
    exact later

theorem write_eq {m : Memory} {address : Nat} (pointer : Nat)
    (above : m.readonlyBarrier ≤ address) (fits : address + 8 ≤ m.size)
    (small : m.size < UInt64.size) :
    m.write (UInt64.ofNat address) .qword (UInt64.ofNat pointer) =
      .ok (m.patch address (pointerBytes pointer)) := by
  have length := length_pointerBytes pointer
  have bytes : Bytes.ofNat Width.qword.bytes (UInt64.ofNat pointer).toNat = pointerBytes pointer :=
    rfl
  rw [Memory.write, bytes]
  exact Memory.writeBytes_of_fits above (by omega) (by omega)

theorem writePointers_eq {m : Memory} {address : Nat} {pointers : List Nat}
    (above : m.readonlyBarrier ≤ address) (fits : address + 8 * pointers.length ≤ m.size)
    (small : m.size < UInt64.size) :
    writePointers m address pointers = .ok (m.patch address (pointers.flatMap pointerBytes)) := by
  induction pointers generalizing m address with
  | nil => rfl
  | cons pointer rest ih =>
    rw [List.length_cons] at fits
    have length := length_pointerBytes pointer
    have first := write_eq pointer above (by omega) small
    have later : writePointers (m.patch address (pointerBytes pointer)) (address + 8) rest =
        .ok ((m.patch address (pointerBytes pointer)).patch (address + 8)
          (rest.flatMap pointerBytes)) := by
      apply ih
      · simp only [Memory.readonlyBarrier_patch]
        omega
      · simp only [Memory.size_patch]
        omega
      · simpa only [Memory.size_patch] using small
    rw [writePointers, first, List.flatMap_cons, Memory.patch_append, length]
    exact later

/-- Memory with the texts and, below them, the pointers to them. -/
def withPointers (l : ArgumentLayout) (args : List String) (lowest : Nat) (m : Memory) : Memory :=
  (m.patch lowest (args.flatMap textBytes)).patch l.pointers (l.texts.flatMap pointerBytes)

/-- Memory with the whole argument block: the texts, the pointers to them, the address of the
pointers and the number of the arguments. -/
def written (l : ArgumentLayout) (args : List String) (lowest : Nat) (m : Memory) : Memory :=
  ((l.withPointers args lowest m).patch (l.rsp + 8) (pointerBytes l.pointers)).patch l.rsp
    (pointerBytes args.length)

variable {l : ArgumentLayout} {args : List String} {barrier lowest : Nat} {m : Memory}

/-- A layout that fills the stack above the barrier is written without a fault. -/
theorem writeTo_eq (fills : l.Fills args barrier lowest m.size)
    (above : m.readonlyBarrier ≤ barrier) (small : m.size < UInt64.size) :
    l.writeTo args m = .ok (l.written args lowest m) := by
  obtain ⟨low, -, words, array, -, texts, top⟩ := fills
  have count : l.texts.length = args.length := by rw [texts, length_addresses]
  have size : (l.withPointers args lowest m).size = m.size := by simp [withPointers]
  have sealed : (l.withPointers args lowest m).readonlyBarrier = m.readonlyBarrier := rfl
  have textsWritten : writeTexts m (args.zip l.texts) =
      .ok (m.patch lowest (args.flatMap textBytes)) := by
    rw [texts]
    exact writeTexts_eq (by omega) (by omega) small
  have pointersWritten : writePointers (m.patch lowest (args.flatMap textBytes)) l.pointers
      l.texts = .ok (l.withPointers args lowest m) := by
    apply writePointers_eq
    · simp only [Memory.readonlyBarrier_patch]
      omega
    · simp only [Memory.size_patch]
      omega
    · simpa only [Memory.size_patch] using small
  have arrayWritten : (l.withPointers args lowest m).write (UInt64.ofNat (l.rsp + 8)) .qword
      (UInt64.ofNat l.pointers) =
        .ok ((l.withPointers args lowest m).patch (l.rsp + 8) (pointerBytes l.pointers)) :=
    write_eq l.pointers (by omega) (by omega) (by omega)
  have countWritten : ((l.withPointers args lowest m).patch (l.rsp + 8)
      (pointerBytes l.pointers)).write (UInt64.ofNat l.rsp) .qword (UInt64.ofNat args.length) =
        .ok (l.written args lowest m) := by
    apply write_eq
    · simp only [Memory.readonlyBarrier_patch]
      omega
    · simp only [Memory.size_patch]
      omega
    · simp only [Memory.size_patch]
      omega
  unfold writeTo
  refine bind_eq_ok.mpr ⟨_, textsWritten, bind_eq_ok.mpr ⟨_, pointersWritten, ?_⟩⟩
  exact bind_eq_ok.mpr ⟨_, arrayWritten, countWritten⟩

/-! ## What is in memory afterwards -/

theorem size_written : (l.written args lowest m).size = m.size := by
  simp [written, withPointers]

theorem stackBarrier_written : (l.written args lowest m).stackBarrier = m.stackBarrier := by
  simp [written, withPointers]

theorem length_flatMap_texts (fills : l.Fills args barrier lowest m.size) :
    (l.texts.flatMap pointerBytes).length = 8 * args.length := by
  rw [fills.texts, length_flatMap_pointerBytes, length_addresses]

/-- The block leaves everything below the barrier alone. -/
theorem holds_written_below (fills : l.Fills args barrier lowest m.size) {address : Nat}
    {data : Bytes} (h : m.Holds address data) (low : address + data.length ≤ barrier) :
    (l.written args lowest m).Holds address data := by
  obtain ⟨above, -, words, array, -, -, -⟩ := fills
  unfold written withPointers
  refine Memory.Holds.patch ?_ (.inl (by omega))
  refine Memory.Holds.patch ?_ (.inl (by omega))
  refine Memory.Holds.patch ?_ (.inl (by omega))
  exact Memory.Holds.patch h (.inl (by omega))

theorem holds_written_texts (fills : l.Fills args barrier lowest m.size) :
    (l.written args lowest m).Holds lowest (args.flatMap textBytes) := by
  have pointers := length_flatMap_texts fills
  have texts := length_flatMap_textBytes args
  obtain ⟨-, -, words, array, -, -, top⟩ := fills
  have written : (m.patch lowest (args.flatMap textBytes)).Holds lowest (args.flatMap textBytes) :=
    Memory.holds_patch (by omega)
  -- The pointers and the two words are written later, but below the texts.
  refine Memory.Holds.patch ?_ (.inr (by rw [length_pointerBytes]; omega))
  refine Memory.Holds.patch ?_ (.inr (by rw [length_pointerBytes]; omega))
  exact written.patch (.inr (by omega))

/-- From the stack pointer on there are words: the number of arguments, the address of the
pointers, and the pointers. -/
theorem holds_written_words (fills : l.Fills args barrier lowest m.size) :
    (l.written args lowest m).Holds l.rsp
      ((args.length :: l.pointers :: l.texts).flatMap pointerBytes) := by
  have pointers := length_flatMap_texts fills
  obtain ⟨-, -, words, array, -, -, top⟩ := fills
  have next : l.rsp + 8 + 8 = l.pointers := by omega
  have size : (l.withPointers args lowest m).size = m.size := by simp [withPointers]
  rw [List.flatMap_cons, List.flatMap_cons, Memory.holds_append, Memory.holds_append,
    length_pointerBytes, length_pointerBytes, next]
  refine ⟨?_, ?_, ?_⟩
  · apply Memory.holds_patch
    rw [Memory.size_patch, length_pointerBytes]
    omega
  · refine Memory.Holds.patch ?_ (.inr (Nat.le_of_eq (by rw [length_pointerBytes])))
    apply Memory.holds_patch
    rw [length_pointerBytes]
    omega
  · refine Memory.Holds.patch ?_ (.inr (by rw [length_pointerBytes]; omega))
    refine Memory.Holds.patch ?_ (.inr (by rw [length_pointerBytes]; omega))
    apply Memory.holds_patch
    rw [Memory.size_patch]
    omega

/-- Every word of the block is read back. -/
theorem read_written (fills : l.Fills args barrier lowest m.size) (small : m.size < UInt64.size)
    (i : Nat) (hi : i < (args.length :: l.pointers :: l.texts).length) :
    (l.written args lowest m).read (UInt64.ofNat (l.rsp + 8 * i)) .qword =
      .ok (UInt64.ofNat (args.length :: l.pointers :: l.texts)[i]) := by
  have word := (holds_written_words fills).flatMap hi
  have count : l.texts.length = args.length := by rw [fills.texts, length_addresses]
  have before : (((args.length :: l.pointers :: l.texts).take i).flatMap pointerBytes).length =
      8 * i := by
    rw [length_flatMap_pointerBytes, List.length_take_of_le (Nat.le_of_lt hi)]
  obtain ⟨-, -, words, array, -, -, top⟩ := fills
  have number : (UInt64.ofNat (l.rsp + 8 * i)).toNat = l.rsp + 8 * i := by
    simp only [List.length_cons] at hi
    exact UInt64.toNat_ofNat_of_lt (by omega)
  rw [before, ← number] at word
  exact word.read

/-- Every text is where the texts before it end, followed by a zero. -/
theorem holds_written_text (fills : l.Fills args barrier lowest m.size) (i : Nat)
    (hi : i < args.length) :
    (l.written args lowest m).Holds (lowest + textsSize (args.take i)) (textBytes args[i]) := by
  have text := (holds_written_texts fills).flatMap hi
  rw [length_flatMap_textBytes] at text
  exact text

end ArgumentLayout

end GuestMachine
