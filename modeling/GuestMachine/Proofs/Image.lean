import GuestMachine.Image.File
import GuestMachine.Proofs.Codec

/-!
# The written form of images

Images and their written forms stand for each other: every image that a header can describe is
read back from its written form, every byte string that is read is the written form of what was
read, and all others are refused for the first reason that applies.
-/

namespace GuestMachine.Image

/-- The lengths in the header are those of the stored segments. -/
structure WellFormed (e : Image) : Prop where
  declared : (lengthWord e.text).toNat + (lengthWord e.rodata).toNat + (lengthWord e.data).toNat =
    e.content.length
  bounded : e.content.length < UInt64.size

theorem length_content (e : Image) :
    e.content.length = e.text.length + e.rodata.length + e.data.length := by
  rw [content, List.length_append, List.length_append]

theorem toNat_lengthWord {segment : Bytes} (h : segment.length < UInt64.size) :
    (lengthWord segment).toNat = segment.length := UInt64.toNat_ofNat_of_lt h

theorem wellFormed_of_lt {e : Image} (h : e.content.length < UInt64.size) : e.WellFormed where
  declared := by
    rw [length_content] at h
    rw [toNat_lengthWord (by omega), toNat_lengthWord (by omega), toNat_lengthWord (by omega),
      length_content]
  bounded := h

/-! ## Header words -/

/-- The word at the `i`-th place of eight bytes. -/
def wordAt (bytes : Bytes) (i : Nat) : UInt64 := Bytes.toWord ((bytes.drop (8 * i)).take 8)

theorem wordAt_zero (w : UInt64) (rest : Bytes) : wordAt (Bytes.ofWord w ++ rest) 0 = w := by
  rw [wordAt, Nat.mul_zero, List.drop_zero, List.take_left' (Bytes.length_ofWord w),
    Bytes.toWord_ofWord]

theorem wordAt_succ {head : Bytes} (h : head.length = 8) (rest : Bytes) (i : Nat) :
    wordAt (head ++ rest) (i + 1) = wordAt rest i := by
  have past : 8 * (i + 1) = head.length + 8 * i := by omega
  rw [wordAt, past, List.drop_length_add_append, wordAt]

theorem encode_header (mark : Vector UInt8 8) (v a b c d : UInt64) :
    headerLayout.encode (mark, v, a, b, c, d, ()) = mark.toList ++ (Bytes.ofWord v ++
      (Bytes.ofWord a ++ (Bytes.ofWord b ++ (Bytes.ofWord c ++ (Bytes.ofWord d ++ []))))) := by
  have marked : (Layout.array 8 .byte).encode mark = mark.toList := by
    rw [Layout.encode_array]
    exact List.flatMap_singleton' _
  unfold headerLayout
  simp only [Layout.record]
  rw [Layout.encode_pair, Layout.encode_pair, Layout.encode_pair, Layout.encode_pair,
    Layout.encode_pair, Layout.encode_pair, marked]
  rfl

/-- The header with a given mark whose words are those of `bytes`. -/
def headerAt (mark : Vector UInt8 8) (bytes : Bytes) : headerLayout.Value :=
  (mark, wordAt bytes 1, wordAt bytes 2, wordAt bytes 3, wordAt bytes 4, wordAt bytes 5, ())

theorem take_encode_header (header : headerLayout.Value) (rest : Bytes) :
    (headerLayout.encode header ++ rest).take 8 = header.1.toList := by
  obtain ⟨mark, v, a, b, c, d, ⟨⟩⟩ := header
  show (headerLayout.encode (mark, v, a, b, c, d, ()) ++ rest).take 8 = mark.toList
  rw [encode_header, List.append_assoc]
  exact List.take_left' Vector.length_toList

/-- A header is the words of any byte string that starts with it. -/
theorem headerAt_encode_append (header : headerLayout.Value) (rest : Bytes) :
    headerAt header.1 (headerLayout.encode header ++ rest) = header := by
  obtain ⟨mark, v, a, b, c, d, ⟨⟩⟩ := header
  have length : mark.toList.length = 8 := Vector.length_toList
  show headerAt mark (headerLayout.encode (mark, v, a, b, c, d, ()) ++ rest) =
    (mark, v, a, b, c, d, ())
  rw [encode_header]
  simp only [List.append_assoc, headerAt, wordAt_succ length,
    wordAt_succ (Bytes.length_ofWord _), wordAt_zero]
  rfl

/-- Enough bytes are a header, made of their words, and what follows it. -/
theorem split_header {bytes : Bytes} (enough : 48 ≤ bytes.length) :
    ∃ mark : Vector UInt8 8, mark.toList = bytes.take 8 ∧
      bytes = headerLayout.encode (headerAt mark bytes) ++ bytes.drop 48 ∧
      headerLayout.decode bytes = .ok (headerAt mark bytes, bytes.drop 48) := by
  have split := (Layout.faithful headerLayout).split enough
  obtain ⟨header, whole, decoded⟩ : ∃ header, bytes = headerLayout.encode header ++ bytes.drop 48 ∧
    headerLayout.decode bytes = .ok (header, bytes.drop 48) := split
  have first := take_encode_header header (bytes.drop 48)
  have words := headerAt_encode_append header (bytes.drop 48)
  rw [← whole] at first words
  refine ⟨header.1, first.symm, ?_, ?_⟩
  · rw [words]
    exact whole
  · rw [words]
    exact decoded

/-! ## Reading -/

/-- Reading looks at the magic, the version and the lengths, in this order. -/
theorem ofBytes_eq (bytes : Bytes) :
    ofBytes bytes =
      if bytes.length < 8 then .error (.corrupt "truncated header")
      else if bytes.take 8 ≠ magic.toList then .error .wrongMagic
      else if bytes.length < 48 then .error (.corrupt "truncated header")
      else if wordAt bytes 1 ≠ version then .error (.wrongVersion version (wordAt bytes 1))
      else ofContent (wordAt bytes 2) (wordAt bytes 3) (wordAt bytes 4) (wordAt bytes 5)
        (bytes.drop 48) := by
  unfold ofBytes
  by_cases short : bytes.length < 48
  · have refused : headerLayout.decode bytes = .error .unexpectedEnd :=
      (Layout.faithful headerLayout).short bytes short
    rw [refused, if_pos short]
  · obtain ⟨mark, -, -, decoded⟩ := split_header (Nat.le_of_not_lt short)
    rw [decoded, if_neg short]
    rfl

/-- What was cut into segments fills them exactly. -/
theorem ofContent_eq_ok {a b c bss : UInt64} {content : Bytes} {e : Image}
    (h : ofContent a b c bss content = .ok e) :
    e.content = content ∧ e.text.length = a.toNat ∧ e.rodata.length = b.toNat ∧
      e.data.length = c.toNat ∧ e.bss = bss ∧ content.length < UInt64.size := by
  simp only [ofContent] at h
  split at h
  · cases h
  · next bounded =>
    split at h
    · cases h
    · next declared =>
      have total : a.toNat + b.toNat + c.toNat = content.length :=
        Classical.byContradiction declared
      cases h
      refine ⟨?_, ?_, ?_, ?_, rfl, ?_⟩
      · show content.take a.toNat ++ (content.drop a.toNat).take b.toNat ++
          content.drop (a.toNat + b.toNat) = content
        rw [← List.drop_drop, List.append_assoc, List.take_append_drop, List.take_append_drop]
      · exact List.length_take_of_le (by omega)
      · refine List.length_take_of_le ?_
        rw [List.length_drop]
        omega
      · show (content.drop (a.toNat + b.toNat)).length = c.toNat
        rw [List.length_drop]
        omega
      · omega

/-- The segments of an image are cut out of its content again. -/
theorem ofContent_content {e : Image} (h : e.WellFormed) :
    ofContent (lengthWord e.text) (lengthWord e.rodata) (lengthWord e.data) e.bss e.content =
      .ok e := by
  have bounded := h.bounded
  rw [length_content] at bounded
  have text : (lengthWord e.text).toNat = e.text.length := toNat_lengthWord (by omega)
  have rodata : (lengthWord e.rodata).toNat = e.rodata.length := toNat_lengthWord (by omega)
  have small : ¬UInt64.size ≤ (lengthWord e.text).toNat + (lengthWord e.rodata).toNat +
      (lengthWord e.data).toNat := by
    rw [h.declared]
    exact Nat.not_le_of_lt h.bounded
  simp only [ofContent]
  rw [if_neg small, if_neg (not_not_intro h.declared), text, rodata]
  simp [content]

theorem words_toBytes (e : Image) :
    wordAt e.toBytes 1 = version ∧ wordAt e.toBytes 2 = lengthWord e.text ∧
      wordAt e.toBytes 3 = lengthWord e.rodata ∧ wordAt e.toBytes 4 = lengthWord e.data ∧
      wordAt e.toBytes 5 = e.bss := by
  have words : headerAt magic e.toBytes = e.header := headerAt_encode_append e.header e.content
  have field : ∀ f : headerLayout.Value → UInt64, f (headerAt magic e.toBytes) = f e.header :=
    fun f => congrArg f words
  exact ⟨field (·.2.1), field (·.2.2.1), field (·.2.2.2.1), field (·.2.2.2.2.1),
    field (·.2.2.2.2.2.1)⟩

/-- Reading a written form gives the image back. -/
theorem ofBytes_toBytes {e : Image} (h : e.WellFormed) : ofBytes e.toBytes = .ok e := by
  have headerLength : (headerLayout.encode e.header).length = 48 :=
    (Layout.faithful headerLayout).length e.header
  have length : e.toBytes.length = 48 + e.content.length := by
    rw [toBytes, List.length_append, headerLength]
  have first : e.toBytes.take 8 = magic.toList := take_encode_header e.header e.content
  have rest : e.toBytes.drop 48 = e.content := List.drop_left' headerLength
  obtain ⟨found, text, rodata, data, bss⟩ := words_toBytes e
  rw [ofBytes_eq, if_neg (by omega), if_neg (not_not_intro first), if_neg (by omega),
    if_neg (not_not_intro found), text, rodata, data, bss, rest]
  exact ofContent_content h

theorem ofBytes_eq_ok {bytes : Bytes} {e : Image} (h : ofBytes bytes = .ok e) :
    48 ≤ bytes.length ∧ bytes.take 8 = magic.toList ∧ wordAt bytes 1 = version ∧
      ofContent (wordAt bytes 2) (wordAt bytes 3) (wordAt bytes 4) (wordAt bytes 5)
        (bytes.drop 48) = .ok e := by
  rw [ofBytes_eq] at h
  split at h
  · cases h
  · split at h
    · cases h
    · next first =>
      split at h
      · cases h
      · next long =>
        split at h
        · cases h
        · next found =>
          exact ⟨Nat.le_of_not_lt long, Classical.byContradiction first,
            Classical.byContradiction found, h⟩

/-- A byte string that is read is the written form of what was read. -/
theorem toBytes_of_ofBytes {bytes : Bytes} {e : Image} (h : ofBytes bytes = .ok e) :
    e.toBytes = bytes := by
  obtain ⟨long, first, found, cut⟩ := ofBytes_eq_ok h
  obtain ⟨stored, text, rodata, data, bss, -⟩ := ofContent_eq_ok cut
  obtain ⟨mark, marked, whole, -⟩ := split_header long
  have same : mark = magic := Vector.toList_inj.mp (marked.trans first)
  have header : e.header = headerAt mark bytes := by
    simp only [Image.header, headerAt, lengthWord, same, found, text, rodata, data, bss,
      UInt64.ofNat_toNat]
    rfl
  rw [toBytes, header, stored]
  exact whole.symm

theorem wellFormed_of_ofBytes {bytes : Bytes} {e : Image} (h : ofBytes bytes = .ok e) :
    e.WellFormed := by
  obtain ⟨-, -, -, cut⟩ := ofBytes_eq_ok h
  obtain ⟨stored, -, -, -, -, bounded⟩ := ofContent_eq_ok cut
  rw [← stored] at bounded
  exact wellFormed_of_lt bounded

theorem wellFormed_blank : blank.WellFormed := wellFormed_of_lt (by decide)

theorem isEmpty_iff {e : Image} : e.isEmpty = true ↔ e = blank := by
  obtain ⟨text, rodata, data, bss⟩ := e
  simp [isEmpty, content, blank, and_assoc]

theorem wellFormed_of_load {files : FileSystem} {path : String} {e : Image}
    (h : load files path = .ok e) : e.WellFormed := by
  unfold load at h
  split at h
  · cases h
  · exact wellFormed_of_ofBytes h

theorem wellFormed_reload (files : FileSystem) (path : String) :
    (reload files path).2.WellFormed := by
  unfold reload
  split
  · next loaded => exact wellFormed_of_load loaded
  · exact wellFormed_blank

/-! ## One content and four lengths

An image is kept as its whole content and the lengths that cut it. The segments are views of the
content; where the lengths add up to it, they and the content determine each other. -/

/-- The content of an image, not yet cut (§6). -/
structure Stored where
  textLength : UInt64
  rodataLength : UInt64
  dataLength : UInt64
  bss : UInt64
  content : Bytes
deriving DecidableEq

namespace Stored

/-- `from_segments`: the segments one after the other, with their lengths. -/
def ofSegments (text rodata data : Bytes) (bss : UInt64) : Stored :=
  ⟨lengthWord text, lengthWord rodata, lengthWord data, bss, text ++ rodata ++ data⟩

def text (s : Stored) : Bytes := s.content.take s.textLength.toNat

def rodata (s : Stored) : Bytes :=
  (s.content.drop s.textLength.toNat).take s.rodataLength.toNat

def data (s : Stored) : Bytes := s.content.drop (s.textLength + s.rodataLength).toNat

/-- The image that the views show. -/
def image (s : Stored) : Image := ⟨s.text, s.rodata, s.data, s.bss⟩

/-- `to_bytes`: the header with the kept lengths, then the content. -/
def toBytes (s : Stored) : Bytes :=
  headerLayout.encode
    (magic, version, s.textLength, s.rodataLength, s.dataLength, s.bss, ()) ++ s.content

/-- The lengths add up to the content. -/
structure Fits (s : Stored) : Prop where
  declared : s.textLength.toNat + s.rodataLength.toNat + s.dataLength.toNat = s.content.length
  bounded : s.content.length < UInt64.size

variable {s : Stored}

theorem Fits.toNat_add (h : s.Fits) :
    (s.textLength + s.rodataLength).toNat = s.textLength.toNat + s.rodataLength.toNat := by
  have bound := h.bounded
  rw [← h.declared] at bound
  rw [UInt64.toNat_add]
  exact Nat.mod_eq_of_lt (Nat.lt_of_le_of_lt (Nat.le_add_right _ _) bound)

/-- Cutting the content gives the image that the views show. -/
theorem Fits.ofContent (h : s.Fits) :
    ofContent s.textLength s.rodataLength s.dataLength s.bss s.content = .ok s.image := by
  have bound := h.bounded
  rw [← h.declared] at bound
  simp only [Image.ofContent]
  rw [if_neg (Nat.not_le_of_lt bound), if_neg (not_not_intro h.declared), ← h.toNat_add]
  rfl

/-- What is cut at all is a content that its lengths add up to. -/
theorem fits_of_ofContent {a b c bss : UInt64} {content : Bytes} {e : Image}
    (h : Image.ofContent a b c bss content = .ok e) : Fits ⟨a, b, c, bss, content⟩ := by
  obtain ⟨whole, text, rodata, data, -, bound⟩ := ofContent_eq_ok h
  refine ⟨?_, bound⟩
  show a.toNat + b.toNat + c.toNat = content.length
  rw [← text, ← rodata, ← data, ← length_content, whole]

theorem fits_ofSegments {text rodata data : Bytes} (bss : UInt64)
    (h : (text ++ rodata ++ data).length < UInt64.size) :
    (ofSegments text rodata data bss).Fits :=
  have fits : WellFormed ⟨text, rodata, data, bss⟩ := wellFormed_of_lt h
  ⟨fits.declared, fits.bounded⟩

/-- The views of a content show the segments that it was made of. -/
theorem image_ofSegments {text rodata data : Bytes} (bss : UInt64)
    (h : (text ++ rodata ++ data).length < UInt64.size) :
    (ofSegments text rodata data bss).image = ⟨text, rodata, data, bss⟩ := by
  have cut := (fits_ofSegments bss h).ofContent
  have fits : WellFormed ⟨text, rodata, data, bss⟩ := wellFormed_of_lt h
  have whole : ofContent (lengthWord text) (lengthWord rodata) (lengthWord data) bss
      (text ++ rodata ++ data) = .ok ⟨text, rodata, data, bss⟩ := ofContent_content fits
  exact Except.ok.inj (cut.symm.trans whole)

/-- The segments in view make up the same content with the same lengths. -/
theorem Fits.ofSegments_image (h : s.Fits) : ofSegments s.text s.rodata s.data s.bss = s := by
  obtain ⟨whole, text, rodata, data, -, -⟩ := ofContent_eq_ok h.ofContent
  have lengths {segment : Bytes} {w : UInt64} (length : segment.length = w.toNat) :
      lengthWord segment = w := by
    rw [lengthWord, length, UInt64.ofNat_toNat]
  show Stored.mk (lengthWord s.image.text) (lengthWord s.image.rodata) (lengthWord s.image.data)
    s.bss s.image.content = s
  rw [lengths text, lengths rodata, lengths data, whole]

/-- A content is written as the image that its views show. -/
theorem Fits.toBytes_image (h : s.Fits) : s.image.toBytes = s.toBytes := by
  have spelled : s.image.toBytes = (ofSegments s.text s.rodata s.data s.bss).toBytes := rfl
  rw [spelled, h.ofSegments_image]

end Stored

/-- What is read from a written form are the views of the content behind its header. -/
theorem image_of_ofBytes {bytes : Bytes} {e : Image} (h : ofBytes bytes = .ok e) :
    ∃ s : Stored, s.Fits ∧ s.image = e ∧ s.toBytes = bytes := by
  obtain ⟨-, -, -, cut⟩ := ofBytes_eq_ok h
  have fits := Stored.fits_of_ofContent cut
  have shown : Stored.image _ = e := Except.ok.inj (fits.ofContent.symm.trans cut)
  refine ⟨_, fits, shown, ?_⟩
  rw [← fits.toBytes_image, shown]
  exact toBytes_of_ofBytes h

/-- The written form determines the image and the image its written form: a well-formed image is
read back; what is read is well-formed, is written as the bytes it was read from, and its segments
have the declared lengths and fill the bytes behind the header; any byte string has the one outcome
that its length, magic, version and lengths call for, in this order; and every way to obtain an
image gives a well-formed one. -/
theorem written_form_exact :
    (∀ e : Image, e.WellFormed → ofBytes e.toBytes = .ok e) ∧
    (∀ (bytes : Bytes) (e : Image), ofBytes bytes = .ok e →
      e.WellFormed ∧ e.toBytes = bytes ∧
        e.text ++ e.rodata ++ e.data = e.content ∧ e.content = bytes.drop 48 ∧
        e.text.length = (wordAt bytes 2).toNat ∧ e.rodata.length = (wordAt bytes 3).toNat ∧
        e.data.length = (wordAt bytes 4).toNat ∧ e.bss = wordAt bytes 5) ∧
    (∀ bytes : Bytes,
      let declared :=
        (wordAt bytes 2).toNat + (wordAt bytes 3).toNat + (wordAt bytes 4).toNat
      let stored := bytes.drop 48
      ofBytes bytes =
        if bytes.length < 8 then .error (.corrupt "truncated header")
        else if bytes.take 8 ≠ magic.toList then .error .wrongMagic
        else if bytes.length < 48 then .error (.corrupt "truncated header")
        else if wordAt bytes 1 ≠ 1 then .error (.wrongVersion 1 (wordAt bytes 1))
        else if UInt64.size ≤ declared then .error (.corrupt "segment lengths overflow")
        else if declared ≠ bytes.length - 48 then
          .error (.corrupt ("header declares " ++ toString declared ++ " content bytes but " ++
            toString (bytes.length - 48) ++ " are present"))
        else .ok {
          text := stored.take (wordAt bytes 2).toNat
          rodata := (stored.drop (wordAt bytes 2).toNat).take (wordAt bytes 3).toNat
          data := stored.drop ((wordAt bytes 2).toNat + (wordAt bytes 3).toNat)
          bss := wordAt bytes 5 }) ∧
    blank.WellFormed ∧
    (∀ (text rodata data : Bytes) (bss : UInt64),
      text.length + rodata.length + data.length < UInt64.size →
        (⟨text, rodata, data, bss⟩ : Image).WellFormed) ∧
    (∀ (files : FileSystem) (path : String) (e : Image),
      load files path = .ok e → e.WellFormed) ∧
    ∀ (files : FileSystem) (path : String), (reload files path).2.WellFormed := by
  refine ⟨fun e => ofBytes_toBytes, ?_, ?_, wellFormed_blank, ?_, fun _ _ _ => wellFormed_of_load,
    wellFormed_reload⟩
  · intro bytes e read
    obtain ⟨-, -, -, cut⟩ := ofBytes_eq_ok read
    obtain ⟨stored, text, rodata, data, bss, -⟩ := ofContent_eq_ok cut
    exact ⟨wellFormed_of_ofBytes read, toBytes_of_ofBytes read, rfl, stored, text, rodata, data, bss⟩
  · intro bytes declared stored
    have length : stored.length = bytes.length - 48 := List.length_drop
    rw [ofBytes_eq, ← length]
    rfl
  · intro text rodata data bss small
    refine wellFormed_of_lt ?_
    rw [length_content]
    exact small

/-- An image with bytes in every segment is read back from its written form. -/
theorem written_form_exact_sample :
    ofBytes (toBytes ⟨[0x00, 0x01], [0x72], [0x64, 0x21], 32⟩) =
      .ok ⟨[0x00, 0x01], [0x72], [0x64, 0x21], 32⟩ :=
  written_form_exact.1 _ (written_form_exact.2.2.2.2.1 _ _ _ _ (by decide))

end GuestMachine.Image
