/-
**The Cap'n Proto encoding.**

A message is a table of segments followed by the segments, and a segment is a string of eight-byte
words.  The first word of the first segment points to the root struct; a struct is its data section
followed by its pointers; a text is a list of bytes ended by a NUL.  A pointer is two numbers of
four bytes: the low one carries the kind of the pointer in its two low bits and the distance to
its target above them, the high one the size of the target.  A *far* pointer names a word of
another segment, where the pointer proper is found.

The writer below lays a message out as the builder of the Rust implementation does: the root, the
data section and the text go to a first segment of 1024 words, and a text that does not fit there
gets a segment of its own, behind a far pointer.  The reader takes any layout: several segments,
far and double-far pointers, sections shorter or longer than expected, null pointers.

Main definitions:

* `Capnp.Wire.writeMessage`, `Capnp.Wire.readMessage`, `Capnp.Wire.getRoot` — the writer and the
  reader;
* `Capnp.wire` — the two of them as a `Capnp.Serializer`.

Main results:

* `Capnp.wire_readAfterWrite`, `Capnp.wire_readsDeclared`, `Capnp.wire_writesData` — **the laws of
  a serializer hold of the encoding**;
* `Capnp.Wire.length_writeMessage_ge` — a written message is longer than the text in it.
-/

import BxpCore.CapnpStruct

set_option relaxedAutoImplicit false
set_option autoImplicit false

namespace Capnp

namespace Wire

open LittleEndian

/-! ### Words and pointers -/

/-- A segment of a message: a string of words of eight bytes. -/
abbrev Segment := List UInt8

/-- A message: its segments. -/
abbrev Message := List Segment

/-- The low half of the word at index `i`. -/
def lower (seg : Segment) (i : ℕ) : ℕ := ofLe ((seg.drop (8 * i)).take 4)

/-- The high half of the word at index `i`. -/
def upper (seg : Segment) (i : ℕ) : ℕ := ofLe ((seg.drop (8 * i + 4)).take 4)

/-- The eight bytes of a pointer with the halves `lo` and `hi`. -/
def pointer (lo hi : ℕ) : List UInt8 := le 4 lo ++ le 4 hi

@[simp] theorem length_pointer (lo hi : ℕ) : (pointer lo hi).length = 8 := by
  simp [pointer]

/-- The low half of a pointer found behind `i` whole words. -/
theorem lower_pointer {pre rest : Segment} {i lo hi : ℕ} (hpre : pre.length = 8 * i)
    (hlo : lo < 2 ^ 32) : lower (pre ++ (pointer lo hi ++ rest)) i = lo := by
  rw [lower, List.drop_left' hpre, pointer, List.append_assoc, List.take_left' (length_le 4 lo)]
  exact ofLe_le_of_lt hlo

/-- The high half of a pointer found behind `i` whole words. -/
theorem upper_pointer {pre rest : Segment} {i lo hi : ℕ} (hpre : pre.length = 8 * i)
    (hhi : hi < 2 ^ 32) : upper (pre ++ (pointer lo hi ++ rest)) i = hi := by
  rw [upper, ← List.drop_drop, List.drop_left' hpre, pointer, List.append_assoc,
    List.drop_left' (length_le 4 lo), List.take_left' (length_le 4 hi)]
  exact ofLe_le_of_lt hhi

theorem lower_pointer_head {rest : Segment} {lo : ℕ} (hi : ℕ) (hlo : lo < 2 ^ 32) :
    lower (pointer lo hi ++ rest) 0 = lo :=
  lower_pointer (i := 0) List.length_nil hlo

theorem upper_pointer_head {rest : Segment} {hi : ℕ} (lo : ℕ) (hhi : hi < 2 ^ 32) :
    upper (pointer lo hi ++ rest) 0 = hi :=
  upper_pointer (i := 0) List.length_nil hhi

theorem lower_pointer_last {pre : Segment} {i lo : ℕ} (hi : ℕ) (hpre : pre.length = 8 * i)
    (hlo : lo < 2 ^ 32) : lower (pre ++ pointer lo hi) i = lo := by
  rw [← List.append_nil (pointer lo hi)]
  exact lower_pointer hpre hlo

theorem upper_pointer_last {pre : Segment} {i hi : ℕ} (lo : ℕ) (hpre : pre.length = 8 * i)
    (hhi : hi < 2 ^ 32) : upper (pre ++ pointer lo hi) i = hi := by
  rw [← List.append_nil (pointer lo hi)]
  exact upper_pointer hpre hhi

/-! ### Reading: bounds, far pointers -/

/-- The segment with the number `id`. -/
def segment (m : Message) (id : ℕ) : Except ErrorKind Segment :=
  match m[id]? with
  | some seg => .ok seg
  | none => .error (.invalidSegmentId id)

/-- The words `start, …, start + size - 1` lie in the segment. -/
def InBounds (seg : Segment) (start size : ℕ) : Prop := 8 * (start + size) ≤ seg.length

instance (seg : Segment) (start size : ℕ) : Decidable (InBounds seg start size) :=
  inferInstanceAs (Decidable (_ ≤ _))

/-- The distance a struct or list pointer carries: a signed number of 30 bits. -/
def offset (lo : ℕ) : ℤ :=
  if lo / 4 < 2 ^ 29 then (lo / 4 : ℕ) else (lo / 4 : ℕ) - 2 ^ 30

/-- The word the pointer at index `i` leads to, in the segment or right behind it; the distance is
counted from the word behind the pointer. -/
def target (seg : Segment) (i : ℕ) : Except ErrorKind ℕ :=
  let pos := (i : ℤ) + 1 + offset (lower seg i)
  if 0 ≤ pos ∧ InBounds seg pos.toNat 0 then .ok pos.toNat
  else .error .messageContainsOutOfBoundsPointer

/-- What a pointer leads to: the pointer proper, the segment of the target and its first word. -/
structure Target where
  seg : Segment
  lo : ℕ
  hi : ℕ
  pos : ℕ

/-- Following a pointer to its target, through the landing pad of a far pointer. -/
def followFars (m : Message) (seg : Segment) (i : ℕ) : Except ErrorKind Target :=
  let lo := lower seg i
  let hi := upper seg i
  if lo % 4 = 2 then
    (segment m hi).bind fun far =>
      let pad := lo / 8
      if lo / 4 % 2 = 0 then
        -- the landing pad is the pointer proper
        if InBounds far pad 1 then
          (target far pad).map fun pos => ⟨far, lower far pad, upper far pad, pos⟩
        else .error .messageContainsOutOfBoundsPointer
      else
        -- the landing pad is another far pointer, followed by a tag without distance
        if InBounds far pad 2 then
          (segment m (upper far pad)).map fun seg' =>
            ⟨seg', lower far (pad + 1), upper far (pad + 1), lower far pad / 8⟩
        else .error .messageContainsOutOfBoundsPointer
  else (target seg i).map fun pos => ⟨seg, lo, hi, pos⟩

/-! ### Reading: structs and texts -/

/-- The text at the target of a pointer. -/
def readText (t : Target) : Except ErrorKind (List UInt8) :=
  if t.lo % 4 ≠ 1 then .error .messageContainsNonListPointerWhereTextWasExpected
  else if t.hi % 8 ≠ 2 then .error .messageContainsListPointerOfNonBytesWhereTextWasExpected
  else if ¬ InBounds t.seg t.pos ((t.hi / 8 + 7) / 8) then
    .error .messageContainsOutOfBoundsPointer
  else
    let bytes := (t.seg.drop (8 * t.pos)).take (t.hi / 8)
    if bytes.getLast? = some 0 then .ok bytes.dropLast
    else .error .messageContainsTextThatIsNotNULTerminated

/-- The text the pointer at index `i` leads to; a null pointer is the empty text. -/
def getText (m : Message) (seg : Segment) (i : ℕ) : Except ErrorKind (List UInt8) :=
  if lower seg i = 0 ∧ upper seg i = 0 then .ok []
  else (followFars m seg i).bind readText

/-- The struct at the target of a pointer, with the text of its first pointer. -/
def readStruct (m : Message) (t : Target) : Except ErrorKind StructReader :=
  if t.lo % 4 ≠ 0 then .error .messageContainsNonStructPointerWhereStructPointerWasExpected
  else if ¬ InBounds t.seg t.pos (t.hi % 2 ^ 16 + t.hi / 2 ^ 16) then
    .error .messageContainsOutOfBoundsPointer
  else
    .ok {
      data := (t.seg.drop (8 * t.pos)).take (8 * (t.hi % 2 ^ 16))
      text := if t.hi / 2 ^ 16 = 0 then .ok [] else getText m t.seg (t.pos + t.hi % 2 ^ 16) }

/-- The root struct of a message; a null root is a struct without fields. -/
def getRoot (m : Message) : Except ErrorKind StructReader :=
  (segment m 0).bind fun seg =>
    if ¬ InBounds seg 0 1 then .error .messageContainsOutOfBoundsPointer
    else if lower seg 0 = 0 ∧ upper seg 0 = 0 then .ok { data := [], text := .ok [] }
    else (followFars m seg 0).bind (readStruct m)

/-! ### Reading: the segment table -/

/-- More segments than the reader accepts. -/
def segmentsCountLimit : ℕ := 512

/-- The words the reader is willing to traverse in one message. -/
def traversalLimitInWords : ℕ := 8 * 1024 * 1024

theorem traversalLimitInWords_eq : traversalLimitInWords = 2 ^ 23 := rfl

/-- Cutting a byte string into segments of the given sizes. -/
def cutSegments : List ℕ → List UInt8 → Message
  | [], _ => []
  | n :: sizes, bytes => bytes.take (8 * n) :: cutSegments sizes (bytes.drop (8 * n))

/-- Reading one message: the table, and the segments declared there. -/
def readMessage (bytes : List UInt8) : Except ErrorKind (Message × List UInt8) :=
  let count := segmentCount bytes
  let sizes := segmentSizes count bytes
  if bytes = [] then .error .prematureEndOfFile
  else if bytes.length < 8 then .error .failedToFillTheWholeBuffer
  else if count ≥ segmentsCountLimit then .error .invalidNumberOfSegments
  else if bytes.length < tableSize count then .error .failedToFillTheWholeBuffer
  else if sizes.sum > traversalLimitInWords then .error (.messageTooLarge sizes.sum)
  else if bytes.length < tableSize count + 8 * sizes.sum then .error .failedToFillTheWholeBuffer
  else
    .ok (cutSegments sizes (bytes.drop (tableSize count)),
      bytes.drop (tableSize count + 8 * sizes.sum))

/-! ### Writing -/

/-- The size of the first segment. -/
def firstSegmentWords : ℕ := 1024

/-- The words of a text of `n` bytes, with its NUL. -/
def textWords (n : ℕ) : ℕ := n / 8 + 1

/-- A text with its NUL, padded to whole words. -/
def padText (text : List UInt8) : List UInt8 :=
  text ++ List.replicate (8 * textWords text.length - text.length) 0

/-- The pointer to a text of `n` bytes that starts in the next word. -/
def textPointer (n : ℕ) : List UInt8 := pointer 1 (2 + 8 * (n + 1))

/-- The root pointer, and the data section behind it. -/
def rootWords (b : StructBuilder) : List UInt8 :=
  pointer 0 (b.size.data + 2 ^ 16 * b.size.pointers) ++ b.data

/-- The segments of a message. -/
def layout (b : StructBuilder) : Message :=
  if b.size.pointers = 0 then [rootWords b]
  else if b.size.data + 2 + textWords b.text.length ≤ firstSegmentWords then
    [rootWords b ++ (textPointer b.text.length ++ padText b.text)]
  else
    -- the text is in a segment of its own, behind a landing pad
    [rootWords b ++ pointer 2 1, textPointer b.text.length ++ padText b.text]

/-- The segment table of a message of at most two segments, padded to whole words. -/
def table : Message → List UInt8
  | [seg] => le 4 0 ++ le 4 (seg.length / 8)
  | [seg, seg'] => le 4 1 ++ (le 4 (seg.length / 8) ++ (le 4 (seg'.length / 8) ++ le 4 0))
  | _ => []

/-- Writing one message: the table, and the segments. -/
def writeMessage (b : StructBuilder) : Except ErrorKind (List UInt8) :=
  .ok (table (layout b) ++ (layout b).flatten)

/-! ### Reading back a text -/

theorem length_padText (text : List UInt8) :
    (padText text).length = 8 * textWords text.length := by
  simp only [padText, textWords, List.length_append, List.length_replicate]
  omega

/-- The bytes of a text and its NUL, in front of the padding. -/
theorem take_padText (text : List UInt8) :
    (padText text).take (text.length + 1) = text ++ [0] := by
  obtain ⟨k, hk⟩ : ∃ k, 8 * textWords text.length - text.length = k + 1 :=
    ⟨8 * textWords text.length - text.length - 1, by simp only [textWords]; omega⟩
  rw [padText, hk, List.replicate_succ, List.append_cons, List.take_left' (by simp)]

/-- A text is read back from its padded bytes, wherever they are. -/
theorem readText_padText {t : Target} {text rest : List UInt8} (hlo : t.lo = 1)
    (hhi : t.hi = 2 + 8 * (text.length + 1)) (hpos : t.seg.drop (8 * t.pos) = padText text ++ rest) :
    readText t = .ok text := by
  have hcount : t.hi / 8 = text.length + 1 := by omega
  have hwords : (text.length + 1 + 7) / 8 = textWords text.length := by
    simp only [textWords]
    omega
  have hbounds : InBounds t.seg t.pos (textWords text.length) := by
    have hlen := congrArg List.length hpos
    rw [List.length_drop, List.length_append, length_padText] at hlen
    have hpos' : 0 < textWords text.length := Nat.succ_pos _
    simp only [InBounds]
    omega
  have htake : (padText text ++ rest).take (text.length + 1) = text ++ [0] := by
    rw [List.take_append_of_le_length, take_padText]
    rw [length_padText, textWords]
    omega
  rw [readText, if_neg (by rw [hlo]; omega), if_neg (by omega), hcount, hwords,
    if_neg (not_not.2 hbounds), hpos, htake]
  simp

theorem offset_eq_zero {lo : ℕ} (h : lo / 4 = 0) : offset lo = 0 := by
  rw [offset, h]
  rfl

/-- A pointer without distance leads to the next word. -/
theorem target_of_offset {seg : Segment} {i : ℕ} (h : lower seg i / 4 = 0)
    (hbounds : InBounds seg (i + 1) 0) : target seg i = .ok (i + 1) := by
  have hpos : (i : ℤ) + 1 + offset (lower seg i) = (i + 1 : ℕ) := by
    rw [offset_eq_zero h]
    omega
  simp only [target, hpos, Int.toNat_natCast]
  rw [if_pos ⟨by omega, hbounds⟩]

/-- **A text behind its pointer is read back.** -/
theorem getText_near (m : Message) {pre : Segment} {i : ℕ} {text : List UInt8}
    (hpre : pre.length = 8 * i) (htext : 2 + 8 * (text.length + 1) < 2 ^ 32) :
    getText m (pre ++ (textPointer text.length ++ padText text)) i = .ok text := by
  have hlo : lower (pre ++ (textPointer text.length ++ padText text)) i = 1 :=
    lower_pointer hpre (by omega)
  have hhi : upper (pre ++ (textPointer text.length ++ padText text)) i
      = 2 + 8 * (text.length + 1) := upper_pointer hpre htext
  have hbehind : InBounds (pre ++ (textPointer text.length ++ padText text)) (i + 1) 0 := by
    simp only [InBounds, List.length_append, textPointer, length_pointer]
    omega
  have hfollow : followFars m (pre ++ (textPointer text.length ++ padText text)) i
      = .ok ⟨pre ++ (textPointer text.length ++ padText text), 1, 2 + 8 * (text.length + 1),
          i + 1⟩ := by
    rw [followFars, hlo, hhi, if_neg (by omega), target_of_offset (by omega) hbehind]
    rfl
  have hpos : (pre ++ (textPointer text.length ++ padText text)).drop (8 * (i + 1))
      = padText text ++ [] := by
    rw [← List.append_assoc, List.append_nil]
    exact List.drop_left' (by simp [hpre, textPointer]; omega)
  rw [getText, hlo, if_neg (by simp), hfollow]
  exact readText_padText rfl rfl hpos

/-- **A text in a segment of its own is read back** through the far pointer that leads there. -/
theorem getText_far {m : Message} {pre : Segment} {i : ℕ} {text : List UInt8}
    (hpre : pre.length = 8 * i) (htext : 2 + 8 * (text.length + 1) < 2 ^ 32)
    (hm : segment m 1 = .ok (textPointer text.length ++ padText text)) :
    getText m (pre ++ pointer 2 1) i = .ok text := by
  have hlo : lower (pre ++ pointer 2 1) i = 2 := lower_pointer_last 1 hpre (by omega)
  have hhi : upper (pre ++ pointer 2 1) i = 1 := upper_pointer_last 2 hpre (by omega)
  have hpadlo : lower (textPointer text.length ++ padText text) 0 = 1 :=
    lower_pointer_head _ (by omega)
  have hpadhi : upper (textPointer text.length ++ padText text) 0 = 2 + 8 * (text.length + 1) :=
    upper_pointer_head 1 htext
  have hbounds : InBounds (textPointer text.length ++ padText text) 0 1 := by
    simp [InBounds, textPointer]
  have hnext : target (textPointer text.length ++ padText text) 0 = .ok 1 :=
    target_of_offset (by omega) hbounds
  have hfollow : followFars m (pre ++ pointer 2 1) i
      = .ok ⟨textPointer text.length ++ padText text, 1, 2 + 8 * (text.length + 1), 1⟩ := by
    rw [followFars, hlo, hhi, if_pos rfl, hm]
    simp only [Except.bind, Nat.reduceDiv, Nat.zero_mod, if_true, hpadlo, hpadhi, if_pos hbounds,
      hnext]
    rfl
  have hpos : (textPointer text.length ++ padText text).drop (8 * 1) = padText text ++ [] := by
    rw [List.append_nil]
    exact List.drop_left' (by simp [textPointer])
  rw [getText, hlo, if_neg (by simp), hfollow]
  exact readText_padText rfl rfl hpos

/-! ### Reading back a struct -/

theorem length_rootWords (b : StructBuilder) :
    (rootWords b).length = 8 * (1 + b.size.data) := by
  rw [rootWords, List.length_append, length_pointer, b.length_data]
  omega

/-- The root struct of a message whose first segment starts with the root words of `b`. -/
theorem getRoot_rootWords {m : Message} {b : StructBuilder} {tail : Segment}
    (hm : segment m 0 = .ok (rootWords b ++ tail)) (htail : 8 * b.size.pointers ≤ tail.length)
    (hnull : b.size.data + b.size.pointers ≠ 0) :
    getRoot m = .ok {
      data := b.data
      text := if b.size.pointers = 0 then .ok []
        else getText m (rootWords b ++ tail) (1 + b.size.data) } := by
  have hdata := b.size.data_lt
  have hpointers := b.size.pointers_le
  have hlen := length_rootWords b
  have hlo : lower (rootWords b ++ tail) 0 = 0 := by
    rw [rootWords, List.append_assoc]
    exact lower_pointer_head _ (by omega)
  have hhi : upper (rootWords b ++ tail) 0 = b.size.data + 2 ^ 16 * b.size.pointers := by
    rw [rootWords, List.append_assoc]
    exact upper_pointer_head 0 (by omega)
  have hone : InBounds (rootWords b ++ tail) 0 1 := by
    simp only [InBounds, List.length_append, hlen]
    omega
  have hfollow : followFars m (rootWords b ++ tail) 0
      = .ok ⟨rootWords b ++ tail, 0, b.size.data + 2 ^ 16 * b.size.pointers, 1⟩ := by
    rw [followFars, hlo, hhi, if_neg (by omega), target_of_offset (by omega) hone]
    rfl
  have hwords : (b.size.data + 2 ^ 16 * b.size.pointers) % 2 ^ 16 = b.size.data := by omega
  have hcount : (b.size.data + 2 ^ 16 * b.size.pointers) / 2 ^ 16 = b.size.pointers := by omega
  have hbounds : InBounds (rootWords b ++ tail) 1 (b.size.data + b.size.pointers) := by
    simp only [InBounds, List.length_append, hlen]
    omega
  have hsection : ((rootWords b ++ tail).drop (8 * 1)).take (8 * b.size.data) = b.data := by
    rw [rootWords, List.append_assoc, List.drop_left' (by simp), List.take_left' b.length_data]
  rw [getRoot, hm]
  simp only [Except.bind, hone, not_true_eq_false, if_false, hlo, hhi, true_and]
  rw [if_neg (by omega), hfollow]
  simp only [readStruct, hwords, hcount, hbounds, hsection, Nat.zero_mod, ne_eq,
    not_true_eq_false, if_false]

theorem getRoot_null {m : Message} {seg : Segment}
    (hm : segment m 0 = .ok (pointer 0 0 ++ seg)) :
    getRoot m = .ok { data := [], text := .ok [] } := by
  have hlo : lower (pointer 0 0 ++ seg) 0 = 0 := lower_pointer_head 0 (by omega)
  have hhi : upper (pointer 0 0 ++ seg) 0 = 0 := upper_pointer_head 0 (by omega)
  have hone : InBounds (pointer 0 0 ++ seg) 0 1 := by simp [InBounds]
  rw [getRoot, hm]
  simp only [Except.bind, hone, not_true_eq_false, if_false, hlo, hhi, and_self, if_true]

/-- **The root struct of a message that was laid out is the struct that was written.** -/
theorem getRoot_layout {b : StructBuilder} (htext : 2 + 8 * (b.text.length + 1) < 2 ^ 32) :
    getRoot (layout b) = .ok { data := b.data, text := .ok b.text } := by
  have hindex : (rootWords b).length = 8 * (1 + b.size.data) := length_rootWords b
  by_cases hp : b.size.pointers = 0
  · have hlayout : layout b = [rootWords b] := by rw [layout, if_pos hp]
    by_cases hd : b.size.data = 0
    · -- a struct without fields is a null pointer
      have hdata : b.data = [] := List.length_eq_zero_iff.1 (by rw [b.length_data, hd])
      have hm : segment (layout b) 0 = .ok (pointer 0 0 ++ []) := by
        rw [hlayout, rootWords, hp, hd, hdata]
        rfl
      rw [getRoot_null hm, hdata, b.text_nil hp]
    · have hm : segment (layout b) 0 = .ok (rootWords b ++ []) := by
        rw [hlayout, List.append_nil]
        rfl
      rw [getRoot_rootWords hm (by simp [hp]) (by omega), if_pos hp, b.text_nil hp]
  · have hone : b.size.pointers = 1 := by
      have := b.size.pointers_le
      omega
    by_cases hfit : b.size.data + 2 + textWords b.text.length ≤ firstSegmentWords
    · have hm : segment (layout b) 0
          = .ok (rootWords b ++ (textPointer b.text.length ++ padText b.text)) := by
        rw [layout, if_neg hp, if_pos hfit]
        rfl
      rw [getRoot_rootWords hm (by simp [hone, textPointer]) (by omega), if_neg hp,
        getText_near _ hindex htext]
    · have hm : segment (layout b) 0 = .ok (rootWords b ++ pointer 2 1) := by
        rw [layout, if_neg hp, if_neg hfit]
        rfl
      have hm' : segment (layout b) 1 = .ok (textPointer b.text.length ++ padText b.text) := by
        rw [layout, if_neg hp, if_neg hfit]
        rfl
      rw [getRoot_rootWords hm (by simp [hone]) (by omega), if_neg hp,
        getText_far hindex htext hm']

/-! ### Reading back the segment table -/

/-- **What the reader accepts**: a table of fewer than 512 segments, within the traversal limit and
followed by at least the bytes it declares. -/
theorem readMessage_eq_ok_iff {bytes rest : List UInt8} {m : Message} :
    readMessage bytes = .ok (m, rest) ↔
      segmentCount bytes < segmentsCountLimit ∧
      (segmentSizes (segmentCount bytes) bytes).sum ≤ traversalLimitInWords ∧
      tableSize (segmentCount bytes) + 8 * (segmentSizes (segmentCount bytes) bytes).sum
        ≤ bytes.length ∧
      cutSegments (segmentSizes (segmentCount bytes) bytes)
        (bytes.drop (tableSize (segmentCount bytes))) = m ∧
      bytes.drop
        (tableSize (segmentCount bytes) + 8 * (segmentSizes (segmentCount bytes) bytes).sum)
        = rest := by
  have htable : 8 ≤ tableSize (segmentCount bytes) := by
    simp only [tableSize, segmentCount]
    omega
  simp only [readMessage]
  constructor
  · intro h
    split at h
    · cases h
    split at h
    · cases h
    split at h
    · cases h
    split at h
    · cases h
    split at h
    · cases h
    split at h
    · cases h
    simp only [Except.ok.injEq, Prod.mk.injEq] at h
    exact ⟨by omega, by omega, by omega, h.1, h.2⟩
  · rintro ⟨hcount, hsum, hlen, hm, hrest⟩
    have hne : bytes ≠ [] := List.ne_nil_of_length_pos (by omega)
    rw [if_neg hne, if_neg (by omega), if_neg (by omega), if_neg (by omega), if_neg (by omega),
      if_neg (by omega), hm, hrest]

/-- A message of one segment is read back. -/
theorem readMessage_one {seg : Segment} {n : ℕ} (hseg : seg.length = 8 * n)
    (hn : n ≤ traversalLimitInWords) :
    readMessage (table [seg] ++ [seg].flatten) = .ok ([seg], []) := by
  have hn' : n < 2 ^ 32 := by
    rw [traversalLimitInWords_eq] at hn
    omega
  have hdiv : seg.length / 8 = n := by omega
  have hbytes : table [seg] ++ [seg].flatten = le 4 0 ++ (le 4 n ++ seg) := by
    simp [table, hdiv]
  have hcount : segmentCount (le 4 0 ++ (le 4 n ++ seg)) = 1 := by
    rw [segmentCount, List.take_left' (length_le 4 0), ofLe_le_of_lt (by omega)]
  have hsizes : segmentSizes 1 (le 4 0 ++ (le 4 n ++ seg)) = [n] := by
    have hget : ofLe (((le 4 0 ++ (le 4 n ++ seg)).drop (4 + 4 * 0)).take 4) = n := by
      rw [List.drop_left' (length_le 4 0), List.take_left' (length_le 4 n), ofLe_le_of_lt hn']
    simp only [segmentSizes, List.range_one, List.map_cons, List.map_nil, hget]
  have hlen : (le 4 0 ++ (le 4 n ++ seg)).length = 8 + 8 * n := by
    simp only [List.length_append, length_le, hseg]
    omega
  have hdrop : (le 4 0 ++ (le 4 n ++ seg)).drop 8 = seg := by
    rw [← List.append_assoc]
    exact List.drop_left' (by simp)
  have hsum : [n].sum = n := by simp
  have htable : tableSize 1 = 8 := rfl
  rw [hbytes, readMessage_eq_ok_iff, hcount, hsizes, hsum, htable, hdrop]
  refine ⟨by decide, hn, by omega, ?_, List.drop_eq_nil_of_le (by omega)⟩
  rw [cutSegments, cutSegments, ← hseg, List.take_length]

/-- A message of two segments is read back. -/
theorem readMessage_two {seg seg' : Segment} {n n' : ℕ} (hseg : seg.length = 8 * n)
    (hseg' : seg'.length = 8 * n') (hn : n + n' ≤ traversalLimitInWords) :
    readMessage (table [seg, seg'] ++ [seg, seg'].flatten) = .ok ([seg, seg'], []) := by
  have hlimit : traversalLimitInWords < 2 ^ 32 := by
    rw [traversalLimitInWords_eq]
    omega
  have hdiv : seg.length / 8 = n := by omega
  have hdiv' : seg'.length / 8 = n' := by omega
  have hbytes : table [seg, seg'] ++ [seg, seg'].flatten
      = le 4 1 ++ (le 4 n ++ (le 4 n' ++ (le 4 0 ++ (seg ++ seg')))) := by
    simp [table, hdiv, hdiv']
  obtain ⟨bytes, hdef⟩ : ∃ bytes, bytes
      = le 4 1 ++ (le 4 n ++ (le 4 n' ++ (le 4 0 ++ (seg ++ seg')))) := ⟨_, rfl⟩
  have hcount : segmentCount bytes = 2 := by
    rw [hdef, segmentCount, List.take_left' (length_le 4 1), ofLe_le_of_lt (by omega)]
  have hdrop₁ : bytes.drop 4 = le 4 n ++ (le 4 n' ++ (le 4 0 ++ (seg ++ seg'))) := by
    rw [hdef]
    exact List.drop_left' (length_le 4 1)
  have hdrop₂ : bytes.drop 8 = le 4 n' ++ (le 4 0 ++ (seg ++ seg')) := by
    rw [show 8 = 4 + 4 by rfl, ← List.drop_drop, hdrop₁]
    exact List.drop_left' (length_le 4 n)
  have hdrop₄ : bytes.drop 16 = seg ++ seg' := by
    rw [show 16 = 8 + 8 by rfl, ← List.drop_drop, hdrop₂, ← List.append_assoc]
    exact List.drop_left' (by simp)
  have hsizes : segmentSizes 2 bytes = [n, n'] := by
    have hrange : List.range 2 = [0, 1] := rfl
    simp only [segmentSizes, hrange, List.map_cons, List.map_nil, Nat.mul_zero, Nat.add_zero,
      Nat.mul_one, Nat.reduceAdd, hdrop₁, hdrop₂]
    rw [List.take_left' (length_le 4 n), List.take_left' (length_le 4 n'),
      ofLe_le_of_lt (by omega), ofLe_le_of_lt (by omega)]
  have hlen : bytes.length = 16 + 8 * (n + n') := by
    rw [hdef]
    simp only [List.length_append, length_le, hseg, hseg']
    omega
  have hsum : [n, n'].sum = n + n' := by simp
  have htable : tableSize 2 = 16 := rfl
  rw [hbytes, ← hdef, readMessage_eq_ok_iff, hcount, hsizes, hsum, htable, hdrop₄]
  refine ⟨by decide, hn, by omega, ?_, List.drop_eq_nil_of_le (by omega)⟩
  rw [cutSegments, cutSegments, cutSegments, List.take_left' hseg, List.drop_left' hseg, ← hseg',
    List.take_length]

/-! ### The layout of a message -/

/-- The segments of a message are whole words, and there are one or two of them. -/
theorem layout_cases (b : StructBuilder) :
    (∃ seg n, layout b = [seg] ∧ seg.length = 8 * n) ∨
      ∃ seg seg' n n', layout b = [seg, seg'] ∧ seg.length = 8 * n ∧ seg'.length = 8 * n' := by
  have hroot := length_rootWords b
  have htext := length_padText b.text
  by_cases hp : b.size.pointers = 0
  · exact Or.inl ⟨rootWords b, _, by rw [layout, if_pos hp], hroot⟩
  · by_cases hfit : b.size.data + 2 + textWords b.text.length ≤ firstSegmentWords
    · refine Or.inl ⟨_, 1 + b.size.data + 1 + textWords b.text.length,
        by rw [layout, if_neg hp, if_pos hfit], ?_⟩
      simp only [List.length_append, hroot, textPointer, length_pointer, htext]
      omega
    · refine Or.inr ⟨_, _, 1 + b.size.data + 1, 1 + textWords b.text.length,
        by rw [layout, if_neg hp, if_neg hfit], ?_, ?_⟩
      · rw [List.length_append, hroot, length_pointer]
        omega
      · simp only [List.length_append, textPointer, length_pointer, htext]
        omega

/-- The segments of a message with a pointer hold its text. -/
theorem length_flatten_layout {b : StructBuilder} (hp : b.size.pointers ≠ 0) :
    b.text.length < (layout b).flatten.length := by
  have htext : b.text.length < (padText b.text).length := by
    rw [length_padText, textWords]
    omega
  rw [layout, if_neg hp]
  split
  · simp only [List.flatten_cons, List.flatten_nil, List.length_append, List.append_nil]
    omega
  · simp only [List.flatten_cons, List.flatten_nil, List.length_append, List.append_nil]
    omega

/-- The length of a written message with a pointer. -/
theorem length_writeMessage {b : StructBuilder} {bytes : List UInt8} (hp : b.size.pointers ≠ 0)
    (h : writeMessage b = .ok bytes) :
    bytes.length =
      if b.size.data + 2 + textWords b.text.length ≤ firstSegmentWords then
        8 * (b.size.data + 3 + textWords b.text.length)
      else 8 * (b.size.data + 5 + textWords b.text.length) := by
  have hroot := length_rootWords b
  have htext := length_padText b.text
  simp only [writeMessage, Except.ok.injEq] at h
  rw [← h, layout, if_neg hp]
  split
  · simp only [table, textPointer, List.flatten_cons, List.flatten_nil, List.length_append,
      LittleEndian.length_le, length_pointer, List.length_nil, hroot, htext]
    omega
  · simp only [table, textPointer, List.flatten_cons, List.flatten_nil, List.length_append,
      LittleEndian.length_le, length_pointer, List.length_nil, hroot, htext]
    omega

/-- **A written message is longer than the text in it.** -/
theorem length_writeMessage_ge {b : StructBuilder} {bytes : List UInt8}
    (h : writeMessage b = .ok bytes) : b.text.length ≤ bytes.length := by
  simp only [writeMessage, Except.ok.injEq] at h
  by_cases hp : b.size.pointers = 0
  · rw [b.text_nil hp]
    exact Nat.zero_le _
  · have hlt := length_flatten_layout hp
    rw [← h, List.length_append]
    omega

end Wire

/-- A list has fewer than `2 ^ 29` elements, and the NUL of a text is one of them. -/
def Wire.textFits (n : ℕ) : Bool := n + 1 < 2 ^ 29

/-- **The encoding as a serializer.** -/
def wire : Serializer where
  Message := Wire.Message
  textFits := Wire.textFits
  writeMessage := Wire.writeMessage
  readMessage := Wire.readMessage
  getRoot := Wire.getRoot

/-! ### The laws -/

/-- **Read after write** holds of the encoding up to the traversal limit of the reader. -/
theorem wire_readAfterWrite : wire.ReadAfterWrite (8 * Wire.traversalLimitInWords) := by
  intro b bytes hwrite hlen
  have hlimit := Wire.traversalLimitInWords_eq
  have htext : 2 + 8 * (b.text.length + 1) < 2 ^ 32 := by
    have := Wire.length_writeMessage_ge hwrite
    omega
  refine ⟨Wire.layout b, _, ?_, Wire.getRoot_layout htext, fun _ _ => rfl, rfl⟩
  have hbytes : Wire.table (Wire.layout b) ++ (Wire.layout b).flatten = bytes := by
    simpa only [wire, Wire.writeMessage, Except.ok.injEq] using hwrite
  show Wire.readMessage bytes = _
  rcases Wire.layout_cases b with ⟨seg, n, hlayout, hseg⟩ | ⟨seg, seg', n, n', hlayout, hseg, hseg'⟩
  · rw [hlayout] at hbytes ⊢
    have hbound : n ≤ Wire.traversalLimitInWords := by
      have := congrArg List.length hbytes
      simp only [Wire.table, List.flatten_cons, List.flatten_nil, List.length_append,
        LittleEndian.length_le, hseg, List.length_nil] at this
      omega
    rw [← hbytes]
    exact Wire.readMessage_one hseg hbound
  · rw [hlayout] at hbytes ⊢
    have hbound : n + n' ≤ Wire.traversalLimitInWords := by
      have := congrArg List.length hbytes
      simp only [Wire.table, List.flatten_cons, List.flatten_nil, List.length_append,
        LittleEndian.length_le, hseg, hseg', List.length_nil] at this
      omega
    rw [← hbytes]
    exact Wire.readMessage_two hseg hseg' hbound

/-- Cutting segments looks at the bytes of the segments only. -/
theorem Wire.cutSegments_take (sizes : List ℕ) (bytes : List UInt8) :
    Wire.cutSegments sizes (bytes.take (8 * sizes.sum)) = Wire.cutSegments sizes bytes := by
  induction sizes generalizing bytes with
  | nil => rfl
  | cons n sizes ih =>
      have hsum : 8 * (n :: sizes).sum = 8 * n + 8 * sizes.sum := by
        rw [List.sum_cons]
        omega
      rw [Wire.cutSegments, Wire.cutSegments, hsum, List.take_take, Nat.min_eq_left (by omega),
        List.drop_take, Nat.add_sub_cancel_left, ih]

/-- The table of a message is read from its own bytes. -/
theorem segmentCount_take {n : ℕ} {bytes : List UInt8} (hn : tableSize (segmentCount bytes) ≤ n) :
    segmentCount (bytes.take n) = segmentCount bytes := by
  have h4 : 4 ≤ n := by
    simp only [tableSize, segmentCount] at hn
    omega
  rw [segmentCount, List.take_take, Nat.min_eq_left h4, segmentCount]

theorem segmentSizes_take {n count : ℕ} {bytes : List UInt8} (hn : tableSize count ≤ n) :
    segmentSizes count (bytes.take n) = segmentSizes count bytes := by
  simp only [segmentSizes, List.map_inj_left, List.mem_range]
  intro i hi
  simp only [tableSize] at hn
  rw [List.drop_take, List.take_take, Nat.min_eq_left (by omega)]

/-- **The reader reads what the table declares.** -/
theorem wire_readsDeclared : wire.ReadsDeclared := by
  intro bytes m rest hread
  obtain ⟨hcount, hsum, hlen, hm, hrest⟩ := Wire.readMessage_eq_ok_iff.1 hread
  obtain ⟨n, hn⟩ : ∃ n, n
      = tableSize (segmentCount bytes) + 8 * (segmentSizes (segmentCount bytes) bytes).sum :=
    ⟨_, rfl⟩
  rw [← hn] at hlen hrest
  have htable : tableSize (segmentCount bytes) ≤ n := by omega
  refine ⟨n, ?_, hlen, hrest.symm, Wire.readMessage_eq_ok_iff.2 ?_⟩
  · simp only [declaredSize]
    rw [if_pos (le_trans htable hlen), hn]
  · rw [segmentCount_take htable, segmentSizes_take htable, ← hn]
    refine ⟨hcount, hsum, ?_, ?_, ?_⟩
    · rw [List.length_take, Nat.min_eq_left hlen]
    · have hrem : n - tableSize (segmentCount bytes)
          = 8 * (segmentSizes (segmentCount bytes) bytes).sum := by omega
      rw [List.drop_take, hrem, Wire.cutSegments_take, hm]
    · exact List.drop_eq_nil_of_le (by rw [List.length_take]; omega)

/-- **A struct without pointers** takes a table of one segment, a root pointer and its data. -/
theorem wire_writesData : wire.WritesData := by
  intro b hp hd
  refine ⟨_, rfl, ?_⟩
  simp only [Wire.layout, if_pos hp, Wire.table, List.flatten_cons, List.flatten_nil,
    List.length_append, LittleEndian.length_le, Wire.length_rootWords, List.length_nil]
  omega

end Capnp
