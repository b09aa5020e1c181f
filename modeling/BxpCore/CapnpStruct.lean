/-
**Cap'n Proto messages, as a program sees them.**

A program that talks Cap'n Proto fills in a root struct, hands it to a writer that turns it into
bytes, and on the other side hands bytes to a reader and looks at the struct it finds.  This module
fixes that view and nothing below it: the struct under construction and the struct found, the
fields of a data section, and the interface `Capnp.Serializer` of the writer and the reader.  What
a program may rely on about them is stated as named laws; `BxpCore/CapnpWire.lean` has a
serializer, on the actual encoding, that obeys them all.

Structs with at most one pointer are covered, and that pointer is a text.

Main definitions:

* `Capnp.getDataField`, `Capnp.setDataField` — the fields of a data section;
* `Capnp.StructBuilder`, `Capnp.StructReader` — a struct being written, and a struct found;
* `Capnp.declaredSize` — the size of a message according to its own segment table;
* `Capnp.Serializer` — the writer and the reader of messages, with the laws
  `Capnp.Serializer.ReadAfterWrite`, `Capnp.Serializer.ReadsDeclared` and
  `Capnp.Serializer.WritesData`.

Main results:

* `Capnp.getDataField_setDataField_self`, `Capnp.getDataField_setDataField_of_disjoint` — a field
  reads as it was set, and the others are left alone;
* `Capnp.Serializer.declaredSize_of_write` — the table of a written message declares its length.
-/

import BxpCore.LittleEndian
import Mathlib.Tactic.Ring

set_option relaxedAutoImplicit false
set_option autoImplicit false

namespace Capnp

open LittleEndian

/-- The errors of the reader and of the writer. -/
inductive ErrorKind
  | prematureEndOfFile
  | failedToFillTheWholeBuffer
  | invalidNumberOfSegments
  | messageTooLarge (words : ℕ)
  | invalidSegmentId (id : ℕ)
  | messageContainsOutOfBoundsPointer
  | messageContainsNonStructPointerWhereStructPointerWasExpected
  | messageContainsNonListPointerWhereTextWasExpected
  | messageContainsListPointerOfNonBytesWhereTextWasExpected
  | messageContainsTextThatIsNotNULTerminated
  deriving DecidableEq, Repr

/-! ### The fields of a data section -/

/-- The field of `w` bytes at index `i` of a data section.  A field past the end of the section
reads as zero: the section was written by a program that did not know the field. -/
def getDataField (w i : ℕ) (data : List UInt8) : ℕ :=
  if (i + 1) * w ≤ data.length then ofLe ((data.drop (i * w)).take w) else 0

/-- Overwriting the field of `w` bytes at index `i`. -/
def setDataField (w i v : ℕ) (data : List UInt8) : List UInt8 :=
  if (i + 1) * w ≤ data.length then
    data.take (i * w) ++ (le w v ++ data.drop ((i + 1) * w))
  else data

theorem setDataField_of_le {w i v : ℕ} {data : List UInt8} (h : (i + 1) * w ≤ data.length) :
    setDataField w i v data = data.take (i * w) ++ (le w v ++ data.drop ((i + 1) * w)) := by
  rw [setDataField, if_pos h]

@[simp] theorem length_setDataField (w i v : ℕ) (data : List UInt8) :
    (setDataField w i v data).length = data.length := by
  by_cases h : (i + 1) * w ≤ data.length
  · have hsplit : (i + 1) * w = i * w + w := by ring
    rw [setDataField_of_le h]
    simp only [List.length_append, List.length_take, length_le, List.length_drop]
    omega
  · rw [setDataField, if_neg h]

/-- **A field reads as it was set**, when its value fits the width. -/
theorem getDataField_setDataField_self {w i v : ℕ} {data : List UInt8}
    (h : (i + 1) * w ≤ data.length) (hv : v < 256 ^ w) :
    getDataField w i (setDataField w i v data) = v := by
  have hle : i * w ≤ data.length := le_trans (Nat.mul_le_mul_right w (Nat.le_succ i)) h
  have htake : (data.take (i * w)).length = i * w := by
    rw [List.length_take, Nat.min_eq_left hle]
  rw [getDataField, length_setDataField, if_pos h, setDataField_of_le h, List.drop_left' htake,
    List.take_left' (length_le w v), ofLe_le_of_lt hv]

/-- **Setting a field leaves the fields beside it alone.** -/
theorem getDataField_setDataField_of_disjoint {w i v w' i' : ℕ} {data : List UInt8}
    (h : (i' + 1) * w' ≤ i * w ∨ (i + 1) * w ≤ i' * w') :
    getDataField w' i' (setDataField w i v data) = getDataField w' i' data := by
  by_cases hset : (i + 1) * w ≤ data.length
  · have hw : (i + 1) * w = i * w + w := by ring
    have hw' : (i' + 1) * w' = i' * w' + w' := by ring
    have htake : (data.take (i * w)).length = i * w := by
      rw [List.length_take]
      omega
    rw [getDataField, getDataField, length_setDataField]
    by_cases hget : (i' + 1) * w' ≤ data.length
    · rw [if_pos hget, if_pos hget, setDataField_of_le hset]
      congr 1
      rcases h with hbefore | hafter
      · -- the field that is read lies in the part before the field that was set
        rw [List.drop_append_of_le_length (by omega),
          List.take_append_of_le_length (by rw [List.length_drop]; omega), List.drop_take,
          List.take_take, Nat.min_eq_left (by omega)]
      · -- the field that is read lies in the part after it
        have hfront : (data.take (i * w) ++ le w v).length = (i + 1) * w := by
          rw [List.length_append, htake, length_le, hw]
        rw [← List.append_assoc, ← Nat.add_sub_cancel' hafter, ← List.drop_drop,
          List.drop_left' hfront, List.drop_drop]
    · rw [if_neg hget, if_neg hget]
  · rw [setDataField, if_neg hset]

/-! ### Structs -/

/-- The size of a struct: the words of its data section and the number of its pointers. -/
structure StructSize where
  data : ℕ
  pointers : ℕ
  data_lt : data < 2 ^ 16 := by decide
  pointers_le : pointers ≤ 1 := by decide

/-- A struct under construction: its data section, and the text of its pointer if it has one. -/
structure StructBuilder where
  size : StructSize
  data : List UInt8
  text : List UInt8
  length_data : data.length = 8 * size.data
  text_nil : size.pointers = 0 → text = []

namespace StructBuilder

/-- A struct with all its fields zero and its text empty. -/
def initRoot (size : StructSize) : StructBuilder where
  size := size
  data := List.replicate (8 * size.data) 0
  text := []
  length_data := List.length_replicate
  text_nil _ := rfl

/-- Setting a field of the data section. -/
def setData (b : StructBuilder) (w i v : ℕ) : StructBuilder :=
  { b with
    data := setDataField w i v b.data
    length_data := by rw [length_setDataField, b.length_data] }

/-- Setting the text, in a struct that has a pointer for it. -/
def setText (b : StructBuilder) (text : List UInt8) : StructBuilder :=
  if h : b.size.pointers = 0 then b
  else { b with text := text, text_nil := fun h' => absurd h' h }

@[simp] theorem initRoot_size (size : StructSize) : (initRoot size).size = size := rfl

@[simp] theorem setData_size (b : StructBuilder) (w i v : ℕ) : (b.setData w i v).size = b.size :=
  rfl

@[simp] theorem setData_data (b : StructBuilder) (w i v : ℕ) :
    (b.setData w i v).data = setDataField w i v b.data := rfl

@[simp] theorem setData_text (b : StructBuilder) (w i v : ℕ) : (b.setData w i v).text = b.text :=
  rfl

@[simp] theorem setText_size (b : StructBuilder) (text : List UInt8) :
    (b.setText text).size = b.size := by
  unfold setText
  split <;> rfl

@[simp] theorem setText_data (b : StructBuilder) (text : List UInt8) :
    (b.setText text).data = b.data := by
  unfold setText
  split <;> rfl

theorem setText_text {b : StructBuilder} (h : b.size.pointers ≠ 0) (text : List UInt8) :
    (b.setText text).text = text := by
  unfold setText
  rw [dif_neg h]

end StructBuilder

/-- A struct found in a message: its data section, and what its text pointer leads to. -/
structure StructReader where
  data : List UInt8
  text : Except ErrorKind (List UInt8)

/-! ### The size a message declares -/

/-- The number of segments the table in front of `bytes` announces. -/
def segmentCount (bytes : List UInt8) : ℕ := ofLe (bytes.take 4) + 1

/-- The bytes of a table of `count` segments: their number and their sizes, four bytes each, padded
to a whole number of words. -/
def tableSize (count : ℕ) : ℕ := 8 * ((count + 2) / 2)

/-- The sizes, in words, of the first `count` segments of the table in front of `bytes`. -/
def segmentSizes (count : ℕ) (bytes : List UInt8) : List ℕ :=
  (List.range count).map fun i => ofLe ((bytes.drop (4 + 4 * i)).take 4)

/-- **The size a message declares**: its segment table and the segments listed there. -/
def declaredSize (bytes : List UInt8) : Option ℕ :=
  let count := segmentCount bytes
  if tableSize count ≤ bytes.length then
    some (tableSize count + 8 * (segmentSizes count bytes).sum)
  else none

/-! ### Serializers -/

/-- The writer and the reader of messages.  `textFits` says which texts the builder takes (it
panics on the others), `readMessage` returns the message with the bytes it left unread. -/
structure Serializer where
  Message : Type
  textFits : ℕ → Bool
  writeMessage : StructBuilder → Except ErrorKind (List UInt8)
  readMessage : List UInt8 → Except ErrorKind (Message × List UInt8)
  getRoot : Message → Except ErrorKind StructReader

namespace Serializer

variable (S : Serializer)

/-- **Read after write**: a message of at most `limit` bytes that was written is read in full, and
the struct found in it has the fields and the text of the struct that was written. -/
def ReadAfterWrite (limit : ℕ) : Prop :=
  ∀ (b : StructBuilder) (bytes : List UInt8), S.writeMessage b = .ok bytes → bytes.length ≤ limit →
    ∃ m r, S.readMessage bytes = .ok (m, []) ∧ S.getRoot m = .ok r ∧
      (∀ w i, getDataField w i r.data = getDataField w i b.data) ∧ r.text = .ok b.text

/-- **The reader reads the segment table and the segments declared there**, no byte more: what
follows is left unread and has no influence. -/
def ReadsDeclared : Prop :=
  ∀ (bytes : List UInt8) (m : S.Message) (rest : List UInt8),
    S.readMessage bytes = .ok (m, rest) →
    ∃ n, declaredSize bytes = some n ∧ n ≤ bytes.length ∧ rest = bytes.drop n ∧
      S.readMessage (bytes.take n) = .ok (m, [])

/-- A small struct without pointers is written as a table of one segment, the root pointer and the
data section. -/
def WritesData : Prop :=
  ∀ b : StructBuilder, b.size.pointers = 0 → b.size.data < 2 ^ 10 →
    ∃ bytes, S.writeMessage b = .ok bytes ∧ bytes.length = 16 + 8 * b.size.data

variable {S}

theorem ReadAfterWrite.mono {limit limit' : ℕ} (h : S.ReadAfterWrite limit)
    (hle : limit' ≤ limit) : S.ReadAfterWrite limit' :=
  fun b bytes hwrite hlen => h b bytes hwrite (le_trans hlen hle)

/-- **The table of a written message declares the length of the message.** -/
theorem declaredSize_of_write {limit : ℕ} (hrw : S.ReadAfterWrite limit) (hrd : S.ReadsDeclared)
    {b : StructBuilder} {bytes : List UInt8} (h : S.writeMessage b = .ok bytes)
    (hlen : bytes.length ≤ limit) : declaredSize bytes = some bytes.length := by
  obtain ⟨m, r, hread, -, -, -⟩ := hrw b bytes h hlen
  obtain ⟨n, hn, hle, hrest, -⟩ := hrd bytes m [] hread
  have hge : bytes.length ≤ n := List.drop_eq_nil_iff.1 hrest.symm
  rw [hn, le_antisymm hle hge]

end Serializer

end Capnp
