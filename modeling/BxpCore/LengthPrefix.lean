/-
**Length-prefixed framing of a byte stream.**

A byte stream keeps the order of its bytes but not the boundaries of the messages written to it,
so each message travels behind a four-byte little-endian header that carries its length.  This
module is about such streams and about *any* reader of them: a reader is a state machine whose
states know the bytes still unread, and the laws of `LengthPrefix.Lawful` say what one call does on
a whole frame and on the remains of a cut one.  From one call to a whole stream is the induction
done here, once.

Main definitions:

* `LengthPrefix.frame`, `LengthPrefix.frames` — one message behind its header, and a list of them;
* `LengthPrefix.header` — the length a reader finds in front of it;
* `LengthPrefix.Truncated` — the remains of a frame whose sender stopped in the middle;
* `LengthPrefix.Carries` — the bytes on the way are the frames of these messages;
* `LengthPrefix.AtBoundary` — the unread bytes start where a frame of the stream starts;
* `LengthPrefix.Reader`, `LengthPrefix.Reader.trace` — a reader, and the calls it makes, each with
  the bytes it found and the result it returned;
* `LengthPrefix.Lawful` — the laws of a reader of frames.

Main results:

* `LengthPrefix.Lawful.trace_frames` — **a lawful reader returns the decoded bodies in order**, and
  every call starts on a frame boundary;
* `LengthPrefix.Lawful.results_of_carries` — the first calls on some messages;
* `LengthPrefix.Lawful.trace_truncated` — on the remains of a frame every call fails;
* `LengthPrefix.Lawful.exists_trace` — on a stream that has ended no call waits;
* `LengthPrefix.Lawful.results_framed` — the results on frames and the remains of one more;
* `LengthPrefix.Lawful.recv_of_carries` — one call while bytes are still on the way;
* `LengthPrefix.not_atBoundary_inside` — a position inside a nonempty body is not a boundary.
-/

import BxpCore.LittleEndian
import Mathlib.Data.List.Basic

set_option relaxedAutoImplicit false
set_option autoImplicit false

namespace LengthPrefix

open LittleEndian

/-! ### Frames -/

/-- One frame: the length of the body in four bytes, and the body. -/
def frame (body : List UInt8) : List UInt8 := le32 (UInt32.ofNat body.length) ++ body

/-- The frames of a list of bodies, one after the other. -/
def frames (bodies : List (List UInt8)) : List UInt8 := bodies.flatMap frame

/-- The length announced in front of `bytes`, if the four bytes of a header are there. -/
def header (bytes : List UInt8) : Option ℕ :=
  if 4 ≤ bytes.length then some (ofLe (bytes.take 4)) else none

@[simp] theorem length_frame (body : List UInt8) : (frame body).length = 4 + body.length := by
  simp [frame]

theorem frame_injective {body body' : List UInt8} (h : frame body = frame body') :
    body = body' := by
  have hdrop := congrArg (List.drop 4) h
  rwa [frame, frame, List.drop_left' (length_le32 _), List.drop_left' (length_le32 _)] at hdrop

@[simp] theorem frames_nil : frames [] = [] := rfl

@[simp] theorem frames_cons (body : List UInt8) (bodies : List (List UInt8)) :
    frames (body :: bodies) = frame body ++ frames bodies := by
  simp [frames]

@[simp] theorem frames_append (bodies bodies' : List (List UInt8)) :
    frames (bodies ++ bodies') = frames bodies ++ frames bodies' := by
  simp [frames]

theorem header_of_lt {bytes : List UInt8} (h : bytes.length < 4) : header bytes = none := by
  simp [header, h]

theorem header_of_le {bytes : List UInt8} (h : 4 ≤ bytes.length) :
    header bytes = some (ofLe (bytes.take 4)) := by
  simp [header, h]

theorem header_eq_none_iff {bytes : List UInt8} : header bytes = none ↔ bytes.length < 4 := by
  simp [header]

theorem header_eq_some_iff {bytes : List UInt8} {n : ℕ} :
    header bytes = some n ↔ 4 ≤ bytes.length ∧ ofLe (bytes.take 4) = n := by
  simp [header]

@[simp] theorem take_frame_append (body rest : List UInt8) :
    (frame body ++ rest).take 4 = le32 (UInt32.ofNat body.length) := by
  rw [frame, List.append_assoc, List.take_left' (length_le32 _)]

@[simp] theorem drop_frame_append (body rest : List UInt8) :
    (frame body ++ rest).drop 4 = body ++ rest := by
  rw [frame, List.append_assoc, List.drop_left' (length_le32 _)]

theorem ofLe_le32_length {body : List UInt8} (h : body.length < 2 ^ 32) :
    ofLe (le32 (UInt32.ofNat body.length)) = body.length := by
  rw [le32, UInt32.toNat_ofNat', Nat.mod_eq_of_lt h]
  exact ofLe_le_of_lt h

/-- The header in front of a frame is the length of its body. -/
theorem header_frame_append {body : List UInt8} (h : body.length < 2 ^ 32) (rest : List UInt8) :
    header (frame body ++ rest) = some body.length := by
  have hlen : 4 ≤ (frame body ++ rest).length := by
    rw [List.length_append, length_frame]
    omega
  rw [header_of_le hlen, take_frame_append, ofLe_le32_length h]

/-! ### Cut frames -/

/-- The remains of a frame with a body of at most `limit` bytes, cut anywhere before its end. -/
def Truncated (limit : ℕ) (tail : List UInt8) : Prop :=
  ∃ body : List UInt8, body.length ≤ limit ∧ tail <+: frame body ∧ tail ≠ frame body

theorem truncated_nil (limit : ℕ) : Truncated limit [] :=
  ⟨[], Nat.zero_le _, List.nil_prefix, fun h => by simpa using congrArg List.length h⟩

/-- In the remains of a frame either the header is incomplete, or it announces more bytes than
are there. -/
theorem Truncated.header_cases {limit : ℕ} {tail : List UInt8} (hlimit : limit < 2 ^ 32)
    (h : Truncated limit tail) :
    header tail = none ∨
      ∃ n, header tail = some n ∧ n ≤ limit ∧ (tail.drop 4).length < n := by
  obtain ⟨body, hbody, hpre, hne⟩ := h
  have hlt : tail.length < 4 + body.length := by
    have hle := hpre.length_le
    rw [length_frame] at hle
    refine lt_of_le_of_ne hle fun heq => hne ?_
    exact hpre.eq_of_length (by rw [heq, length_frame])
  by_cases h4 : tail.length < 4
  · exact Or.inl (header_of_lt h4)
  · refine Or.inr ⟨body.length, ?_, hbody, by rw [List.length_drop]; omega⟩
    have htake : tail.take 4 = (frame body).take 4 := by
      obtain ⟨rest, hrest⟩ := hpre
      rw [← hrest, List.take_append_of_le_length (by omega)]
    have hhead := header_frame_append (lt_of_le_of_lt hbody hlimit) []
    rw [List.append_nil, header_of_le (by simp)] at hhead
    rw [header_of_le (by omega), htake]
    exact hhead

/-! ### Frame boundaries -/

/-- The unread bytes start where one of the frames starts, or at the end of all of them. -/
def AtBoundary (bodies : List (List UInt8)) (unread : List UInt8) : Prop :=
  ∃ k, unread = frames (bodies.drop k)

theorem length_frames_drop_le (bodies : List (List UInt8)) {j k : ℕ} (h : j ≤ k) :
    (frames (bodies.drop k)).length ≤ (frames (bodies.drop j)).length := by
  obtain ⟨d, rfl⟩ := Nat.exists_eq_add_of_le h
  have hsplit : bodies.drop j = (bodies.drop j).take d ++ bodies.drop (j + d) := by
    rw [← List.drop_drop, List.take_append_drop]
  rw [hsplit, frames_append, List.length_append]
  omega

/-- **A position inside a nonempty body is not a frame boundary.** -/
theorem not_atBoundary_inside (bodies : List (List UInt8)) (body : List UInt8)
    (bodies' : List (List UInt8)) (h : body ≠ []) :
    ¬ AtBoundary (bodies ++ body :: bodies') (body ++ frames bodies') := by
  rintro ⟨k, hk⟩
  have hlen := congrArg List.length hk
  have hpos : 0 < body.length := List.length_pos_iff.2 h
  rw [List.length_append] at hlen
  rcases Nat.lt_or_ge bodies.length k with hlt | hge
  · -- the frames after the body are too few
    have hle := length_frames_drop_le (bodies ++ body :: bodies') (j := bodies.length + 1) hlt
    have hdrop : (bodies ++ body :: bodies').drop (bodies.length + 1) = bodies' := by
      rw [← List.drop_drop, List.drop_left, List.drop_succ_cons, List.drop_zero]
    rw [hdrop] at hle
    omega
  · -- with the frame of the body itself there are four bytes too many
    have hle := length_frames_drop_le (bodies ++ body :: bodies') hge
    rw [List.drop_left, frames_cons, List.length_append, length_frame] at hle
    omega

/-! ### Bytes on the way -/

/-- The bytes are the frames of bodies of at most `limit` bytes each, which decode to `rs`. -/
def Carries {ρ : Type*} (limit : ℕ) (decode : List UInt8 → ρ) (bytes : List UInt8) (rs : List ρ) :
    Prop :=
  ∃ bodies, bytes = frames bodies ∧ (∀ body ∈ bodies, body.length ≤ limit) ∧
    bodies.map decode = rs

section Carries

variable {ρ : Type*} {limit : ℕ} {decode : List UInt8 → ρ}

theorem carries_nil : Carries limit decode [] [] := ⟨[], rfl, by simp, rfl⟩

theorem Carries.eq_nil {bytes : List UInt8} (h : Carries limit decode bytes []) : bytes = [] := by
  obtain ⟨bodies, hbytes, -, hmap⟩ := h
  rw [List.map_eq_nil_iff] at hmap
  rw [hbytes, hmap, frames_nil]

/-- One more frame behind the others. -/
theorem Carries.concat {bytes : List UInt8} {rs : List ρ} (h : Carries limit decode bytes rs)
    {body : List UInt8} (hbody : body.length ≤ limit) :
    Carries limit decode (bytes ++ frame body) (rs ++ [decode body]) := by
  obtain ⟨bodies, rfl, hbodies, rfl⟩ := h
  refine ⟨bodies ++ [body], by simp, ?_, by simp⟩
  intro b hb
  rcases List.mem_append.1 hb with hb | hb
  · exact hbodies b hb
  · rw [List.mem_singleton.1 hb]
    exact hbody

/-- Some frames, and some more behind them. -/
theorem Carries.append {bytes bytes' : List UInt8} {rs rs' : List ρ}
    (h : Carries limit decode bytes rs) (h' : Carries limit decode bytes' rs') :
    Carries limit decode (bytes ++ bytes') (rs ++ rs') := by
  obtain ⟨bodies, rfl, hbodies, rfl⟩ := h
  obtain ⟨bodies', rfl, hbodies', rfl⟩ := h'
  refine ⟨bodies ++ bodies', (frames_append bodies bodies').symm, ?_, List.map_append⟩
  intro b hb
  rcases List.mem_append.1 hb with hb | hb
  · exact hbodies b hb
  · exact hbodies' b hb

/-- The frame in front of the others. -/
theorem Carries.uncons {bytes : List UInt8} {r : ρ} {rs : List ρ}
    (h : Carries limit decode bytes (r :: rs)) :
    ∃ body rest, bytes = frame body ++ rest ∧ body.length ≤ limit ∧ decode body = r ∧
      Carries limit decode rest rs := by
  obtain ⟨bodies, rfl, hbodies, hmap⟩ := h
  cases bodies with
  | nil => cases hmap
  | cons body bodies =>
      rw [List.map_cons, List.cons.injEq] at hmap
      refine ⟨body, frames bodies, frames_cons body bodies, hbodies body (by simp), hmap.1, ?_⟩
      exact ⟨bodies, rfl, fun b hb => hbodies b (by simp [hb]), hmap.2⟩

end Carries

/-! ### Readers -/

/-- A reader of messages.  `recv` is one call, which has no result (`none`) while it waits for
bytes; `unread` is what the stream still holds, and `Ended` says that nothing will be added. -/
structure Reader (σ ρ : Type*) where
  recv : σ → Option (ρ × σ)
  unread : σ → List UInt8
  Ended : σ → Prop

variable {σ ρ : Type*}

/-- The first `n` calls, each with the bytes it found unread and the result it returned. -/
def Reader.trace (R : Reader σ ρ) : ℕ → σ → Option (List (List UInt8 × ρ) × σ)
  | 0, s => some ([], s)
  | n + 1, s =>
      (R.recv s).bind fun p => (R.trace n p.2).map fun q => ((R.unread s, p.1) :: q.1, q.2)

variable {R : Reader σ ρ}

@[simp] theorem Reader.trace_zero (s : σ) : R.trace 0 s = some ([], s) := rfl

theorem Reader.trace_succ_eq_some {n : ℕ} {s t u : σ} {r : ρ} {tr : List (List UInt8 × ρ)}
    (h : R.recv s = some (r, t)) (ht : R.trace n t = some (tr, u)) :
    R.trace (n + 1) s = some ((R.unread s, r) :: tr, u) := by
  simp only [trace, h, Option.bind_some, ht, Option.map_some]

theorem Reader.trace_add {m n : ℕ} {s t u : σ} {tr tr' : List (List UInt8 × ρ)}
    (h : R.trace m s = some (tr, t)) (ht : R.trace n t = some (tr', u)) :
    R.trace (m + n) s = some (tr ++ tr', u) := by
  induction m generalizing s tr with
  | zero =>
      simp only [trace_zero, Option.some.injEq, Prod.mk.injEq] at h
      obtain ⟨rfl, rfl⟩ := h
      rwa [Nat.zero_add, List.nil_append]
  | succ m ih =>
      simp only [trace, Option.bind_eq_some_iff, Option.map_eq_some_iff] at h
      obtain ⟨⟨r, v⟩, hrecv, ⟨tr₀, w⟩, hrest, heq⟩ := h
      simp only [Prod.mk.injEq] at heq
      obtain ⟨rfl, rfl⟩ := heq
      rw [Nat.succ_add]
      exact trace_succ_eq_some hrecv (ih hrest)

/-- The results of the first `n` calls. -/
def Reader.results (R : Reader σ ρ) (n : ℕ) (s : σ) : Option (List ρ × σ) :=
  (R.trace n s).map fun p => (p.1.map Prod.snd, p.2)

theorem Reader.results_of_trace {n : ℕ} {s t : σ} {tr : List (List UInt8 × ρ)}
    (h : R.trace n s = some (tr, t)) : R.results n s = some (tr.map Prod.snd, t) := by
  rw [results, h, Option.map_some]

/-- `n` calls on the state `s` return, and leave the state `t`. -/
def Reader.After (R : Reader σ ρ) (n : ℕ) (s t : σ) : Prop := ∃ tr, R.trace n s = some (tr, t)

theorem Reader.after_zero {s t : σ} : R.After 0 s t ↔ t = s := by
  simp [After, eq_comm]

theorem Reader.after_succ {n : ℕ} {s u : σ} :
    R.After (n + 1) s u ↔ ∃ t r, R.After n s t ∧ R.recv t = some (r, u) := by
  constructor
  · rintro ⟨tr, h⟩
    induction n generalizing s tr with
    | zero =>
        simp only [trace, Option.map_some, Option.bind_eq_some_iff, Option.some.injEq,
          Prod.mk.injEq] at h
        obtain ⟨⟨r, v⟩, hrecv, -, rfl⟩ := h
        exact ⟨s, r, after_zero.2 rfl, hrecv⟩
    | succ n ih =>
        rw [trace] at h
        simp only [Option.bind_eq_some_iff, Option.map_eq_some_iff] at h
        obtain ⟨⟨r, v⟩, hrecv, ⟨tr', w⟩, hrest, heq⟩ := h
        simp only [Prod.mk.injEq] at heq
        obtain ⟨-, rfl⟩ := heq
        obtain ⟨t, r', ⟨tr₀, htr₀⟩, hlast⟩ := ih tr' hrest
        exact ⟨t, r', ⟨_, trace_succ_eq_some hrecv htr₀⟩, hlast⟩
  · rintro ⟨t, r, ⟨tr, htr⟩, hrecv⟩
    exact ⟨_, trace_add htr (trace_succ_eq_some hrecv (trace_zero u))⟩

/-- The calls a reader should make on the frames of `bodies` followed by `rest`. -/
def framedTrace (decode : List UInt8 → ρ) (rest : List UInt8) :
    List (List UInt8) → List (List UInt8 × ρ)
  | [] => []
  | body :: bodies =>
      (frames (body :: bodies) ++ rest, decode body) :: framedTrace decode rest bodies

@[simp] theorem map_snd_framedTrace (decode : List UInt8 → ρ) (rest : List UInt8)
    (bodies : List (List UInt8)) :
    (framedTrace decode rest bodies).map Prod.snd = bodies.map decode := by
  induction bodies with
  | nil => rfl
  | cons body bodies ih => simp [framedTrace, ih]

/-- The laws of a reader of frames with bodies of at most `limit` bytes: a whole frame is consumed
and its body decoded, whatever follows it; the remains of a frame are consumed and the call fails
when the stream has ended, and the call waits when it has not; on a stream that has ended no call
waits. -/
structure Lawful (R : Reader σ ρ) (limit : ℕ) (decode : List UInt8 → ρ) (Fails : ρ → Prop) :
    Prop where
  whole : ∀ {s : σ} {body rest : List UInt8}, body.length ≤ limit →
    R.unread s = frame body ++ rest →
    ∃ t, R.recv s = some (decode body, t) ∧ R.unread t = rest ∧ (R.Ended t ↔ R.Ended s)
  truncated : ∀ {s : σ}, R.Ended s → Truncated limit (R.unread s) →
    ∃ r t, R.recv s = some (r, t) ∧ Fails r ∧ R.unread t = [] ∧ R.Ended t
  pending : ∀ {s : σ}, ¬ R.Ended s → Truncated limit (R.unread s) → R.recv s = none
  total : ∀ {s : σ}, R.Ended s → ∃ r t, R.recv s = some (r, t) ∧ R.Ended t

namespace Lawful

variable {limit : ℕ} {decode : List UInt8 → ρ} {Fails : ρ → Prop}

/-- On a stream that has ended any number of calls return. -/
theorem exists_trace (h : Lawful R limit decode Fails) (n : ℕ) {s : σ} (hend : R.Ended s) :
    ∃ tr t, R.trace n s = some (tr, t) := by
  induction n generalizing s with
  | zero => exact ⟨[], s, rfl⟩
  | succ n ih =>
      obtain ⟨r, t, hrecv, ht⟩ := h.total hend
      obtain ⟨tr, u, htr⟩ := ih ht
      exact ⟨_, u, Reader.trace_succ_eq_some hrecv htr⟩

/-- **The frames of a stream come out in order**, one for each call, whatever follows them. -/
theorem trace_frames (h : Lawful R limit decode Fails) {bodies : List (List UInt8)}
    (hbodies : ∀ body ∈ bodies, body.length ≤ limit) {s : σ} {rest : List UInt8}
    (hs : R.unread s = frames bodies ++ rest) :
    ∃ t, R.trace bodies.length s = some (framedTrace decode rest bodies, t) ∧
      R.unread t = rest ∧ (R.Ended t ↔ R.Ended s) := by
  induction bodies generalizing s with
  | nil => exact ⟨s, rfl, by simpa using hs, Iff.rfl⟩
  | cons body bodies ih =>
      have hs' : R.unread s = frame body ++ (frames bodies ++ rest) := by
        rw [hs, frames_cons, List.append_assoc]
      obtain ⟨t, hrecv, hunread, hend⟩ := h.whole (hbodies body (by simp)) hs'
      obtain ⟨u, htr, hu, hend'⟩ := ih (fun b hb => hbodies b (by simp [hb])) hunread
      refine ⟨u, ?_, hu, hend'.trans hend⟩
      rw [framedTrace, ← hs]
      exact Reader.trace_succ_eq_some hrecv htr

/-- **On the remains of a frame every call fails**, and so does every later one. -/
theorem trace_truncated (h : Lawful R limit decode Fails) (n : ℕ) {s : σ} (hend : R.Ended s)
    (htail : Truncated limit (R.unread s)) :
    ∃ tr t, R.trace n s = some (tr, t) ∧ tr.length = n ∧ ∀ p ∈ tr, Fails p.2 := by
  induction n generalizing s with
  | zero => exact ⟨[], s, rfl, rfl, by simp⟩
  | succ n ih =>
      obtain ⟨r, t, hrecv, hfail, hunread, ht⟩ := h.truncated hend htail
      obtain ⟨tr, u, htr, hlen, hfails⟩ := ih ht (hunread ▸ truncated_nil limit)
      refine ⟨_, u, Reader.trace_succ_eq_some hrecv htr, by simp [hlen], ?_⟩
      intro p hp
      rcases List.mem_cons.1 hp with rfl | hp
      · exact hfail
      · exact hfails p hp

/-- **A call while bytes are still on the way.**  The stream goes on, and the bytes to be read
together with those on the way are the frames of `rs`.  Then the call waits, and if nothing is on
the way there is nothing to wait for; or it returns the first of `rs`, and the others follow. -/
theorem recv_of_carries (h : Lawful R limit decode Fails) {s : σ} (hopen : ¬ R.Ended s)
    {more : List UInt8} {rs : List ρ} (hs : Carries limit decode (R.unread s ++ more) rs) :
    (R.recv s = none ∧ (more = [] → rs = [])) ∨
      ∃ r rs' t, rs = r :: rs' ∧ R.recv s = some (r, t) ∧ ¬ R.Ended t ∧
        Carries limit decode (R.unread t ++ more) rs' := by
  cases rs with
  | nil =>
      have hnil := (List.append_eq_nil_iff.1 hs.eq_nil).1
      exact Or.inl ⟨h.pending hopen (hnil ▸ truncated_nil limit), fun _ => rfl⟩
  | cons r rs =>
      obtain ⟨body, rest, hbytes, hbody, hdecode, hrest⟩ := hs.uncons
      rcases Nat.lt_or_ge (R.unread s).length (frame body).length with hlt | hge
      · -- the frame is not there in full
        refine Or.inl ⟨h.pending hopen ⟨body, hbody, ?_, ?_⟩, ?_⟩
        · exact List.prefix_of_prefix_length_le (hbytes ▸ List.prefix_append _ _)
            (List.prefix_append _ _) (le_of_lt hlt)
        · intro heq
          rw [heq] at hlt
          exact absurd hlt (lt_irrefl _)
        · rintro rfl
          have hlen := congrArg List.length hbytes
          rw [List.append_nil, List.length_append] at hlen
          omega
      · -- the frame is there, and some bytes behind it
        have hpre : frame body <+: R.unread s :=
          List.prefix_of_prefix_length_le (List.prefix_append _ _)
            (hbytes ▸ List.prefix_append _ _) hge
        obtain ⟨behind, hbehind⟩ := hpre
        obtain ⟨t, hrecv, hunread, hend⟩ := h.whole hbody hbehind.symm
        have hmore : rest = behind ++ more := by
          rw [← hbehind, List.append_assoc] at hbytes
          exact (List.append_cancel_left hbytes).symm
        refine Or.inr ⟨r, rs, t, rfl, hdecode ▸ hrecv, fun ht => hopen (hend.1 ht), ?_⟩
        rw [hunread, ← hmore]
        exact hrest

/-- **A stream of frames that is cut somewhere**: the decoded bodies in order, and failures for all
the calls after them. -/
theorem results_framed (h : Lawful R limit decode Fails) {bodies : List (List UInt8)}
    (hbodies : ∀ body ∈ bodies, body.length ≤ limit) {tail : List UInt8}
    (htail : Truncated limit tail) {s : σ} (hs : R.unread s = frames bodies ++ tail)
    (hend : R.Ended s) (m : ℕ) :
    ∃ fails t, R.results (bodies.length + m) s = some (bodies.map decode ++ fails, t) ∧
      fails.length = m ∧ ∀ r ∈ fails, Fails r := by
  obtain ⟨t, htrace, hunread, hend'⟩ := h.trace_frames hbodies hs
  obtain ⟨tr, u, htrace', hlen, hfails⟩ := h.trace_truncated m (hend'.2 hend) (hunread ▸ htail)
  refine ⟨tr.map Prod.snd, u, ?_, by rw [List.length_map, hlen], ?_⟩
  · rw [Reader.results_of_trace (Reader.trace_add htrace htrace'), List.map_append,
      map_snd_framedTrace]
  · intro r hr
    obtain ⟨p, hp, rfl⟩ := List.mem_map.1 hr
    exact hfails p hp

end Lawful

end LengthPrefix
