/-
**Reading a stream while it arrives.**

The bytes of a stream arrive in pieces that are cut anywhere, and its reader is called at times of
its own.  What the reader finds does not depend on either: a stream of bytes, whatever the bytes
are, holds a list of *items*, each of them a whole frame or a header that announces too much, and
the calls return the items in order.  Only where the stream ends does the reader see more than the
items, and then every call fails.

Unlike `LengthPrefix.Lawful`, which speaks of streams that are frames, nothing is assumed of the
bytes here.

Main definitions:

* `LengthPrefix.Item`, `LengthPrefix.firstItem`, `LengthPrefix.scan` — what a stream holds;
* `LengthPrefix.Reads` — some items are read from the front of a stream;
* `LengthPrefix.Scans` — the laws of a reader of items;
* `LengthPrefix.Follows` — what a reader has returned, when so much has arrived;
* `LengthPrefix.oks` — the results before the first error.

Main results:

* `LengthPrefix.firstItem_append`, `LengthPrefix.scan_prefix_append` — what has been found stays,
  whatever arrives behind it;
* `LengthPrefix.Follows.arrive`, `LengthPrefix.Follows.call` — arrivals and calls keep the
  invariant;
* `LengthPrefix.Follows.exists_items`, `LengthPrefix.Follows.of_pending` — **the results are those
  of the items that have arrived**;
* `LengthPrefix.oks_scan_frames`, `LengthPrefix.oks_scan_frames_eq`,
  `LengthPrefix.map_scan_frames` — what a sender of frames is heard to say.
-/

import BxpCore.LengthPrefix

set_option relaxedAutoImplicit false
set_option autoImplicit false

namespace LengthPrefix

open LittleEndian

/-! ### What a stream holds -/

/-- What a reader finds: the body of a whole frame, or a header that announces too much. -/
inductive Item
  | body (bytes : List UInt8)
  | oversized (len : ℕ)
  deriving DecidableEq, Repr

/-- The bytes of an item on the stream. -/
def Item.width : Item → ℕ
  | body bytes => 4 + bytes.length
  | oversized _ => 4

/-- The first item of a stream, and what follows it; nothing as long as it is not there in full. -/
def firstItem (limit : ℕ) (bytes : List UInt8) : Option (Item × List UInt8) :=
  match header bytes with
  | none => none
  | some n =>
      if limit < n then some (.oversized n, bytes.drop 4)
      else if n ≤ (bytes.drop 4).length then
        some (.body ((bytes.drop 4).take n), (bytes.drop 4).drop n)
      else none

/-- The items of a stream, at most `fuel` of them. -/
def scanAux (limit : ℕ) : ℕ → List UInt8 → List Item
  | 0, _ => []
  | fuel + 1, bytes =>
      match firstItem limit bytes with
      | none => []
      | some (item, rest) => item :: scanAux limit fuel rest

/-- The items of a stream. -/
def scan (limit : ℕ) (bytes : List UInt8) : List Item := scanAux limit bytes.length bytes

variable {limit : ℕ} {bytes rest : List UInt8} {item : Item}

/-- The three ways to look for an item. -/
theorem firstItem_cases (limit : ℕ) (bytes : List UInt8) :
    (header bytes = none ∧ firstItem limit bytes = none) ∨
      ∃ n, header bytes = some n ∧
        ((limit < n ∧ firstItem limit bytes = some (.oversized n, bytes.drop 4)) ∨
          (n ≤ limit ∧ n ≤ (bytes.drop 4).length ∧
            firstItem limit bytes
              = some (.body ((bytes.drop 4).take n), (bytes.drop 4).drop n)) ∨
          (n ≤ limit ∧ (bytes.drop 4).length < n ∧ firstItem limit bytes = none)) := by
  unfold firstItem
  cases hheader : header bytes with
  | none => exact Or.inl ⟨rfl, rfl⟩
  | some n =>
      refine Or.inr ⟨n, rfl, ?_⟩
      dsimp only
      rcases Nat.lt_or_ge limit n with hbig | hle
      · exact Or.inl ⟨hbig, if_pos hbig⟩
      · rw [if_neg (Nat.not_lt.2 hle)]
        rcases Nat.lt_or_ge (bytes.drop 4).length n with hlt | hge
        · exact Or.inr (Or.inr ⟨hle, hlt, if_neg (Nat.not_le.2 hlt)⟩)
        · exact Or.inr (Or.inl ⟨hle, hge, if_pos hge⟩)

theorem header_append {n : ℕ} (h : header bytes = some n) (more : List UInt8) :
    header (bytes ++ more) = some n := by
  obtain ⟨hlen, hn⟩ := header_eq_some_iff.1 h
  refine header_eq_some_iff.2 ⟨?_, ?_⟩
  · rw [List.length_append]
    omega
  · rw [List.take_append_of_le_length hlen, hn]

theorem length_of_header {n : ℕ} (h : header bytes = some n) :
    bytes.length = 4 + (bytes.drop 4).length := by
  obtain ⟨hlen, -⟩ := header_eq_some_iff.1 h
  rw [List.length_drop]
  omega

/-- A header announces less than `2 ^ 32` bytes. -/
theorem header_lt {n : ℕ} (h : header bytes = some n) : n < 2 ^ 32 := by
  obtain ⟨hlen, hn⟩ := header_eq_some_iff.1 h
  have hlt := ofLe_lt (bytes.take 4)
  rw [hn, List.length_take_of_le hlen] at hlt
  exact hlt

/-- **What has been found stays**, whatever arrives behind it. -/
theorem firstItem_append (h : firstItem limit bytes = some (item, rest)) (more : List UInt8) :
    firstItem limit (bytes ++ more) = some (item, rest ++ more) := by
  rcases firstItem_cases limit bytes with ⟨-, hnone⟩ | ⟨n, hn, hcases⟩
  · rw [hnone] at h
    cases h
  · have hlen := length_of_header hn
    have hdrop : (bytes ++ more).drop 4 = bytes.drop 4 ++ more :=
      List.drop_append_of_le_length (by omega)
    rcases hcases with ⟨hbig, hsome⟩ | ⟨hle, hge, hsome⟩ | ⟨-, -, hnone⟩
    · rw [hsome, Option.some.injEq, Prod.mk.injEq] at h
      obtain ⟨rfl, rfl⟩ := h
      simp only [firstItem, header_append hn, if_pos hbig, hdrop]
    · rw [hsome, Option.some.injEq, Prod.mk.injEq] at h
      obtain ⟨rfl, rfl⟩ := h
      have hge' : n ≤ (bytes.drop 4 ++ more).length := by
        rw [List.length_append]
        omega
      simp only [firstItem, header_append hn, if_neg (Nat.not_lt.2 hle), hdrop, if_pos hge',
        List.take_append_of_le_length hge, List.drop_append_of_le_length hge]
    · rw [hnone] at h
      cases h

/-- An item and what follows it are the whole stream. -/
theorem length_of_firstItem (h : firstItem limit bytes = some (item, rest)) :
    bytes.length = item.width + rest.length := by
  rcases firstItem_cases limit bytes with ⟨-, hnone⟩ | ⟨n, hn, hcases⟩
  · rw [hnone] at h
    cases h
  · have hlen := length_of_header hn
    rcases hcases with ⟨-, hsome⟩ | ⟨-, hge, hsome⟩ | ⟨-, -, hnone⟩
    · rw [hsome, Option.some.injEq, Prod.mk.injEq] at h
      obtain ⟨rfl, rfl⟩ := h
      exact hlen
    · rw [hsome, Option.some.injEq, Prod.mk.injEq] at h
      obtain ⟨rfl, rfl⟩ := h
      rw [Item.width, List.length_take_of_le hge, List.length_drop]
      omega
    · rw [hnone] at h
      cases h

theorem Item.four_le_width (item : Item) : 4 ≤ item.width := by
  cases item with
  | body bytes => exact Nat.le_add_right 4 _
  | oversized len => exact Nat.le_refl 4

/-- An empty stream holds nothing. -/
theorem firstItem_nil (limit : ℕ) : firstItem limit [] = none := rfl

/-- **Induction along a stream**, from item to item. -/
theorem items_induction (limit : ℕ) {P : List UInt8 → Prop}
    (none : ∀ bytes, firstItem limit bytes = none → P bytes)
    (some : ∀ bytes item rest, firstItem limit bytes = some (item, rest) → P rest → P bytes)
    (bytes : List UInt8) : P bytes := by
  induction hn : bytes.length using Nat.strongRecOn generalizing bytes with
  | ind n ih =>
      cases hfirst : firstItem limit bytes with
      | none => exact none bytes hfirst
      | some p =>
          obtain ⟨item, rest⟩ := p
          have hlen := length_of_firstItem hfirst
          have hwidth := item.four_le_width
          exact some bytes item rest hfirst (ih rest.length (by omega) rest rfl)

/-! ### The items of a stream -/

theorem scan_of_none (h : firstItem limit bytes = none) : scan limit bytes = [] := by
  unfold scan
  cases bytes.length with
  | zero => rfl
  | succ n => rw [scanAux, h]

/-- More fuel than bytes makes no difference. -/
theorem scanAux_of_le (limit : ℕ) (bytes : List UInt8) :
    ∀ fuel, bytes.length ≤ fuel → scanAux limit fuel bytes = scan limit bytes := by
  induction bytes using items_induction limit with
  | none bytes hnone =>
      intro fuel _
      rw [scan_of_none hnone]
      cases fuel with
      | zero => rfl
      | succ fuel => rw [scanAux, hnone]
  | some bytes item rest hsome ih =>
      intro fuel hfuel
      have hlen := length_of_firstItem hsome
      have hwidth := item.four_le_width
      obtain ⟨n, hn⟩ : ∃ n, bytes.length = n + 1 := ⟨bytes.length - 1, by omega⟩
      obtain ⟨m, rfl⟩ : ∃ m, fuel = m + 1 := ⟨fuel - 1, by omega⟩
      rw [scan, hn, scanAux, scanAux, hsome]
      simp only [List.cons.injEq, true_and]
      rw [ih m (by omega), ih n (by omega)]

/-- The first item of a stream, and those behind it. -/
theorem scan_of_some (h : firstItem limit bytes = some (item, rest)) :
    scan limit bytes = item :: scan limit rest := by
  have hlen := length_of_firstItem h
  have hwidth := item.four_le_width
  obtain ⟨n, hn⟩ : ∃ n, bytes.length = n + 1 := ⟨bytes.length - 1, by omega⟩
  rw [scan, hn, scanAux, h]
  simp only [List.cons.injEq, true_and]
  exact scanAux_of_le limit rest n (by omega)

@[simp] theorem scan_nil (limit : ℕ) : scan limit [] = [] := rfl

/-- **The items of a stream stay its first items**, whatever arrives behind. -/
theorem scan_prefix_append (limit : ℕ) (bytes more : List UInt8) :
    scan limit bytes <+: scan limit (bytes ++ more) := by
  induction bytes using items_induction limit with
  | none bytes hnone =>
      rw [scan_of_none hnone]
      exact List.nil_prefix
  | some bytes item rest hsome ih =>
      rw [scan_of_some hsome, scan_of_some (firstItem_append hsome more)]
      exact (List.prefix_cons_inj item).2 ih

theorem scan_prefix {bytes bytes' : List UInt8} (h : bytes <+: bytes') :
    scan limit bytes <+: scan limit bytes' := by
  obtain ⟨more, rfl⟩ := h
  exact scan_prefix_append limit bytes more

/-- Only lengths above the limit are too large. -/
theorem lt_of_oversized_mem_scan {n : ℕ} (h : .oversized n ∈ scan limit bytes) :
    limit < n ∧ n < 2 ^ 32 := by
  induction bytes using items_induction limit with
  | none bytes hnone =>
      rw [scan_of_none hnone] at h
      cases h
  | some bytes item rest hsome ih =>
      rw [scan_of_some hsome] at h
      rcases List.mem_cons.1 h with rfl | hmem
      · rcases firstItem_cases limit bytes with ⟨-, hnone⟩ | ⟨m, hm, hcases⟩
        · cases hsome.symm.trans hnone
        · rcases hcases with ⟨hbig, hfirst⟩ | ⟨-, -, hfirst⟩ | ⟨-, -, hfirst⟩
          · cases hsome.symm.trans hfirst
            exact ⟨hbig, header_lt hm⟩
          · cases hsome.symm.trans hfirst
          · cases hsome.symm.trans hfirst
      · exact ih hmem

/-! ### Reading items -/

/-- `items` are read from the front of the stream, and `rest` is left. -/
inductive Reads (limit : ℕ) (bytes : List UInt8) : List Item → List UInt8 → Prop
  | refl : Reads limit bytes [] bytes
  | tail {items : List Item} {rest rest' : List UInt8} {item : Item}
      (h : Reads limit bytes items rest) (hitem : firstItem limit rest = some (item, rest')) :
      Reads limit bytes (items ++ [item]) rest'

namespace Reads

variable {items : List Item}

/-- More bytes make no difference to what has been read. -/
theorem append (h : Reads limit bytes items rest) (more : List UInt8) :
    Reads limit (bytes ++ more) items (rest ++ more) := by
  induction h with
  | refl => exact Reads.refl
  | tail _ hitem ih => exact ih.tail (firstItem_append hitem more)

/-- What has been read and what is left are all the items of the stream. -/
theorem scan_eq (h : Reads limit bytes items rest) :
    scan limit bytes = items ++ scan limit rest := by
  induction h with
  | refl => rfl
  | tail _ hitem ih => rw [ih, scan_of_some hitem, List.append_assoc, List.singleton_append]

theorem prefix_scan (h : Reads limit bytes items rest) : items <+: scan limit bytes :=
  ⟨scan limit rest, h.scan_eq.symm⟩

/-- Where there is no further item all of them have been read. -/
theorem eq_scan (h : Reads limit bytes items rest) (hnone : firstItem limit rest = none) :
    items = scan limit bytes := by
  rw [h.scan_eq, scan_of_none hnone, List.append_nil]

end Reads

/-! ### A reader, while the stream arrives -/

variable {σ ρ : Type*}

/-- The laws of a reader of items: an item that is there is consumed and gives its result; where
there is none, the call waits while the stream goes on, and fails when it has ended and consumes
what is left. -/
structure Scans (R : Reader σ ρ) (limit : ℕ) (result : Item → ρ) (Fails : ρ → Prop) : Prop where
  found : ∀ {s : σ} {item : Item} {rest : List UInt8},
    firstItem limit (R.unread s) = some (item, rest) →
    ∃ t, R.recv s = some (result item, t) ∧ R.unread t = rest ∧ (R.Ended t ↔ R.Ended s)
  cut : ∀ {s : σ}, R.Ended s → firstItem limit (R.unread s) = none →
    ∃ r t, R.recv s = some (r, t) ∧ Fails r ∧ R.unread t = [] ∧ R.Ended t
  pending : ∀ {s : σ}, ¬ R.Ended s → firstItem limit (R.unread s) = none → R.recv s = none

/-- What a reader has returned (`results`) and what it has left unread, when `arrived` has arrived:
it is among the items, or it is past the last of them on a stream that has ended.  Where the stream
was `Lost`, what had arrived and was not read by then is gone. -/
inductive Follows (limit : ℕ) (result : Item → ρ) (Fails : ρ → Prop) (arrived unread : List UInt8)
    (Ended Lost : Prop) (results : List ρ) : Prop
  | within {items : List Item} (hreads : Reads limit arrived items unread)
      (hresults : results = items.map result)
  | past {items : List Item} {rest : List UInt8} {fails : List ρ}
      (hreads : Reads limit arrived items rest) (hnone : ¬ Lost → firstItem limit rest = none)
      (hunread : unread = []) (hended : Ended) (hresults : results = items.map result ++ fails)
      (hfails : ∀ r ∈ fails, Fails r)

namespace Follows

variable {result : Item → ρ} {Fails : ρ → Prop} {arrived unread : List UInt8}
  {Ended Ended' Lost Lost' : Prop} {results : List ρ} {R : Reader σ ρ}

theorem start (arrived : List UInt8) (Ended Lost : Prop) :
    Follows limit result Fails arrived arrived Ended Lost [] :=
  within Reads.refl rfl

/-- More bytes arrive on a stream that goes on. -/
theorem arrive (h : Follows limit result Fails arrived unread Ended Lost results) (hopen : ¬ Ended)
    (more : List UInt8) :
    Follows limit result Fails (arrived ++ more) (unread ++ more) Ended Lost results := by
  cases h with
  | within hreads hresults => exact within (hreads.append more) hresults
  | past hreads hnone hunread hended hresults hfails => exact absurd hended hopen

/-- The stream ends. -/
theorem mono (h : Follows limit result Fails arrived unread Ended Lost results)
    (hended : Ended → Ended') (hlost : Lost → Lost') :
    Follows limit result Fails arrived unread Ended' Lost' results := by
  cases h with
  | within hreads hresults => exact within hreads hresults
  | past hreads hnone hunread hend hresults hfails =>
      exact past hreads (fun hlost' => hnone (mt hlost hlost')) hunread (hended hend) hresults
        hfails

/-- The stream is lost, and with it what has not been read. -/
theorem lose (h : Follows limit result Fails arrived unread Ended Lost results)
    (hended : Ended') (hlost : Lost') :
    Follows limit result Fails arrived [] Ended' Lost' results := by
  cases h with
  | within hreads hresults =>
      exact past hreads (fun hnot => absurd hlost hnot) rfl hended
        (by rw [hresults, List.append_nil]) (by simp)
  | past hreads hnone hunread hend hresults hfails =>
      exact past hreads (fun hnot => absurd hlost hnot) rfl hended hresults hfails

/-- **A call** returns the result of the next item, or it fails where the stream has ended. -/
theorem call (hR : Scans R limit result Fails) {s t : σ} {r : ρ}
    (h : Follows limit result Fails arrived (R.unread s) (R.Ended s) Lost results)
    (hrecv : R.recv s = some (r, t)) :
    Follows limit result Fails arrived (R.unread t) (R.Ended t) Lost (results ++ [r]) := by
  cases hfirst : firstItem limit (R.unread s) with
  | some p =>
      obtain ⟨item, rest⟩ := p
      obtain ⟨t', hrecv', hunread, hended⟩ := hR.found hfirst
      rw [hrecv', Option.some.injEq, Prod.mk.injEq] at hrecv
      obtain ⟨rfl, rfl⟩ := hrecv
      cases h with
      | within hreads hresults =>
          rw [hunread]
          refine within (hreads.tail hfirst) ?_
          rw [hresults, List.map_append, List.map_singleton]
      | past hreads hnone hempty hend hresults hfails =>
          -- past the end nothing is left to be found
          rw [hempty, firstItem_nil] at hfirst
          cases hfirst
  | none =>
      by_cases hend : R.Ended s
      · obtain ⟨r', t', hrecv', hfail, hunread, hend'⟩ := hR.cut hend hfirst
        rw [hrecv', Option.some.injEq, Prod.mk.injEq] at hrecv
        obtain ⟨rfl, rfl⟩ := hrecv
        cases h with
        | within hreads hresults =>
            refine past hreads (fun _ => hfirst) hunread hend' (by rw [hresults]) ?_
            intro r hr
            rw [List.mem_singleton.1 hr]
            exact hfail
        | past hreads hnone hempty hend hresults hfails =>
            refine past hreads hnone hunread hend' (by rw [hresults, List.append_assoc]) ?_
            intro r hr
            rcases List.mem_append.1 hr with hr | hr
            · exact hfails r hr
            · rw [List.mem_singleton.1 hr]
              exact hfail
      · rw [hR.pending hend hfirst] at hrecv
        cases hrecv

/-- **The results are those of items that have arrived, in order**, and failures behind them, on a
stream that has ended: behind the last of them, if it was not lost. -/
theorem exists_items (h : Follows limit result Fails arrived unread Ended Lost results) :
    ∃ items fails, results = items.map result ++ fails ∧ items <+: scan limit arrived ∧
      (∀ r ∈ fails, Fails r) ∧ (fails ≠ [] → Ended ∧ (¬ Lost → items = scan limit arrived)) := by
  cases h with
  | within hreads hresults =>
      exact ⟨_, [], by rw [hresults, List.append_nil], hreads.prefix_scan, by simp, by simp⟩
  | past hreads hnone hunread hended hresults hfails =>
      exact ⟨_, _, hresults, hreads.prefix_scan, hfails,
        fun _ => ⟨hended, fun hlost => hreads.eq_scan (hnone hlost)⟩⟩

/-- **When a call waits, all the items that have arrived have been returned.** -/
theorem of_pending (hR : Scans R limit result Fails) {s : σ}
    (h : Follows limit result Fails arrived (R.unread s) (R.Ended s) Lost results)
    (hrecv : R.recv s = none) : results = (scan limit arrived).map result := by
  cases hfirst : firstItem limit (R.unread s) with
  | some p =>
      obtain ⟨item, rest⟩ := p
      obtain ⟨t, hsome, -⟩ := hR.found hfirst
      cases hrecv.symm.trans hsome
  | none =>
      cases h with
      | within hreads hresults => rw [hresults, hreads.eq_scan hfirst]
      | past hreads hnone hempty hend hresults hfails =>
          obtain ⟨r, t, hsome, -⟩ := hR.cut hend hfirst
          cases hrecv.symm.trans hsome

end Follows

/-! ### Results before the first error -/

section Oks

variable {ε α : Type*}

/-- The results before the first error. -/
def oks : List (Except ε α) → List α
  | .ok a :: rs => a :: oks rs
  | _ => []

@[simp] theorem oks_nil : oks ([] : List (Except ε α)) = [] := rfl

@[simp] theorem oks_cons_ok (a : α) (rs : List (Except ε α)) : oks (.ok a :: rs) = a :: oks rs := rfl

@[simp] theorem oks_cons_error (e : ε) (rs : List (Except ε α)) :
    oks (.error e :: rs) = ([] : List α) := rfl

theorem oks_map_ok_append (as : List α) (rs : List (Except ε α)) :
    oks (as.map .ok ++ rs) = as ++ oks rs := by
  induction as with
  | nil => rfl
  | cons a as ih => rw [List.map_cons, List.cons_append, oks_cons_ok, ih, List.cons_append]

/-- Errors behind the others make no difference. -/
theorem oks_append_errors (rs : List (Except ε α)) {fails : List (Except ε α)}
    (h : ∀ r ∈ fails, ∃ e, r = .error e) : oks (rs ++ fails) = oks rs := by
  induction rs with
  | nil =>
      cases fails with
      | nil => rfl
      | cons r fails =>
          obtain ⟨e, rfl⟩ := h r List.mem_cons_self
          rfl
  | cons r rs ih =>
      cases r with
      | ok a => rw [List.cons_append, oks_cons_ok, oks_cons_ok, ih]
      | error e => rfl

/-- Without an error the results are all of them. -/
theorem map_oks {rs : List (Except ε α)} (h : ¬ ∃ e, .error e ∈ rs) : (oks rs).map .ok = rs := by
  induction rs with
  | nil => rfl
  | cons r rs ih =>
      cases r with
      | ok a =>
          rw [oks_cons_ok, List.map_cons, ih]
          rintro ⟨e, he⟩
          exact h ⟨e, List.mem_cons_of_mem _ he⟩
      | error e => exact absurd ⟨e, List.mem_cons_self⟩ h

/-- Behind an error nothing makes a difference. -/
theorem oks_append_of_error {rs : List (Except ε α)} {e : ε} (h : .error e ∈ rs)
    (rs' : List (Except ε α)) : oks (rs ++ rs') = oks rs := by
  induction rs with
  | nil => cases h
  | cons r rs ih =>
      cases r with
      | ok a =>
          rcases List.mem_cons.1 h with heq | hmem
          · cases heq
          · rw [List.cons_append, oks_cons_ok, oks_cons_ok, ih hmem]
      | error e' => rfl

theorem oks_prefix {rs rs' : List (Except ε α)} (h : rs <+: rs') : oks rs <+: oks rs' := by
  obtain ⟨more, rfl⟩ := h
  induction rs with
  | nil => exact List.nil_prefix
  | cons r rs ih =>
      cases r with
      | ok a =>
          rw [List.cons_append, oks_cons_ok, oks_cons_ok]
          exact (List.prefix_cons_inj a).2 ih
      | error e => exact List.nil_prefix

variable {result : Item → Except ε α} {Fails : Except ε α → Prop} {arrived unread : List UInt8}
  {Ended Lost : Prop} {results : List (Except ε α)}

/-- **Before the first error a reader returns what has arrived before the first invalid item.** -/
theorem Follows.oks_prefix (h : Follows limit result Fails arrived unread Ended Lost results)
    (hfails : ∀ r, Fails r → ∃ e, r = .error e) :
    oks results <+: oks ((scan limit arrived).map result) := by
  obtain ⟨items, fails, rfl, hitems, hfail, -⟩ := h.exists_items
  rw [oks_append_errors _ fun r hr => hfails r (hfail r hr)]
  exact LengthPrefix.oks_prefix (hitems.map result)

/-- **Once a call has failed** the reader has returned all of it, if nothing was lost. -/
theorem Follows.oks_eq_of_error (h : Follows limit result Fails arrived unread Ended Lost results)
    (hlost : ¬ Lost) (hfails : ∀ r, Fails r → ∃ e, r = .error e) {e : ε}
    (herror : .error e ∈ results) :
    oks results = oks ((scan limit arrived).map result) := by
  obtain ⟨items, fails, rfl, hitems, hfail, hpast⟩ := h.exists_items
  rw [oks_append_errors _ fun r hr => hfails r (hfail r hr)]
  by_cases hnil : fails = []
  · -- the error is that of an item
    rw [hnil, List.append_nil] at herror
    obtain ⟨more, hmore⟩ := hitems
    rw [← hmore, List.map_append, oks_append_of_error herror]
  · rw [(hpast hnil).2 hlost]

end Oks

/-! ### Streams of frames -/

/-- A frame is an item: its body, or the length in its header if that is too much. -/
theorem firstItem_frame (limit : ℕ) {body : List UInt8} (hbody : body.length < 2 ^ 32) (rest : List UInt8) :
    firstItem limit (frame body ++ rest)
      = if limit < body.length then some (.oversized body.length, body ++ rest)
        else some (.body body, rest) := by
  have hle : body.length ≤ (body ++ rest).length := by
    rw [List.length_append]
    omega
  simp only [firstItem, header_frame_append hbody, drop_frame_append, if_pos hle, List.take_left,
    List.drop_left]

/-- The remains of a frame hold no item. -/
theorem firstItem_of_truncated (hlimit : limit < 2 ^ 32) {tail : List UInt8}
    (h : Truncated limit tail) : firstItem limit tail = none := by
  rcases h.header_cases hlimit with hnone | ⟨n, hn, hle, hlt⟩
  · rw [firstItem, hnone]
  · simp only [firstItem, hn, if_neg (Nat.not_lt.2 hle), if_neg (Nat.not_le.2 hlt)]

section Heard

variable {ε α : Type*} {result : Item → Except ε α}

/-- On the remains of a frame a reader with a smaller limit finds nothing, or an error. -/
theorem oks_scan_truncated (hover : ∀ n, ∃ e, result (.oversized n) = .error e)
    {tail : List UInt8} (htail : Truncated (2 ^ 32 - 1) tail) :
    oks ((scan limit tail).map result) = [] := by
  rcases htail.header_cases (by omega) with hnone | ⟨n, hn, -, hlt⟩
  · rw [scan_of_none (by rw [firstItem, hnone]), List.map_nil, oks_nil]
  · by_cases hbig : limit < n
    · have hfirst : firstItem limit tail = some (.oversized n, tail.drop 4) := by
        simp only [firstItem, hn, if_pos hbig]
      obtain ⟨e, he⟩ := hover n
      rw [scan_of_some hfirst, List.map_cons, he, oks_cons_error]
    · have hfirst : firstItem limit tail = none := by
        simp only [firstItem, hn, if_neg hbig, if_neg (Nat.not_le.2 hlt)]
      rw [scan_of_none hfirst, List.map_nil, oks_nil]

/-- **A sender of frames is not misheard**: before the first error a reader hears what was said, in
order, whatever its limit is and wherever the stream is cut. -/
theorem oks_scan_frames (hover : ∀ n, ∃ e, result (.oversized n) = .error e)
    {bodies : List (List UInt8)} {as : List α}
    (hsaid : List.Forall₂ (fun body a => body.length < 2 ^ 32 ∧
      (body.length ≤ limit → result (.body body) = .ok a)) bodies as)
    {tail : List UInt8} (htail : Truncated (2 ^ 32 - 1) tail) :
    oks ((scan limit (frames bodies ++ tail)).map result) <+: as := by
  induction hsaid with
  | nil => exact ⟨[], (List.append_nil _).trans (oks_scan_truncated hover htail)⟩
  | @cons body a bodies as hbody _ ih =>
      have hfirst := firstItem_frame limit hbody.1 (frames bodies ++ tail)
      rw [frames_cons, List.append_assoc]
      by_cases hbig : limit < body.length
      · -- the reader gives up here
        rw [if_pos hbig] at hfirst
        obtain ⟨e, he⟩ := hover body.length
        rw [scan_of_some hfirst, List.map_cons, he, oks_cons_error]
        exact List.nil_prefix
      · rw [if_neg hbig] at hfirst
        rw [scan_of_some hfirst, List.map_cons, hbody.2 (Nat.not_lt.1 hbig), oks_cons_ok]
        exact (List.prefix_cons_inj a).2 ih

/-- **Nothing is lost**: a reader whose limit suffices hears all of it. -/
theorem oks_scan_frames_eq (hover : ∀ n, ∃ e, result (.oversized n) = .error e)
    (hlimit : limit < 2 ^ 32) {bodies : List (List UInt8)} {as : List α}
    (hsaid : List.Forall₂ (fun body a => body.length ≤ limit ∧ result (.body body) = .ok a)
      bodies as)
    {tail : List UInt8} (htail : Truncated (2 ^ 32 - 1) tail) :
    oks ((scan limit (frames bodies ++ tail)).map result) = as := by
  induction hsaid with
  | nil => exact oks_scan_truncated hover htail
  | @cons body a bodies as hbody _ ih =>
      obtain ⟨hle, hresult⟩ := hbody
      have hfirst := firstItem_frame limit (lt_of_le_of_lt hle hlimit) (frames bodies ++ tail)
      rw [if_neg (Nat.not_lt.2 hle)] at hfirst
      rw [frames_cons, List.append_assoc, scan_of_some hfirst, List.map_cons, hresult,
        oks_cons_ok, ih]

/-- A reader that no length is too large for hears each of them. -/
theorem map_scan_frames (hlimit : limit < 2 ^ 32) {bodies : List (List UInt8)} {as : List α}
    (hsaid : List.Forall₂ (fun body a => body.length ≤ limit ∧ result (.body body) = .ok a)
      bodies as)
    {tail : List UInt8} (htail : Truncated limit tail) :
    (scan limit (frames bodies ++ tail)).map result = as.map .ok := by
  induction hsaid with
  | nil =>
      show (scan limit tail).map result = []
      rw [scan_of_none (firstItem_of_truncated hlimit htail), List.map_nil]
  | @cons body a bodies as hbody _ ih =>
      obtain ⟨hle, hresult⟩ := hbody
      have hfirst := firstItem_frame limit (lt_of_le_of_lt hle hlimit) (frames bodies ++ tail)
      rw [if_neg (Nat.not_lt.2 hle)] at hfirst
      rw [frames_cons, List.append_assoc, scan_of_some hfirst, List.map_cons, hresult, ih,
        List.map_cons]

end Heard

end LengthPrefix
