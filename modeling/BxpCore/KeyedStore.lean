/-
**Stores by key: what was inserted last is found.**

A store keeps a value for each key.  All that is asked of it is one equation, what is found after one
insertion; from it follows what is found after any list of insertions, which is the value of the
last pair with that key.  A map of maps, with one level for each half of the key, obeys the equation
for the whole key.

Main definitions:

* `KeyedStore.Lawful` — the law of a store;
* `KeyedStore.insertAll`, `KeyedStore.lastFor` — many insertions, and the last value for a key;
* `KeyedStore.nestedInsert`, `KeyedStore.nestedLookup` — a hash map of hash maps as a store.

Main results:

* `KeyedStore.Lawful.lookup_insertAll` — **what is found is what was inserted last**;
* `KeyedStore.lastFor_eq_some_iff`, `KeyedStore.lastFor_eq_none_iff`,
  `KeyedStore.lastFor_append_cons_of_ne` — which value is the last one, when there is none, and that
  the pairs with other keys do not matter;
* `KeyedStore.lawful_nested` — a map of maps is a store.
-/

import Mathlib.Data.List.Basic
import Std.Data.HashMap.Lemmas

set_option relaxedAutoImplicit false
set_option autoImplicit false

namespace KeyedStore

variable {σ κ ν : Type*} [DecidableEq κ]

/-! ### The law of a store -/

/-- The law of a store: an insertion is found under its own key, and changes no other. -/
structure Lawful (lookup : σ → κ → Option ν) (insert : σ → κ → ν → σ) : Prop where
  lookup_insert : ∀ s k v k', lookup (insert s k v) k' = if k = k' then some v else lookup s k'

/-- Insertions one after the other. -/
def insertAll (insert : σ → κ → ν → σ) (s : σ) (ps : List (κ × ν)) : σ :=
  ps.foldl (fun s p => insert s p.1 p.2) s

/-- The value of the last pair with the key `k`. -/
def lastFor (k : κ) : List (κ × ν) → Option ν
  | [] => none
  | p :: ps => (lastFor k ps).or (if p.1 = k then some p.2 else none)

/-- **What is found after a list of insertions is what was inserted last**, and what was there
before where nothing was inserted. -/
theorem Lawful.lookup_insertAll {lookup : σ → κ → Option ν} {insert : σ → κ → ν → σ}
    (h : Lawful lookup insert) (s : σ) (ps : List (κ × ν)) (k : κ) :
    lookup (insertAll insert s ps) k = (lastFor k ps).or (lookup s k) := by
  induction ps generalizing s with
  | nil => rfl
  | cons p ps ih =>
      have hcons : insertAll insert s (p :: ps) = insertAll insert (insert s p.1 p.2) ps := rfl
      rw [hcons, ih, h.lookup_insert, lastFor, Option.or_assoc]
      by_cases hk : p.1 = k
      · rw [if_pos hk, if_pos hk, Option.some_or]
      · rw [if_neg hk, if_neg hk, Option.none_or]

/-! ### The last value for a key -/

theorem lastFor_append (k : κ) (ps qs : List (κ × ν)) :
    lastFor k (ps ++ qs) = (lastFor k qs).or (lastFor k ps) := by
  induction ps with
  | nil => rw [List.nil_append, lastFor, Option.or_none]
  | cons p ps ih => rw [List.cons_append, lastFor, lastFor, ih, Option.or_assoc]

/-- There is no value for a key that no pair has. -/
theorem lastFor_eq_none_iff {k : κ} {ps : List (κ × ν)} :
    lastFor k ps = none ↔ ∀ p ∈ ps, p.1 ≠ k := by
  induction ps with
  | nil => simp [lastFor]
  | cons p ps ih =>
      rw [lastFor, Option.or_eq_none_iff, ih, List.forall_mem_cons, and_comm]
      refine and_congr_left' ?_
      split <;> simp [*]

/-- **The last value**: behind its pair no other pair has the key. -/
theorem lastFor_eq_some_iff {k : κ} {v : ν} {ps : List (κ × ν)} :
    lastFor k ps = some v ↔ ∃ pre post, ps = pre ++ (k, v) :: post ∧ ∀ p ∈ post, p.1 ≠ k := by
  constructor
  · intro h
    induction ps with
    | nil => cases h
    | cons p ps ih =>
        rw [lastFor, Option.or_eq_some_iff] at h
        rcases h with hlater | ⟨hnone, hself⟩
        · obtain ⟨pre, post, rfl, hpost⟩ := ih hlater
          exact ⟨p :: pre, post, rfl, hpost⟩
        · -- nothing later has the key, so this pair is the last one
          rw [Option.ite_none_right_eq_some, Option.some.injEq] at hself
          obtain ⟨rfl, rfl⟩ := hself
          exact ⟨[], ps, rfl, lastFor_eq_none_iff.1 hnone⟩
  · rintro ⟨pre, post, rfl, hpost⟩
    rw [lastFor_append, lastFor, lastFor_eq_none_iff.2 hpost, if_pos rfl, Option.none_or,
      Option.some_or]

/-- **A pair with another key does not matter**, wherever it stands. -/
theorem lastFor_append_cons_of_ne {k : κ} {p : κ × ν} (h : p.1 ≠ k) (pre post : List (κ × ν)) :
    lastFor k (pre ++ p :: post) = lastFor k (pre ++ post) := by
  rw [lastFor_append, lastFor_append, lastFor, if_neg h, Option.or_none]

/-! ### A map of maps -/

section Nested

variable {α β : Type*} [DecidableEq α] [DecidableEq β] [Hashable α] [Hashable β]

/-- A value under a key of two halves: the map of the first half is made if it is not there. -/
def nestedInsert (m : Std.HashMap α (Std.HashMap β ν)) (k : α × β) (v : ν) :
    Std.HashMap α (Std.HashMap β ν) :=
  m.insert k.1 ((m[k.1]?.getD ∅).insert k.2 v)

/-- The value under a key of two halves. -/
def nestedLookup (m : Std.HashMap α (Std.HashMap β ν)) (k : α × β) : Option ν :=
  m[k.1]?.bind fun inner => inner[k.2]?

/-- **A map of maps is a store**: overwriting happens on the second level, and the other keys of
the first level keep their maps. -/
theorem lawful_nested :
    Lawful (nestedLookup : Std.HashMap α (Std.HashMap β ν) → α × β → Option ν) nestedInsert where
  lookup_insert := by
    rintro m ⟨a, b⟩ v ⟨a', b'⟩
    simp only [nestedLookup, nestedInsert, Std.HashMap.getElem?_insert, beq_iff_eq]
    by_cases ha : a = a'
    · subst ha
      rw [if_pos rfl, Option.bind_some, Std.HashMap.getElem?_insert]
      by_cases hb : b = b'
      · rw [if_pos (by simpa using hb), if_pos (by rw [hb])]
      · rw [if_neg (by simpa using hb), if_neg (by simpa using hb)]
        -- the map of the first half may be a new one
        cases hm : m[a]? with
        | none => simp
        | some inner => rfl
    · rw [if_neg ha, if_neg (by simp [ha])]

end Nested

end KeyedStore
