/-
**Machines that take labelled steps, one at a time and side by side.**

A machine is a partial function `step : σ → ε → Option σ`: in the state `s` the event `e` either
cannot happen (`none`) or leads to one next state.  The nondeterminism of a concurrent system is
in the choice of the events, so a statement about every list of events is a statement about every
schedule.

The second half puts a family of machines side by side: an event of the family names the component
that moves.  A schedule of the family *is* one schedule per component, merged in some order, and
the components do not feel the order (`Machine.run_interleave_iff`).

Main definitions:

* `Machine.run`, `Machine.Reachable`, `Machine.Stuck` — runs, reachability, and the states in which
  nothing can happen any more;
* `Machine.Steps` — one event, over and over;
* `Machine.Meets` — a step of a certain kind happens along a run;
* `Machine.avoid` — a machine without its steps of a certain kind;
* `Machine.interleave`, `Machine.project` — a family of machines side by side, and the events of
  one component of it.

Main results:

* `Machine.run_inv` — a property kept by every step holds at the end of every run;
  `Machine.run_inv_rest` is for one that speaks of the events to come;
* `Machine.run_watched` — a machine that is only watched runs as it does without that;
* `Machine.Reachable.simulate`, `Machine.Reachable.stutter` — what one machine does step by step
  another does too;
* `Machine.run_rank`, `Machine.exists_run_stuck` — a machine whose steps go down in rank has no
  longer run than the rank, and can be run until it is stuck;
* `Machine.run_interleave_iff` — **a run of the family is a run of each component on its own
  events**;
* `Machine.stuck_interleave_iff` — the family is stuck when every component is.
-/

import Mathlib.Data.List.Basic
import Mathlib.Logic.Function.Basic

set_option relaxedAutoImplicit false
set_option autoImplicit false

namespace Machine

variable {σ ε ι : Type*}

/-! ### One machine -/

/-- The state after a list of events, if they can happen in this order. -/
def run (step : σ → ε → Option σ) : σ → List ε → Option σ
  | s, [] => some s
  | s, e :: es => (step s e).bind fun s' => run step s' es

/-- The states some list of events leads to. -/
def Reachable (step : σ → ε → Option σ) (s s' : σ) : Prop := ∃ es, run step s es = some s'

/-- Nothing can happen any more. -/
def Stuck (step : σ → ε → Option σ) (s : σ) : Prop := ∀ e, step s e = none

variable {step : σ → ε → Option σ}

@[simp] theorem run_nil (s : σ) : run step s [] = some s := rfl

theorem run_cons (s : σ) (e : ε) (es : List ε) :
    run step s (e :: es) = (step s e).bind fun s' => run step s' es := rfl

theorem run_cons_eq_some {s s' : σ} {e : ε} {es : List ε} :
    run step s (e :: es) = some s' ↔ ∃ t, step s e = some t ∧ run step t es = some s' := by
  rw [run_cons, Option.bind_eq_some_iff]

theorem Reachable.refl (s : σ) : Reachable step s s := ⟨[], rfl⟩

theorem Reachable.head {s t s' : σ} {e : ε} (h : step s e = some t) (ht : Reachable step t s') :
    Reachable step s s' := by
  obtain ⟨es, hes⟩ := ht
  exact ⟨e :: es, run_cons_eq_some.2 ⟨t, h, hes⟩⟩

theorem run_append (s : σ) (es fs : List ε) :
    run step s (es ++ fs) = (run step s es).bind fun t => run step t fs := by
  induction es generalizing s with
  | nil => rfl
  | cons e es ih =>
      rw [List.cons_append, run_cons, run_cons, Option.bind_assoc]
      exact Option.bind_congr fun t _ => ih t

theorem Reachable.trans {s t u : σ} (h : Reachable step s t) (h' : Reachable step t u) :
    Reachable step s u := by
  obtain ⟨es, hes⟩ := h
  obtain ⟨fs, hfs⟩ := h'
  exact ⟨es ++ fs, by rw [run_append, hes, Option.bind_some, hfs]⟩

theorem Reachable.tail {s t u : σ} {e : ε} (h : Reachable step s t) (ht : step t e = some u) :
    Reachable step s u :=
  h.trans ((Reachable.refl u).head ht)

/-- **The invariant rule, with what is to come**: the invariant may speak of the events that are
left, of which there are none at the end. -/
theorem run_inv_rest {P : σ → List ε → Prop}
    (hstep : ∀ s e es s', P s (e :: es) → step s e = some s' → P s' es) {s s' : σ} {es : List ε}
    (hs : P s es) (h : run step s es = some s') : P s' [] := by
  induction es generalizing s with
  | nil =>
      rw [run_nil, Option.some.injEq] at h
      exact h ▸ hs
  | cons e es ih =>
      obtain ⟨t, ht, hrun⟩ := run_cons_eq_some.1 h
      exact ih (hstep s e es t hs ht) hrun

/-- **The invariant rule**: what every step keeps holds at the end of every run. -/
theorem run_inv {P : σ → Prop} (hstep : ∀ s e s', P s → step s e = some s' → P s') {s s' : σ}
    {es : List ε} (hs : P s) (h : run step s es = some s') : P s' :=
  run_inv_rest (P := fun s _ => P s) (fun s e _ s' => hstep s e s') hs h

/-- **A machine that is only watched** runs as it does without that. -/
theorem run_watched {τ : Type*} {step' : τ → ε → Option τ} {f : τ → σ}
    (hstep : ∀ s e, (step' s e).map f = step (f s) e) (s : τ) (es : List ε) :
    (run step' s es).map f = run step (f s) es := by
  induction es generalizing s with
  | nil => rfl
  | cons e es ih =>
      rw [run_cons, run_cons, ← hstep, Option.bind_map, Option.map_bind]
      exact Option.bind_congr fun t _ => ih t

/-- The invariant rule, for reachable states. -/
theorem Reachable.inv {P : σ → Prop} (hstep : ∀ s e s', P s → step s e = some s' → P s')
    {s s' : σ} (hs : P s) (h : Reachable step s s') : P s' := by
  obtain ⟨es, hes⟩ := h
  exact run_inv hstep hs hes

/-- One event, over and over, leads from one state to the other. -/
def Steps (step : σ → ε → Option σ) (e : ε) (s t : σ) : Prop :=
  ∃ n, run step s (List.replicate n e) = some t

theorem Steps.refl (e : ε) (s : σ) : Steps step e s s := ⟨0, rfl⟩

theorem Steps.head {e : ε} {s t u : σ} (h : step s e = some t) (ht : Steps step e t u) :
    Steps step e s u := by
  obtain ⟨n, hn⟩ := ht
  exact ⟨n + 1, run_cons_eq_some.2 ⟨t, h, hn⟩⟩

theorem Steps.trans {e : ε} {s t u : σ} (h : Steps step e s t) (h' : Steps step e t u) :
    Steps step e s u := by
  obtain ⟨n, hn⟩ := h
  obtain ⟨m, hm⟩ := h'
  refine ⟨n + m, ?_⟩
  rw [List.replicate_add, run_append, hn, Option.bind_some, hm]

/-- **Simulation**: a machine that can follow every step of another can follow it to wherever it
gets. -/
theorem Reachable.simulate {τ ε' : Type*} {step' : τ → ε' → Option τ} {R : σ → τ → Prop}
    (hstep : ∀ s t e s', R s t → step s e = some s' → ∃ t', Reachable step' t t' ∧ R s' t')
    {s s' : σ} {t : τ} (hR : R s t) (h : Reachable step s s') :
    ∃ t', Reachable step' t t' ∧ R s' t' := by
  obtain ⟨es, hes⟩ := h
  induction es generalizing s t with
  | nil =>
      rw [run_nil, Option.some.injEq] at hes
      exact ⟨t, Reachable.refl t, hes ▸ hR⟩
  | cons e es ih =>
      obtain ⟨u, hu, hrun⟩ := run_cons_eq_some.1 hes
      obtain ⟨v, hv, hR'⟩ := hstep s t e u hR hu
      obtain ⟨t', ht', hR''⟩ := ih hR' hrun
      exact ⟨t', hv.trans ht', hR''⟩

/-- **Simulation with stuttering**: every step is followed by one step, or by none. -/
theorem Reachable.stutter {τ ε' : Type*} {step' : τ → ε' → Option τ} {R : σ → τ → Prop}
    (hstep : ∀ s t e s', R s t → step s e = some s' →
      R s' t ∨ ∃ e' t', step' t e' = some t' ∧ R s' t')
    {s s' : σ} {t : τ} (hR : R s t) (h : Reachable step s s') :
    ∃ t', Reachable step' t t' ∧ R s' t' := by
  refine Reachable.simulate ?_ hR h
  intro s t e s' hR hs
  rcases hstep s t e s' hR hs with hsame | ⟨e', t', ht', hR'⟩
  · exact ⟨t, Reachable.refl t, hsame⟩
  · exact ⟨t', (Reachable.refl t').head ht', hR'⟩

/-! ### Ranks -/

section Rank

-- `Rank s n`: the state `s` satisfies an invariant, and at most `n` steps are left from it
variable {Rank : σ → ℕ → Prop}
  (hrank : ∀ s n e t, Rank s n → step s e = some t → ∃ m, m < n ∧ Rank t m)

include hrank

/-- **A run is not longer than the rank of the state it starts from**, and ends in a state with the
rest of it. -/
theorem run_rank {s t : σ} {n : ℕ} {es : List ε} (hs : Rank s n) (h : run step s es = some t) :
    ∃ m, m + es.length ≤ n ∧ Rank t m := by
  induction es generalizing s n with
  | nil =>
      rw [run_nil, Option.some.injEq] at h
      exact ⟨n, Nat.le_refl n, h ▸ hs⟩
  | cons e es ih =>
      obtain ⟨u, hu, hrun⟩ := run_cons_eq_some.1 h
      obtain ⟨m, hm, hrank'⟩ := hrank s n e u hs hu
      obtain ⟨k, hk, ht⟩ := ih hrank' hrun
      refine ⟨k, ?_, ht⟩
      rw [List.length_cons]
      omega

/-- **Progress to the end**: from a ranked state there is a run to a state where nothing can happen
any more. -/
theorem exists_run_stuck {s : σ} {n : ℕ} (hs : Rank s n) :
    ∃ t m, Reachable step s t ∧ Stuck step t ∧ Rank t m := by
  induction n using Nat.strongRecOn generalizing s with
  | ind n ih =>
      by_cases hstuck : Stuck step s
      · exact ⟨s, n, Reachable.refl s, hstuck, hs⟩
      · obtain ⟨e, he⟩ := not_forall.1 hstuck
        obtain ⟨u, hu⟩ := Option.ne_none_iff_exists'.1 he
        obtain ⟨m, hm, hrank'⟩ := hrank s n e u hs hu
        obtain ⟨t, k, hreach, ht, hk⟩ := ih m hm hrank'
        exact ⟨t, k, hreach.head hu, ht, hk⟩

end Rank

/-! ### What happens along a run -/

/-- Some step of the run is one that `bad` describes, by the state before it and the event. -/
def Meets (step : σ → ε → Option σ) (bad : σ → ε → Prop) : σ → List ε → Prop
  | _, [] => False
  | s, e :: es => bad s e ∨ ∃ t, step s e = some t ∧ Meets step bad t es

/-- What happens along a run happens along every longer one. -/
theorem Meets.append {bad : σ → ε → Prop} {s : σ} {es : List ε} (h : Meets step bad s es)
    (fs : List ε) : Meets step bad s (es ++ fs) := by
  induction es generalizing s with
  | nil => exact h.elim
  | cons e es ih =>
      rcases h with hbad | ⟨t, ht, hrest⟩
      · exact Or.inl hbad
      · exact Or.inr ⟨t, ht, ih hrest⟩

/-- The machine in which the steps that `bad` describes do not happen. -/
def avoid (bad : σ → ε → Bool) (step : σ → ε → Option σ) (s : σ) (e : ε) : Option σ :=
  if bad s e then none else step s e

theorem avoid_eq_some_iff {bad : σ → ε → Bool} {s t : σ} {e : ε} :
    avoid bad step s e = some t ↔ bad s e = false ∧ step s e = some t := by
  rw [avoid]
  cases bad s e <;> simp

/-- Without some of its steps a machine does nothing new. -/
theorem run_of_avoid {bad : σ → ε → Bool} {s t : σ} {es : List ε}
    (h : run (avoid bad step) s es = some t) : run step s es = some t := by
  induction es generalizing s with
  | nil => exact h
  | cons e es ih =>
      obtain ⟨u, hu, hrest⟩ := run_cons_eq_some.1 h
      exact run_cons_eq_some.2 ⟨u, (avoid_eq_some_iff.1 hu).2, ih hrest⟩

/-! ### Machines side by side -/

section Interleaving

variable [DecidableEq ι]

/-- The family of machines `step i`, side by side: the event `(i, e)` moves the component `i`
alone. -/
def interleave (step : ι → σ → ε → Option σ) (s : ι → σ) (e : ι × ε) : Option (ι → σ) :=
  (step e.1 (s e.1) e.2).map (Function.update s e.1)

/-- The events of the component `i`, in their order. -/
def project (i : ι) (es : List (ι × ε)) : List ε :=
  es.filterMap fun e => if e.1 = i then some e.2 else none

@[simp] theorem project_nil (i : ι) : project i ([] : List (ι × ε)) = [] := rfl

theorem project_cons_self (i : ι) (e : ε) (es : List (ι × ε)) :
    project i ((i, e) :: es) = e :: project i es := by
  simp [project]

theorem project_cons_of_ne {i j : ι} (h : j ≠ i) (e : ε) (es : List (ι × ε)) :
    project i ((j, e) :: es) = project i es := by
  simp [project, h]

variable {step : ι → σ → ε → Option σ}

theorem interleave_eq_some {s s' : ι → σ} {i : ι} {e : ε} :
    interleave step s (i, e) = some s' ↔
      ∃ t, step i (s i) e = some t ∧ Function.update s i t = s' := by
  simp only [interleave, Option.map_eq_some_iff]

/-- **A run of the family is a run of each component on its own events.**  In particular the state
a component ends in depends on nothing the other components do. -/
theorem run_interleave_iff {s s' : ι → σ} {es : List (ι × ε)} :
    run (interleave step) s es = some s' ↔
      ∀ i, run (step i) (s i) (project i es) = some (s' i) := by
  induction es generalizing s with
  | nil => simp [funext_iff]
  | cons e es ih =>
      obtain ⟨j, e⟩ := e
      rw [run_cons_eq_some]
      constructor
      · rintro ⟨t, ht, hrun⟩ i
        obtain ⟨u, hu, rfl⟩ := interleave_eq_some.1 ht
        have hi := ih.1 hrun i
        by_cases hij : j = i
        · subst hij
          rw [Function.update_self] at hi
          rw [project_cons_self]
          exact run_cons_eq_some.2 ⟨u, hu, hi⟩
        · rw [Function.update_of_ne (Ne.symm hij)] at hi
          rwa [project_cons_of_ne hij]
      · intro h
        have hj := h j
        rw [project_cons_self] at hj
        obtain ⟨u, hu, hrun⟩ := run_cons_eq_some.1 hj
        refine ⟨Function.update s j u, interleave_eq_some.2 ⟨u, hu, rfl⟩, ih.2 fun i => ?_⟩
        by_cases hij : j = i
        · subst hij
          rwa [Function.update_self]
        · have hi := h i
          rw [project_cons_of_ne hij] at hi
          rwa [Function.update_of_ne (Ne.symm hij)]

/-- The family is stuck when every component is. -/
theorem stuck_interleave_iff {s : ι → σ} :
    Stuck (interleave step) s ↔ ∀ i, Stuck (step i) (s i) := by
  simp [Stuck, interleave]

end Interleaving

end Machine
