/-
**A machine that starts others.**

A main machine runs, and some of its steps start tasks; a task that has been started runs beside the
main machine and beside the other tasks, on a schedule of its own.  The tasks have nothing in common
but the machine that started them.

So a run of the whole is a run of the main machine on its events, which decides what is started, and
for each task a run of it on *its* events, from where it was started.  What holds of every run of a
task alone holds of every task; and where all of them come to an end, and the main machine pays for
what it starts, the whole comes to an end.

Main definitions:

* `Machine.Act` — the main machine moves, or a task does;
* `Machine.spawn` — the main machine with its tasks;
* `Machine.emits` — the main machine, with the list of what it has started;
* `Machine.mainActs`, `Machine.taskActs` — the events of the main machine, and those of a task;
* `Machine.starts` — a machine that starts a task for everything that comes to its output;
* `Machine.SpawnRank` — the rank of the whole.

Main results:

* `Machine.spawn_project` — **a run of the whole is a run of the main machine and of each task**;
* `Machine.started_eq` — what is started is the output;
* `Machine.spawnRank_step` — the whole goes down in rank.
-/

import BxpCore.Machine
import Mathlib.Algebra.Order.Ring.Nat
import Mathlib.Data.List.Forall2
import Mathlib.Data.List.Induction

set_option relaxedAutoImplicit false
set_option autoImplicit false

namespace Machine

variable {μ εm σ ε : Type*}

/-- An event of the whole: one of the main machine, or one of the task with a number. -/
inductive Act (εm ε : Type*)
  | main (e : εm)
  | task (i : ℕ) (e : ε)

/-- The main machine, each of whose steps may start tasks, with the tasks it has started. -/
def spawn (main : μ → εm → Option (μ × List σ)) (step : σ → ε → Option σ) (s : μ × List σ) :
    Act εm ε → Option (μ × List σ)
  | .main e => (main s.1 e).map fun p => (p.1, s.2 ++ p.2)
  | .task i e => (s.2[i]?).bind fun t => (step t e).map fun t' => (s.1, s.2.set i t')

/-- The main machine alone, with the list of what it has started. -/
def emits (main : μ → εm → Option (μ × List σ)) (s : μ × List σ) (e : εm) :
    Option (μ × List σ) :=
  (main s.1 e).map fun p => (p.1, s.2 ++ p.2)

/-- The events of the main machine. -/
def mainActs (es : List (Act εm ε)) : List εm :=
  es.filterMap fun e =>
    match e with
    | .main e => some e
    | .task _ _ => none

/-- The events of a task. -/
def taskActs (i : ℕ) (es : List (Act εm ε)) : List ε :=
  es.filterMap fun e =>
    match e with
    | .main _ => none
    | .task j e => if j = i then some e else none

theorem mainActs_append (es fs : List (Act εm ε)) :
    mainActs (es ++ fs) = mainActs es ++ mainActs fs := List.filterMap_append

theorem taskActs_append (i : ℕ) (es fs : List (Act εm ε)) :
    taskActs i (es ++ fs) = taskActs i es ++ taskActs i fs := List.filterMap_append

theorem taskActs_main (i : ℕ) (es : List (Act εm ε)) (e : εm) :
    taskActs i (es ++ [.main e]) = taskActs i es := by
  rw [taskActs_append]
  exact List.append_nil _

theorem mainActs_task (es : List (Act εm ε)) (i : ℕ) (e : ε) :
    mainActs (es ++ [.task i e]) = mainActs es := by
  rw [mainActs_append]
  exact List.append_nil _

theorem taskActs_self (i : ℕ) (es : List (Act εm ε)) (e : ε) :
    taskActs i (es ++ [.task i e]) = taskActs i es ++ [e] := by
  rw [taskActs_append]
  simp [taskActs]

theorem taskActs_of_ne {i j : ℕ} (h : j ≠ i) (es : List (Act εm ε)) (e : ε) :
    taskActs i (es ++ [.task j e]) = taskActs i es := by
  rw [taskActs_append]
  simp [taskActs, h]

variable {main : μ → εm → Option (μ × List σ)} {step : σ → ε → Option σ}

/-- One more event at the end of a run. -/
theorem run_concat_eq_some {τ φ : Type*} {step : τ → φ → Option τ} {s u : τ} {es : List φ}
    {e : φ} :
    run step s (es ++ [e]) = some u ↔ ∃ t, run step s es = some t ∧ step t e = some u := by
  rw [run_append, Option.bind_eq_some_iff]
  constructor
  · rintro ⟨t, ht, hu⟩
    obtain ⟨u', hu', hrest⟩ := run_cons_eq_some.1 hu
    exact ⟨t, ht, hu'.trans hrest⟩
  · rintro ⟨t, ht, hu⟩
    exact ⟨t, ht, run_cons_eq_some.2 ⟨u, hu, rfl⟩⟩

/-- What a run of the whole has come to: the main machine has started what it has started, every
task is where its events lead from there, and there are no events of other tasks. -/
structure Projects (main : μ → εm → Option (μ × List σ)) (step : σ → ε → Option σ) (m : μ)
    (es : List (Act εm ε)) (s : μ × List σ) (started : List σ) : Prop where
  main_run : run (emits main) (m, []) (mainActs es) = some (s.1, started)
  length_eq : started.length = s.2.length
  task_run : ∀ i t, s.2[i]? = some t →
    ∃ t₀, started[i]? = some t₀ ∧ run step t₀ (taskActs i es) = some t
  no_others : ∀ i, s.2.length ≤ i → taskActs i es = []

/-- **A step of the main machine** starts its tasks behind the others. -/
theorem Projects.main_step {m : μ} {es : List (Act εm ε)} {s : μ × List σ} {started : List σ}
    (h : Projects main step m es s started) {e : εm} {m' : μ} {new : List σ}
    (hmain : main s.1 e = some (m', new)) :
    Projects main step m (es ++ [.main e]) (m', s.2 ++ new) (started ++ new) where
  main_run := by
    rw [mainActs_append]
    refine run_concat_eq_some.2 ⟨_, h.main_run, ?_⟩
    rw [emits, hmain]
    rfl
  length_eq := by rw [List.length_append, List.length_append, h.length_eq]
  task_run := by
    intro i t ht
    rw [taskActs_main]
    rcases Nat.lt_or_ge i s.2.length with hlt | hge
    · rw [List.getElem?_append_left hlt] at ht
      rw [List.getElem?_append_left (h.length_eq ▸ hlt)]
      exact h.task_run i t ht
    · -- a task that has just been started has not moved
      rw [List.getElem?_append_right hge] at ht
      rw [List.getElem?_append_right (h.length_eq ▸ hge), h.length_eq, h.no_others i hge]
      exact ⟨t, ht, rfl⟩
  no_others := by
    intro i hi
    rw [taskActs_main]
    refine h.no_others i (Nat.le_trans ?_ hi)
    rw [List.length_append]
    exact Nat.le_add_right _ _

/-- **A step of a task** is one more of its events. -/
theorem Projects.task_step {m : μ} {es : List (Act εm ε)} {s : μ × List σ} {started : List σ}
    (h : Projects main step m es s started) {i : ℕ} {e : ε} {t t' : σ} (ht : s.2[i]? = some t)
    (hstep : step t e = some t') :
    Projects main step m (es ++ [.task i e]) (s.1, s.2.set i t') started where
  main_run := by
    rw [mainActs_task]
    exact h.main_run
  length_eq := by rw [List.length_set, h.length_eq]
  task_run := by
    intro j u hu
    by_cases hj : i = j
    · subst hj
      have hlt : i < s.2.length := (List.getElem?_eq_some_iff.1 ht).1
      rw [List.getElem?_set_self hlt, Option.some.injEq] at hu
      obtain ⟨t₀, ht₀, hrun⟩ := h.task_run i t ht
      refine ⟨t₀, ht₀, ?_⟩
      rw [taskActs_self]
      exact run_concat_eq_some.2 ⟨t, hrun, hu ▸ hstep⟩
    · rw [List.getElem?_set_ne hj] at hu
      rw [taskActs_of_ne hj]
      exact h.task_run j u hu
  no_others := by
    intro j hj
    rw [List.length_set] at hj
    have hlt : i < s.2.length := (List.getElem?_eq_some_iff.1 ht).1
    rw [taskActs_of_ne (by omega)]
    exact h.no_others j hj

/-- **A run of the whole is a run of the main machine, and of each task** on its own events, from
where it was started. -/
theorem spawn_project {m : μ} {es : List (Act εm ε)} {s : μ × List σ}
    (hrun : run (spawn main step) (m, []) es = some s) :
    ∃ started, Projects main step m es s started := by
  induction es using List.reverseRecOn generalizing s with
  | nil =>
      rw [run_nil, Option.some.injEq] at hrun
      subst hrun
      exact ⟨[], rfl, rfl, fun i t ht => by simp at ht, fun i _ => rfl⟩
  | append_singleton es e ih =>
      obtain ⟨u, hu, hstep⟩ := run_concat_eq_some.1 hrun
      obtain ⟨started, hproj⟩ := ih hu
      cases e with
      | main e =>
          obtain ⟨⟨m', new⟩, hmain, rfl⟩ := Option.map_eq_some_iff.1 hstep
          exact ⟨_, hproj.main_step hmain⟩
      | task i e =>
          obtain ⟨t, ht, hstep'⟩ := Option.bind_eq_some_iff.1 hstep
          obtain ⟨t', ht', rfl⟩ := Option.map_eq_some_iff.1 hstep'
          exact ⟨_, hproj.task_step ht ht'⟩

/-! ### What is started -/

/-- The machine that starts a task for everything that comes to its output. -/
def starts {α : Type*} (step : μ → εm → Option μ) (output : μ → List α) (f : α → σ) (s : μ)
    (e : εm) : Option (μ × List σ) :=
  (step s e).map fun t => (t, ((output t).drop (output s).length).map f)

/-- **The tasks that are started** are those of the output, if no step takes any of it back. -/
theorem started_eq {α : Type*} {step : μ → εm → Option μ} {output : μ → List α} {f : α → σ}
    {P : μ → Prop}
    (hgrows : ∀ s e t, P s → step s e = some t → P t ∧ output s <+: output t) {m s : μ} (hm : P m)
    (hnil : output m = []) {es : List εm} {started : List σ}
    (hrun : run (emits (starts step output f)) (m, []) es = some (s, started)) :
    P s ∧ run step m es = some s ∧ started = (output s).map f := by
  induction es using List.reverseRecOn generalizing s started with
  | nil =>
      obtain ⟨rfl, rfl⟩ := Prod.mk.inj (Option.some.inj hrun)
      exact ⟨hm, rfl, by rw [hnil, List.map_nil]⟩
  | append_singleton es e ih =>
      obtain ⟨⟨u, startedBefore⟩, hu, hstep⟩ := run_concat_eq_some.1 hrun
      obtain ⟨hP, hmain, rfl⟩ := ih hu
      obtain ⟨p, hstarts, heq⟩ := Option.map_eq_some_iff.1 hstep
      obtain ⟨t, ht, rfl⟩ := Option.map_eq_some_iff.1 hstarts
      obtain ⟨rfl, rfl⟩ := Prod.mk.inj heq
      obtain ⟨hP', new, hnew⟩ := hgrows u e t hP ht
      refine ⟨hP', run_concat_eq_some.2 ⟨u, hmain, ht⟩, ?_⟩
      rw [← hnew, List.drop_left, ← List.map_append]

/-! ### Ranks -/

/-- The rank of the whole: that of the main machine, and those of the tasks. -/
def SpawnRank (RankMain : μ → ℕ → Prop) (RankTask : σ → ℕ → Prop) (s : μ × List σ) (n : ℕ) : Prop :=
  ∃ k ns, RankMain s.1 k ∧ List.Forall₂ RankTask s.2 ns ∧ n = k + ns.sum

/-- A task whose rank goes down takes down the sum of all. -/
theorem forall₂_set {RankTask : σ → ℕ → Prop} {tasks : List σ} {ns : List ℕ}
    (h : List.Forall₂ RankTask tasks ns) {i : ℕ} {t t' : σ} (ht : tasks[i]? = some t)
    (hstep : ∀ n, RankTask t n → ∃ m, m < n ∧ RankTask t' m) :
    ∃ ms, List.Forall₂ RankTask (tasks.set i t') ms ∧ ms.sum < ns.sum := by
  induction h generalizing i with
  | nil => cases ht
  | @cons u n tasks ns hu hrest ih =>
      cases i with
      | zero =>
          obtain rfl : u = t := by simpa using ht
          obtain ⟨m, hm, hm'⟩ := hstep n hu
          refine ⟨m :: ns, List.Forall₂.cons hm' hrest, ?_⟩
          rw [List.sum_cons, List.sum_cons]
          omega
      | succ i =>
          obtain ⟨ms, hms, hlt⟩ := ih (i := i) (by simpa using ht)
          refine ⟨n :: ms, List.Forall₂.cons hu hms, ?_⟩
          rw [List.sum_cons, List.sum_cons]
          omega

/-- **The whole goes down in rank** when a task does, and when the main machine goes down by more
than the ranks of what it starts. -/
theorem spawnRank_step {RankMain : μ → ℕ → Prop} {RankTask : σ → ℕ → Prop}
    (hmain : ∀ s k e t new, RankMain s k → main s e = some (t, new) →
      ∃ m ns, RankMain t m ∧ List.Forall₂ RankTask new ns ∧ m + ns.sum < k)
    (htask : ∀ s n e t, RankTask s n → step s e = some t → ∃ m, m < n ∧ RankTask t m)
    {s t : μ × List σ} {n : ℕ} {e : Act εm ε} (h : SpawnRank RankMain RankTask s n)
    (hstep : spawn main step s e = some t) :
    ∃ m, m < n ∧ SpawnRank RankMain RankTask t m := by
  obtain ⟨k, ns, hk, hns, rfl⟩ := h
  cases e with
  | main e =>
      obtain ⟨⟨u, new⟩, hu, rfl⟩ := Option.map_eq_some_iff.1 hstep
      obtain ⟨m, ms, hm, hms, hlt⟩ := hmain s.1 k e u new hk hu
      refine ⟨m + (ns ++ ms).sum, ?_, m, ns ++ ms, hm, List.rel_append hns hms, rfl⟩
      rw [List.sum_append]
      omega
  | task i e =>
      obtain ⟨u, hu, hstep'⟩ := Option.bind_eq_some_iff.1 hstep
      obtain ⟨u', hu', rfl⟩ := Option.map_eq_some_iff.1 hstep'
      obtain ⟨ms, hms, hlt⟩ := forall₂_set hns hu fun n hn => htask u n e u' hn hu'
      exact ⟨k + ms.sum, by omega, k, ms, hk, hms, rfl⟩

end Machine
