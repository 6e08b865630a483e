import Mathlib

/-!
# Deterministic transducers

A transducer answers every input with an output and moves to a new state. It is the shape of any
component driven by callbacks: the callbacks are the inputs, what they return (and what they do to
the outside) is the output, and the component's static data is the state.

* `Transducer.run` and `Transducer.trace` are the state reached and the inputs paired with their
  outputs along a finite sequence of inputs.
* `run_invariant`, `trace_invariant` and `run_history` are the induction rules: an invariant of one
  step is an invariant of every run, an output property that every step from an invariant state has
  holds of every output, and an invariant that also speaks about the inputs and outputs so far is
  carried by every run.
* `run_lockstep` and `forall_trace_lockstep` compare two transducers with the same inputs, by a
  relation of their states that every step keeps.
* `EveryStep` is the guard of a run: a condition on each input together with the state it arrives
  in. `run_guarded` and `trace_guarded` are the induction rules under a guard.
* `SomeStep` says that a step of some kind is taken in a run.
-/

/-- A deterministic system that answers every input. -/
structure Transducer (State Input Output : Type) where
  /-- One step: the state after the input, and the answer to it. -/
  step : State → Input → State × Output

namespace Transducer

variable {State Input Output : Type} (T : Transducer State Input Output)

/-- The state after a finite sequence of inputs. -/
def run (s : State) : List Input → State
  | [] => s
  | i :: is => run (T.step s i).1 is

/-- The inputs of a run, each with the output it got. -/
def trace (s : State) : List Input → List (Input × Output)
  | [] => []
  | i :: is => (i, (T.step s i).2) :: trace (T.step s i).1 is

@[simp] theorem run_nil (s : State) : T.run s [] = s := rfl

@[simp] theorem run_cons (s : State) (i : Input) (is : List Input) :
    T.run s (i :: is) = T.run (T.step s i).1 is := rfl

theorem run_append (s : State) (is js : List Input) :
    T.run s (is ++ js) = T.run (T.run s is) js := by
  induction is generalizing s with
  | nil => rfl
  | cons i is ih => exact ih _

theorem run_concat (s : State) (is : List Input) (i : Input) :
    T.run s (is ++ [i]) = (T.step (T.run s is) i).1 := by
  rw [run_append, run_cons, run_nil]

/-- Transducers with the same states have the same runs, whatever they answer. -/
theorem run_congr {Output' : Type} {T : Transducer State Input Output}
    {T' : Transducer State Input Output'} (h : ∀ s i, (T.step s i).1 = (T'.step s i).1)
    (s : State) (is : List Input) : T.run s is = T'.run s is := by
  induction is generalizing s with
  | nil => rfl
  | cons i is ih => rw [run_cons, run_cons, h, ih]

@[simp] theorem trace_nil (s : State) : T.trace s [] = [] := rfl

@[simp] theorem trace_cons (s : State) (i : Input) (is : List Input) :
    T.trace s (i :: is) = (i, (T.step s i).2) :: T.trace (T.step s i).1 is := rfl

theorem trace_append (s : State) (is js : List Input) :
    T.trace s (is ++ js) = T.trace s is ++ T.trace (T.run s is) js := by
  induction is generalizing s with
  | nil => rfl
  | cons i is ih => rw [List.cons_append, trace_cons, ih, trace_cons, List.cons_append, run_cons]

theorem trace_concat (s : State) (is : List Input) (i : Input) :
    T.trace s (is ++ [i]) = T.trace s is ++ [(i, (T.step (T.run s is) i).2)] := by
  rw [trace_append, trace_cons, trace_nil]

@[simp] theorem length_trace (s : State) (is : List Input) :
    (T.trace s is).length = is.length := by
  induction is generalizing s with
  | nil => rfl
  | cons i is ih => rw [trace_cons, List.length_cons, ih, List.length_cons]

@[simp] theorem map_fst_trace (s : State) (is : List Input) :
    (T.trace s is).map Prod.fst = is := by
  induction is generalizing s with
  | nil => rfl
  | cons i is ih => rw [trace_cons, List.map_cons, ih]

/-- The entry of a trace at position `k` is the step taken from the state after `k` inputs. -/
theorem getElem?_trace (s : State) (is : List Input) (k : ℕ) :
    (T.trace s is)[k]? = is[k]?.map fun i => (i, (T.step (T.run s (is.take k)) i).2) := by
  induction is generalizing s k with
  | nil => simp
  | cons i is ih =>
    cases k with
    | zero => simp
    | succ k => simpa using ih (T.step s i).1 k

/-- The entries of a trace are the steps taken from the states along the run. -/
theorem mem_trace {s : State} {is : List Input} {p : Input × Output} :
    p ∈ T.trace s is ↔
      ∃ pre post, is = pre ++ p.1 :: post ∧ p.2 = (T.step (T.run s pre) p.1).2 := by
  induction is generalizing s with
  | nil => simp
  | cons i is ih =>
    rw [trace_cons, List.mem_cons, ih]
    constructor
    · rintro (rfl | ⟨pre, post, rfl, h⟩)
      · exact ⟨[], is, rfl, rfl⟩
      · exact ⟨i :: pre, post, rfl, h⟩
    · rintro ⟨pre, post, h_is, h⟩
      cases pre with
      | nil =>
        obtain ⟨rfl, rfl⟩ := List.cons.inj h_is
        exact Or.inl (Prod.ext rfl h)
      | cons j pre =>
        obtain ⟨rfl, rfl⟩ := List.cons.inj h_is
        exact Or.inr ⟨pre, post, rfl, h⟩

/-- The step at a position of a trace, with the trace up to it. -/
theorem getElem?_trace_eq_some {s : State} {is : List Input} {k : ℕ} {i : Input} {o : Output} :
    (T.trace s is)[k]? = some (i, o) ↔
      is[k]? = some i ∧ o = (T.step (T.run s (is.take k)) i).2 := by
  rw [getElem?_trace, Option.map_eq_some_iff]
  constructor
  · rintro ⟨j, h_get, h_eq⟩
    obtain ⟨rfl, rfl⟩ := Prod.mk.inj h_eq
    exact ⟨h_get, rfl⟩
  · rintro ⟨h_get, rfl⟩
    exact ⟨i, h_get, rfl⟩

theorem take_trace (s : State) (is : List Input) (k : ℕ) :
    (T.trace s is).take k = T.trace s (is.take k) := by
  induction is generalizing s k with
  | nil => simp
  | cons i is ih =>
    cases k with
    | zero => rfl
    | succ k => rw [trace_cons, List.take_succ_cons, List.take_succ_cons, trace_cons, ih]

/-- The trace up to and including a position ends with the entry there. -/
theorem trace_take_succ {s : State} {is : List Input} {k : ℕ} {p : Input × Output}
    (h : (T.trace s is)[k]? = some p) :
    T.trace s (is.take (k + 1)) = T.trace s (is.take k) ++ [p] := by
  rw [← take_trace, ← take_trace, List.take_add_one, h, Option.toList_some]

/-- A part of a trace is the trace of its inputs, from the state that the part before it
reaches. -/
theorem trace_eq_append {s : State} {is : List Input} {h₁ h₂ : List (Input × Output)}
    (h : T.trace s is = h₁ ++ h₂) :
    is = h₁.map Prod.fst ++ h₂.map Prod.fst ∧ T.trace s (h₁.map Prod.fst) = h₁ ∧
      T.trace (T.run s (h₁.map Prod.fst)) (h₂.map Prod.fst) = h₂ := by
  have h_is : is = h₁.map Prod.fst ++ h₂.map Prod.fst := by
    rw [← List.map_append, ← h, map_fst_trace]
  refine ⟨h_is, ?_⟩
  rw [h_is, trace_append] at h
  exact List.append_inj h (by rw [length_trace, List.length_map])

/-! ### Restriction of the inputs -/

/-- The transducer seen through some of its inputs only. -/
def comap {Input' : Type} (f : Input' → Input) : Transducer State Input' Output where
  step s i := T.step s (f i)

theorem run_comap {Input' : Type} (f : Input' → Input) (s : State) (is : List Input') :
    (T.comap f).run s is = T.run s (is.map f) := by
  induction is generalizing s with
  | nil => rfl
  | cons i is ih => exact ih _

theorem trace_comap {Input' : Type} (f : Input' → Input) (s : State) (is : List Input') :
    T.trace s (is.map f) = ((T.comap f).trace s is).map fun p => (f p.1, p.2) := by
  induction is generalizing s with
  | nil => rfl
  | cons i is ih =>
    rw [List.map_cons, trace_cons, ih, trace_cons, List.map_cons]
    rfl

/-! ### Invariants -/

/-- An invariant of the steps is an invariant of the runs. -/
theorem run_invariant {P : State → Prop} (h_step : ∀ s i, P s → P (T.step s i).1)
    {s : State} (h : P s) (is : List Input) : P (T.run s is) := by
  induction is generalizing s with
  | nil => exact h
  | cons i is ih => exact ih (h_step s i h)

/-- What every step from an invariant state answers, every step of a run answers. -/
theorem trace_invariant {P : State → Prop} {Q : Input → Output → Prop}
    (h_step : ∀ s i, P s → P (T.step s i).1) (h_out : ∀ s i, P s → Q i (T.step s i).2)
    {s : State} (h : P s) (is : List Input) : ∀ p ∈ T.trace s is, Q p.1 p.2 := by
  induction is generalizing s with
  | nil => simp
  | cons i is ih =>
    intro p hp
    rcases List.mem_cons.mp hp with rfl | hp
    · exact h_out s i h
    · exact ih (h_step s i h) p hp

/-- What a step with a quiet answer leaves alone, a run of such steps leaves alone. -/
theorem run_unchanged {α : Type} {f : State → α} {Q : Output → Prop}
    (h_step : ∀ s i, Q (T.step s i).2 → f (T.step s i).1 = f s) {s : State} {is : List Input}
    (h_quiet : ∀ p ∈ T.trace s is, Q p.2) : f (T.run s is) = f s := by
  induction is generalizing s with
  | nil => rfl
  | cons i is ih =>
    obtain ⟨h_head, h_tail⟩ := List.forall_mem_cons.mp h_quiet
    rw [run_cons, ih h_tail, h_step s i h_head]

/-- The induction rule for a property of the history and the state together. -/
theorem run_history {P : List (Input × Output) → State → Prop} {s : State} (h_init : P [] s)
    (h_step : ∀ h s i, P h s → P (h ++ [(i, (T.step s i).2)]) (T.step s i).1)
    (is : List Input) : P (T.trace s is) (T.run s is) := by
  -- on the end of the run, where the history grows
  induction is using List.reverseRecOn with
  | nil => exact h_init
  | append_singleton is i ih =>
    rw [trace_concat, run_concat]
    exact h_step _ _ i ih

/-! ### Two systems in lockstep -/

section Lockstep

variable {State' Output' : Type} {T' : Transducer State' Input Output'} {R : State → State' → Prop}
  {G : Input → Prop} {s : State} {s' : State'} {is : List Input}

/-- States that every step keeps in relation are in relation after every run. -/
theorem run_lockstep
    (h_step : ∀ s s' i, R s s' → G i → R (T.step s i).1 (T'.step s' i).1)
    (h : R s s') (h_in : ∀ i ∈ is, G i) : R (T.run s is) (T'.run s' is) := by
  induction is generalizing s s' with
  | nil => exact h
  | cons i is ih =>
    obtain ⟨h_head, h_tail⟩ := List.forall_mem_cons.mp h_in
    exact ih (h_step s s' i h h_head) h_tail

/-- A verdict on which the two agree at every step, they agree on for a whole run. -/
theorem forall_trace_lockstep (Q : Output → Prop) (Q' : Output' → Prop)
    (h_step : ∀ s s' i, R s s' → G i → R (T.step s i).1 (T'.step s' i).1)
    (h_out : ∀ s s' i, R s s' → G i → (Q (T.step s i).2 ↔ Q' (T'.step s' i).2))
    (h : R s s') (h_in : ∀ i ∈ is, G i) :
    (∀ p ∈ T.trace s is, Q p.2) ↔ ∀ p ∈ T'.trace s' is, Q' p.2 := by
  induction is generalizing s s' with
  | nil => simp
  | cons i is ih =>
    obtain ⟨h_head, h_tail⟩ := List.forall_mem_cons.mp h_in
    rw [trace_cons, trace_cons, List.forall_mem_cons, List.forall_mem_cons]
    exact and_congr (h_out s s' i h h_head) (ih (h_step s s' i h h_head) h_tail)

end Lockstep

/-! ### Guarded runs -/

/-- Every input of the run arrives in a state that allows it. -/
def EveryStep (G : State → Input → Prop) (s : State) : List Input → Prop
  | [] => True
  | i :: is => G s i ∧ EveryStep G (T.step s i).1 is

theorem everyStep_iff {G : State → Input → Prop} {s : State} {is : List Input} :
    T.EveryStep G s is ↔ ∀ pre i post, is = pre ++ i :: post → G (T.run s pre) i := by
  induction is generalizing s with
  | nil => simp [EveryStep]
  | cons j is ih =>
    rw [EveryStep, ih]
    constructor
    · rintro ⟨h_head, h_tail⟩ pre i post h_is
      cases pre with
      | nil =>
        obtain ⟨rfl, rfl⟩ := List.cons.inj h_is
        exact h_head
      | cons k pre =>
        obtain ⟨rfl, rfl⟩ := List.cons.inj h_is
        exact h_tail pre i post rfl
    · intro h
      exact ⟨h [] j is rfl, fun pre i post h_is => h (j :: pre) i post (by rw [h_is]; rfl)⟩

/-- An invariant of the allowed steps is an invariant of the guarded runs. -/
theorem run_guarded {P : State → Prop} {G : State → Input → Prop}
    (h_step : ∀ s i, P s → G s i → P (T.step s i).1)
    {s : State} (h : P s) {is : List Input} (h_guard : T.EveryStep G s is) :
    P (T.run s is) := by
  induction is generalizing s with
  | nil => exact h
  | cons i is ih => exact ih (h_step s i h h_guard.1) h_guard.2

/-- What every allowed step from an invariant state answers, a guarded run answers. -/
theorem trace_guarded {P : State → Prop} {G : State → Input → Prop} {Q : Input → Output → Prop}
    (h_step : ∀ s i, P s → G s i → P (T.step s i).1)
    (h_out : ∀ s i, P s → G s i → Q i (T.step s i).2)
    {s : State} (h : P s) {is : List Input} (h_guard : T.EveryStep G s is) :
    ∀ p ∈ T.trace s is, Q p.1 p.2 := by
  induction is generalizing s with
  | nil => simp
  | cons i is ih =>
    intro p hp
    rcases List.mem_cons.mp hp with rfl | hp
    · exact h_out s i h h_guard.1
    · exact ih (h_step s i h h_guard.1) h_guard.2 p hp

/-- A guarded run is guarded up to any of its positions. -/
theorem EveryStep.of_append {G : State → Input → Prop} {s : State} {is js : List Input}
    (h : T.EveryStep G s (is ++ js)) : T.EveryStep G s is := by
  rw [everyStep_iff] at h ⊢
  rintro pre i post rfl
  exact h pre i (post ++ js) (by rw [List.append_assoc, List.cons_append])

/-! ### Steps of a kind -/

/-- Some input of the run arrives in a state in which the two are of this kind. -/
def SomeStep (G : State → Input → Prop) (s : State) : List Input → Prop
  | [] => False
  | i :: is => G s i ∨ SomeStep G (T.step s i).1 is

section SomeStep

variable {G : State → Input → Prop} {s : State} {is js : List Input}

theorem someStep_append :
    T.SomeStep G s (is ++ js) ↔ T.SomeStep G s is ∨ T.SomeStep G (T.run s is) js := by
  induction is generalizing s with
  | nil => exact (or_iff_right not_false).symm
  | cons i is ih => rw [List.cons_append, SomeStep, SomeStep, ih, run_cons, or_assoc]

theorem someStep_concat {i : Input} :
    T.SomeStep G s (is ++ [i]) ↔ T.SomeStep G s is ∨ G (T.run s is) i := by
  rw [someStep_append, SomeStep, SomeStep, or_false]

/-- A run takes no step of a kind that none of its inputs is in the state it arrives in. -/
theorem not_someStep_map {Input' : Type} {f : Input' → Input} {is : List Input'}
    (h : ∀ pre i post, is = pre ++ i :: post → ¬ G (T.run s (pre.map f)) (f i)) :
    ¬ T.SomeStep G s (is.map f) := by
  induction is generalizing s with
  | nil => exact not_false
  | cons i is ih =>
    rintro (h_head | h_tail)
    · exact h [] i is rfl h_head
    · refine ih (fun pre j post h_is => ?_) h_tail
      exact h (i :: pre) j post (by rw [h_is, List.cons_append])

end SomeStep

end Transducer
