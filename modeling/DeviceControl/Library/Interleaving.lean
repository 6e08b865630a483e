import DeviceControl.Library.Transducer

/-!
# Interleaved clients of one transducer

A transducer that several clients share gets their inputs in some interleaving. Two things can be
said of every interleaving.

* What one client sees does not depend on the others (`trace_filter_eq`): its part of the trace is
  the trace of a transducer that gets its inputs alone, if a relation `R` of the two states is kept
  by the inputs of the client, with equal outputs, and by those of the others, which the second
  transducer does not get. What the shared part of the state makes of the client's requests cannot
  be known from the client alone. So `R` has the outcomes to come as a parameter, and the second
  transducer may be one that is told them.
* The requests that all of them make are served one after the other (`Mediates.run`): if every step
  passes its requests to a server, whose state is a part of the state, then so does every run, and
  the server is run through all requests in the order in which they were made.

The other way round, a transducer can pass some of its inputs on to a component (`Embeds.run`).
-/

namespace Transducer

variable {State State' Input Output : Type}

/-! ### One client -/

section Client

/-- The entries of a trace that belong to a client. -/
def traceOf (T : Transducer State Input Output) (mine : Input → Bool) (s : State)
    (is : List Input) : List (Input × Output) :=
  (T.trace s is).filter fun p => mine p.1

variable {T : Transducer State Input Output} {mine : Input → Bool} {s : State} {i : Input}
  {is : List Input}

@[simp] theorem traceOf_nil : T.traceOf mine s [] = [] := rfl

theorem traceOf_cons_mine (h : mine i = true) :
    T.traceOf mine s (i :: is) = (i, (T.step s i).2) :: T.traceOf mine (T.step s i).1 is := by
  rw [traceOf, trace_cons]
  exact List.filter_cons_of_pos h

theorem traceOf_cons_other (h : mine i = false) :
    T.traceOf mine s (i :: is) = T.traceOf mine (T.step s i).1 is := by
  rw [traceOf, trace_cons]
  exact List.filter_cons_of_neg (by rw [h]; exact Bool.false_ne_true)

section Isolation

variable {T' : Transducer State' Input Output} {Outcome : Type} {outcomes : Output → List Outcome}
  {G' : State' → Input → Prop} {R : List Outcome → State → State' → Prop}
  (h_mine : ∀ rest s s' i, mine i = true → G' s' i → R (outcomes (T.step s i).2 ++ rest) s s' →
    (T'.step s' i).2 = (T.step s i).2 ∧ R rest (T.step s i).1 (T'.step s' i).1)
  (h_other : ∀ rest s s' i, mine i = false → R rest s s' → R rest (T.step s i).1 s')

include h_mine h_other

/-- **Isolation.** The part of a client in a trace is the trace of a transducer that gets its inputs
alone, in a state that is related for the outcomes that are still to come. -/
theorem trace_filter_eq {s' : State'} {rest : List Outcome}
    (h : R ((T.traceOf mine s is).flatMap (fun p => outcomes p.2) ++ rest) s s')
    (h_guard : T'.EveryStep G' s' (is.filter mine)) :
    T'.trace s' (is.filter mine) = T.traceOf mine s is ∧
      R rest (T.run s is) (T'.run s' (is.filter mine)) := by
  induction is generalizing s s' with
  | nil => exact ⟨rfl, h⟩
  | cons i is ih =>
    cases h_i : mine i with
    | true =>
      rw [traceOf_cons_mine h_i, List.flatMap_cons, List.append_assoc] at h
      rw [List.filter_cons_of_pos h_i] at h_guard ⊢
      -- both take the step, and its outcomes are no longer to come
      obtain ⟨h_out, h_next⟩ := h_mine _ s s' i h_i h_guard.1 h
      obtain ⟨h_trace, h_run⟩ := ih h_next h_guard.2
      rw [traceOf_cons_mine h_i, trace_cons, h_out, h_trace]
      exact ⟨rfl, h_run⟩
    | false =>
      have h_not : ¬ mine i = true := by
        rw [h_i]
        exact Bool.false_ne_true
      rw [traceOf_cons_other h_i] at h
      rw [List.filter_cons_of_neg h_not] at h_guard ⊢
      -- only the shared transducer takes it
      rw [traceOf_cons_other h_i]
      exact ih (h_other _ s s' i h_i h) h_guard

/-- A guard that the two states agree on can be looked at in either run. -/
theorem everyStep_filter {G : State → Input → Prop} (h_iff : ∀ rest s s' i, R rest s s' →
      mine i = true → (G s i ↔ G' s' i))
    {s' : State'} {rest : List Outcome}
    (h : R ((T.traceOf mine s is).flatMap (fun p => outcomes p.2) ++ rest) s s')
    (h_guard : T.EveryStep (fun s i => mine i = true → G s i) s is) :
    T'.EveryStep G' s' (is.filter mine) := by
  induction is generalizing s s' with
  | nil => trivial
  | cons i is ih =>
    obtain ⟨h_head, h_tail⟩ := h_guard
    cases h_i : mine i with
    | true =>
      rw [traceOf_cons_mine h_i, List.flatMap_cons, List.append_assoc] at h
      rw [List.filter_cons_of_pos h_i]
      have h_ok : G' s' i := (h_iff _ s s' i h h_i).mp (h_head h_i)
      exact ⟨h_ok, ih (h_mine _ s s' i h_i h_ok h).2 h_tail⟩
    | false =>
      have h_not : ¬ mine i = true := by
        rw [h_i]
        exact Bool.false_ne_true
      rw [traceOf_cons_other h_i] at h
      rw [List.filter_cons_of_neg h_not]
      exact ih (h_other _ s s' i h_i h) h_tail

end Isolation

end Client

/-! ### All clients -/

section Mediation

variable {Server Request Answer : Type}

/-- A step passes its requests to the server, in the order of its output, and tells the answers. -/
structure Mediates (T : Transducer State Input Output) (S : Transducer Server Request Answer)
    (server : State → Server) (calls : Output → List (Request × Answer)) (s : State) (i : Input) :
    Prop where
  answers : S.trace (server s) ((calls (T.step s i).2).map Prod.fst) = calls (T.step s i).2
  state : S.run (server s) ((calls (T.step s i).2).map Prod.fst) = server (T.step s i).1

variable {T : Transducer State Input Output} {S : Transducer Server Request Answer}
  {server : State → Server} {calls : Output → List (Request × Answer)} {s : State}
  {is : List Input}

/-- **Serial service.** A run whose steps pass their requests to the server runs the server through
all of them, in the order in which they were made. -/
theorem Mediates.run (h : T.EveryStep (T.Mediates S server calls) s is) :
    S.trace (server s) (((T.trace s is).flatMap fun p => calls p.2).map Prod.fst)
        = (T.trace s is).flatMap (fun p => calls p.2) ∧
      S.run (server s) (((T.trace s is).flatMap fun p => calls p.2).map Prod.fst)
        = server (T.run s is) := by
  induction is generalizing s with
  | nil => exact ⟨rfl, rfl⟩
  | cons i is ih =>
    obtain ⟨h_head, h_tail⟩ := h
    obtain ⟨h_answers, h_state⟩ := ih h_tail
    rw [trace_cons, List.flatMap_cons, List.map_append, trace_append, run_append, h_head.answers,
      h_head.state, h_answers, h_state, run_cons]
    exact ⟨rfl, rfl⟩

end Mediation

/-- A condition on the outputs of a trace is one on the steps of its run. -/
theorem everyStep_of_trace (T : Transducer State Input Output) (Q : Input → Output → Prop)
    {s : State} {is : List Input} (h : ∀ p ∈ T.trace s is, Q p.1 p.2) :
    T.EveryStep (fun s i => Q i (T.step s i).2) s is := by
  induction is generalizing s with
  | nil => trivial
  | cons i is ih =>
    obtain ⟨h_head, h_tail⟩ := List.forall_mem_cons.mp h
    exact ⟨h_head, ih h_tail⟩

/-- A stronger condition on the steps of a run. -/
theorem EveryStep.mono {T : Transducer State Input Output} {G G' : State → Input → Prop}
    {s : State} {is : List Input} (h : T.EveryStep G s is) (h_imp : ∀ s i, G s i → G' s i) :
    T.EveryStep G' s is := by
  rw [everyStep_iff] at h ⊢
  exact fun pre i post h_is => h_imp _ _ (h pre i post h_is)

section EveryStep

variable {T : Transducer State Input Output} {G : State → Input → Prop} {s : State}

theorem everyStep_append {is js : List Input} :
    T.EveryStep G s (is ++ js) ↔ T.EveryStep G s is ∧ T.EveryStep G (T.run s is) js := by
  induction is generalizing s with
  | nil => exact (and_iff_right trivial).symm
  | cons i is ih => rw [List.cons_append, EveryStep, EveryStep, ih, run_cons, and_assoc]

/-- A guard that the inputs meet in every state. -/
theorem everyStep_of_forall {is : List Input} (h : ∀ i ∈ is, ∀ s, G s i) : T.EveryStep G s is := by
  rw [everyStep_iff]
  rintro pre i post rfl
  exact h i (by simp) _

/-- A guard of a run over inputs of a kind, position by position. -/
theorem everyStep_map {Input' : Type} {f : Input' → Input} {is : List Input'}
    (h : ∀ pre i post, is = pre ++ i :: post → G (T.run s (pre.map f)) (f i)) :
    T.EveryStep G s (is.map f) := by
  rw [everyStep_iff]
  intro pre i post h_is
  obtain ⟨pre', rest, rfl, rfl, h_rest⟩ := List.map_eq_append_iff.mp h_is
  obtain ⟨i', post', rfl, rfl, -⟩ := List.map_eq_cons_iff.mp h_rest
  exact h pre' i' post' rfl

/-- A guard of the whole is one of a restriction of the inputs. -/
theorem everyStep_comap {Input' : Type} {f : Input' → Input} {is : List Input'}
    (h : (T.comap f).EveryStep (fun s i => G s (f i)) s is) : T.EveryStep G s (is.map f) := by
  induction is generalizing s with
  | nil => trivial
  | cons i is ih => exact ⟨h.1, ih h.2⟩

end EveryStep

/-! ### Components -/

section Component

variable {Input' Output' : Type} {part : State → State'} {input : Input → Option Input'}
  {output : Output → Option Output'}

/-- A step is one of the component `T'`, which sits in a part of the state, if the input is for it.
If not, the step leaves that part alone. -/
structure Embeds (T : Transducer State Input Output) (T' : Transducer State' Input' Output')
    (part : State → State') (input : Input → Option Input') (output : Output → Option Output')
    (s : State) (i : Input) : Prop where
  taken : ∀ i', input i = some i' →
    part (T.step s i).1 = (T'.step (part s) i').1 ∧
      output (T.step s i).2 = some (T'.step (part s) i').2
  left : input i = none → part (T.step s i).1 = part s ∧ output (T.step s i).2 = none

variable {T : Transducer State Input Output} {T' : Transducer State' Input' Output'} {s : State}
  {is : List Input}

/-- **Components.** A run takes a component through the inputs that are for it, and its outputs are
those of the component. -/
theorem Embeds.run (h : T.EveryStep (T.Embeds T' part input output) s is) :
    T'.run (part s) (is.filterMap input) = part (T.run s is) ∧
      (T'.trace (part s) (is.filterMap input)).map Prod.snd
        = ((T.trace s is).map Prod.snd).filterMap output := by
  induction is generalizing s with
  | nil => exact ⟨rfl, rfl⟩
  | cons i is ih =>
    obtain ⟨h_head, h_tail⟩ := h
    obtain ⟨h_run, h_trace⟩ := ih h_tail
    rw [run_cons, trace_cons, List.map_cons]
    cases h_i : input i with
    | some i' =>
      obtain ⟨h_part, h_out⟩ := h_head.taken i' h_i
      rw [List.filterMap_cons_some h_i, List.filterMap_cons_some h_out, run_cons, trace_cons,
        ← h_part, h_run, List.map_cons, h_trace]
      exact ⟨rfl, rfl⟩
    | none =>
      obtain ⟨h_part, h_out⟩ := h_head.left h_i
      rw [List.filterMap_cons_none h_i, List.filterMap_cons_none h_out, ← h_part]
      exact ⟨h_run, h_trace⟩

/-- What all steps of a run meet that are not for the component, all of its steps meet exactly if
those of the component do. -/
theorem Embeds.forall_trace_iff {P : Input → Output → Prop} {G : State' → Input' → Prop}
    (h : ∀ s i, T.Embeds T' part input output s i)
    (h_taken : ∀ s i i', input i = some i' → (P i (T.step s i).2 ↔ G (part s) i'))
    (h_left : ∀ s i, input i = none → P i (T.step s i).2) :
    (∀ p ∈ T.trace s is, P p.1 p.2) ↔ T'.EveryStep G (part s) (is.filterMap input) := by
  induction is generalizing s with
  | nil => exact iff_of_true nofun trivial
  | cons i is ih =>
    rw [trace_cons, List.forall_mem_cons, ih]
    cases h_i : input i with
    | some i' =>
      rw [List.filterMap_cons_some h_i, EveryStep, ((h s i).taken i' h_i).1]
      exact and_congr_left' (h_taken s i i' h_i)
    | none =>
      rw [List.filterMap_cons_none h_i, ((h s i).left h_i).1]
      exact and_iff_right (h_left s i h_i)

end Component

end Transducer
