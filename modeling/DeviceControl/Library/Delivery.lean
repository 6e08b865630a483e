import DeviceControl.Library.Transducer

/-!
# Requests over a medium that may fail

A client sends its requests one after the other. The medium may lose a request on its way to the
server, or the answer on its way back, and the client may or may not be told. `AtMostOnce` says what
it may make of a run all the same: the server has taken some of the requests, each of them once and
in the order in which they were sent, and those are among them of which the client has been told
that they have been taken.

What there is to show of a medium is one of `AtMostOnce.lost` and `AtMostOnce.take` for each
request.
-/

namespace Transducer

variable {State Input Output Answer : Type} {T : Transducer State Input Output}
  {told : Answer → Bool} {Agrees : Input → Output → Answer → Prop} {s s' : State}

/-- The requests `sent`, each with what the client has got for it, have brought the server from `s`
to `s'`, which has taken the requests `taken`. -/
structure AtMostOnce (T : Transducer State Input Output) (told : Answer → Bool)
    (Agrees : Input → Output → Answer → Prop) (s s' : State) (sent taken : List (Input × Answer)) :
    Prop where
  /-- None has been taken twice, or out of order. -/
  once : taken.Sublist sent
  /-- None has got lost of which the client has been told. -/
  kept : (sent.filter fun p => told p.2).Sublist taken
  run : s' = T.run s (taken.map Prod.fst)
  agrees : List.Forall₂ (fun p q => told q.2 = true → Agrees p.1 p.2 q.2)
    (T.trace s (taken.map Prod.fst)) taken

namespace AtMostOnce

variable {sent taken : List (Input × Answer)} {i : Input} {a : Answer}

theorem nil (s : State) : AtMostOnce T told Agrees s s [] [] :=
  ⟨List.Sublist.slnil, List.Sublist.slnil, rfl, .nil⟩

/-- A request that gets lost, in front of others. -/
theorem lost (h : AtMostOnce T told Agrees s s' sent taken) (h_told : told a = false) :
    AtMostOnce T told Agrees s s' ((i, a) :: sent) taken where
  once := h.once.cons (i, a)
  kept := by simpa [List.filter_cons, h_told] using h.kept
  run := h.run
  agrees := h.agrees

/-- A request that is taken, in front of others. -/
theorem take (h : AtMostOnce T told Agrees (T.step s i).1 s' sent taken)
    (h_agrees : told a = true → Agrees i (T.step s i).2 a) :
    AtMostOnce T told Agrees s s' ((i, a) :: sent) ((i, a) :: taken) where
  once := h.once.cons_cons (i, a)
  kept := by
    cases h_told : told a with
    | true => simpa [List.filter_cons, h_told] using h.kept
    | false => simpa [List.filter_cons, h_told] using h.kept.cons (i, a)
  run := h.run
  agrees := by
    rw [List.map_cons, trace_cons]
    exact .cons h_agrees h.agrees

/-- If the client has been told of all of its requests, then they have all been taken. -/
theorem taken_eq (h : AtMostOnce T told Agrees s s' sent taken)
    (h_told : ∀ p ∈ sent, told p.2 = true) : taken = sent := by
  have h_kept := h.kept
  rw [List.filter_eq_self.mpr h_told] at h_kept
  exact h.once.antisymm h_kept

/-- Then it has been told what the server has answered. -/
theorem complete (h : AtMostOnce T told Agrees s s' sent taken)
    (h_told : ∀ p ∈ sent, told p.2 = true) :
    s' = T.run s (sent.map Prod.fst) ∧
      List.Forall₂ (fun p q => Agrees p.1 p.2 q.2) (T.trace s (sent.map Prod.fst)) sent := by
  obtain rfl := h.taken_eq h_told
  obtain ⟨h_length, h_agrees⟩ := List.forall₂_iff_zip.mp h.agrees
  refine ⟨h.run, List.forall₂_iff_zip.mpr ⟨h_length, fun h_mem => ?_⟩⟩
  exact h_agrees h_mem (h_told _ (List.of_mem_zip h_mem).2)

end AtMostOnce

end Transducer
