import DeviceControl.Library.Transducer

/-!
# Clients that give up

A client that takes an output of some kind for a failure makes no further input behind the first of
them. `upTo` is the part of its inputs that it comes to make, the one that has failed among them.
-/

namespace Transducer

variable {State Input Output : Type} (T : Transducer State Input Output) (failure : Output → Prop)
  [DecidablePred failure]

/-- The inputs up to the first one whose output is a failure. -/
def upTo (s : State) : List Input → List Input
  | [] => []
  | i :: is => if failure (T.step s i).2 then [i] else i :: upTo (T.step s i).1 is

variable {T failure} {s : State} {i : Input} {is js : List Input}

theorem upTo_cons_of_failure (h : failure (T.step s i).2) : T.upTo failure s (i :: is) = [i] :=
  if_pos h

/-- Inputs that do not fail are all made, and the rest is tried. -/
theorem upTo_append (h : ∀ p ∈ T.trace s is, ¬ failure p.2) :
    T.upTo failure s (is ++ js) = is ++ T.upTo failure (T.run s is) js := by
  induction is generalizing s with
  | nil => rfl
  | cons i is ih =>
    obtain ⟨h_head, h_tail⟩ := List.forall_mem_cons.mp h
    rw [List.cons_append, upTo, if_neg h_head, ih h_tail, run_cons, List.cons_append]

/-- Without a failure the client makes all of its inputs. -/
theorem upTo_eq_self (h : ∀ p ∈ T.trace s is, ¬ failure p.2) : T.upTo failure s is = is := by
  have h_append : T.upTo failure s (is ++ []) = _ := upTo_append h
  rwa [List.append_nil, upTo, List.append_nil] at h_append

/-- What the client makes is a beginning of its inputs. -/
theorem upTo_prefix (s : State) (is : List Input) : T.upTo failure s is <+: is := by
  induction is generalizing s with
  | nil => exact List.prefix_refl []
  | cons i is ih =>
    rw [upTo]
    split
    · exact List.cons_prefix_cons.mpr ⟨rfl, List.nil_prefix⟩
    · exact List.cons_prefix_cons.mpr ⟨rfl, ih _⟩

/-- The last input may fail, it is made all the same. -/
theorem upTo_concat (h : ∀ p ∈ T.trace s is, ¬ failure p.2) :
    T.upTo failure s (is ++ [i]) = is ++ [i] := by
  rw [upTo_append h, upTo, upTo, ite_self]

end Transducer
