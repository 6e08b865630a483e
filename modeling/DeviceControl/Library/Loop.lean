import Mathlib

/-!
# While loops

A loop with a variant: a guard, a body on the values of the variables, and a number that every
round under the guard makes smaller. The variant is part of the loop, so its run is total and is
evaluated by structural recursion.

* `run_of_guard` and `run_of_not_guard` unfold one round.
* `EndsAfter` is what it means that the loop ends, without the variant; `exists_endsAfter` says that
  it does, and that `run` is where.
* `EndsAfter.invariant` is the rule for a loop: what the body keeps, holds at its end.
-/

/-- A while loop over variables of type `State`. -/
structure WhileLoop (State : Type) where
  guard : State → Bool
  body : State → State
  variant : State → ℕ
  /-- Every round makes the variant smaller. -/
  decreases : ∀ s, guard s = true → variant (body s) < variant s

namespace WhileLoop

variable {State : Type} (L : WhileLoop State)

/-- At most `n` rounds. -/
def rounds : ℕ → State → State
  | 0, s => s
  | n + 1, s => if L.guard s then rounds n (L.body s) else s

/-- The values of the variables after the loop. -/
def run (s : State) : State := L.rounds (L.variant s) s

theorem rounds_of_not_guard {s : State} (h : L.guard s = false) (n : ℕ) : L.rounds n s = s := by
  cases n with
  | zero => rfl
  | succ n => rw [rounds, h, if_neg Bool.false_ne_true]

theorem rounds_succ_of_guard {s : State} (h : L.guard s = true) (n : ℕ) :
    L.rounds (n + 1) s = L.rounds n (L.body s) := by
  rw [rounds, if_pos h]

/-- Any two numbers of rounds that the variant allows are as good as each other. -/
theorem rounds_eq_rounds {n m : ℕ} {s : State} (hn : L.variant s ≤ n) (hm : L.variant s ≤ m) :
    L.rounds n s = L.rounds m s := by
  induction n generalizing m s with
  | zero =>
    -- a variant of zero leaves no round to do
    cases h_guard : L.guard s with
    | false => rw [L.rounds_of_not_guard h_guard, L.rounds_of_not_guard h_guard]
    | true => exact absurd (L.decreases s h_guard) (by omega)
  | succ n ih =>
    cases h_guard : L.guard s with
    | false => rw [L.rounds_of_not_guard h_guard, L.rounds_of_not_guard h_guard]
    | true =>
      have h_lt := L.decreases s h_guard
      obtain ⟨m, rfl⟩ := Nat.exists_eq_succ_of_ne_zero (show m ≠ 0 by omega)
      rw [L.rounds_succ_of_guard h_guard, L.rounds_succ_of_guard h_guard]
      exact ih (by omega) (by omega)

theorem run_of_not_guard {s : State} (h : L.guard s = false) : L.run s = s :=
  L.rounds_of_not_guard h _

/-- One round of the loop. -/
theorem run_of_guard {s : State} (h : L.guard s = true) : L.run s = L.run (L.body s) := by
  have h_lt := L.decreases s h
  obtain ⟨n, h_n⟩ := Nat.exists_eq_succ_of_ne_zero (Nat.ne_zero_of_lt h_lt)
  rw [run, run, h_n, L.rounds_succ_of_guard h]
  exact L.rounds_eq_rounds (by omega) (Nat.le_refl _)

/-! ### How a loop ends -/

/-- From `s` the guard holds in front of `n` rounds, and behind them, in `s'`, no longer. -/
structure EndsAfter (s : State) (n : ℕ) (s' : State) : Prop where
  rounds : L.body^[n] s = s'
  guards : ∀ m < n, L.guard (L.body^[m] s) = true
  ends : L.guard s' = false

variable {L} {s s' : State} {n : ℕ}

theorem EndsAfter.zero (h : L.guard s = false) : L.EndsAfter s 0 s :=
  ⟨rfl, fun _ h_lt => absurd h_lt (Nat.not_lt_zero _), h⟩

/-- One round more in front. -/
theorem EndsAfter.succ (h : L.EndsAfter (L.body s) n s') (h_guard : L.guard s = true) :
    L.EndsAfter s (n + 1) s' where
  rounds := by rw [Function.iterate_succ_apply, h.rounds]
  guards m h_lt := by
    cases m with
    | zero => exact h_guard
    | succ m =>
      rw [Function.iterate_succ_apply]
      exact h.guards m (Nat.lt_of_succ_lt_succ h_lt)
  ends := h.ends

/-- What every round under the guard keeps, with the rounds counted, holds at the end. -/
theorem EndsAfter.invariant {P : ℕ → State → Prop} (h : L.EndsAfter s n s')
    (h_body : ∀ m s, P m s → L.guard s = true → P (m + 1) (L.body s)) (h_init : P 0 s) :
    P n s' := by
  have h_rounds : ∀ m ≤ n, P m (L.body^[m] s) := by
    intro m
    induction m with
    | zero => exact fun _ => h_init
    | succ m ih =>
      intro h_le
      rw [Function.iterate_succ_apply']
      exact h_body m _ (ih (Nat.le_of_succ_le h_le)) (h.guards m h_le)
  rw [← h.rounds]
  exact h_rounds n (Nat.le_refl n)

variable (L)

/-- **Termination.** A loop ends, and its run is the state it ends in. -/
theorem exists_endsAfter (s : State) : ∃ n, L.EndsAfter s n (L.run s) := by
  generalize h_v : L.variant s = v
  induction v using Nat.strongRecOn generalizing s with
  | ind v ih =>
    cases h_guard : L.guard s with
    | false =>
      rw [L.run_of_not_guard h_guard]
      exact ⟨0, .zero h_guard⟩
    | true =>
      rw [L.run_of_guard h_guard]
      obtain ⟨n, h_n⟩ := ih _ (h_v ▸ L.decreases s h_guard) _ rfl
      exact ⟨n + 1, h_n.succ h_guard⟩

end WhileLoop
