import DeviceControl.Library.Claims

/-!
# The order of claims

What a sequence of claims leaves, whichever of them fail. A claim stops at its first place that
offends: a key that is reserved, got by an earlier claim, or standing at an earlier place of the
same list. A failed claim keeps what stands before that place, so which places of a claim offend
depends on all claims before it, the failed ones included.

* `mem_granted_iff` and its companions read `granted` off the places of a single claim.
* `Takes` says which claim of a sequence takes a key. It is stated without the registry, by the
  places and the claims before. `takes_unique` says that a key is taken once.
* `guardedClaimSystem` is the registry that turns some owners away. `holdsTaken_run` is the
  result: after any sequence of claims a key is held by the owner of the claim that takes it.
-/

namespace Claims

open Classical

variable {K O : Type}

/-! ### Where a claim stops -/

/-- The key at place `i` cannot be had: it is barred from the start, or it stands at an earlier
place too. -/
def Offends (barred : Set K) (ks : List K) (i : ℕ) : Prop :=
  ∃ k, ks[i]? = some k ∧ (k ∈ barred ∨ k ∈ ks.take i)

/-- The key stands in front of the first place that offends. -/
def StandsClear (barred : Set K) (ks : List K) (k : K) : Prop :=
  ∃ i, ks[i]? = some k ∧ ∀ j ≤ i, ¬ Offends barred ks j

section Places

variable {barred : Set K} {k : K} {ks : List K} {i : ℕ}

theorem offends_cons_zero : Offends barred (k :: ks) 0 ↔ k ∈ barred := by
  simp [Offends]

/-- Behind the first place, its key is barred as well. -/
theorem offends_cons_succ :
    Offends barred (k :: ks) (i + 1) ↔ Offends (insert k barred) ks i := by
  simp only [Offends, List.getElem?_cons_succ, List.take_succ_cons, List.mem_cons,
    Set.mem_insert_iff]
  refine exists_congr fun k' => and_congr_right fun _ => ?_
  tauto

theorem StandsClear.notMem (h : StandsClear barred ks k) : k ∉ barred := by
  obtain ⟨i, h_get, h_clear⟩ := h
  exact fun h_bar => h_clear i le_rfl ⟨k, h_get, Or.inl h_bar⟩

/-- A claim is granted the keys in front of the first place that offends. -/
theorem mem_granted_iff {k' : K} : k' ∈ granted barred ks ↔ StandsClear barred ks k' := by
  induction ks generalizing barred with
  | nil => simp [granted, StandsClear]
  | cons k ks ih =>
    by_cases h : k ∈ barred
    · -- the first place offends, and it is in front of every place
      rw [granted_cons_of_mem h]
      refine iff_of_false List.not_mem_nil ?_
      rintro ⟨i, -, h_clear⟩
      exact h_clear 0 (Nat.zero_le i) (offends_cons_zero.mpr h)
    · rw [granted_cons_of_notMem h, List.mem_cons, ih]
      constructor
      · rintro (rfl | ⟨i, h_get, h_clear⟩)
        · refine ⟨0, rfl, fun j h_le => ?_⟩
          rw [Nat.le_zero.mp h_le, offends_cons_zero]
          exact h
        · refine ⟨i + 1, h_get, fun j h_le => ?_⟩
          cases j with
          | zero => exact offends_cons_zero.not.mpr h
          | succ j => exact offends_cons_succ.not.mpr (h_clear j (Nat.le_of_succ_le_succ h_le))
      · rintro ⟨i, h_get, h_clear⟩
        cases i with
        | zero => exact Or.inl (Option.some.inj h_get).symm
        | succ i =>
          refine Or.inr ⟨i, h_get, fun j h_le => ?_⟩
          exact offends_cons_succ.not.mp (h_clear (j + 1) (Nat.succ_le_succ h_le))

/-- Up to its first place that offends, a claim is granted. -/
theorem granted_eq_take (h : Offends barred ks i) (h_first : ∀ j < i, ¬ Offends barred ks j) :
    granted barred ks = ks.take i := by
  induction ks generalizing barred i with
  | nil =>
    obtain ⟨k, h_get, -⟩ := h
    cases h_get
  | cons k ks ih =>
    cases i with
    | zero => exact granted_cons_of_mem (offends_cons_zero.mp h) ks
    | succ i =>
      have h_k : k ∉ barred := offends_cons_zero.not.mp (h_first 0 (Nat.succ_pos i))
      rw [granted_cons_of_notMem h_k, List.take_succ_cons, ih (offends_cons_succ.mp h)]
      exact fun j h_lt => offends_cons_succ.not.mp (h_first (j + 1) (Nat.succ_lt_succ h_lt))

/-- A claim goes through exactly if no place offends. -/
theorem granted_eq_self_iff_offends : granted barred ks = ks ↔ ∀ i, ¬ Offends barred ks i := by
  induction ks generalizing barred with
  | nil => simp [granted, Offends]
  | cons k ks ih =>
    by_cases h : k ∈ barred
    · rw [granted_cons_of_mem h]
      exact iff_of_false (List.cons_ne_nil k ks).symm fun h_none =>
        h_none 0 (offends_cons_zero.mpr h)
    · rw [granted_cons_of_notMem h, List.cons_inj_right, ih]
      constructor
      · intro h_none i
        cases i with
        | zero => exact offends_cons_zero.not.mpr h
        | succ i => exact offends_cons_succ.not.mpr (h_none i)
      · exact fun h_none i => offends_cons_succ.not.mp (h_none (i + 1))

end Places

/-! ### Which claim takes a key -/

section Order

variable (refused : Set O) (reserved : Set K) (calls : List (O × List K))

/-- Claim `n` of a sequence takes the key: its owner is not refused, and the key stands in front of
the first place that offends after the claims before it. -/
def Takes (n : ℕ) (k : K) : Prop :=
  ∃ c, calls[n]? = some c ∧ c.1 ∉ refused ∧
    StandsClear (reserved ∪ {k' | ∃ m, ∃ _ : m < n, Takes m k'}) c.2 k
termination_by n

/-- What a sequence of claims takes. -/
def taken : Set K := {k | ∃ n, Takes refused reserved calls n k}

variable {refused reserved calls} {n m : ℕ} {k : K}

theorem Takes.lt_length (h : Takes refused reserved calls n k) : n < calls.length := by
  rw [Takes] at h
  obtain ⟨c, h_get, -⟩ := h
  exact (List.getElem?_eq_some_iff.mp h_get).1

/-- A claim is not affected by those behind it. -/
theorem takes_append_iff (h : n < calls.length) (later : List (O × List K)) :
    Takes refused reserved (calls ++ later) n k ↔ Takes refused reserved calls n k := by
  induction n using Nat.strongRecOn generalizing k with
  | ind n ih =>
    -- the claims before it are the same, by induction
    have h_before : {k' | ∃ m, ∃ _ : m < n, Takes refused reserved (calls ++ later) m k'}
        = {k' | ∃ m, ∃ _ : m < n, Takes refused reserved calls m k'} := by
      ext k'
      exact exists_congr fun m => exists_congr fun h_lt => ih m h_lt (h_lt.trans h)
    rw [Takes, Takes, h_before, List.getElem?_append_left h]

/-- A claim more takes what the ones before leave to it. -/
theorem takes_concat_iff {c : O × List K} :
    Takes refused reserved (calls ++ [c]) n k ↔ Takes refused reserved calls n k ∨
      n = calls.length ∧ c.1 ∉ refused ∧
        StandsClear (reserved ∪ taken refused reserved calls) c.2 k := by
  -- the last claim sees all that the ones before have taken
  have h_last : Takes refused reserved (calls ++ [c]) calls.length k ↔
      c.1 ∉ refused ∧ StandsClear (reserved ∪ taken refused reserved calls) c.2 k := by
    have h_before : {k' | ∃ m, ∃ _ : m < calls.length, Takes refused reserved (calls ++ [c]) m k'}
        = taken refused reserved calls := by
      ext k'
      refine exists_congr fun m => ⟨?_, fun h => ?_⟩
      · rintro ⟨h_lt, h⟩
        exact (takes_append_iff h_lt [c]).mp h
      · exact ⟨h.lt_length, (takes_append_iff h.lt_length [c]).mpr h⟩
    rw [Takes, h_before, List.getElem?_concat_length]
    simp
  constructor
  · intro h
    have h_lt := h.lt_length
    rw [List.length_append, List.length_singleton, Nat.lt_succ_iff_lt_or_eq] at h_lt
    rcases h_lt with h_lt | rfl
    · exact Or.inl ((takes_append_iff h_lt [c]).mp h)
    · exact Or.inr ⟨rfl, h_last.mp h⟩
  · rintro (h | ⟨rfl, h⟩)
    · exact (takes_append_iff h.lt_length [c]).mpr h
    · exact h_last.mpr h

/-- **A key is taken once.** -/
theorem takes_unique (h : Takes refused reserved calls n k)
    (h' : Takes refused reserved calls m k) : n = m := by
  wlog h_lt : n < m generalizing n m
  · rcases Nat.lt_or_eq_of_le (not_lt.mp h_lt) with h_lt | h_eq
    · exact (this h' h h_lt).symm
    · exact h_eq.symm
  -- the earlier claim bars the key for the later one
  rw [Takes] at h'
  obtain ⟨c, -, -, h_clear⟩ := h'
  exact absurd (Or.inr ⟨n, h_lt, h⟩) h_clear.notMem

end Order

/-! ### A registry that turns owners away -/

/-- The registry of claims that turns some owners away. Their claims fail, and change nothing. -/
noncomputable def guardedClaimSystem (refused : Set O) (reserved : Set K) :
    Transducer (K → Option O) (O × List K) Prop where
  step holder c := if c.1 ∈ refused then (holder, False) else (claimSystem reserved).step holder c

section Registry

variable {refused : Set O} {reserved : Set K} {holder : K → Option O}

theorem guardedStep_of_mem {c : O × List K} (h : c.1 ∈ refused) :
    (guardedClaimSystem refused reserved).step holder c = (holder, False) := if_pos h

theorem guardedStep_of_notMem {c : O × List K} (h : c.1 ∉ refused) :
    (guardedClaimSystem refused reserved).step holder c = (claimSystem reserved).step holder c :=
  if_neg h

/-- When a claim goes through. -/
theorem guardedStep_succeeds_iff {c : O × List K} :
    ((guardedClaimSystem refused reserved).step holder c).2 ↔
      c.1 ∉ refused ∧ ∀ i, ¬ Offends (barred reserved holder) c.2 i := by
  by_cases h : c.1 ∈ refused
  · rw [guardedStep_of_mem h]
    exact iff_of_false not_false fun h_and => h_and.1 h
  · rw [guardedStep_of_notMem h, and_iff_right h]
    exact granted_eq_self_iff_offends

/-- What a claim changes: the keys that it takes. -/
theorem guardedStep_eq_some_iff {c : O × List K} {k : K} {o : O} :
    ((guardedClaimSystem refused reserved).step holder c).1 k = some o ↔
      holder k = some o ∨
        c.1 = o ∧ c.1 ∉ refused ∧ StandsClear (barred reserved holder) c.2 k := by
  by_cases h : c.1 ∈ refused
  · rw [guardedStep_of_mem h, or_iff_left fun h_and => h_and.2.1 h]
  · rw [guardedStep_of_notMem h, and_iff_right h, ← mem_granted_iff]
    change assign holder c.1 (granted (barred reserved holder) c.2) k = some o ↔ _
    unfold assign
    split_ifs with h_k
    · -- a key that is granted has been free
      have h_none := (notMem_barred.mp (mem_granted_iff.mp h_k).notMem).2
      rw [Option.some.injEq, h_none, and_iff_left h_k]
      simp
    · simp [h_k]

/-- A key once held is held by the same owner from then on. -/
theorem run_keeps {k : K} {o : O} (h : holder k = some o) (calls : List (O × List K)) :
    (guardedClaimSystem refused reserved).run holder calls k = some o := by
  refine (guardedClaimSystem refused reserved).run_invariant (P := fun holder => holder k = some o)
    ?_ h calls
  exact fun holder c h => guardedStep_eq_some_iff.mpr (Or.inl h)

/-- The owner of the claim that takes a key is its holder. -/
def HoldsTaken (refused : Set O) (reserved : Set K) (calls : List (O × List K))
    (holder : K → Option O) : Prop :=
  ∀ k o, holder k = some o ↔
    ∃ n c, calls[n]? = some c ∧ c.1 = o ∧ Takes refused reserved calls n k

/-- Barred is then what is reserved and what has been taken. -/
theorem HoldsTaken.barred_eq {calls : List (O × List K)}
    (h : HoldsTaken refused reserved calls holder) :
    barred reserved holder = reserved ∪ taken refused reserved calls := by
  ext k
  change k ∈ reserved ∨ holder k ≠ none ↔ k ∈ reserved ∨ ∃ n, Takes refused reserved calls n k
  rw [Option.ne_none_iff_exists']
  refine or_congr_right ?_
  constructor
  · rintro ⟨o, h_o⟩
    obtain ⟨n, c, -, -, h_takes⟩ := (h k o).mp h_o
    exact ⟨n, h_takes⟩
  · rintro ⟨n, h_takes⟩
    exact ⟨_, (h k _).mpr ⟨n, _, List.getElem?_eq_getElem h_takes.lt_length, rfl, h_takes⟩⟩

/-- One more claim keeps it. -/
theorem HoldsTaken.step {calls : List (O × List K)} (h : HoldsTaken refused reserved calls holder)
    (c : O × List K) : HoldsTaken refused reserved (calls ++ [c])
      ((guardedClaimSystem refused reserved).step holder c).1 := by
  intro k o
  rw [guardedStep_eq_some_iff, h.barred_eq, h]
  constructor
  · -- a key is held from before, or the claim takes it
    rintro (⟨n, c', h_get, h_o, h_takes⟩ | ⟨h_o, h_k⟩)
    · refine ⟨n, c', ?_, h_o, takes_concat_iff.mpr (Or.inl h_takes)⟩
      rwa [List.getElem?_append_left h_takes.lt_length]
    · exact ⟨calls.length, c, List.getElem?_concat_length, h_o,
        takes_concat_iff.mpr (Or.inr ⟨rfl, h_k⟩)⟩
  · rintro ⟨n, c', h_get, h_o, h_takes⟩
    rcases takes_concat_iff.mp h_takes with h_takes | ⟨rfl, h_k⟩
    · rw [List.getElem?_append_left h_takes.lt_length] at h_get
      exact Or.inl ⟨n, c', h_get, h_o, h_takes⟩
    · rw [List.getElem?_concat_length, Option.some.injEq] at h_get
      exact Or.inr ⟨h_get ▸ h_o, h_k⟩

/-- **Who holds what.** After any sequence of claims, a key is held by the owner of the claim that
takes it. -/
theorem holdsTaken_run (calls : List (O × List K)) :
    HoldsTaken refused reserved calls
      ((guardedClaimSystem refused reserved).run (fun _ => none) calls) := by
  induction calls using List.reverseRecOn with
  | nil =>
    refine fun k o => iff_of_false (Option.some_ne_none o).symm ?_
    rintro ⟨n, c, h_get, -⟩
    cases h_get
  | append_singleton calls c ih =>
    rw [Transducer.run_concat]
    exact ih.step c

end Registry

end Claims
