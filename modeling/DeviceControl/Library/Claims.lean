import DeviceControl.Library.Transducer

/-!
# First-come claims

Owners claim lists of keys, one list after the other. A claim is worked off in order and stops at
the first key that is reserved or held already, by somebody else or by an earlier place of the same
list. The keys before that one stay claimed, so a claim that fails still changes what is held.

* `granted barred ks` is the part of a claim that goes through, given the keys that are barred at
  its start. `granted_eq_self_iff` says when that is all of it.
* `claimSystem` is the registry: its state says who holds a key, its inputs are claims, and it
  answers whether a claim went through as a whole.
* `claims_succeed_iff` and `run_claims_eq_some_iff` are about whole sequences of claims: when none
  of them fails, and who holds what then.
-/

namespace Claims

open Classical

variable {K O : Type}

/-! ### A single claim -/

/-- The keys of a claim before the first one that is barred at its turn. A key that is granted is
barred from there on. -/
noncomputable def granted (barred : Set K) : List K → List K
  | [] => []
  | k :: ks => if k ∈ barred then [] else k :: granted (insert k barred) ks

theorem granted_cons_of_mem {barred : Set K} {k : K} (h : k ∈ barred) (ks : List K) :
    granted barred (k :: ks) = [] := by
  rw [granted, if_pos h]

theorem granted_cons_of_notMem {barred : Set K} {k : K} (h : k ∉ barred) (ks : List K) :
    granted barred (k :: ks) = k :: granted (insert k barred) ks := by
  rw [granted, if_neg h]

/-- A claim goes through exactly if none of its keys is barred and none is repeated. -/
theorem granted_eq_self_iff {barred : Set K} {ks : List K} :
    granted barred ks = ks ↔ ks.Nodup ∧ ∀ k ∈ ks, k ∉ barred := by
  induction ks generalizing barred with
  | nil => simp [granted]
  | cons k ks ih =>
    by_cases h : k ∈ barred
    · -- the head is barred, so nothing goes through
      rw [granted_cons_of_mem h]
      refine iff_of_false (List.cons_ne_nil k ks).symm ?_
      rintro ⟨-, h_not⟩
      exact h_not k List.mem_cons_self h
    · rw [granted_cons_of_notMem h, List.cons_inj_right, ih, List.nodup_cons, List.forall_mem_cons]
      constructor
      · rintro ⟨h_nodup, h_not⟩
        refine ⟨⟨fun h_mem => h_not k h_mem (Set.mem_insert k barred), h_nodup⟩, h, ?_⟩
        exact fun k' h_mem h_bar => h_not k' h_mem (Set.mem_insert_of_mem k h_bar)
      · rintro ⟨⟨h_head, h_nodup⟩, -, h_not⟩
        refine ⟨h_nodup, fun k' h_mem h_ins => ?_⟩
        rcases h_ins with rfl | h_bar
        · exact h_head h_mem
        · exact h_not k' h_mem h_bar

/-! ### The registry -/

/-- The keys that a claim cannot have: the reserved ones and those held. -/
def barred (reserved : Set K) (holder : K → Option O) : Set K :=
  {k | k ∈ reserved ∨ holder k ≠ none}

/-- Who holds a key once `o` has been granted the keys `ks`. -/
noncomputable def assign (holder : K → Option O) (o : O) (ks : List K) : K → Option O :=
  fun k => if k ∈ ks then some o else holder k

/-- The registry of claims, each of them an owner and the keys. -/
noncomputable def claimSystem (reserved : Set K) : Transducer (K → Option O) (O × List K) Prop where
  step holder c :=
    (assign holder c.1 (granted (barred reserved holder) c.2),
      granted (barred reserved holder) c.2 = c.2)

variable {reserved : Set K} {holder : K → Option O}

theorem notMem_barred {k : K} : k ∉ barred reserved holder ↔ k ∉ reserved ∧ holder k = none := by
  change ¬ (k ∈ reserved ∨ holder k ≠ none) ↔ _
  rw [not_or, Ne, not_not]

theorem assign_nil (o : O) : assign holder o [] = holder :=
  funext fun _ => if_neg List.not_mem_nil

theorem assign_eq_none_iff {o : O} {ks : List K} {k : K} :
    assign holder o ks k = none ↔ k ∉ ks ∧ holder k = none := by
  unfold assign
  split_ifs with h
  · simp [h]
  · simp [h]

/-- One more key is claimed before the rest is looked at. -/
theorem assign_cons (o : O) (k : K) (ks : List K) :
    assign holder o (k :: ks) = assign (assign holder o [k]) o ks := by
  ext k' : 1
  unfold assign
  by_cases h_ks : k' ∈ ks
  · rw [if_pos (List.mem_cons_of_mem k h_ks), if_pos h_ks]
  · rw [if_neg h_ks]
    exact if_congr (by simp [h_ks]) rfl rfl

theorem barred_assign (o : O) (k : K) :
    barred reserved (assign holder o [k]) = insert k (barred reserved holder) := by
  ext k'
  rw [← not_iff_not, notMem_barred, assign_eq_none_iff, List.mem_singleton, Set.mem_insert_iff,
    not_or, notMem_barred]
  exact and_left_comm

/-! ### Sequences of claims -/

/-- The keys of a sequence of claims. -/
def keys (calls : List (O × List K)) : List K := calls.flatMap Prod.snd

theorem keys_cons (c : O × List K) (calls : List (O × List K)) :
    keys (c :: calls) = c.2 ++ keys calls := List.flatMap_cons

/-- **No claim fails.** All claims of a sequence go through exactly if their keys are pairwise
different, none of them is reserved and none is held at the start. -/
theorem claims_succeed_iff {calls : List (O × List K)} :
    (∀ p ∈ (claimSystem reserved).trace holder calls, p.2) ↔
      (keys calls).Nodup ∧ ∀ k ∈ keys calls, k ∉ barred reserved holder := by
  induction calls generalizing holder with
  | nil => simp [keys]
  | cons c calls ih =>
    rw [Transducer.trace_cons, List.forall_mem_cons, ih, keys_cons, List.nodup_append',
      List.forall_mem_append]
    change granted (barred reserved holder) c.2 = c.2 ∧ _ ↔ _
    constructor
    · rintro ⟨h_head, h_nodup, h_not⟩
      obtain ⟨h_nodup', h_not'⟩ := granted_eq_self_iff.mp h_head
      change ∀ k ∈ keys calls, k ∉ barred reserved (assign holder c.1 (granted _ c.2)) at h_not
      rw [h_head] at h_not
      -- what the rest claims is neither held before nor claimed by the first one
      have h_free : ∀ k ∈ keys calls, k ∉ c.2 ∧ k ∉ barred reserved holder := by
        intro k hk
        obtain ⟨h_res, h_none⟩ := notMem_barred.mp (h_not k hk)
        obtain ⟨h_mem, h_none⟩ := assign_eq_none_iff.mp h_none
        exact ⟨h_mem, notMem_barred.mpr ⟨h_res, h_none⟩⟩
      exact ⟨⟨h_nodup', h_nodup, fun k hk hk' => (h_free k hk').1 hk⟩, h_not',
        fun k hk => (h_free k hk).2⟩
    · rintro ⟨⟨h_nodup, h_nodup', h_disj⟩, h_not, h_not'⟩
      have h_head : granted (barred reserved holder) c.2 = c.2 :=
        granted_eq_self_iff.mpr ⟨h_nodup, h_not⟩
      refine ⟨h_head, h_nodup', fun k hk => ?_⟩
      obtain ⟨h_res, h_none⟩ := notMem_barred.mp (h_not' k hk)
      change k ∉ barred reserved (assign holder c.1 (granted _ c.2))
      rw [h_head, notMem_barred]
      exact ⟨h_res, assign_eq_none_iff.mpr ⟨fun h_mem => h_disj h_mem hk, h_none⟩⟩

/-- **Who holds what.** Where no claim of a sequence fails, a key that was free at the start is held
by the owner whose claim lists it. -/
theorem run_claims_eq_some_iff {calls : List (O × List K)}
    (h : ∀ p ∈ (claimSystem reserved).trace holder calls, p.2) {k : K} {o : O} :
    (claimSystem reserved).run holder calls k = some o ↔
      holder k = some o ∨ ∃ c ∈ calls, c.1 = o ∧ k ∈ c.2 := by
  induction calls generalizing holder with
  | nil => simp
  | cons c calls ih =>
    rw [Transducer.trace_cons, List.forall_mem_cons] at h
    have h_head : granted (barred reserved holder) c.2 = c.2 := h.1
    have h_free := (granted_eq_self_iff.mp h_head).2
    have h_assign : ((claimSystem reserved).step holder c).1 = assign holder c.1 c.2 := by
      change assign holder c.1 (granted _ c.2) = _
      rw [h_head]
    rw [Transducer.run_cons, ih h.2, h_assign, List.exists_mem_cons_iff, ← or_assoc]
    refine or_congr_left ?_
    -- a key of the first claim is free at the start
    by_cases h_mem : k ∈ c.2
    · have h_none : holder k = none := (notMem_barred.mp (h_free k h_mem)).2
      rw [assign, if_pos h_mem, h_none]
      simp [h_mem]
    · rw [assign, if_neg h_mem]
      simp [h_mem]

end Claims
