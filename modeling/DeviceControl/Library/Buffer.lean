import Mathlib

/-!
# Fixed-size buffers

A buffer of `n` elements, as a C array of constant length. The operations are the ones low-level
code performs on such an array: store one element, copy a list to an index, look at the elements in
front, let a callee write over the elements in front, and start from a list.

A store outside the buffer leaves it as it is, and a load from outside has no value (`b[i]?` is
`none`): what an out-of-range access does to other memory is not the buffer's to say. A model that
cares reports the index of each access next to the result. For a function that fills a buffer of its
caller there is `Filling`, whose operations do both.
-/

/-- An array of constant length `n`. -/
abbrev Buffer (α : Type) (n : ℕ) := Vector α n

namespace Buffer

variable {α : Type} {n : ℕ}

/-- Store `x` at index `i`. -/
def store (b : Buffer α n) (i : ℕ) (x : α) : Buffer α n := b.setIfInBounds i x

/-- The first `len` elements, as many as there are. -/
def front (b : Buffer α n) (len : ℕ) : List α := b.toList.take len

/-- The buffer after a callee that was handed its first `len` elements has left `out` there. An
element that `out` does not reach keeps its value. -/
def overlay (b : Buffer α n) (len : ℕ) (out : List α) : Buffer α n :=
  Vector.ofFn fun i => if i.1 < len then out[i.1]?.getD b[i] else b[i]

/-- The buffer that starts with `l` and holds `z` from there on. -/
def ofList (z : α) (l : List α) : Buffer α n := Vector.ofFn fun i => l[i.1]?.getD z

/-- Copy a list into the buffer, from index `i` on. -/
def copy (b : Buffer α n) (i : ℕ) : List α → Buffer α n
  | [] => b
  | x :: l => (b.store i x).copy (i + 1) l

/-! ### The elements in front -/

@[simp] theorem front_zero (b : Buffer α n) : b.front 0 = [] := rfl

@[simp] theorem length_front (b : Buffer α n) (len : ℕ) : (b.front len).length = min len n := by
  simp [front]

theorem getElem?_front (b : Buffer α n) {i len : ℕ} (h : i < len) : (b.front len)[i]? = b[i]? := by
  rw [front, List.getElem?_take_of_lt h, Vector.getElem?_toList]

/-- The elements in front are as many as they are. -/
theorem front_length_front (b : Buffer α n) (len : ℕ) :
    b.front (b.front len).length = b.front len := by
  simp [front, List.take_eq_take_iff]

/-! ### Stores -/

theorem getElem?_store_self (b : Buffer α n) {i : ℕ} (x : α) (h : i < n) :
    (b.store i x)[i]? = some x :=
  Vector.getElem?_setIfInBounds_self_of_lt h

theorem getElem?_store_of_ne (b : Buffer α n) {i j : ℕ} (x : α) (h : i ≠ j) :
    (b.store i x)[j]? = b[j]? :=
  Vector.getElem?_setIfInBounds_ne h

/-- A store at or after position `len` does not show in the first `len` elements. -/
theorem front_store_of_le (b : Buffer α n) {i len : ℕ} (x : α) (h : len ≤ i) :
    (b.store i x).front len = b.front len := by
  rw [front, store, Vector.toList_setIfInBounds, List.take_set_of_le h, front]

/-- Storing right after the first `i` elements appends to them. -/
theorem front_store_succ (b : Buffer α n) {i : ℕ} (x : α) (h : i < n) :
    (b.store i x).front (i + 1) = b.front i ++ [x] := by
  have h_len : i < (b.store i x).toList.length := by simpa using h
  rw [front, ← List.take_concat_get' _ _ h_len]
  congr 1
  · exact front_store_of_le b x le_rfl
  · simp [store]

/-- Copying a list right behind the first `i` elements appends it to them. -/
theorem front_copy (b : Buffer α n) {i : ℕ} {l : List α} (h : i + l.length ≤ n) :
    (b.copy i l).front (i + l.length) = b.front i ++ l := by
  induction l generalizing b i with
  | nil => rw [List.append_nil]; rfl
  | cons x l ih =>
    rw [List.length_cons] at h ⊢
    -- the element stored first extends the front by one
    calc (b.copy i (x :: l)).front (i + (l.length + 1))
        = ((b.store i x).copy (i + 1) l).front (i + 1 + l.length) := by
          rw [copy, Nat.add_right_comm, Nat.add_assoc]
      _ = (b.store i x).front (i + 1) ++ l := ih (b.store i x) (by omega)
      _ = b.front i ++ [x] ++ l := by rw [front_store_succ b x (by omega)]
      _ = b.front i ++ x :: l := by rw [List.append_assoc, List.singleton_append]

/-- A list in two parts is copied one part after the other. -/
theorem copy_append (b : Buffer α n) (i : ℕ) (l l' : List α) :
    b.copy i (l ++ l') = (b.copy i l).copy (i + l.length) l' := by
  induction l generalizing b i with
  | nil => rfl
  | cons x l ih =>
    rw [List.cons_append, copy, ih, copy, List.length_cons, Nat.add_right_comm, Nat.add_assoc]

/-- A list copied to the beginning stands in front. -/
theorem front_copy_zero (b : Buffer α n) {l : List α} (h : l.length ≤ n) :
    (b.copy 0 l).front l.length = l := by
  have h_front := b.front_copy (i := 0) (l := l) (by rwa [Nat.zero_add])
  rwa [Nat.zero_add, front_zero, List.nil_append] at h_front

/-- The elements in front are a part of any longer front. -/
theorem take_front (b : Buffer α n) {k len : ℕ} (h : k ≤ len) :
    (b.front len).take k = b.front k := by
  rw [front, front, List.take_take, Nat.min_eq_left h]

/-- The elements in front, with one more. -/
theorem front_succ (b : Buffer α n) (len : ℕ) :
    b.front (len + 1) = b.front len ++ b[len]?.toList := by
  rw [front, front, List.take_add_one, Vector.getElem?_toList]

/-- A copy leaves the elements before it alone. -/
theorem front_copy_of_le (b : Buffer α n) {i len : ℕ} (l : List α) (h : len ≤ i) :
    (b.copy i l).front len = b.front len := by
  induction l generalizing b i with
  | nil => rfl
  | cons x l ih => rw [copy, ih (b.store i x) (Nat.le_succ_of_le h), front_store_of_le b x h]

/-! ### Overlays -/

theorem getElem?_overlay (b : Buffer α n) {i len : ℕ} (out : List α) (h : i < n) :
    (b.overlay len out)[i]? = some (if i < len then out[i]?.getD b[i] else b[i]) := by
  rw [overlay, Vector.getElem?_ofFn, dif_pos h]
  rfl

/-- A callee that fills all of its `len` elements has its list stand in front. -/
theorem front_overlay (b : Buffer α n) {len : ℕ} {out : List α} (h_out : out.length = len)
    (h_len : len ≤ n) : (b.overlay len out).front len = out := by
  refine List.ext_getElem? fun i => ?_
  by_cases h : i < len
  · rw [getElem?_front _ h, getElem?_overlay _ _ (by omega), if_pos h,
      List.getElem?_eq_getElem (by omega), Option.getD_some]
  · rw [List.getElem?_eq_none (by simp; omega), List.getElem?_eq_none (by omega)]

/-! ### Buffers started from a list -/

theorem getElem?_ofList (z : α) (l : List α) {i : ℕ} (h : i < n) :
    (ofList z l : Buffer α n)[i]? = some (l[i]?.getD z) := by
  rw [ofList, Vector.getElem?_ofFn, dif_pos h]

/-- Storing right after the list extends it. -/
theorem store_ofList (z : α) (l : List α) (x : α) :
    (ofList z l : Buffer α n).store l.length x = ofList z (l ++ [x]) := by
  refine Vector.ext fun i hi => ?_
  rw [store, Vector.getElem_setIfInBounds hi, ofList, ofList, Vector.getElem_ofFn,
    Vector.getElem_ofFn]
  -- the position stored at, and those before and after it
  by_cases h : l.length = i
  · subst h
    simp
  · rw [if_neg h]
    rcases Nat.lt_or_gt_of_ne h with h | h
    · rw [List.getElem?_eq_none (show l.length ≤ i by omega),
        List.getElem?_eq_none (show (l ++ [x]).length ≤ i by simp; omega)]
    · rw [List.getElem?_append_left h]

/-- A list that fits stands in front of the buffer started from it. -/
theorem front_ofList (z : α) {l : List α} (h : l.length ≤ n) :
    (ofList z l : Buffer α n).front l.length = l := by
  refine List.ext_getElem? fun i => ?_
  by_cases hi : i < l.length
  · rw [getElem?_front _ hi, getElem?_ofList _ _ (by omega), List.getElem?_eq_getElem hi,
      Option.getD_some]
  · rw [List.getElem?_eq_none (by simp; omega), List.getElem?_eq_none (by omega)]

end Buffer

/-! ### Buffers that are filled -/

/-- A buffer that a function fills for its caller, with the indices at which the function has stored
so far. An index outside of the buffer is among them as any other. -/
structure Filling (α : Type) (n : ℕ) where
  buffer : Buffer α n
  stores : List ℕ

namespace Filling

variable {α : Type} {n : ℕ}

/-- The buffer as the caller hands it over. -/
def start (b : Buffer α n) : Filling α n := ⟨b, []⟩

/-- Store `x` at index `i`. -/
def store (f : Filling α n) (i : ℕ) (x : α) : Filling α n :=
  ⟨f.buffer.store i x, f.stores ++ [i]⟩

/-- Copy a list into the buffer, from index `i` on. -/
def copy (f : Filling α n) (i : ℕ) : List α → Filling α n
  | [] => f
  | x :: l => (f.store i x).copy (i + 1) l

@[simp] theorem buffer_start (b : Buffer α n) : (start b).buffer = b := rfl

@[simp] theorem stores_start (b : Buffer α n) : (start b).stores = [] := rfl

@[simp] theorem buffer_store (f : Filling α n) (i : ℕ) (x : α) :
    (f.store i x).buffer = f.buffer.store i x := rfl

@[simp] theorem stores_store (f : Filling α n) (i : ℕ) (x : α) :
    (f.store i x).stores = f.stores ++ [i] := rfl

@[simp] theorem buffer_copy (f : Filling α n) (i : ℕ) (l : List α) :
    (f.copy i l).buffer = f.buffer.copy i l := by
  induction l generalizing f i with
  | nil => rfl
  | cons x l ih => rw [copy, ih, Buffer.copy, buffer_store]

@[simp] theorem stores_copy (f : Filling α n) (i : ℕ) (l : List α) :
    (f.copy i l).stores = f.stores ++ List.range' i l.length := by
  induction l generalizing f i with
  | nil => exact (List.append_nil _).symm
  | cons x l ih =>
    rw [copy, ih, stores_store, List.append_assoc, List.length_cons, List.range'_succ]
    rfl

/-- The stores of a copy are inside of the first `m` elements exactly if those before it are and the
list ends there. -/
theorem forall_mem_stores_copy_iff (f : Filling α n) (i m : ℕ) {l : List α} (h : l ≠ []) :
    (∀ j ∈ (f.copy i l).stores, j < m) ↔ (∀ j ∈ f.stores, j < m) ∧ i + l.length ≤ m := by
  have h_pos : 0 < l.length := List.length_pos_iff.mpr h
  rw [stores_copy, List.forall_mem_append]
  refine and_congr_right fun _ => ⟨fun h_all => ?_, fun h_le j h_mem => ?_⟩
  · -- the last store is the one that counts
    have h_last := h_all (i + (l.length - 1)) (List.mem_range'_1.mpr (by omega))
    omega
  · have h_range := List.mem_range'_1.mp h_mem
    omega

end Filling
