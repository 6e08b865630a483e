import DeviceControl.I2c.Frame

/-!
# Safety of the I2C payload array

No index into the array is checked by the code: the machine stops at a declared length by comparing
two counters for equality. That is enough as long as the counter starts at or below the declared
length, which it does for every length but 0. After a header that declares length 0, the first
payload byte sets the counter to 1, past the length, and the machine goes on to index 253 and
beyond (`access_of_zeroLength`).

`payloadSafe_iff` is the exact condition: a run stays inside the array, with its counters in order
at every callback, exactly if no callback of it counts from a length of 0 (`CountsFromZero`).
-/

namespace DeviceControl

variable {σ : Type} (tasks : UserTasks σ)

/-! ### The property and the condition -/

/-- While bytes are counted, the counter has not passed the declared length, which fits. -/
def I2c.CountersOk (i : I2c) : Prop :=
  i.state = .writeData ∨ i.state = .readData →
    i.payloadLenTransmitted ≤ i.payloadLenFromHeader ∧ i.payloadLenFromHeader ≤ i2cDataMaxBytes

instance (i : I2c) : Decidable i.CountersOk := inferInstanceAs (Decidable (_ → _))

/-- Every access to the payload array is inside it, and the counters are in order in every state
of the run. -/
structure PayloadSafe (d : Device σ) (cbs : List I2cCallback) : Prop where
  accesses : ∀ p ∈ (i2cSystem tasks).trace d cbs, ∀ i ∈ p.2.accesses, i < i2cDataMaxBytes
  counters : ∀ pre, pre <+: cbs → ((i2cSystem tasks).run d pre).i2c.CountersOk

/-- The first byte of a payload that was declared to be empty: written with a write command code,
or read. -/
def CountsFromZero (i : I2c) (cb : I2cCallback) : Prop :=
  i.payloadLenFromHeader = 0 ∧
    (i.state = .writeSize ∧ isControlCmdRead i.cmd = false ∧ (∃ b, cb = .writeData b) ∨
      i.state = .readStart ∧ cb = .readData)

/-! ### Without counting from zero -/

variable {tasks}

/-- The states in which the struct holds a declared length that matters. -/
def I2cState.Sized : I2cState → Prop
  | .writeSize => True
  | .writeData => True
  | .readStart => True
  | .readData => True
  | _ => False

/-- The invariant of the runs that do not count from zero. -/
structure I2c.Bounded (i : I2c) : Prop where
  header : i.state.Sized → i.payloadLenFromHeader ≤ i2cDataMaxBytes
  counter : i.state = .writeData ∨ i.state = .readData →
    i.payloadLenTransmitted ≤ i.payloadLenFromHeader

theorem I2c.Bounded.countersOk {i : I2c} (h : i.Bounded) : i.CountersOk := by
  intro h_state
  refine ⟨h.counter h_state, h.header ?_⟩
  rcases h_state with hs | hs
  · rw [hs]; trivial
  · rw [hs]; trivial

/-- The counter is below a length that it does not equal. -/
theorem I2c.Bounded.lt {i : I2c} (h : i.Bounded)
    (h_state : i.state = .writeData ∨ i.state = .readData)
    (h_ne : i.payloadLenTransmitted ≠ i.payloadLenFromHeader) :
    i.payloadLenTransmitted < i.payloadLenFromHeader ∧
      i.payloadLenFromHeader ≤ i2cDataMaxBytes ∧
      incr i.payloadLenTransmitted = i.payloadLenTransmitted + 1 := by
  obtain ⟨h_le, h_max⟩ := h.countersOk h_state
  have h_lt := Nat.lt_of_le_of_ne h_le h_ne
  exact ⟨h_lt, h_max, incr_of_lt (succ_lt_wrap h_lt h_max)⟩

/-- **Invariant preservation.** Every callback that does not count from zero keeps the bounds. -/
theorem I2c.Bounded.step {d d' : Device σ} {cb : I2cCallback} {r : Reply} (h : d.i2c.Bounded)
    (h_step : I2cStep tasks d cb d' r) (h_guard : ¬ CountsFromZero d.i2c cb) : d'.i2c.Bounded := by
  cases h_step with
  -- the new state does not count, or the header is new
  | start => exact ⟨fun h_in => False.elim h_in, by simp⟩
  | reject => exact ⟨fun h_in => False.elim h_in, by simp⟩
  | resid => exact ⟨fun h_in => False.elim h_in, by simp⟩
  | cmd => exact ⟨fun h_in => False.elim h_in, by simp⟩
  | lengthZero d₁ hs h₁ =>
    rw [i2cWriteCommand, writeCommand_i2c, h₁]
    exact ⟨fun _ => Nat.zero_le _, by simp⟩
  | length n hs hn h0 => exact ⟨fun _ => hn, by simp⟩
  | onlyByte b d₁ hs hc h1 h₁ =>
    rw [i2cWriteCommand, writeCommand_i2c, h₁]
    exact ⟨fun _ => h.header (by rw [hs]; trivial), fun _ => h1.ge⟩
  | firstByte b hs hc h1 =>
    -- the counter is set to 1 whatever the header says, so this is where the guard is needed
    have h_pos : d.i2c.payloadLenFromHeader ≠ 0 :=
      fun h_zero => h_guard ⟨h_zero, Or.inl ⟨hs, hc, b, rfl⟩⟩
    exact ⟨fun _ => h.header (by rw [hs]; trivial), fun _ => Nat.one_le_iff_ne_zero.mpr h_pos⟩
  | overflow => exact ⟨fun h_in => False.elim h_in, by simp⟩
  | lastByte b d₁ hs hne he h₁ =>
    -- the counter has met the header
    rw [i2cWriteCommand, writeCommand_i2c, h₁]
    exact ⟨h.header, fun _ => he.le⟩
  | nextByte b hs hne hne' =>
    -- below the header, one more is at most the header
    obtain ⟨h_lt, -, h_incr⟩ := h.lt (Or.inl hs) hne
    refine ⟨h.header, fun _ => ?_⟩
    dsimp only
    rw [h_incr]
    exact h_lt
  | discard => exact h
  | readOk hs hc ho => exact ⟨fun _ => h.header (by rw [hs]; trivial), by simp⟩
  | readRefused hs hc ho => exact ⟨h.header, h.counter⟩
  | readFirst hs =>
    -- the same guard on the read side
    have h_pos : d.i2c.payloadLenFromHeader ≠ 0 :=
      fun h_zero => h_guard ⟨h_zero, Or.inr ⟨hs, rfl⟩⟩
    exact ⟨fun _ => h.header (by rw [hs]; trivial), fun _ => Nat.one_le_iff_ne_zero.mpr h_pos⟩
  | readOver => exact ⟨fun h_in => False.elim h_in, by simp⟩
  | readNext hs hne =>
    obtain ⟨h_lt, -, h_incr⟩ := h.lt (Or.inr hs) hne
    refine ⟨h.header, fun _ => ?_⟩
    dsimp only
    rw [h_incr]
    exact h_lt
  | stop => exact ⟨fun h_in => False.elim h_in, by simp⟩

/-- A callback from a bounded state touches the array inside its bounds. -/
theorem I2c.Bounded.accesses {d d' : Device σ} {cb : I2cCallback} {r : Reply} (h : d.i2c.Bounded)
    (h_step : I2cStep tasks d cb d' r) : ∀ i ∈ r.accesses, i < i2cDataMaxBytes := by
  have h_zero : 0 < i2cDataMaxBytes := by decide
  -- a read hands over as much as the header declares
  have h_read (hs : d.i2c.state = .writeSize) :
      ∀ i ∈ (i2cReadCommand tasks d).reply.accesses, i < i2cDataMaxBytes := by
    intro i hi
    rcases mem_accesses_readCommand tasks hi with h_lt | rfl
    · exact h_lt.trans_le (h.header (by rw [hs]; trivial))
    · exact h_zero
  cases h_step with
  | lengthZero d₁ hs h₁ =>
    intro i hi
    have h_lt := mem_accesses_writeCommand tasks hi
    rw [h₁] at h_lt
    exact absurd h_lt (Nat.not_lt_zero i)
  | onlyByte b d₁ hs hc h1 h₁ =>
    refine List.forall_mem_cons.mpr ⟨h_zero, fun i hi => ?_⟩
    have h_lt := mem_accesses_writeCommand tasks hi
    rw [h₁] at h_lt
    exact h_lt.trans_le (show 1 ≤ i2cDataMaxBytes by decide)
  | firstByte => exact List.forall_mem_singleton.mpr h_zero
  | lastByte b d₁ hs hne he h₁ =>
    -- the byte stored, and the whole payload handed over
    obtain ⟨h_lt, h_max, -⟩ := h.lt (Or.inl hs) hne
    refine List.forall_mem_cons.mpr ⟨h_lt.trans_le h_max, fun i hi => ?_⟩
    have h_lt' := mem_accesses_writeCommand tasks hi
    rw [h₁] at h_lt'
    exact h_lt'.trans_le (he.trans_le h_max)
  | nextByte b hs hne hne' =>
    obtain ⟨h_lt, h_max, -⟩ := h.lt (Or.inl hs) hne
    exact List.forall_mem_singleton.mpr (h_lt.trans_le h_max)
  | readOk hs hc ho => exact h_read hs
  | readRefused hs hc ho => exact h_read hs
  | readFirst => exact List.forall_mem_singleton.mpr h_zero
  | readNext hs hne =>
    obtain ⟨h_lt, h_max, -⟩ := h.lt (Or.inr hs) hne
    exact List.forall_mem_singleton.mpr (h_lt.trans_le h_max)
  | _ => exact List.forall_mem_nil _

/-! ### Counting from zero -/

/-- A callback that counts from zero leaves its counter past the declared length. -/
theorem CountsFromZero.not_countersOk {d : Device σ} {cb : I2cCallback}
    (h : CountsFromZero d.i2c cb) : ¬ ((i2cSystem tasks).step d cb).1.i2c.CountersOk := by
  obtain ⟨h_zero, ⟨hs, hc, b, rfl⟩ | ⟨hs, rfl⟩⟩ := h
  · rw [step_firstByte tasks hs hc, payloadStep, h_zero, if_neg (by decide)]
    -- the counter is 1 now, and the header is still 0
    intro h_ok
    have h_le : 1 ≤ d.i2c.payloadLenFromHeader := (h_ok (Or.inl rfl)).1
    rw [h_zero] at h_le
    exact absurd h_le (by decide)
  · rw [step_readFirst tasks hs]
    intro h_ok
    have h_le : 1 ≤ d.i2c.payloadLenFromHeader := (h_ok (Or.inr rfl)).1
    rw [h_zero] at h_le
    exact absurd h_le (by decide)

/-- **Payload safety.** A run of I2C callbacks from the initial state keeps inside the payload
array, with its counters in order in every state, exactly if none of its callbacks counts from
zero. -/
theorem payloadSafe_iff (answers : List (List ControlResid)) (users : σ) (cbs : List I2cCallback) :
    PayloadSafe tasks (boot answers users) cbs ↔
      (i2cSystem tasks).EveryStep (fun d cb => ¬ CountsFromZero d.i2c cb) (boot answers users)
        cbs := by
  have h_boot : (boot answers users).i2c.Bounded := ⟨nofun, nofun⟩
  constructor
  · intro h_safe
    -- a callback that counts from zero leaves a prefix of the run with bad counters
    rw [Transducer.everyStep_iff]
    rintro pre cb post rfl h_count
    have h_not : ¬ ((i2cSystem tasks).step ((i2cSystem tasks).run (boot answers users) pre) cb
        ).1.i2c.CountersOk := h_count.not_countersOk
    rw [← Transducer.run_concat] at h_not
    exact h_not (h_safe.counters (pre ++ [cb]) ⟨post, by rw [List.append_assoc]; rfl⟩)
  · intro h_guard
    constructor
    · -- without one, the bounds hold along the run
      exact (i2cSystem tasks).trace_guarded (P := fun d => d.i2c.Bounded)
        (Q := fun _ r => ∀ i ∈ r.accesses, i < i2cDataMaxBytes)
        (fun d cb h h_step => h.step (i2cStep_sound d cb) h_step)
        (fun d cb h _ => h.accesses (i2cStep_sound d cb)) h_boot h_guard
    · rintro pre ⟨post, rfl⟩
      exact ((i2cSystem tasks).run_guarded (P := fun d => d.i2c.Bounded)
        (fun d cb h h_step => h.step (i2cStep_sound d cb) h_step) h_boot
        h_guard.of_append).countersOk

/-! ### How far it counts -/

/-- `k` bytes have been written after the header of a write that declares length 0. -/
structure I2c.Overruns (i : I2c) (k : ℕ) : Prop where
  state : i.state = if k = 0 then .writeSize else .writeData
  cmd : isControlCmdRead i.cmd = false
  header : i.payloadLenFromHeader = 0
  counter : i.payloadLenTransmitted = k

/-- Short of the wrap of the counter, the next byte is stored at its value. -/
theorem I2c.Overruns.step {d : Device σ} {k : ℕ} (h : d.i2c.Overruns k) (h_lt : k + 1 < 2 ^ 32)
    (b : UInt8) :
    ((i2cSystem tasks).step d (.writeData b)).1.i2c.Overruns (k + 1) ∧
      ((i2cSystem tasks).step d (.writeData b)).2.accesses = [k] := by
  have h_state := h.state
  by_cases h_zero : k = 0
  · subst h_zero
    rw [if_pos rfl] at h_state
    rw [step_firstByte tasks h_state h.cmd, payloadStep, h.header, if_neg (by decide)]
    exact ⟨⟨rfl, h.cmd, h.header, rfl⟩, rfl⟩
  · -- the equality test of the code never fires: the header is 0 and the counter is not
    rw [if_neg h_zero] at h_state
    have h_ne : d.i2c.payloadLenTransmitted ≠ d.i2c.payloadLenFromHeader := by
      rw [h.counter, h.header]
      exact h_zero
    rw [step_nextByte tasks h_state (by rw [h.counter]; exact h_lt) h_ne, payloadStep, h.counter,
      h.header, if_neg (Nat.succ_ne_zero k)]
    refine ⟨⟨by rw [if_neg (Nat.succ_ne_zero k)]; rfl, h.cmd, h.header, ?_⟩, rfl⟩
    change d.i2c.payloadLenTransmitted + 1 = k + 1
    rw [h.counter]

theorem I2c.Overruns.run {d : Device σ} (h : d.i2c.Overruns 0) {ps : List UInt8}
    (h_lt : ps.length < 2 ^ 32) :
    ((i2cSystem tasks).run d (ps.map .writeData)).i2c.Overruns ps.length := by
  induction ps using List.reverseRecOn with
  | nil => exact h
  | append_singleton ps b ih =>
    rw [List.length_append, List.length_singleton] at h_lt ⊢
    rw [List.map_append, List.map_singleton, Transducer.run_concat]
    exact ((ih (Nat.lt_of_succ_lt h_lt)).step h_lt b).1

/-- **The overrun.** After the header of a write that declares length 0, from any state, the byte
that follows `ps` is stored at index `ps.length`, whatever the size of the array. -/
theorem access_of_zeroLength (d : Device σ) {r ifnum c : UInt8}
    (hr : resourceTableSearch d.table r = some ifnum) (hc : isControlCmdRead c = false)
    {ps : List UInt8} (h_lt : ps.length + 1 < 2 ^ 32) (b : UInt8) :
    ∃ p ∈ (i2cSystem tasks).trace d (writeFrame r c 0 ps ++ [.writeData b]),
      ps.length ∈ p.2.accesses := by
  have h_header := run_header_i2c tasks d (c := c) (n := 0) hr (Nat.zero_le _)
  have h_start : ((i2cSystem tasks).run d (headerCallbacks r c 0)).i2c.Overruns 0 := by
    rw [h_header]
    exact ⟨rfl, hc, rfl, rfl⟩
  have h_last : ((i2cSystem tasks).step ((i2cSystem tasks).run d (writeFrame r c 0 ps))
      (.writeData b)).2.accesses = [ps.length] := by
    rw [writeFrame, Transducer.run_append]
    exact ((h_start.run (Nat.lt_of_succ_lt h_lt)).step h_lt b).2
  rw [Transducer.trace_concat]
  refine ⟨_, List.mem_append_right _ (List.mem_singleton_self _), ?_⟩
  rw [h_last]
  exact List.mem_singleton_self _

/-- A write that declares no payload and brings 254 bytes stores the last one behind the array, and
its counter is out of order from the first one on. -/
theorem payload_overrun :
    let tasks : UserTasks Unit := .always controlSuccess []
    let cbs := writeFrame 3 5 0 (List.replicate 253 0) ++ [.writeData 0]
    (∃ p ∈ (i2cSystem tasks).trace (boot [[3]] ()) cbs, i2cDataMaxBytes ∈ p.2.accesses) ∧
      ¬ ((i2cSystem tasks).run (boot [[3]] ()) (writeFrame 3 5 0 [0])).i2c.CountersOk ∧
      ¬ PayloadSafe tasks (boot [[3]] ()) cbs := by
  intro tasks cbs
  have h_len : (List.replicate 253 (0 : UInt8)).length = i2cDataMaxBytes := List.length_replicate
  have h_reg : resourceTableSearch (boot [[3]] ()).table 3 = some 0 := by decide +kernel
  have h_access : ∃ p ∈ (i2cSystem tasks).trace (boot [[3]] ()) cbs,
      i2cDataMaxBytes ∈ p.2.accesses := by
    rw [← h_len]
    exact access_of_zeroLength _ h_reg (by decide) (by rw [h_len]; decide) 0
  refine ⟨h_access, by decide +kernel, ?_⟩
  obtain ⟨p, hp, h_mem⟩ := h_access
  exact fun h_safe => absurd (h_safe.accesses p hp _ h_mem) (lt_irrefl _)

end DeviceControl
