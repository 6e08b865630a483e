import DeviceControl.I2c.Frame

/-!
# Reads past the end of an I2C payload

The bus master may clock out as many bytes as it likes after a granted read. What it gets beyond the
length of the header is decided in three states of `control_process_i2c_read_data`: the first byte
is handed out without a look at the length, the first byte in excess moves the machine to
`I2C_READ_OVERFLOW` without assigning a byte, and that state itself has no branch.

`OverReadHarmless` says what the branch announces to the debug output, that zeroes are returned from
there on. No over-read is harmless in this sense (`over_read_never`), and `overRead_reply` says what
is answered instead.
-/

namespace DeviceControl

variable {σ : Type} (tasks : UserTasks σ)

/-! ### Over-reads -/

/-- The device after `j` reads of a byte. -/
def afterReads (d : Device σ) (j : ℕ) : Device σ :=
  (i2cSystem tasks).run d (List.replicate j .readData)

/-- A read of a byte after `j` others is answered with a zero, in `I2C_READ_OVERFLOW`. -/
structure ZeroRead (d : Device σ) (j : ℕ) : Prop where
  data : ((i2cSystem tasks).step (afterReads tasks d j) .readData).2.output = .i2cData (some 0)
  ret : ((i2cSystem tasks).step (afterReads tasks d j) .readData).2.ret = controlSuccess
  state : (afterReads tasks d (j + 1)).i2c.state = .readOverflow

/-- The value that a stop after `j` reads of a byte returns. -/
def stopAfter (d : Device σ) (j : ℕ) : ControlRet :=
  ((i2cSystem tasks).step (afterReads tasks d j) .stop).2.ret

/-- `k` reads of a byte, where `n` bytes were announced, are harmless: the ones in excess are
answered with zeroes, and a stop does not tell how many they were. -/
structure OverReadHarmless (d : Device σ) (n k : ℕ) : Prop where
  zeroes : ∀ j, n ≤ j → j < k → ZeroRead tasks d j
  stop : ∀ k', n < k' → stopAfter tasks d k' = stopAfter tasks d k

theorem afterReads_succ (d : Device σ) (j : ℕ) :
    afterReads tasks d (j + 1) = ((i2cSystem tasks).step (afterReads tasks d j) .readData).1 := by
  rw [afterReads, List.replicate_succ', Transducer.run_concat]
  rfl

/-! ### The granted read -/

/-- A header is never longer than the payload array. -/
theorem I2cStep.header_le {d d' : Device σ} {cb : I2cCallback} {r : Reply}
    (h_step : I2cStep tasks d cb d' r) (h : d.i2c.payloadLenFromHeader ≤ i2cDataMaxBytes) :
    d'.i2c.payloadLenFromHeader ≤ i2cDataMaxBytes := by
  cases h_step with
  -- the rules that dispatch a write leave the struct as it was before the dispatch
  | lengthZero d₁ hs h₁ =>
    rw [i2cWriteCommand, writeCommand_i2c, h₁]
    exact Nat.zero_le _
  | onlyByte b d₁ hs hc h1 h₁ =>
    rw [i2cWriteCommand, writeCommand_i2c, h₁]
    exact h
  | lastByte b d₁ hs hne he h₁ =>
    rw [i2cWriteCommand, writeCommand_i2c, h₁]
    exact h
  -- the one rule that stores a length has compared it with the size of the array
  | length n hs hn h0 => exact hn
  | readRefused hs hc ho => exact h
  | _ => exact h

theorem Reachable.header_le {answers : List (List ControlResid)} {d : Device σ}
    (h : Reachable tasks answers d) : d.i2c.payloadLenFromHeader ≤ i2cDataMaxBytes := by
  refine h.induction (P := fun d => d.i2c.payloadLenFromHeader ≤ i2cDataMaxBytes)
    (fun _ => Nat.zero_le _) fun d cb ih => ?_
  exact (step_clauses (P := fun i => i.payloadLenFromHeader ≤ i2cDataMaxBytes) (Q := fun _ => True)
    ih trivial (fun h_step => h_step.header_le tasks ih) (fun _ => trivial) cb).1

/-- A read start that returns success has granted a read. -/
theorem serves_of_readStart {d : Device σ}
    (h : ((i2cSystem tasks).step d .readStart).2.ret = controlSuccess) :
    ∃ payload, ((i2cSystem tasks).step d .readStart).1.i2c.Serves payload
      d.i2c.payloadLenFromHeader 0 := by
  change (controlProcessI2cReadStart tasks d).2.ret = _ at h
  change ∃ payload, (controlProcessI2cReadStart tasks d).1.i2c.Serves payload _ 0
  have h_i2c : (i2cReadCommand tasks d).device.i2c = d.i2c := readCommand_i2c ..
  have h_ne : controlOtherTransportError ≠ controlSuccess := by decide
  -- of the four ways through the function, one returns success
  unfold controlProcessI2cReadStart at h ⊢
  split at h
  · exact absurd h h_ne
  · next h_state =>
    rw [if_neg h_state]
    split at h
    · next h_read =>
      rw [if_pos h_read]
      dsimp only at h ⊢
      split at h
      · next h_ok =>
        rw [if_pos h_ok, h_i2c]
        exact ⟨_, rfl, rfl, rfl, rfl⟩
      · next h_refused => exact absurd h h_refused
    · exact absurd h h_ne

/-! ### What is answered -/

section OverRead

variable {d : Device σ} {payload : Buffer UInt8 i2cDataMaxBytes} {n : ℕ}

/-- The first byte in excess: the branch returns before it assigns a byte. -/
theorem step_readOver {d : Device σ} (hs : d.i2c.state = .readData)
    (he : d.i2c.payloadLenTransmitted = d.i2c.payloadLenFromHeader) :
    (i2cSystem tasks).step d .readData
      = ({ d with i2c := { d.i2c with state := .readOverflow } },
        { ret := controlSuccess, output := .i2cData none }) := by
  change controlProcessI2cReadData d = _
  rw [controlProcessI2cReadData, hs]
  exact if_pos he

/-- The bytes after that: `I2C_READ_OVERFLOW` has no branch of its own. -/
theorem step_readError {d : Device σ} (hs : d.i2c.state = .readOverflow ∨ d.i2c.state = .error) :
    (i2cSystem tasks).step d .readData
      = ({ d with i2c := { d.i2c with state := .error } },
        { ret := controlError, output := .i2cData none }) := by
  change controlProcessI2cReadData d = _
  unfold controlProcessI2cReadData
  rcases hs with hs | hs
  · rw [hs]
  · rw [hs]

/-- After all bytes of a payload that is not empty, the next one is in excess. -/
theorem I2c.Serves.over (h : d.i2c.Serves payload n 0) (h_le : n ≤ i2cDataMaxBytes)
    (h_pos : n ≠ 0) :
    (i2cSystem tasks).step (afterReads tasks d n) .readData
      = ({ afterReads tasks d n with
            i2c := { (afterReads tasks d n).i2c with state := .readOverflow } },
        { ret := controlSuccess, output := .i2cData none }) := by
  have h_end : (afterReads tasks d n).i2c.Serves payload n n := h.run tasks h_le le_rfl
  have h_state := h_end.state
  rw [if_neg h_pos] at h_state
  exact step_readOver tasks h_state (by rw [h_end.counter, h_end.header])

/-- The state after `m + 1` bytes in excess. -/
theorem I2c.Serves.over_state (h : d.i2c.Serves payload n 0) (h_le : n ≤ i2cDataMaxBytes)
    (h_pos : n ≠ 0) (m : ℕ) :
    (afterReads tasks d (n + m + 1)).i2c.state = if m = 0 then .readOverflow else .error := by
  induction m with
  | zero =>
    rw [Nat.add_zero, afterReads_succ, h.over tasks h_le h_pos]
    rfl
  | succ m ih =>
    have h_state : (afterReads tasks d (n + m + 1)).i2c.state = .readOverflow ∨
        (afterReads tasks d (n + m + 1)).i2c.state = .error := by
      rw [ih]
      split
      · exact Or.inl rfl
      · exact Or.inr rfl
    rw [afterReads_succ, ← Nat.add_assoc, step_readError tasks h_state, if_neg (Nat.succ_ne_zero m)]

/-- **The over-read.** No byte in excess is assigned. The first one is answered with success, and a
stop after it too; from the second one on the machine is in `I2C_ERROR`, and the stop says so. -/
theorem overRead_reply (h : d.i2c.Serves payload n 0) (h_le : n ≤ i2cDataMaxBytes) (h_pos : n ≠ 0)
    (m : ℕ) :
    ((i2cSystem tasks).step (afterReads tasks d (n + m)) .readData).2
        = { ret := if m = 0 then controlSuccess else controlError, output := .i2cData none } ∧
      stopAfter tasks d (n + m + 1)
        = if m = 0 then controlSuccess else controlOtherTransportError := by
  constructor
  · cases m with
    | zero => rw [Nat.add_zero, h.over tasks h_le h_pos, if_pos rfl]
    | succ m =>
      have h_state := h.over_state tasks h_le h_pos m
      rw [← Nat.add_assoc, step_readError tasks ?_, if_neg (Nat.succ_ne_zero m)]
      rw [h_state]
      split
      · exact Or.inl rfl
      · exact Or.inr rfl
  · change i2cStopRet (afterReads tasks d (n + m + 1)).i2c = _
    rw [i2cStopRet, h.over_state tasks h_le h_pos m]
    by_cases h_zero : m = 0
    · rw [if_pos h_zero, if_pos h_zero]
    · rw [if_neg h_zero, if_neg h_zero]

end OverRead

/-- **No over-read is harmless.** After every granted read of a reachable state, however many bytes
are read in excess. -/
theorem over_read_never {answers : List (List ControlResid)} {d₀ : Device σ}
    (h_reach : Reachable tasks answers d₀)
    (h_ok : ((i2cSystem tasks).step d₀ .readStart).2.ret = controlSuccess) {k : ℕ}
    (h_lt : d₀.i2c.payloadLenFromHeader < k) :
    ¬ OverReadHarmless tasks ((i2cSystem tasks).step d₀ .readStart).1 d₀.i2c.payloadLenFromHeader
      k := by
  obtain ⟨payload, h_serves⟩ := serves_of_readStart tasks h_ok
  set d := ((i2cSystem tasks).step d₀ .readStart).1
  set n := d₀.i2c.payloadLenFromHeader
  intro h_harmless
  have h_first : ZeroRead tasks d n := h_harmless.zeroes n le_rfl h_lt
  by_cases h_zero : n = 0
  · -- an empty payload: the first byte is handed out all the same, in `I2C_READ_DATA`
    rw [h_zero] at h_first h_serves
    have h_state : (afterReads tasks d 1).i2c.state = .readData := by
      rw [afterReads_succ]
      change ((i2cSystem tasks).step d .readData).1.i2c.state = _
      rw [step_readFirst tasks h_serves.state]
    exact absurd (h_first.state.symm.trans h_state) (by decide)
  · -- otherwise the first byte in excess is not assigned
    have h_reply := (overRead_reply tasks h_serves h_reach.header_le h_zero 0).1
    have h_data := h_first.data
    rw [Nat.add_zero] at h_reply
    rw [h_reply] at h_data
    cases h_data

/-- A granted read of two bytes, and three bytes read. -/
theorem over_read_never_run :
    let tasks : UserTasks Unit := .always controlSuccess [8, 9]
    let d₀ := (i2cSystem tasks).run (boot [[3]] ()) (headerCallbacks 3 0x85 2)
    ¬ OverReadHarmless tasks ((i2cSystem tasks).step d₀ .readStart).1 2 3 := by
  intro tasks d₀
  exact over_read_never tasks ((reachable_boot [[3]] ()).run_i2c _) (by decide +kernel)
    (by decide +kernel)

/-- The third byte of a read of two bytes is not assigned, the fourth one fails, and a stop tells
three bytes from four. -/
theorem over_read_harms :
    let tasks : UserTasks Unit := .always controlSuccess [8, 9]
    let cbs := headerCallbacks 3 0x85 2 ++ [.readStart]
    let d := (i2cSystem tasks).run (boot [[3]] ()) cbs
    ((i2cSystem tasks).trace d (List.replicate 4 .readData)).map (fun p => (p.2.ret, p.2.output))
        = [(controlSuccess, .i2cData (some 8)), (controlSuccess, .i2cData (some 9)),
          (controlSuccess, .i2cData none), (controlError, .i2cData none)] ∧
      stopAfter tasks d 3 = controlSuccess ∧ stopAfter tasks d 4 = controlOtherTransportError ∧
      ¬ OverReadHarmless tasks d 2 3 := by
  intro tasks cbs d
  have h_stops : stopAfter tasks d 3 = controlSuccess ∧
      stopAfter tasks d 4 = controlOtherTransportError := by decide +kernel
  refine ⟨by decide +kernel, h_stops.1, h_stops.2, fun h => ?_⟩
  have h_stop := h.stop 4 (by decide)
  rw [h_stops.1, h_stops.2] at h_stop
  exact absurd h_stop (by decide)

end DeviceControl
