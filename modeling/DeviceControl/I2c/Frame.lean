import DeviceControl.Control.Calls

/-!
# I2C frames, forwards

What a run over the callbacks of one I2C command does, from any state: the machine takes the
header, takes the payload byte by byte and dispatches at the last one (`trace_writeFrame`); for a
read it hands out what the user task produced (`trace_readData`).

A write start leaves whatever was received before behind, so nothing is asked of the state in which
a frame begins. `Receiving` is the invariant of the payload loop: the header is in the struct and
the bytes received so far stand in front of the payload array.
-/

namespace DeviceControl

variable {σ : Type} (tasks : UserTasks σ)

/-! ### The callbacks of a frame -/

/-- The callbacks that bring the header of a command. -/
def headerCallbacks (r c n : UInt8) : List I2cCallback :=
  [.writeStart, .writeData r, .writeData c, .writeData n]

/-- The callbacks that bring a write command, up to its last payload byte. -/
def writeFrame (r c n : UInt8) (ps : List UInt8) : List I2cCallback :=
  headerCallbacks r c n ++ ps.map .writeData

theorem writeFrame_nil (r c n : UInt8) : writeFrame r c n [] = headerCallbacks r c n :=
  List.append_nil _

theorem writeFrame_concat (r c n : UInt8) (ps : List UInt8) (b : UInt8) :
    writeFrame r c n (ps ++ [b]) = writeFrame r c n ps ++ [.writeData b] := by
  rw [writeFrame, writeFrame, List.map_append, List.append_assoc]
  rfl

/-! ### The header -/

/-- The device after a resource of the table and a command code have arrived. -/
def Device.addressed (d : Device σ) (ifnum r c : UInt8) : Device σ :=
  { d with
    lastStatus := controlSuccess
    i2c := { d.i2c with resid := r, ifnum := ifnum, cmd := c, state := .writeCmd } }

/-- The device after a length has arrived as well. -/
def Device.announced (d : Device σ) (n : ℕ) : Device σ :=
  { d with i2c := { d.i2c with
    payloadLenFromHeader := n, payloadLenTransmitted := 0, state := .writeSize } }

theorem step_resid {d : Device σ} {r ifnum : UInt8} (hs : d.i2c.state = .writeStart)
    (hr : resourceTableSearch d.table r = some ifnum) :
    (i2cSystem tasks).step d (.writeData r)
      = ({ d with
          lastStatus := controlSuccess
          i2c := { d.i2c with resid := r, ifnum := ifnum, state := .writeResid } },
        { ret := controlSuccess }) := by
  dsimp only [i2cSystem, controlProcessI2cWriteData, i2cWriteData]
  rw [hs]
  dsimp only
  rw [hr]

/-- The callbacks that address a command, from any state. -/
theorem trace_address (d : Device σ) {r ifnum : UInt8} (c : UInt8)
    (hr : resourceTableSearch d.table r = some ifnum) :
    (i2cSystem tasks).run d [.writeStart, .writeData r, .writeData c] = d.addressed ifnum r c ∧
      (i2cSystem tasks).trace d [.writeStart, .writeData r, .writeData c]
        = [(.writeStart, { ret := controlSuccess }), (.writeData r, { ret := controlSuccess }),
          (.writeData c, { ret := controlSuccess })] := by
  -- a write start leaves everything but the state
  have h_start : (i2cSystem tasks).step d .writeStart
      = ({ d with i2c := { d.i2c with state := .writeStart } }, { ret := controlSuccess }) := rfl
  have h_resid : (i2cSystem tasks).step { d with i2c := { d.i2c with state := .writeStart } }
      (.writeData r) = _ := step_resid tasks rfl hr
  simp only [Transducer.run_cons, Transducer.trace_cons, Transducer.run_nil,
    Transducer.trace_nil, h_start, h_resid]
  exact ⟨rfl, rfl⟩

/-- A length within the limit and not zero is recorded. -/
theorem step_length (d : Device σ) {r ifnum c n : UInt8} (h_le : n.toNat ≤ i2cDataMaxBytes)
    (h_ne : n.toNat ≠ 0) :
    (i2cSystem tasks).step (d.addressed ifnum r c) (.writeData n)
      = ((d.addressed ifnum r c).announced n.toNat, { ret := controlSuccess }) := by
  dsimp only [i2cSystem, controlProcessI2cWriteData, i2cWriteData, Device.addressed]
  rw [if_neg (Nat.not_lt.mpr h_le), if_neg h_ne]
  rfl

/-- The length zero dispatches at once. -/
theorem step_lengthZero (d : Device σ) {r ifnum c : UInt8} :
    (i2cSystem tasks).step (d.addressed ifnum r c) (.writeData 0)
      = i2cWriteCommand tasks ((d.addressed ifnum r c).announced 0) := by
  have h_step : (i2cSystem tasks).step (d.addressed ifnum r c) (.writeData 0)
      = ({ (i2cWriteCommand tasks ((d.addressed ifnum r c).announced 0)).1 with
          lastStatus := (i2cWriteCommand tasks ((d.addressed ifnum r c).announced 0)).2.ret },
        (i2cWriteCommand tasks ((d.addressed ifnum r c).announced 0)).2) := by
    dsimp only [i2cSystem, controlProcessI2cWriteData, i2cWriteData, Device.addressed]
    rfl
  rw [h_step, record_writeCommand]

theorem headerCallbacks_eq (r c n : UInt8) :
    headerCallbacks r c n = [.writeStart, .writeData r, .writeData c] ++ [.writeData n] := rfl

/-- A header within the limit, from any state. -/
theorem trace_header (d : Device σ) {r ifnum c n : UInt8}
    (hr : resourceTableSearch d.table r = some ifnum) (h_le : n.toNat ≤ i2cDataMaxBytes)
    (h_ne : n.toNat ≠ 0) :
    (i2cSystem tasks).run d (headerCallbacks r c n)
        = (d.addressed ifnum r c).announced n.toNat ∧
      ∀ p ∈ (i2cSystem tasks).trace d (headerCallbacks r c n), p.2.Quiet := by
  obtain ⟨h_run, h_trace⟩ := trace_address tasks d c hr
  rw [headerCallbacks_eq, Transducer.run_append, Transducer.trace_append, h_run, h_trace,
    Transducer.run_cons, Transducer.trace_cons, step_length tasks d h_le h_ne]
  exact ⟨rfl, by simp [Reply.quiet_success]⟩

/-- What a header leaves in the struct, from any state and for every length within the limit. -/
theorem run_header_i2c (d : Device σ) {r ifnum c n : UInt8}
    (hr : resourceTableSearch d.table r = some ifnum) (h_le : n.toNat ≤ i2cDataMaxBytes) :
    ((i2cSystem tasks).run d (headerCallbacks r c n)).i2c
      = ((d.addressed ifnum r c).announced n.toNat).i2c := by
  by_cases h_zero : n = 0
  · subst h_zero
    rw [headerCallbacks_eq, Transducer.run_append, (trace_address tasks d c hr).1,
      Transducer.run_cons, step_lengthZero, Transducer.run_nil, i2cWriteCommand, writeCommand_i2c]
    rfl
  · have h_ne : n.toNat ≠ 0 := fun h_eq => h_zero (UInt8.toNat.inj h_eq)
    rw [(trace_header tasks d hr h_le h_ne).1]

/-! ### The payload of a write -/

/-- The device `d` is `d₀` after the header of a command with a payload of `n` bytes and the first
bytes `ps` of the payload. -/
structure Receiving (d₀ : Device σ) (ifnum r c : UInt8) (n : ℕ) (ps : List UInt8) (d : Device σ) :
    Prop where
  table : d.table = d₀.table
  users : d.users = d₀.users
  spi : d.spi = d₀.spi
  resid : d.i2c.resid = r
  ifnum : d.i2c.ifnum = ifnum
  cmd : d.i2c.cmd = c
  header : d.i2c.payloadLenFromHeader = n
  counter : d.i2c.payloadLenTransmitted = ps.length
  state : d.i2c.state = if ps = [] then .writeSize else .writeData
  payload : d.i2c.payload.front ps.length = ps

theorem Receiving.start (d : Device σ) (ifnum r c : UInt8) (n : ℕ) :
    Receiving d ifnum r c n [] ((d.addressed ifnum r c).announced n) :=
  ⟨rfl, rfl, rfl, rfl, rfl, rfl, rfl, rfl, rfl, rfl⟩

/-- The device with one more payload byte in the array. -/
def Device.stored (d : Device σ) (b : UInt8) : Device σ :=
  { d with i2c := { d.i2c with
    payload := d.i2c.payload.store d.i2c.payloadLenTransmitted b
    payloadLenTransmitted := d.i2c.payloadLenTransmitted + 1
    state := .writeData } }

/-- What a payload byte of a write does, once it is in the array. -/
def payloadStep (tasks : UserTasks σ) (k n : ℕ) (d : Device σ) : Device σ × Reply :=
  if k + 1 = n then ((i2cWriteCommand tasks d).1, (i2cWriteCommand tasks d).2.touch k)
  else ({ d with lastStatus := controlSuccess }, { ret := controlSuccess, accesses := [k] })

/-- The device with the first payload byte in the array. -/
def Device.begun (d : Device σ) (b : UInt8) : Device σ :=
  { d with i2c := { d.i2c with
    payload := d.i2c.payload.store 0 b, payloadLenTransmitted := 1, state := .writeData } }

theorem step_firstByte {d : Device σ} (hs : d.i2c.state = .writeSize)
    (hc : isControlCmdRead d.i2c.cmd = false) (b : UInt8) :
    (i2cSystem tasks).step d (.writeData b)
      = payloadStep tasks 0 d.i2c.payloadLenFromHeader (d.begun b) := by
  have h_data : i2cWriteData tasks b d
      = if d.i2c.payloadLenFromHeader = 1 then
          ((i2cWriteCommand tasks (d.begun b)).1, (i2cWriteCommand tasks (d.begun b)).2.touch 0)
        else (d.begun b, { ret := controlSuccess, accesses := [0] }) := by
    unfold i2cWriteData
    rw [hs]
    dsimp only
    rw [hc, if_neg Bool.false_ne_true]
    rfl
  change controlProcessI2cWriteData tasks b d = _
  rw [controlProcessI2cWriteData, h_data, payloadStep]
  by_cases h_one : d.i2c.payloadLenFromHeader = 1
  · rw [if_pos h_one, if_pos h_one.symm]
    dsimp only [Reply.ret_touch]
    -- the status is recorded twice, with the same value
    rw [record_writeCommand]
  · rw [if_neg h_one, if_neg (Ne.symm h_one)]

theorem step_nextByte {d : Device σ} (hs : d.i2c.state = .writeData)
    (hk : d.i2c.payloadLenTransmitted + 1 < 2 ^ 32)
    (hne : d.i2c.payloadLenTransmitted ≠ d.i2c.payloadLenFromHeader) (b : UInt8) :
    (i2cSystem tasks).step d (.writeData b)
      = payloadStep tasks d.i2c.payloadLenTransmitted d.i2c.payloadLenFromHeader (d.stored b) := by
  have h_stored : d.stored b = { d with i2c := { d.i2c with
      payload := d.i2c.payload.store d.i2c.payloadLenTransmitted b
      payloadLenTransmitted := incr d.i2c.payloadLenTransmitted, state := .writeData } } := by
    rw [Device.stored, incr_of_lt hk]
  have h_data : i2cWriteData tasks b d
      = if incr d.i2c.payloadLenTransmitted = d.i2c.payloadLenFromHeader then
          ((i2cWriteCommand tasks (d.stored b)).1,
            (i2cWriteCommand tasks (d.stored b)).2.touch d.i2c.payloadLenTransmitted)
        else
          (d.stored b,
            { ret := controlSuccess, accesses := [d.i2c.payloadLenTransmitted] }) := by
    unfold i2cWriteData
    rw [hs, h_stored]
    dsimp only
    -- the state stays, as the branch does not assign it
    rw [if_neg hne, hs]
  change controlProcessI2cWriteData tasks b d = _
  rw [controlProcessI2cWriteData, h_data, payloadStep, incr_of_lt hk]
  by_cases h_last : d.i2c.payloadLenTransmitted + 1 = d.i2c.payloadLenFromHeader
  · rw [if_pos h_last, if_pos h_last]
    dsimp only [Reply.ret_touch]
    rw [record_writeCommand]
  · rw [if_neg h_last, if_neg h_last]

section Payload

variable {d₀ d : Device σ} {ifnum r c : UInt8} {n : ℕ} {ps : List UInt8}

theorem Receiving.stored (h : Receiving d₀ ifnum r c n ps d) (h_lt : ps.length < i2cDataMaxBytes)
    (b : UInt8) : Receiving d₀ ifnum r c n (ps ++ [b]) (d.stored b) where
  table := h.table
  users := h.users
  spi := h.spi
  resid := h.resid
  ifnum := h.ifnum
  cmd := h.cmd
  header := h.header
  counter := by
    rw [List.length_append, List.length_singleton, ← h.counter]
    rfl
  state := by
    rw [if_neg (List.append_ne_nil_of_right_ne_nil _ (List.cons_ne_nil b []))]
    rfl
  payload := by
    change (d.i2c.payload.store d.i2c.payloadLenTransmitted b).front (ps ++ [b]).length = _
    rw [h.counter, List.length_append, List.length_singleton, Buffer.front_store_succ _ _ h_lt,
      h.payload]

/-- **The payload step.** A payload byte of a write is stored, and the last one dispatches. -/
theorem Receiving.step (h : Receiving d₀ ifnum r c n ps d) (h_write : isControlCmdRead c = false)
    (h_lt : ps.length < n) (h_le : n ≤ i2cDataMaxBytes) (b : UInt8) :
    (i2cSystem tasks).step d (.writeData b) = payloadStep tasks ps.length n (d.stored b) := by
  have h_small : ps.length + 1 < 2 ^ 32 := succ_lt_wrap h_lt h_le
  have h_state := h.state
  by_cases h_ps : ps = []
  · -- the first byte is taken in `I2C_WRITE_SIZE`, where the command code is looked at
    subst h_ps
    rw [if_pos rfl] at h_state
    rw [step_firstByte tasks h_state (by rw [h.cmd, h_write]), h.header, Device.stored, h.counter]
    rfl
  · -- every later byte in `I2C_WRITE_DATA`, where the counter is short of the header
    rw [if_neg h_ps] at h_state
    rw [← h.counter] at h_small h_lt ⊢
    rw [step_nextByte tasks h_state h_small (by rw [h.header]; exact h_lt.ne), h.header]

theorem Receiving.record (h : Receiving d₀ ifnum r c n ps d) (status : ControlStatus) :
    Receiving d₀ ifnum r c n ps { d with lastStatus := status } where
  table := h.table
  users := h.users
  spi := h.spi
  resid := h.resid
  ifnum := h.ifnum
  cmd := h.cmd
  header := h.header
  counter := h.counter
  state := h.state
  payload := h.payload

/-- The dispatch of a payload that has arrived in full. -/
theorem Receiving.delivers (h : Receiving d₀ ifnum r c n ps d) (h_ne : r ≠ controlSpecialResid) :
    DeliversWrite tasks d₀ ifnum r c ps (i2cWriteCommand tasks d).1
      (i2cWriteCommand tasks d).2 := by
  rw [i2cWriteCommand, h.resid, h.ifnum, h.cmd]
  exact deliversWrite_writeCommand h_ne h.table h.users h.counter h.payload

/-- Payload bytes that do not complete the payload are taken quietly. -/
theorem Receiving.run (h : Receiving d₀ ifnum r c n ps d) (h_write : isControlCmdRead c = false)
    (h_le : n ≤ i2cDataMaxBytes) (rest : List UInt8) (h_lt : ps.length + rest.length < n) :
    Receiving d₀ ifnum r c n (ps ++ rest) ((i2cSystem tasks).run d (rest.map .writeData)) ∧
      ∀ p ∈ (i2cSystem tasks).trace d (rest.map .writeData), p.2.Quiet := by
  -- on the bytes to come: each of them moves over to those received
  induction rest generalizing ps d with
  | nil =>
    rw [List.append_nil]
    exact ⟨h, List.forall_mem_nil _⟩
  | cons b rest ih =>
    rw [List.length_cons] at h_lt
    have h_ps : ps.length < n := by omega
    have h_step := h.step tasks h_write h_ps h_le b
    rw [payloadStep, if_neg (by omega)] at h_step
    obtain ⟨h_recv, h_quiet⟩ :=
      ih ((h.stored (h_ps.trans_le h_le) b).record controlSuccess) (by simp; omega)
    rw [List.append_assoc] at h_recv
    rw [List.map_cons, Transducer.run_cons, Transducer.trace_cons, h_step]
    exact ⟨h_recv, List.forall_mem_cons.mpr ⟨⟨rfl, rfl⟩, h_quiet⟩⟩

/-- The byte that completes a payload is stored and dispatches it. -/
theorem Receiving.step_last (h : Receiving d₀ ifnum r c n ps d)
    (h_write : isControlCmdRead c = false) (h_le : n ≤ i2cDataMaxBytes) (h_len : ps.length + 1 = n)
    (b : UInt8) :
    (i2cSystem tasks).step d (.writeData b)
      = ((i2cWriteCommand tasks (d.stored b)).1,
        (i2cWriteCommand tasks (d.stored b)).2.touch ps.length) := by
  rw [h.step tasks h_write (by omega) h_le b, payloadStep, if_pos h_len]

/-- **The payload run.** The rest of a payload is taken quietly up to its last byte, and the whole
payload is delivered with that one. -/
theorem Receiving.trace (h : Receiving d₀ ifnum r c n ps d) (h_write : isControlCmdRead c = false)
    (h_ne : r ≠ controlSpecialResid) (h_le : n ≤ i2cDataMaxBytes) {rest : List UInt8}
    (h_rest : rest ≠ []) (h_len : ps.length + rest.length = n) :
    ∃ entries last, (i2cSystem tasks).trace d (rest.map .writeData) = entries ++ [last] ∧
      (∀ p ∈ entries, p.2.Quiet) ∧
      DeliversWrite tasks d₀ ifnum r c (ps ++ rest)
        ((i2cSystem tasks).run d (rest.map .writeData)) last.2 := by
  obtain ⟨rest, b, rfl⟩ := List.eq_nil_or_concat' rest |>.resolve_left h_rest
  rw [List.length_append, List.length_singleton] at h_len
  obtain ⟨h_recv, h_quiet⟩ := h.run tasks h_write h_le rest (by omega)
  have h_full : (ps ++ rest).length + 1 = n := by
    rw [List.length_append]
    omega
  have h_stored := h_recv.stored (by omega) b
  have h_del := h_stored.delivers tasks h_ne
  rw [List.map_append, List.map_singleton, Transducer.trace_concat, Transducer.run_concat,
    h_recv.step_last tasks h_write h_le h_full b, ← List.append_assoc]
  exact ⟨_, _, rfl, h_quiet, h_del.calls, h_del.ret, h_del.table, h_del.lastStatus, h_del.users⟩

end Payload

/-- **Write frames.** From any state, the callbacks before the last one of a write frame are taken
quietly, and the last one delivers the payload. -/
theorem trace_writeFrame (d : Device σ) {r ifnum c n : UInt8} {ps : List UInt8}
    (hr : resourceTableSearch d.table r = some ifnum) (h_ne : r ≠ controlSpecialResid)
    (h_write : isControlCmdRead c = false) (h_len : n.toNat = ps.length)
    (h_le : ps.length ≤ i2cDataMaxBytes) :
    ∃ entries last, (i2cSystem tasks).trace d (writeFrame r c n ps) = entries ++ [last] ∧
      (∀ p ∈ entries, p.2.Quiet) ∧
      DeliversWrite tasks d ifnum r c ps ((i2cSystem tasks).run d (writeFrame r c n ps))
        last.2 := by
  by_cases h_ps : ps = []
  · subst h_ps
    -- without a payload the length byte is the last one, and delivers
    obtain rfl : n = 0 := UInt8.toNat.inj h_len
    obtain ⟨h_run, h_trace⟩ := trace_address tasks d c hr
    have h_del : DeliversWrite tasks d ifnum r c [] _ _ :=
      (Receiving.start d ifnum r c 0).delivers tasks h_ne
    rw [writeFrame_nil, headerCallbacks_eq, Transducer.run_append, Transducer.trace_append, h_run,
      h_trace, Transducer.run_cons, Transducer.trace_cons, step_lengthZero]
    exact ⟨_, _, rfl, by simp [Reply.quiet_success], h_del⟩
  · -- the header is quiet, and the payload is received byte by byte
    have h_pos : n.toNat ≠ 0 := by
      rw [h_len]
      exact fun h_eq => h_ps (List.length_eq_zero_iff.mp h_eq)
    obtain ⟨h_run, h_quiet⟩ := trace_header tasks d hr (h_len.trans_le h_le) h_pos
    obtain ⟨entries, last, h_trace, h_entries, h_del⟩ :=
      (Receiving.start d ifnum r c n.toNat).trace tasks h_write h_ne (h_len.trans_le h_le) h_ps
        (by rw [h_len, List.length_nil, Nat.zero_add])
    rw [writeFrame, Transducer.run_append, Transducer.trace_append, h_run, h_trace]
    refine ⟨_ ++ entries, last, (List.append_assoc ..).symm, ?_, h_del⟩
    exact List.forall_mem_append.mpr ⟨h_quiet, h_entries⟩

/-! ### Reads -/

/-- The struct holds the header of a read, and its user task has not granted it yet. -/
structure I2c.AwaitsRead (i : I2c) (ifnum r c : UInt8) (n : ℕ) : Prop where
  state : i.state = .writeSize
  resid : i.resid = r
  ifnum : i.ifnum = ifnum
  cmd : i.cmd = c
  header : i.payloadLenFromHeader = n

/-- The read of a user task was refused in this entry of a trace. -/
def RefusedRead (p : I2cCallback × Reply) : Prop :=
  p.1 = .readStart ∧
    ∃ call ∈ p.2.calls, call.request.method = .read ∧ call.ret ≠ controlSuccess

/-- The device after a user task has granted a read. -/
def Device.granted (tasks : UserTasks σ) (d : Device σ) : Device σ :=
  { (i2cReadCommand tasks d).device with i2c := { d.i2c with
    payload := (i2cReadCommand tasks d).payload, payloadLenTransmitted := 0, state := .readStart } }

/-- The device after a user task has refused a read. -/
def Device.refused (tasks : UserTasks σ) (d : Device σ) : Device σ :=
  { (i2cReadCommand tasks d).device with i2c := { d.i2c with
    payload := (i2cReadCommand tasks d).payload } }

section Read

variable {d : Device σ} {ifnum r c : UInt8} {n : ℕ}

/-- **The read start.** The read is performed with what the header said. -/
theorem I2c.AwaitsRead.step (h : d.i2c.AwaitsRead ifnum r c n)
    (h_read : isControlCmdRead c = true) :
    (i2cSystem tasks).step d .readStart
      = (if (i2cReadCommand tasks d).reply.ret = controlSuccess then d.granted tasks
          else d.refused tasks, (i2cReadCommand tasks d).reply) := by
  have h_i2c : (i2cReadCommand tasks d).device.i2c = d.i2c := readCommand_i2c ..
  change controlProcessI2cReadStart tasks d = _
  rw [controlProcessI2cReadStart, if_neg (not_not.mpr h.state), h.cmd, if_pos h_read]
  dsimp only
  rw [h_i2c]
  split
  · rfl
  · rfl

theorem I2c.AwaitsRead.refused (h : d.i2c.AwaitsRead ifnum r c n) :
    (d.refused tasks).i2c.AwaitsRead ifnum r c n :=
  ⟨h.state, h.resid, h.ifnum, h.cmd, h.header⟩

/-- Reads that are refused leave the header in place, however many they are. -/
theorem I2c.AwaitsRead.run (h : d.i2c.AwaitsRead ifnum r c n) (h_read : isControlCmdRead c = true)
    {cbs : List I2cCallback}
    (h_refused : ∀ p ∈ (i2cSystem tasks).trace d cbs, RefusedRead p) :
    ((i2cSystem tasks).run d cbs).i2c.AwaitsRead ifnum r c n := by
  induction cbs generalizing d with
  | nil => exact h
  | cons cb cbs ih =>
    obtain ⟨⟨h_cb, call, h_call, -, h_ret⟩, h_rest⟩ := List.forall_mem_cons.mp h_refused
    dsimp only at h_cb
    subst h_cb
    rw [h.step tasks h_read] at h_call h_rest
    rw [Transducer.run_cons, h.step tasks h_read]
    have h_no : (i2cReadCommand tasks d).reply.ret ≠ controlSuccess := by
      obtain ⟨h_resid, rfl⟩ := mem_calls_readCommand tasks h_call
      rwa [i2cReadCommand, ret_readCommand tasks h_resid]
    dsimp only at h_rest ⊢
    rw [if_neg h_no] at h_rest ⊢
    exact ih (h.refused tasks) h_rest

/-- The read is delivered from the struct's own payload array, which is left with the answer. -/
theorem I2c.AwaitsRead.delivers (h : d.i2c.AwaitsRead ifnum r c n)
    (h_read : isControlCmdRead c = true) (h_ne : r ≠ controlSpecialResid) :
    DeliversRead tasks d ifnum r c n d.i2c.payload
      ((i2cSystem tasks).step d .readStart).1.i2c.payload ((i2cSystem tasks).step d .readStart).1
      ((i2cSystem tasks).step d .readStart).2 := by
  have h_del : DeliversRead tasks d ifnum r c n d.i2c.payload (i2cReadCommand tasks d).payload
      (i2cReadCommand tasks d).device (i2cReadCommand tasks d).reply := by
    rw [i2cReadCommand, h.resid, h.ifnum, h.cmd, h.header]
    exact deliversRead_readCommand h_ne rfl
  rw [h.step tasks h_read]
  dsimp only
  -- granted or refused, the array and the user tasks are left the same way
  split
  · exact ⟨h_del.calls, h_del.ret, h_del.payload, h_del.users⟩
  · exact ⟨h_del.calls, h_del.ret, h_del.payload, h_del.users⟩

end Read

/-! ### Handing out the data of a read -/

/-- A read of `n` bytes has been granted and `j` of them have been handed out. -/
structure I2c.Serves (i : I2c) (payload : Buffer UInt8 i2cDataMaxBytes) (n j : ℕ) : Prop where
  state : i.state = if j = 0 then .readStart else .readData
  header : i.payloadLenFromHeader = n
  counter : i.payloadLenTransmitted = j
  payload : i.payload = payload

/-- A granted read is ready to hand out what the user task left in the array. -/
theorem I2c.AwaitsRead.serves {d : Device σ} {ifnum r c : UInt8} {n : ℕ}
    (h : d.i2c.AwaitsRead ifnum r c n) :
    (d.granted tasks).i2c.Serves (i2cReadCommand tasks d).payload n 0 :=
  ⟨rfl, h.header, rfl, rfl⟩

theorem step_readFirst {d : Device σ} (hs : d.i2c.state = .readStart) :
    (i2cSystem tasks).step d .readData
      = ({ d with i2c := { d.i2c with payloadLenTransmitted := 1, state := .readData } },
        { ret := controlSuccess, output := .i2cData d.i2c.payload[0]?, accesses := [0] }) := by
  change controlProcessI2cReadData d = _
  rw [controlProcessI2cReadData, hs]

theorem step_readNext {d : Device σ} (hs : d.i2c.state = .readData)
    (hne : d.i2c.payloadLenTransmitted ≠ d.i2c.payloadLenFromHeader) :
    (i2cSystem tasks).step d .readData
      = ({ d with i2c := { d.i2c with
            payloadLenTransmitted := incr d.i2c.payloadLenTransmitted } },
        { ret := controlSuccess, output := .i2cData d.i2c.payload[d.i2c.payloadLenTransmitted]?
          accesses := [d.i2c.payloadLenTransmitted] }) := by
  change controlProcessI2cReadData d = _
  rw [controlProcessI2cReadData, hs]
  dsimp only
  rw [if_neg hne, hs]

section Serve

variable {d : Device σ} {payload : Buffer UInt8 i2cDataMaxBytes} {n j : ℕ}

theorem I2c.Serves.step (h : d.i2c.Serves payload n j) (h_lt : j < n) (h_le : n ≤ i2cDataMaxBytes) :
    ((i2cSystem tasks).step d .readData).1.i2c.Serves payload n (j + 1) ∧
      ((i2cSystem tasks).step d .readData).2
        = { ret := controlSuccess, output := .i2cData payload[j]?, accesses := [j] } := by
  have h_state := h.state
  by_cases h_zero : j = 0
  · -- the first byte is handed out by a branch of its own
    subst h_zero
    rw [if_pos rfl] at h_state
    rw [step_readFirst tasks h_state, h.payload]
    exact ⟨⟨rfl, h.header, rfl, h.payload⟩, rfl⟩
  · have h_ne : d.i2c.payloadLenTransmitted ≠ d.i2c.payloadLenFromHeader := by
      rw [h.counter, h.header]
      exact h_lt.ne
    have h_incr : incr j = j + 1 := incr_of_lt (succ_lt_wrap h_lt h_le)
    rw [if_neg h_zero] at h_state
    rw [step_readNext tasks h_state h_ne, h.payload, h.counter, h_incr]
    exact ⟨⟨by rw [if_neg (Nat.succ_ne_zero j)]; exact h_state, h.header, rfl, h.payload⟩, rfl⟩

/-- **The data run.** Up to `n` reads of a byte hand out the payload in order. -/
theorem I2c.Serves.run (h : d.i2c.Serves payload n 0) (h_le : n ≤ i2cDataMaxBytes) {m : ℕ}
    (h_m : m ≤ n) :
    ((i2cSystem tasks).run d (List.replicate m .readData)).i2c.Serves payload n m := by
  induction m with
  | zero => exact h
  | succ m ih =>
    rw [List.replicate_succ', Transducer.run_concat]
    exact ((ih (Nat.le_of_succ_le h_m)).step tasks h_m h_le).1

end Serve

end DeviceControl
