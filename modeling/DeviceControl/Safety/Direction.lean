import DeviceControl.I2c.Frame
import DeviceControl.Spi.Read
import DeviceControl.Spi.Write

/-!
# The direction of commands

Bit 7 of a command code says whether the command is a read or a write. A user task should be called
for a write with write codes only and for a read with read codes only, and one command of the host
should not cause both (`DirectionRespected`).

Each transport decides at another place. USB and xSCOPE look at the code of the request at hand.
SPI looks at the code when it arrives and goes on in states of the one or the other direction.
I2C looks at it when the first payload byte arrives, or a read start; but a header that declares
length 0 dispatches a write without a look at the code (`ZeroLengthDispatch`). If the code is one of
a read, the user task is called for a write with it, and the read start that follows calls it once
more, for the read.

`direction_respected_iff` says that this is all there is: a run respects the direction exactly if
none of its steps is such a dispatch.
-/

namespace DeviceControl

variable {σ : Type} {tasks : UserTasks σ}

/-! ### The commands of a host -/

/-- While a read that has been performed waits for the end of its transaction, the master supplies
zeroes. Any other byte resets the machine, and is taken for the first one of the next command. -/
def FillsWithZero (d : Device σ) (cb : Callback) : Prop :=
  d.spi.state = .readDataWait →
    ∀ datum validBits, cb = .spi (.masterSuppliedData datum validBits) → datum = 0

/-- The callbacks of one command of the host, run from `d`. The callbacks of other transports may
come in between, and belong to commands of theirs. -/
inductive HostCommand (tasks : UserTasks σ) (d : Device σ) : Transport → List Callback → Prop where
  /-- An I2C frame goes from a write start up to the next. -/
  | i2cFrame (rest : List Callback) (h : .i2c .writeStart ∉ rest) :
      HostCommand tasks d .i2c (.i2c .writeStart :: rest)
  /-- An SPI transaction, or the beginning of one. -/
  | spiTransaction (items : List SpiItem) (mid : List Callback) (h_idle : d.spi.state = .idle)
      (h_fill : (controlSystem tasks).EveryStep FillsWithZero d mid)
      (h : mid.filterMap Callback.spi? <+: DeviceControl.spiTransaction items) :
      HostCommand tasks d .spi mid
  /-- An SPI read that has been performed goes on in the transaction after it. -/
  | spiRead (items : List SpiItem) (first second : List Callback) (h_idle : d.spi.state = .idle)
      (h_fill : (controlSystem tasks).EveryStep FillsWithZero d first)
      (h_first : first.filterMap Callback.spi? = DeviceControl.spiTransaction items)
      (h_read : ((controlSystem tasks).run d first).spi.state = .readData)
      (h_second : ∀ pre post, second = pre ++ .spi .masterEndsTransaction :: post → post = []) :
      HostCommand tasks d .spi (first ++ second)
  /-- A USB request or an xSCOPE upload. -/
  | request (cb : Callback) (h : cb.IsRequest) : HostCommand tasks d cb.transport [cb]

/-- The call is of the direction that its command code has. -/
def UserCall.FollowsCode (call : UserCall) : Prop :=
  call.request.method = .read ↔ isControlCmdRead call.request.cmd = true

instance (call : UserCall) : Decidable call.FollowsCode := inferInstanceAs (Decidable (_ ↔ _))

/-- The direction of commands is respected in a run from `d`. -/
structure DirectionRespected (tasks : UserTasks σ) (d : Device σ) (cbs : List Callback) : Prop where
  /-- Every call is of the direction that its command code has. -/
  followsCode : ∀ p ∈ (controlSystem tasks).trace d cbs, ∀ call ∈ p.2.calls, call.FollowsCode
  /-- The calls that one command of the host causes are all of one direction. -/
  oneDirection : ∀ pre mid post t, cbs = pre ++ mid ++ post →
    HostCommand tasks ((controlSystem tasks).run d pre) t mid →
    ∀ p ∈ (controlSystem tasks).trace ((controlSystem tasks).run d pre) mid,
    ∀ q ∈ (controlSystem tasks).trace ((controlSystem tasks).run d pre) mid,
      p.1.transport = t → q.1.transport = t → ∀ call ∈ p.2.calls, ∀ call' ∈ q.2.calls,
        call.request.method = call'.request.method

/-- The length byte 0 arrives behind a read command code for a user task. -/
def ZeroLengthDispatch (d : Device σ) (cb : Callback) : Prop :=
  ∃ cb', cb = .i2c cb' ∧ ZeroLengthRead d.i2c cb' ∧ d.i2c.resid ≠ controlSpecialResid

/-! ### Calls follow the command code -/

/-- In the states that dispatch, the struct holds a command code of their direction. -/
structure Directed (d : Device σ) : Prop where
  i2c : d.i2c.state = .writeData → isControlCmdRead d.i2c.cmd = false
  spiWrite : d.spi.state = .writeCmdRecvd ∨ d.spi.state = .writeData →
    isControlCmdRead d.spi.cmd = false
  spiRead : d.spi.state = .readCmdRecvd ∨ d.spi.state = .readDataStart →
    isControlCmdRead d.spi.cmd = true

theorem Directed.boot (answers : List (List ControlResid)) (users : σ) :
    Directed (DeviceControl.boot answers users) where
  i2c := nofun
  spiWrite := nofun
  spiRead := nofun

/-- The I2C clause of `Directed` is preserved by the I2C transitions. -/
theorem Directed.i2cStep {d d' : Device σ} {cb : I2cCallback} {r : Reply} (h : Directed d)
    (h_step : I2cStep tasks d cb d' r) (h_data : d'.i2c.state = .writeData) :
    isControlCmdRead d'.i2c.cmd = false := by
  cases h_step with
  | lengthZero d₁ hs h₁ =>
    -- the dispatch leaves the machine in `I2C_WRITE_SIZE`
    rw [i2cWriteCommand, writeCommand_i2c, h₁] at h_data
    cases h_data
  | onlyByte b d₁ hs hc h1 h₁ =>
    -- the two rules for a first byte have looked at the code
    rw [i2cWriteCommand, writeCommand_i2c, h₁]
    exact hc
  | firstByte b hs hc => exact hc
  | lastByte b d₁ hs hne he h₁ =>
    -- in `I2C_WRITE_DATA` the code is not looked at again, and need not be
    rw [i2cWriteCommand, writeCommand_i2c, h₁]
    exact h.i2c hs
  | nextByte b hs => exact h.i2c hs
  -- rules that stay in a state other than `I2C_WRITE_DATA`
  | discard b hs => exact absurd (hs.symm.trans h_data) (by decide)
  | readRefused hs => exact absurd (hs.symm.trans h_data) (by decide)
  | readNext hs => exact absurd (hs.symm.trans h_data) (by decide)
  | _ => cases h_data

/-- The SPI clauses of `Directed` are preserved by the SPI transitions. -/
theorem Directed.spiStep {d d' : Device σ} {cb : SpiCallback} {r : Reply} (h : Directed d)
    (h_step : SpiStep tasks d cb d' r) :
    (d'.spi.state = .writeCmdRecvd ∨ d'.spi.state = .writeData →
        isControlCmdRead d'.spi.cmd = false) ∧
      (d'.spi.state = .readCmdRecvd ∨ d'.spi.state = .readDataStart →
        isControlCmdRead d'.spi.cmd = true) := by
  cases h_step with
  | cmd datum hs =>
    -- the state is chosen by the bit of the code that is stored
    dsimp only
    split
    · next hc => exact ⟨nofun, fun _ => hc⟩
    · next hc => exact ⟨fun _ => Bool.eq_false_iff.mpr hc, nofun⟩
  -- the length keeps the direction that the code has chosen
  | readLength datum hs => exact ⟨nofun, fun _ => h.spiRead (Or.inl hs)⟩
  | writeLength datum hs => exact ⟨fun _ => h.spiWrite (Or.inl hs), nofun⟩
  -- rules that write neither the state nor the code
  | requiresByte x hs => exact ⟨h.spiWrite, h.spiRead⟩
  | requiresQuiet => exact ⟨h.spiWrite, h.spiRead⟩
  | badBits => exact ⟨h.spiWrite, h.spiRead⟩
  | byte => exact ⟨h.spiWrite, h.spiRead⟩
  | count => exact ⟨h.spiWrite, h.spiRead⟩
  | ignore => exact ⟨h.spiWrite, h.spiRead⟩
  | _ => exact ⟨nofun, nofun⟩

/-- **Invariant preservation.** `Directed` is preserved by every callback. -/
theorem Directed.step {d : Device σ} (h : Directed d) (cb : Callback) :
    Directed ((controlSystem tasks).step d cb).1 := by
  obtain ⟨h_i2c, h_spi⟩ := step_clauses
    (P := fun i => i.state = .writeData → isControlCmdRead i.cmd = false)
    (Q := fun s =>
      (s.state = .writeCmdRecvd ∨ s.state = .writeData → isControlCmdRead s.cmd = false) ∧
        (s.state = .readCmdRecvd ∨ s.state = .readDataStart → isControlCmdRead s.cmd = true))
    h.i2c ⟨h.spiWrite, h.spiRead⟩ h.i2cStep h.spiStep cb
  exact ⟨h_i2c, h_spi.1, h_spi.2⟩

/-- A call for a write follows a write code, and a call for a read follows a read code. -/
theorem UserCall.followsCode_of {call : UserCall}
    (h : call.request.method = .write ∧ isControlCmdRead call.request.cmd = false ∨
      call.request.method = .read ∧ isControlCmdRead call.request.cmd = true) :
    call.FollowsCode := by
  rcases h with ⟨h_method, h_cmd⟩ | ⟨h_method, h_cmd⟩
  · exact iff_of_false (by rw [h_method]; decide) (by rw [h_cmd]; decide)
  · exact iff_of_true h_method h_cmd

/-- Every callback from a directed state that is no zero-length dispatch calls in the direction of
the command code. -/
theorem Directed.call {d : Device σ} (h : Directed d) {cb : Callback}
    (h_guard : ¬ ZeroLengthDispatch d cb) {call : UserCall}
    (h_call : call ∈ ((controlSystem tasks).step d cb).2.calls) : call.FollowsCode := by
  apply UserCall.followsCode_of
  rcases cb.kind with ⟨cb, rfl⟩ | ⟨cb, rfl⟩ | h_req
  · obtain ⟨-, h_from, h_dir⟩ := i2cStep_call (i2cStep_sound d cb) h_call
    rw [h_from.cmd]
    refine h_dir.imp (fun ⟨h_write, h_code⟩ => ⟨h_write, ?_⟩) id
    -- looked at just now, looked at with the first byte, or not at all
    rcases h_code with h_code | h_data | h_zero
    · exact h_code
    · exact h.i2c h_data
    · exact absurd ⟨cb, rfl, h_zero, h_from.ne_special⟩ h_guard
  · obtain ⟨-, h_from, h_dir⟩ := spiStep_call (spiStep_sound d cb) h_call
    rw [h_from.cmd]
    exact h_dir.imp (fun ⟨h_write, hs⟩ => ⟨h_write, h.spiWrite (Or.inr hs)⟩)
      fun ⟨h_read, hs⟩ => ⟨h_read, h.spiRead (Or.inr hs)⟩
  · -- the request functions look at the code before every call
    obtain ⟨ifnum, -, h_from, h_dir⟩ := requestStep_call (requestStep_sound _ h_req) h_call
    rw [h_from.cmd]
    exact h_dir

/-- A zero-length dispatch calls a user task for a write with a read command code. -/
theorem ZeroLengthDispatch.call {d : Device σ} {cb : Callback} (h : ZeroLengthDispatch d cb) :
    ∃ call ∈ ((controlSystem tasks).step d cb).2.calls, ¬ call.FollowsCode := by
  obtain ⟨_, rfl, ⟨hs, hc, rfl⟩, h_ne⟩ := h
  have h_step : ((controlSystem tasks).step d (.i2c (.writeData 0))).2
      = (i2cWriteCommand tasks (d.announced 0)).2 := by
    change (controlProcessI2cWriteData tasks 0 d).2 = _
    unfold controlProcessI2cWriteData i2cWriteData
    rw [hs]
    rfl
  have h_calls : (i2cWriteCommand tasks (d.announced 0)).2.calls = [_] :=
    calls_writeCommand tasks h_ne
  -- the code that the call carries is the read code in the struct
  rw [h_step, h_calls]
  refine ⟨_, List.mem_singleton_self _, fun h_follows => ?_⟩
  exact absurd (h_follows.mpr hc) nofun

/-! ### I2C frames -/

/-- The states of the I2C machine in which the command code is not about to change. -/
def I2cState.Decoded : I2cState → Prop
  | .writeStart => False
  | .writeResid => False
  | _ => True

/-- Up to the next write start the command code stays what it is. -/
theorem i2cStep_decoded {d d' : Device σ} {cb : I2cCallback} {r : Reply}
    (h : I2cStep tasks d cb d' r) (h_dec : d.i2c.state.Decoded) (h_cb : cb ≠ .writeStart) :
    d'.i2c.state.Decoded ∧ d'.i2c.cmd = d.i2c.cmd := by
  cases h with
  | start => exact absurd rfl h_cb
  | resid r ifnum hs =>
    -- the two rules that bring the code are excluded by the state
    rw [hs] at h_dec
    exact h_dec.elim
  | cmd c hs =>
    rw [hs] at h_dec
    exact h_dec.elim
  | lengthZero d₁ hs h₁ =>
    -- serving a command does not write the struct
    rw [i2cWriteCommand, writeCommand_i2c, h₁]
    exact ⟨trivial, rfl⟩
  | onlyByte b d₁ hs hc h1 h₁ =>
    rw [i2cWriteCommand, writeCommand_i2c, h₁]
    exact ⟨trivial, rfl⟩
  | lastByte b d₁ hs hne he h₁ =>
    rw [i2cWriteCommand, writeCommand_i2c, h₁]
    exact ⟨h_dec, rfl⟩
  | nextByte => exact ⟨h_dec, rfl⟩
  | discard => exact ⟨h_dec, rfl⟩
  | readRefused => exact ⟨h_dec, rfl⟩
  | readNext => exact ⟨h_dec, rfl⟩
  | _ => exact ⟨trivial, rfl⟩

/-- A callback that calls a user task arrives when the command code has been received. -/
theorem i2cStep_call_decoded {d d' : Device σ} {cb : I2cCallback} {r : Reply}
    (h : I2cStep tasks d cb d' r) {call : UserCall} (h_call : call ∈ r.calls) :
    d.i2c.state.Decoded ∧ cb ≠ .writeStart := by
  cases h with
  -- the rules that dispatch
  | lengthZero d₁ hs => exact ⟨by rw [hs]; trivial, nofun⟩
  | onlyByte b d₁ hs => exact ⟨by rw [hs]; trivial, nofun⟩
  | lastByte b d₁ hs => exact ⟨by rw [hs]; trivial, nofun⟩
  | readOk hs => exact ⟨by rw [hs]; trivial, nofun⟩
  | readRefused hs => exact ⟨by rw [hs]; trivial, nofun⟩
  | _ => exact absurd h_call List.not_mem_nil

/-- Once the command code has been received, all I2C calls up to the next write start carry it. -/
theorem cmd_of_decoded {d : Device σ} (h_dec : d.i2c.state.Decoded) {cbs : List Callback}
    (h_cbs : .i2c .writeStart ∉ cbs) :
    ∀ p ∈ (controlSystem tasks).trace d cbs, p.1.transport = .i2c → ∀ call ∈ p.2.calls,
      call.request.cmd = d.i2c.cmd := by
  have h_guard : (controlSystem tasks).EveryStep (fun _ cb => cb ≠ .i2c .writeStart) d cbs := by
    rw [Transducer.everyStep_iff]
    rintro pre cb post rfl rfl
    exact h_cbs (by simp)
  refine (controlSystem tasks).trace_guarded
    (P := fun d' => d'.i2c.state.Decoded ∧ d'.i2c.cmd = d.i2c.cmd)
    (Q := fun cb r => cb.transport = .i2c → ∀ call ∈ r.calls, call.request.cmd = d.i2c.cmd)
    ?_ ?_ ⟨h_dec, rfl⟩ h_guard
  · rintro d' cb ⟨h_dec', h_cmd⟩ h_ne
    by_cases h_cb : cb.transport = .i2c
    · obtain ⟨cb, rfl⟩ := Callback.eq_i2c h_cb
      have h_step : I2cStep tasks d' cb _ _ := i2cStep_sound d' cb
      have h_next := i2cStep_decoded h_step h_dec' fun h_eq => h_ne (congrArg _ h_eq)
      exact ⟨h_next.1, h_next.2.trans h_cmd⟩
    · rw [step_i2c_of_transport h_cb]
      exact ⟨h_dec', h_cmd⟩
  · rintro d' cb ⟨-, h_cmd⟩ - h_cb call h_call
    obtain ⟨cb, rfl⟩ := Callback.eq_i2c h_cb
    rw [(i2cStep_call (i2cStep_sound d' cb) h_call).2.1.cmd, h_cmd]

/-- All I2C calls up to the next write start carry one command code. -/
theorem exists_cmd_of_frame (d : Device σ) {cbs : List Callback}
    (h_cbs : .i2c .writeStart ∉ cbs) :
    ∃ c, ∀ p ∈ (controlSystem tasks).trace d cbs, p.1.transport = .i2c → ∀ call ∈ p.2.calls,
      call.request.cmd = c := by
  induction cbs generalizing d with
  | nil => exact ⟨0, List.forall_mem_nil _⟩
  | cons cb cbs ih =>
    rw [List.mem_cons, not_or] at h_cbs
    by_cases h_call : cb.transport = .i2c ∧ ∃ call, call ∈ ((controlSystem tasks).step d cb).2.calls
    · -- the first call: the code it carries is the one from here on
      obtain ⟨h_cb, call, h_call⟩ := h_call
      obtain ⟨i, rfl⟩ := Callback.eq_i2c h_cb
      have h_step : I2cStep tasks d i _ _ := i2cStep_sound d i
      obtain ⟨h_dec, h_ne⟩ := i2cStep_call_decoded h_step h_call
      have h_start : .i2c .writeStart ∉ .i2c i :: cbs := by
        rw [List.mem_cons, not_or]
        exact h_cbs
      exact ⟨d.i2c.cmd, cmd_of_decoded h_dec h_start⟩
    · -- no call yet
      obtain ⟨c, h_rest⟩ := ih ((controlSystem tasks).step d cb).1 h_cbs.2
      refine ⟨c, List.forall_mem_cons.mpr ⟨fun h_cb call h_mem => ?_, h_rest⟩⟩
      exact absurd ⟨h_cb, call, h_mem⟩ h_call

/-! ### SPI transactions -/

/-- A transaction from an idle machine has supplied `bs` so far: the struct is what was received,
or a read has been performed and waits for the end of the transaction. -/
def InTransaction (d : Device σ) (bs : List UInt8) : Prop :=
  d.spi = Spi.received d.table bs ∨ d.spi.state = .readDataWait

/-- The callbacks of other transports do not disturb a transaction. -/
theorem InTransaction.other {d : Device σ} {bs : List UInt8} (h : InTransaction d bs)
    {cb : Callback} (h_cb : cb.transport ≠ .spi) :
    InTransaction ((controlSystem tasks).step d cb).1 bs := by
  unfold InTransaction
  rw [step_spi_of_transport h_cb, step_table]
  exact h

/-- An item of the transaction adds its byte, which is zero where a read waits. -/
theorem InTransaction.step {d : Device σ} {bs : List UInt8} (h : InTransaction d bs) (x : SpiItem)
    (h_fill : FillsWithZero d (.spi x.callback)) :
    InTransaction ((spiSystem tasks).step d x.callback).1 (bs ++ x.byte?.toList) := by
  rcases h with h_rec | h_wait
  · have h_self : d.withSpi (Spi.received d.table bs) = d := by
      rw [← h_rec]
      rfl
    cases x with
    | supplied b =>
      -- `received` grows by the byte
      obtain ⟨reply, h_step, -⟩ := step_received tasks d bs (.supplied b) nofun
      rw [h_self] at h_step
      rw [h_step]
      exact Or.inl rfl
    | requires =>
      rw [SpiItem.byte?, Option.toList_none, List.append_nil]
      obtain ⟨-, h_data, -⟩ := Spi.received_state d.table bs
      rw [← h_rec] at h_data
      by_cases hs : d.spi.state = .readDataStart
      · -- the read is performed
        have h_step : (spiSystem tasks).step d SpiItem.requires.callback = _ :=
          step_requires_start tasks hs
        rw [h_step]
        exact Or.inr rfl
      · have h_step : (spiSystem tasks).step d SpiItem.requires.callback = _ :=
          step_requires_quiet tasks hs h_data
        rw [h_step]
        exact Or.inl h_rec
  · -- nothing happens while a read waits
    have h_zero : ∀ b ∈ suppliedBytes [x], b = 0 := by
      intro b hb
      cases x with
      | supplied b' =>
        obtain rfl := List.mem_singleton.mp hb
        exact UInt8.toUInt32_inj.mp (h_fill h_wait _ _ rfl)
      | requires => cases hb
    have h_run : ((spiSystem tasks).step d x.callback).1 = d := (trace_wait tasks h_wait h_zero).1
    rw [h_run]
    exact Or.inr h_wait

/-- A call in a transaction is of the direction of the command code that was supplied. -/
theorem InTransaction.call {d d' : Device σ} {bs : List UInt8} (h : InTransaction d bs)
    {cb : SpiCallback} {r : Reply} (h_step : SpiStep tasks d cb d' r) {call : UserCall}
    (h_call : call ∈ r.calls) :
    ∃ c, bs[1]? = some c ∧ (call.request.method = .read ↔ isControlCmdRead c = true) := by
  obtain ⟨-, -, ⟨h_write, hs⟩ | ⟨h_read, hs⟩⟩ := spiStep_call h_step h_call
  · -- a write is dispatched from what was received
    rcases h with h_rec | h_wait
    · rw [h_rec] at hs
      obtain ⟨r, c, n, ps, ifnum, rfl, -, hc, -⟩ := Spi.received_writeData hs
      exact ⟨c, rfl, iff_of_false (by rw [h_write]; decide) (by rw [hc]; decide)⟩
    · exact absurd (h_wait.symm.trans hs) (by decide)
  · rcases h with h_rec | h_wait
    · rw [h_rec] at hs
      obtain ⟨r, c, n, ps, rfl, hc⟩ := (Spi.received_state d.table bs).2.2 hs
      exact ⟨c, rfl, iff_of_true h_read hc⟩
    · exact absurd (h_wait.symm.trans hs) (by decide)

/-- No callback of a list is one of SPI. -/
theorem not_spi_of_filterMap_eq_nil {cbs : List Callback}
    (h : cbs.filterMap Callback.spi? = []) : ∀ cb ∈ cbs, cb.transport ≠ .spi := by
  intro cb h_mem h_cb
  obtain ⟨c, rfl⟩ := Callback.eq_spi h_cb
  exact absurd (List.filterMap_eq_nil_iff.mp h _ h_mem) nofun

/-- **The transaction run.** All SPI calls of a transaction are of the direction of its command
code, whatever comes in between. -/
theorem InTransaction.run {d : Device σ} {bs : List UInt8} (h : InTransaction d bs)
    {items : List SpiItem} {cbs : List Callback}
    (h_cbs : cbs.filterMap Callback.spi? <+: spiTransaction items)
    (h_fill : (controlSystem tasks).EveryStep FillsWithZero d cbs) :
    ∀ p ∈ (controlSystem tasks).trace d cbs, p.1.transport = .spi → ∀ call ∈ p.2.calls,
      ∃ c, (bs ++ suppliedBytes items)[1]? = some c ∧
        (call.request.method = .read ↔ isControlCmdRead c = true) := by
  induction cbs generalizing d bs items with
  | nil => exact List.forall_mem_nil _
  | cons cb cbs ih =>
    by_cases h_cb : cb.transport = .spi
    · obtain ⟨cb, rfl⟩ := Callback.eq_spi h_cb
      -- the callback itself, and then those behind it
      have h_head : ∀ call ∈ ((spiSystem tasks).step d cb).2.calls,
          ∃ c, (bs ++ suppliedBytes items)[1]? = some c ∧
            (call.request.method = .read ↔ isControlCmdRead c = true) := by
        intro call h_call
        obtain ⟨c, hc, h_iff⟩ := h.call (spiStep_sound d cb) h_call
        exact ⟨c, List.getElem?_append_left (List.getElem?_eq_some_iff.mp hc).1 ▸ hc, h_iff⟩
      refine List.forall_mem_cons.mpr ⟨fun _ => h_head, ?_⟩
      have h_cons : (Callback.spi cb :: cbs).filterMap Callback.spi?
          = cb :: cbs.filterMap Callback.spi? := List.filterMap_cons_some rfl
      rw [h_cons] at h_cbs
      cases items with
      | nil =>
        -- the end of the transaction, and no SPI callback after it
        obtain ⟨-, h_rest⟩ := List.cons_prefix_cons.mp h_cbs
        have h_none := not_spi_of_filterMap_eq_nil (List.prefix_nil.mp h_rest)
        intro p hp h_p
        have h_mem : p.1 ∈ cbs := by
          rw [← (controlSystem tasks).map_fst_trace ((controlSystem tasks).step d (.spi cb)).1 cbs]
          exact List.mem_map_of_mem hp
        exact absurd h_p (h_none _ h_mem)
      | cons x items =>
        -- the item of this callback moves over to the bytes supplied
        obtain ⟨rfl, h_rest⟩ := List.cons_prefix_cons.mp h_cbs
        have h_bytes : bs ++ suppliedBytes (x :: items)
            = bs ++ x.byte?.toList ++ suppliedBytes items := by
          rw [List.append_assoc]
          cases x <;> rfl
        rw [h_bytes]
        exact ih (h.step x h_fill.1) h_rest h_fill.2
    · -- a callback of another transport
      rw [List.filterMap_cons_none (Callback.spi?_eq_none h_cb)] at h_cbs
      exact List.forall_mem_cons.mpr ⟨fun h_p => absurd h_p h_cb, ih (h.other h_cb) h_cbs h_fill.2⟩

/-- Only the end of a transaction leaves the state in which the data of a read is delivered. -/
theorem spiStep_readData {d d' : Device σ} {cb : SpiCallback} {r : Reply}
    (h : SpiStep tasks d cb d' r) (hs : d.spi.state = .readData)
    (h_cb : cb ≠ .masterEndsTransaction) : d'.spi.state = .readData := by
  cases h with
  | requiresByte => exact hs
  | requiresQuiet => exact hs
  | badBits => exact hs
  | ignore => exact hs
  -- the rules for other states
  | requiresDispatch hs' => exact absurd (hs'.symm.trans hs) (by decide)
  | residUnknown datum ho => exact absurd hs (by rcases ho with h | h <;> simp [h])
  | resid datum ifnum ho => exact absurd hs (by rcases ho with h | h <;> simp [h])
  | cmd datum hs' => exact absurd (hs'.symm.trans hs) (by decide)
  | readLength datum hs' => exact absurd (hs'.symm.trans hs) (by decide)
  | writeLength datum hs' => exact absurd (hs'.symm.trans hs) (by decide)
  | byte datum hs' => exact absurd (hs'.symm.trans hs) (by decide)
  | excess datum hs' => exact absurd (hs'.symm.trans hs) (by decide)
  | count datum hs' => exact absurd (hs'.symm.trans hs) (by decide)
  | _ => exact absurd rfl h_cb

/-- The second transaction of a read calls nobody. -/
theorem calls_second {d : Device σ} (hs : d.spi.state = .readData) {cbs : List Callback}
    (h_cbs : ∀ pre post, cbs = pre ++ .spi .masterEndsTransaction :: post → post = []) :
    ∀ p ∈ (controlSystem tasks).trace d cbs, p.1.transport = .spi → p.2.calls = [] := by
  intro p hp h_p
  obtain ⟨pre, post, rfl, h_reply⟩ := (controlSystem tasks).mem_trace.mp hp
  -- the transaction has not ended before the callback
  have h_open : (controlSystem tasks).EveryStep
      (fun _ cb => cb ≠ .spi .masterEndsTransaction) d pre := by
    rw [Transducer.everyStep_iff]
    rintro before cb after rfl rfl
    exact absurd (h_cbs before (after ++ p.1 :: post) (by simp)) (by simp)
  have h_state : ((controlSystem tasks).run d pre).spi.state = .readData := by
    refine (controlSystem tasks).run_guarded (P := fun d => d.spi.state = .readData) ?_ hs h_open
    intro d cb hs h_ne
    by_cases h_cb : cb.transport = .spi
    · obtain ⟨cb, rfl⟩ := Callback.eq_spi h_cb
      exact spiStep_readData (spiStep_sound d cb) hs fun h_eq => h_ne (congrArg _ h_eq)
    · rw [step_spi_of_transport h_cb]
      exact hs
  obtain ⟨cb, h_eq⟩ := Callback.eq_spi h_p
  rw [h_reply, h_eq]
  -- a call is made in `SPI_WRITE_DATA` or `SPI_READ_DATA_START` only
  refine List.eq_nil_iff_forall_not_mem.mpr fun call h_call => ?_
  obtain ⟨-, -, h_dir⟩ := spiStep_call (spiStep_sound _ cb) h_call
  rw [h_state] at h_dir
  rcases h_dir with ⟨-, h_eq⟩ | ⟨-, h_eq⟩
  · cases h_eq
  · cases h_eq

/-! ### Whole runs -/

/-- **One command, one direction.** The calls that a command of the host causes are all reads, or
none of them is. -/
theorem HostCommand.exists_isRead {answers : List (List ControlResid)} {d : Device σ}
    (h_reach : Reachable tasks answers d) {t : Transport} {mid : List Callback}
    (h : HostCommand tasks d t mid)
    (h_follows : ∀ p ∈ (controlSystem tasks).trace d mid, ∀ call ∈ p.2.calls, call.FollowsCode) :
    ∃ isRead : Prop, ∀ p ∈ (controlSystem tasks).trace d mid, p.1.transport = t →
      ∀ call ∈ p.2.calls, (call.request.method = .read ↔ isRead) := by
  -- on SPI the direction is that of the second byte supplied
  have h_spi {items : List SpiItem} {cbs : List Callback} (h_idle : d.spi.state = .idle)
      (h_fill : (controlSystem tasks).EveryStep FillsWithZero d cbs)
      (h_cbs : cbs.filterMap Callback.spi? <+: DeviceControl.spiTransaction items) :
      ∀ p ∈ (controlSystem tasks).trace d cbs, p.1.transport = .spi → ∀ call ∈ p.2.calls,
        (call.request.method = .read ↔
          ∃ c, (suppliedBytes items)[1]? = some c ∧ isControlCmdRead c = true) := by
    intro p hp h_p call h_call
    have h_start : InTransaction d [] := Or.inl (h_reach.spi_zero_of_idle h_idle)
    obtain ⟨c, hc, h_iff⟩ := h_start.run h_cbs h_fill p hp h_p call h_call
    rw [List.nil_append] at hc
    rw [h_iff, hc]
    simp
  cases h with
  | i2cFrame rest h_start =>
    have h_begin : ((controlSystem tasks).step d (.i2c .writeStart)).2.calls = [] := rfl
    obtain ⟨c, h_rest⟩ := exists_cmd_of_frame ((controlSystem tasks).step d _).1 h_start
    refine ⟨isControlCmdRead c = true, fun p hp h_p call h_call => ?_⟩
    -- the calls of one frame carry one code, so they have its direction
    have h_cmd : call.request.cmd = c := by
      rcases List.mem_cons.mp hp with rfl | hp'
      · rw [h_begin] at h_call
        cases h_call
      · exact h_rest p hp' h_p call h_call
    rw [← h_cmd]
    exact h_follows p hp call h_call
  | spiTransaction items mid h_idle h_fill h_cbs => exact ⟨_, h_spi h_idle h_fill h_cbs⟩
  | spiRead items first second h_idle h_fill h_first h_read h_second =>
    -- the read is dispatched in the first transaction, and nothing in the second
    refine ⟨∃ c, (suppliedBytes items)[1]? = some c ∧ isControlCmdRead c = true, ?_⟩
    rw [Transducer.trace_append]
    refine List.forall_mem_append.mpr ⟨h_spi h_idle h_fill (by rw [h_first]), ?_⟩
    intro p hp h_p call h_call
    rw [calls_second h_read h_second p hp h_p] at h_call
    cases h_call
  | request cb h_req =>
    refine ⟨isControlCmdRead cb.requestFields.2 = true, fun p hp h_p call h_call => ?_⟩
    obtain rfl := List.mem_singleton.mp hp
    obtain ⟨ifnum, -, h_from, -⟩ := requestStep_call (requestStep_sound _ h_req) h_call
    rw [← h_from.cmd]
    exact h_follows _ hp call h_call

/-- **Command direction.** A run from the initial state respects the direction of commands exactly
if none of its callbacks is a zero-length dispatch. -/
theorem directionRespected_iff (answers : List (List ControlResid)) (users : σ)
    (cbs : List Callback) :
    DirectionRespected tasks (boot answers users) cbs ↔
      (controlSystem tasks).EveryStep (fun d cb => ¬ ZeroLengthDispatch d cb) (boot answers users)
        cbs := by
  constructor
  · intro h
    rw [Transducer.everyStep_iff]
    rintro pre cb post rfl h_zero
    set d := (controlSystem tasks).run (boot answers users) pre with h_d
    have h_mem : (cb, ((controlSystem tasks).step d cb).2)
        ∈ (controlSystem tasks).trace (boot answers users) (pre ++ cb :: post) :=
      (controlSystem tasks).mem_trace.mpr ⟨pre, post, rfl, by rw [h_d]⟩
    -- the call of the zero-length dispatch breaks the direction
    obtain ⟨call, h_call, h_not⟩ : ∃ call ∈ ((controlSystem tasks).step d cb).2.calls,
        ¬ call.FollowsCode := h_zero.call
    exact h_not (h.followsCode _ h_mem call h_call)
  · intro h_guard
    -- without one, `Directed` holds along the run
    have h_follows : ∀ p ∈ (controlSystem tasks).trace (boot answers users) cbs,
        ∀ call ∈ p.2.calls, call.FollowsCode :=
      (controlSystem tasks).trace_guarded (P := Directed)
        (Q := fun _ r => ∀ call ∈ r.calls, call.FollowsCode) (fun d cb h _ => h.step cb)
        (fun d cb h h_step _ h_call => h.call h_step h_call) (Directed.boot answers users) h_guard
    refine ⟨h_follows, ?_⟩
    rintro pre mid post t rfl h_cmd p hp q hq h_p h_q call h_call call' h_call'
    -- the calls of one command are counted from the state in which it begins
    have h_reach : Reachable tasks answers ((controlSystem tasks).run (boot answers users) pre) :=
      (reachable_boot answers users).run pre
    obtain ⟨isRead, h_all⟩ := h_cmd.exists_isRead h_reach fun p hp => h_follows p (by
      rw [Transducer.trace_append, Transducer.trace_append]
      exact List.mem_append_left _ (List.mem_append_right _ hp))
    have h_iff := (h_all p hp h_p call h_call).trans (h_all q hq h_q call' h_call').symm
    cases h_method : call.request.method with
    | read => exact (h_iff.mp h_method).symm
    | write =>
      cases h_method' : call'.request.method with
      | read => exact absurd (h_iff.mpr h_method') (by rw [h_method]; decide)
      | write => rfl

/-- The header of a read of no bytes, and the read start after it: the user task is called for a
write with the read command code, and for the read. -/
theorem zeroLength_read_calls_write :
    let tasks : UserTasks Unit := .always controlSuccess []
    let cbs : List Callback := [.i2c .writeStart, .i2c (.writeData 3), .i2c (.writeData 0x85),
      .i2c (.writeData 0), .i2c .readStart]
    ((controlSystem tasks).trace (boot [[3]] ()) cbs).flatMap (fun p => p.2.calls.map (·.request))
        = [writeRequest 0 3 0x85 [], readRequest 0 3 0x85 0] ∧
      HostCommand tasks (boot [[3]] ()) .i2c cbs ∧
      ¬ DirectionRespected tasks (boot [[3]] ()) cbs := by
  intro tasks cbs
  refine ⟨by decide +kernel, .i2cFrame _ (by simp), fun h => ?_⟩
  have h_bad : ¬ ∀ p ∈ (controlSystem tasks).trace (boot [[3]] ()) cbs, ∀ call ∈ p.2.calls,
      call.FollowsCode := by decide +kernel
  exact h_bad h.followsCode

end DeviceControl
