import DeviceControl.Control.I2c
import DeviceControl.Control.Spi
import DeviceControl.Control.Request

/-!
# The device as a system

All callbacks of all transports, in any order, from the state after the registration. `boot` is
that state and `Reachable` collects the states of all runs from it.

The transports share the resource table, the recorded status and the user tasks, and nothing else:
the frame lemmas say that no callback writes the table, and that `i2c` and `spi` are each written
by the callbacks of their own transport only. `spi_zero_of_idle` is the first invariant of whole
runs: the SPI struct is all zero whenever it is idle, so no byte of an earlier command is left in
it.
-/

namespace DeviceControl

variable {σ : Type} (tasks : UserTasks σ)

/-- A call of one of the processing functions, with its arguments. -/
inductive Callback where
  | i2c (cb : I2cCallback)
  | spi (cb : SpiCallback)
  | usbSetRequest (windex wvalue wlength : UInt16) {n : ℕ} (requestData : Buffer UInt8 n)
  | usbGetRequest (windex wvalue wlength : UInt16) {n : ℕ} (requestData : Buffer UInt8 n)
  | xscopeUpload (buf : XscopeBuffer) (bufSize lengthIn : ℕ)

/-- The transports of the library. -/
inductive Transport where
  | i2c
  | spi
  | usb
  | xscope
  deriving DecidableEq, Repr

/-- The transport that a callback belongs to. -/
def Callback.transport : Callback → Transport
  | .i2c _ => .i2c
  | .spi _ => .spi
  | .usbSetRequest .. => .usb
  | .usbGetRequest .. => .usb
  | .xscopeUpload .. => .xscope

/-- The SPI callback, where it is one. -/
def Callback.spi? : Callback → Option SpiCallback
  | .spi cb => some cb
  | _ => none

theorem Callback.eq_i2c {cb : Callback} (h : cb.transport = .i2c) : ∃ c, cb = .i2c c := by
  cases cb with
  | i2c c => exact ⟨c, rfl⟩
  | _ => cases h

theorem Callback.eq_spi {cb : Callback} (h : cb.transport = .spi) : ∃ c, cb = .spi c := by
  cases cb with
  | spi c => exact ⟨c, rfl⟩
  | _ => cases h

theorem Callback.spi?_eq_none {cb : Callback} (h : cb.transport ≠ .spi) : cb.spi? = none := by
  cases cb with
  | spi c => exact absurd rfl h
  | _ => rfl

/-- The device under the callbacks of all transports. -/
def controlSystem : Transducer (Device σ) Callback Reply where
  step d
    | .i2c cb => (i2cSystem tasks).step d cb
    | .spi cb => (spiSystem tasks).step d cb
    | .usbSetRequest windex wvalue wlength requestData =>
      controlProcessUsbSetRequest tasks windex wvalue wlength requestData d
    | .usbGetRequest windex wvalue wlength requestData =>
      controlProcessUsbGetRequest tasks windex wvalue wlength requestData d
    | .xscopeUpload buf bufSize lengthIn =>
      controlProcessXscopeUpload tasks buf bufSize lengthIn d

/-- The device after `control_init` and `control_register_resources`. All other static data is as
the program starts with it, and interface `j` has reported `answers[j]`. -/
def boot (answers : List (List ControlResid)) (users : σ) : Device σ where
  table := registeredTable answers
  lastStatus := 0
  i2c := I2c.initial
  spi := Spi.zero
  users := users

/-- The states of the runs from `boot`. -/
def Reachable (answers : List (List ControlResid)) (d : Device σ) : Prop :=
  ∃ users cbs, d = (controlSystem tasks).run (boot answers users) cbs

variable {tasks}

theorem run_i2c (d : Device σ) (cbs : List I2cCallback) :
    (controlSystem tasks).run d (cbs.map .i2c) = (i2cSystem tasks).run d cbs :=
  ((controlSystem tasks).run_comap .i2c d cbs).symm

theorem run_spi (d : Device σ) (cbs : List SpiCallback) :
    (controlSystem tasks).run d (cbs.map .spi) = (spiSystem tasks).run d cbs :=
  ((controlSystem tasks).run_comap .spi d cbs).symm

theorem trace_i2c (d : Device σ) (cbs : List I2cCallback) :
    (controlSystem tasks).trace d (cbs.map .i2c)
      = ((i2cSystem tasks).trace d cbs).map fun p => (.i2c p.1, p.2) :=
  (controlSystem tasks).trace_comap .i2c d cbs

theorem trace_spi (d : Device σ) (cbs : List SpiCallback) :
    (controlSystem tasks).trace d (cbs.map .spi)
      = ((spiSystem tasks).trace d cbs).map fun p => (.spi p.1, p.2) :=
  (controlSystem tasks).trace_comap .spi d cbs

/-! ### Reachable states -/

theorem reachable_boot (answers : List (List ControlResid)) (users : σ) :
    Reachable tasks answers (boot answers users) :=
  ⟨users, [], rfl⟩

theorem Reachable.run {answers : List (List ControlResid)} {d : Device σ}
    (h : Reachable tasks answers d) (cbs : List Callback) :
    Reachable tasks answers ((controlSystem tasks).run d cbs) := by
  obtain ⟨users, before, rfl⟩ := h
  exact ⟨users, before ++ cbs, ((controlSystem tasks).run_append _ _ _).symm⟩

theorem Reachable.run_i2c {answers : List (List ControlResid)} {d : Device σ}
    (h : Reachable tasks answers d) (cbs : List I2cCallback) :
    Reachable tasks answers ((i2cSystem tasks).run d cbs) := by
  rw [← DeviceControl.run_i2c]
  exact h.run _

theorem Reachable.run_spi {answers : List (List ControlResid)} {d : Device σ}
    (h : Reachable tasks answers d) (cbs : List SpiCallback) :
    Reachable tasks answers ((spiSystem tasks).run d cbs) := by
  rw [← DeviceControl.run_spi]
  exact h.run _

/-- The induction rule for reachable states. -/
theorem Reachable.induction {answers : List (List ControlResid)} {P : Device σ → Prop}
    (h_boot : ∀ users, P (boot answers users))
    (h_step : ∀ d cb, P d → P ((controlSystem tasks).step d cb).1)
    {d : Device σ} (h : Reachable tasks answers d) : P d := by
  obtain ⟨users, cbs, rfl⟩ := h
  exact (controlSystem tasks).run_invariant h_step (h_boot users) cbs

/-! ### Frames -/

theorem i2cStep_table {d d' : Device σ} {cb : I2cCallback} {r : Reply}
    (h : I2cStep tasks d cb d' r) : d'.table = d.table := by
  cases h with
  -- the rules that dispatch: the command functions write the status and the users only
  | lengthZero d₁ hs h₁ => rw [i2cWriteCommand, writeCommand_table, h₁]
  | onlyByte b d₁ hs hc h1 h₁ => rw [i2cWriteCommand, writeCommand_table, h₁]
  | lastByte b d₁ hs hne he h₁ => rw [i2cWriteCommand, writeCommand_table, h₁]
  | readOk hs hc ho => exact readCommand_table ..
  | readRefused hs hc ho => exact readCommand_table ..
  | _ => rfl

theorem i2cStep_spi {d d' : Device σ} {cb : I2cCallback} {r : Reply}
    (h : I2cStep tasks d cb d' r) : d'.spi = d.spi := by
  cases h with
  | lengthZero d₁ hs h₁ => rw [i2cWriteCommand, writeCommand_spi, h₁]
  | onlyByte b d₁ hs hc h1 h₁ => rw [i2cWriteCommand, writeCommand_spi, h₁]
  | lastByte b d₁ hs hne he h₁ => rw [i2cWriteCommand, writeCommand_spi, h₁]
  | readOk hs hc ho => exact readCommand_spi ..
  | readRefused hs hc ho => exact readCommand_spi ..
  | _ => rfl

theorem spiStep_table {d d' : Device σ} {cb : SpiCallback} {r : Reply}
    (h : SpiStep tasks d cb d' r) : d'.table = d.table := by
  cases h with
  -- the two rules that dispatch
  | endsDispatch hs hk => exact writeCommand_table ..
  | requiresDispatch hs => exact readCommand_table ..
  | _ => rfl

theorem spiStep_i2c {d d' : Device σ} {cb : SpiCallback} {r : Reply}
    (h : SpiStep tasks d cb d' r) : d'.i2c = d.i2c := by
  cases h with
  | endsDispatch hs hk => exact writeCommand_i2c ..
  | requiresDispatch hs => exact readCommand_i2c ..
  | _ => rfl

/-- A USB or xSCOPE callback. -/
def Callback.IsRequest : Callback → Prop
  | .i2c _ => False
  | .spi _ => False
  | _ => True

theorem Callback.kind (cb : Callback) :
    (∃ c, cb = .i2c c) ∨ (∃ c, cb = .spi c) ∨ cb.IsRequest := by
  cases cb with
  | i2c c => exact Or.inl ⟨c, rfl⟩
  | spi c => exact Or.inr (Or.inl ⟨c, rfl⟩)
  | _ => exact Or.inr (Or.inr trivial)

/-- The resource and the command code of a USB or xSCOPE callback. -/
def Callback.requestFields : Callback → ControlResid × ControlCmd
  | .usbSetRequest windex wvalue _ _ => (windex.toUInt8, wvalue.toUInt8)
  | .usbGetRequest windex wvalue _ _ => (windex.toUInt8, wvalue.toUInt8)
  | .xscopeUpload buf _ _ => (buf.resid, buf.cmd)
  | _ => (0, 0)

theorem requestStep_sound (d : Device σ) {cb : Callback} (h : cb.IsRequest) :
    RequestStep tasks d cb.requestFields.1 cb.requestFields.2
      ((controlSystem tasks).step d cb).1 ((controlSystem tasks).step d cb).2 := by
  cases cb with
  | i2c cb => exact h.elim
  | spi cb => exact h.elim
  | usbSetRequest windex wvalue wlength requestData => exact usbSetRequest_sound ..
  | usbGetRequest windex wvalue wlength requestData => exact usbGetRequest_sound ..
  | xscopeUpload buf bufSize lengthIn => exact xscopeUpload_sound buf bufSize lengthIn d

/-- The callbacks of other transports leave the I2C struct alone. -/
theorem step_i2c_of_transport {d : Device σ} {cb : Callback} (h : cb.transport ≠ .i2c) :
    ((controlSystem tasks).step d cb).1.i2c = d.i2c := by
  rcases cb.kind with ⟨cb, rfl⟩ | ⟨cb, rfl⟩ | h_req
  · exact absurd rfl h
  · exact spiStep_i2c (spiStep_sound d cb)
  · exact (requestStep_sound d h_req).frame.2.1

/-- The callbacks of other transports leave the SPI struct alone. -/
theorem step_spi_of_transport {d : Device σ} {cb : Callback} (h : cb.transport ≠ .spi) :
    ((controlSystem tasks).step d cb).1.spi = d.spi := by
  rcases cb.kind with ⟨cb, rfl⟩ | ⟨cb, rfl⟩ | h_req
  · exact i2cStep_spi (i2cStep_sound d cb)
  · exact absurd rfl h
  · exact (requestStep_sound d h_req).frame.2.2

/-- **Clause by clause.** What the I2C transitions from `d` make true of the I2C struct, and the SPI
transitions of the SPI struct, every callback makes true of both, if it is true before. -/
theorem step_clauses {d : Device σ} {P : I2c → Prop} {Q : Spi → Prop} (h_i2c : P d.i2c)
    (h_spi : Q d.spi) (h_i2cStep : ∀ {cb d' r}, I2cStep tasks d cb d' r → P d'.i2c)
    (h_spiStep : ∀ {cb d' r}, SpiStep tasks d cb d' r → Q d'.spi) (cb : Callback) :
    P ((controlSystem tasks).step d cb).1.i2c ∧ Q ((controlSystem tasks).step d cb).1.spi := by
  rcases cb.kind with ⟨cb, rfl⟩ | ⟨cb, rfl⟩ | h_req
  · have h_step : I2cStep tasks d cb _ _ := i2cStep_sound d cb
    have h_frame : ((controlSystem tasks).step d (.i2c cb)).1.spi = d.spi := i2cStep_spi h_step
    exact ⟨h_i2cStep h_step, by rw [h_frame]; exact h_spi⟩
  · have h_step : SpiStep tasks d cb _ _ := spiStep_sound d cb
    have h_frame : ((controlSystem tasks).step d (.spi cb)).1.i2c = d.i2c := spiStep_i2c h_step
    exact ⟨by rw [h_frame]; exact h_i2c, h_spiStep h_step⟩
  · obtain ⟨-, h_frame, h_frame'⟩ := (requestStep_sound d h_req).frame
    exact ⟨by rw [h_frame]; exact h_i2c, by rw [h_frame']; exact h_spi⟩

/-- No callback writes the resource table. -/
theorem step_table (d : Device σ) (cb : Callback) :
    ((controlSystem tasks).step d cb).1.table = d.table := by
  rcases cb.kind with ⟨cb, rfl⟩ | ⟨cb, rfl⟩ | h_req
  · exact i2cStep_table (i2cStep_sound d cb)
  · exact spiStep_table (spiStep_sound d cb)
  · exact (requestStep_sound d h_req).frame.1

theorem Reachable.table {answers : List (List ControlResid)} {d : Device σ}
    (h : Reachable tasks answers d) : d.table = registeredTable answers :=
  h.induction (P := fun d => d.table = registeredTable answers) (fun _ => rfl)
    fun d cb ih => (step_table d cb).trans ih

theorem Reachable.reserves {answers : List (List ControlResid)} {d : Device σ}
    (h : Reachable tasks answers d) : d.table.Reserves := by
  rw [h.table]
  exact registeredTable_reserves answers

/-! ### Idle SPI is zero -/

/-- Every SPI transition into `SPI_IDLE` clears the struct. -/
theorem spiStep_zero {d d' : Device σ} {cb : SpiCallback} {r : Reply}
    (h : SpiStep tasks d cb d' r) (h_zero : d.spi.state = .idle → d.spi = Spi.zero)
    (h_idle : d'.spi.state = .idle) : d'.spi = Spi.zero := by
  cases h with
  -- the ends of a transaction, other than behind a performed read, go through `spi_reset`
  | endsShort => rfl
  | endsDispatch => rfl
  | endsReset => rfl
  | endsWait => cases h_idle
  | requiresDispatch => cases h_idle
  -- rules that stay in a state other than `SPI_IDLE`
  | requiresByte x hs => exact absurd (hs.symm.trans h_idle) (by decide)
  -- rules that leave the struct alone
  | requiresQuiet => exact h_zero h_idle
  | badBits => exact h_zero h_idle
  | residUnknown => cases h_idle
  | resid => cases h_idle
  | cmd datum hs =>
    dsimp only at h_idle
    split at h_idle <;> cases h_idle
  | readLength => cases h_idle
  | writeLength => cases h_idle
  | byte datum hs => exact absurd (hs.symm.trans h_idle) (by decide)
  | excess => cases h_idle
  | count datum hs => exact absurd (hs.symm.trans h_idle) (by decide)
  | ignore => exact h_zero h_idle

/-- **Idle SPI is zero.** In every reachable state the SPI struct is all zero when it is idle. -/
theorem Reachable.spi_zero_of_idle {answers : List (List ControlResid)} {d : Device σ}
    (h : Reachable tasks answers d) (h_idle : d.spi.state = .idle) : d.spi = Spi.zero := by
  -- the boot state is idle with all fields zero
  refine h.induction (P := fun d => d.spi.state = .idle → d.spi = Spi.zero) (fun _ _ => rfl) ?_
    h_idle
  intro d cb ih
  exact (step_clauses (P := fun _ => True) (Q := fun s => s.state = .idle → s = Spi.zero) trivial ih
    (fun _ => trivial) (fun h_step => spiStep_zero h_step ih) cb).2

end DeviceControl
