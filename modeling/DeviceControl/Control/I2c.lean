import DeviceControl.Control.Device
import DeviceControl.Library.Transducer

/-!
# The I2C processing functions

The five callbacks of the I2C slave, as `control.xc` serves them, and the system they make
together, `i2cSystem`.

The functions are written state by state, as the source is. `I2cStep` lists the same transitions
as rules: what state a rule needs, what it stores, whom it calls. `i2cStep_sound` says that every
callback is one of its rules, and the invariants of the I2C modules are proved by cases on it.
The rule `reject` stands for all the branches that give a command up: none of them calls anybody or
touches the payload, and all of them leave the machine in `I2C_ERROR`.
-/

namespace DeviceControl

variable {σ : Type} (tasks : UserTasks σ)

/-- A callback of the I2C slave. -/
inductive I2cCallback where
  | writeStart
  | writeData (data : UInt8)
  | readStart
  | readData
  | stop
  deriving DecidableEq, Repr

/-! ### The functions -/

/-- `control_process_i2c_write_start`. -/
def controlProcessI2cWriteStart (d : Device σ) : Device σ × Reply :=
  -- always start a new command
  ({ d with i2c := { d.i2c with state := .writeStart } }, { ret := controlSuccess })

/-- The call of `write_command` at the three dispatch points of
`control_process_i2c_write_data`. -/
def i2cWriteCommand (d : Device σ) : Device σ × Reply :=
  writeCommand tasks d d.i2c.ifnum d.i2c.resid d.i2c.cmd d.i2c.payload d.i2c.payloadLenTransmitted

/-- The body of `control_process_i2c_write_data`, up to the assignment of `last_status`. -/
def i2cWriteData (data : UInt8) (d : Device σ) : Device σ × Reply :=
  match d.i2c.state with
  | .writeStart =>
    match resourceTableSearch d.table data with
    | none => ({ d with i2c := { d.i2c with state := .error } }, { ret := controlBadCommand })
    | some ifnum =>
      ({ d with i2c := { d.i2c with resid := data, ifnum := ifnum, state := .writeResid } },
        { ret := controlSuccess })
  | .writeResid =>
    ({ d with i2c := { d.i2c with cmd := data, state := .writeCmd } }, { ret := controlSuccess })
  | .writeCmd =>
    if i2cDataMaxBytes < data.toNat then
      ({ d with i2c := { d.i2c with state := .error } }, { ret := controlBadCommand })
    else
      let d := { d with i2c := { d.i2c with
        payloadLenFromHeader := data.toNat, payloadLenTransmitted := 0, state := .writeSize } }
      if d.i2c.payloadLenFromHeader = 0 then i2cWriteCommand tasks d
      else (d, { ret := controlSuccess })
  | .writeSize =>
    if isControlCmdRead d.i2c.cmd then
      ({ d with i2c := { d.i2c with state := .error } }, { ret := controlOtherTransportError })
    else
      let d := { d with i2c := { d.i2c with
        payload := d.i2c.payload.store 0 data, payloadLenTransmitted := 1, state := .writeData } }
      if d.i2c.payloadLenFromHeader = 1 then
        ((i2cWriteCommand tasks d).1, (i2cWriteCommand tasks d).2.touch 0)
      else (d, { ret := controlSuccess, accesses := [0] })
  | .writeData =>
    if d.i2c.payloadLenTransmitted = d.i2c.payloadLenFromHeader then
      -- exceeded expected write data length, discarding rest of data
      ({ d with i2c := { d.i2c with state := .writeOverflow } }, { ret := controlDataLengthError })
    else
      let k := d.i2c.payloadLenTransmitted
      let d := { d with i2c := { d.i2c with
        payload := d.i2c.payload.store k data, payloadLenTransmitted := incr k } }
      if d.i2c.payloadLenTransmitted = d.i2c.payloadLenFromHeader then
        ((i2cWriteCommand tasks d).1, (i2cWriteCommand tasks d).2.touch k)
      else (d, { ret := controlSuccess, accesses := [k] })
  | .writeOverflow => (d, { ret := controlSuccess })
  | _ => ({ d with i2c := { d.i2c with state := .error } }, { ret := controlError })

/-- `control_process_i2c_write_data`. -/
def controlProcessI2cWriteData (data : UInt8) (d : Device σ) : Device σ × Reply :=
  let r := i2cWriteData tasks data d
  ({ r.1 with lastStatus := r.2.ret }, r.2)

/-- The call of `read_command` in `control_process_i2c_read_start`. -/
def i2cReadCommand (d : Device σ) : ReadResult σ i2cDataMaxBytes :=
  readCommand tasks d d.i2c.ifnum d.i2c.resid d.i2c.cmd d.i2c.payload d.i2c.payloadLenFromHeader

/-- `control_process_i2c_read_start`. -/
def controlProcessI2cReadStart (d : Device σ) : Device σ × Reply :=
  if d.i2c.state ≠ .writeSize then
    ({ d with i2c := { d.i2c with state := .error } }, { ret := controlOtherTransportError })
  else if isControlCmdRead d.i2c.cmd then
    -- assume this is a repeated start
    let r := i2cReadCommand tasks d
    if r.reply.ret = controlSuccess then
      ({ r.device with i2c := { r.device.i2c with
        payload := r.payload, payloadLenTransmitted := 0, state := .readStart } }, r.reply)
    else ({ r.device with i2c := { r.device.i2c with payload := r.payload } }, r.reply)
  else
    ({ d with i2c := { d.i2c with state := .error } }, { ret := controlOtherTransportError })

/-- `control_process_i2c_read_data`. The step into `I2C_READ_OVERFLOW` returns without an
assignment to `data`, and so does the last branch. -/
def controlProcessI2cReadData (d : Device σ) : Device σ × Reply :=
  match d.i2c.state with
  | .readStart =>
    ({ d with i2c := { d.i2c with payloadLenTransmitted := 1, state := .readData } },
      { ret := controlSuccess, output := .i2cData d.i2c.payload[0]?, accesses := [0] })
  | .readData =>
    if d.i2c.payloadLenTransmitted = d.i2c.payloadLenFromHeader then
      ({ d with i2c := { d.i2c with state := .readOverflow } },
        { ret := controlSuccess, output := .i2cData none })
    else
      let k := d.i2c.payloadLenTransmitted
      ({ d with i2c := { d.i2c with payloadLenTransmitted := incr k } },
        { ret := controlSuccess, output := .i2cData d.i2c.payload[k]?, accesses := [k] })
  | _ =>
    ({ d with i2c := { d.i2c with state := .error } },
      { ret := controlError, output := .i2cData none })

/-- The value that `control_process_i2c_stop` returns. -/
def i2cStopRet (i : I2c) : ControlRet :=
  match i.state with
  | .writeSize => if i.payloadLenFromHeader ≠ 0 then controlDataLengthError else controlSuccess
  | .writeData =>
    if i.payloadLenTransmitted < i.payloadLenFromHeader then controlDataLengthError
    else controlSuccess
  | .writeOverflow => controlSuccess
  | .readStart => controlOtherTransportError
  | .readData =>
    if i.payloadLenTransmitted < i.payloadLenFromHeader then controlDataLengthError
    else controlSuccess
  | .readOverflow => controlSuccess
  | _ => controlOtherTransportError

/-- `control_process_i2c_stop`. -/
def controlProcessI2cStop (d : Device σ) : Device σ × Reply :=
  -- always transition to idle after a stop bit
  ({ d with i2c := { d.i2c with state := .idle } }, { ret := i2cStopRet d.i2c })

/-- The I2C side of the device. -/
def i2cSystem : Transducer (Device σ) I2cCallback Reply where
  step d
    | .writeStart => controlProcessI2cWriteStart d
    | .writeData data => controlProcessI2cWriteData tasks data d
    | .readStart => controlProcessI2cReadStart tasks d
    | .readData => controlProcessI2cReadData d
    | .stop => controlProcessI2cStop d

/-! ### The transitions as rules -/

/-- The transitions of the I2C side. -/
inductive I2cStep (d : Device σ) : I2cCallback → Device σ → Reply → Prop where
  | start :
      I2cStep d .writeStart { d with i2c := { d.i2c with state := .writeStart } }
        { ret := controlSuccess }
  /-- The command is given up. -/
  | reject (cb : I2cCallback) (status : ControlStatus) (ret : ControlRet) (output : Output) :
      I2cStep d cb { d with lastStatus := status, i2c := { d.i2c with state := .error } }
        { ret := ret, output := output }
  | resid (r : UInt8) (ifnum : UInt8) (hs : d.i2c.state = .writeStart)
      (hr : resourceTableSearch d.table r = some ifnum) :
      I2cStep d (.writeData r)
        { d with
          lastStatus := controlSuccess
          i2c := { d.i2c with resid := r, ifnum := ifnum, state := .writeResid } }
        { ret := controlSuccess }
  | cmd (c : UInt8) (hs : d.i2c.state = .writeResid) :
      I2cStep d (.writeData c)
        { d with lastStatus := controlSuccess, i2c := { d.i2c with cmd := c, state := .writeCmd } }
        { ret := controlSuccess }
  /-- A declared length of zero dispatches at once, whatever the command code. -/
  | lengthZero (d₁ : Device σ) (hs : d.i2c.state = .writeCmd)
      (h₁ : d₁ = { d with i2c := { d.i2c with
        payloadLenFromHeader := 0, payloadLenTransmitted := 0, state := .writeSize } }) :
      I2cStep d (.writeData 0) (i2cWriteCommand tasks d₁).1 (i2cWriteCommand tasks d₁).2
  | length (n : UInt8) (hs : d.i2c.state = .writeCmd) (hn : n.toNat ≤ i2cDataMaxBytes)
      (h0 : n.toNat ≠ 0) :
      I2cStep d (.writeData n)
        { d with
          lastStatus := controlSuccess
          i2c := { d.i2c with
            payloadLenFromHeader := n.toNat, payloadLenTransmitted := 0, state := .writeSize } }
        { ret := controlSuccess }
  | onlyByte (b : UInt8) (d₁ : Device σ) (hs : d.i2c.state = .writeSize)
      (hc : isControlCmdRead d.i2c.cmd = false) (h1 : d.i2c.payloadLenFromHeader = 1)
      (h₁ : d₁ = { d with i2c := { d.i2c with
        payload := d.i2c.payload.store 0 b, payloadLenTransmitted := 1, state := .writeData } }) :
      I2cStep d (.writeData b) (i2cWriteCommand tasks d₁).1 ((i2cWriteCommand tasks d₁).2.touch 0)
  | firstByte (b : UInt8) (hs : d.i2c.state = .writeSize)
      (hc : isControlCmdRead d.i2c.cmd = false) (h1 : d.i2c.payloadLenFromHeader ≠ 1) :
      I2cStep d (.writeData b)
        { d with
          lastStatus := controlSuccess
          i2c := { d.i2c with
            payload := d.i2c.payload.store 0 b, payloadLenTransmitted := 1, state := .writeData } }
        { ret := controlSuccess, accesses := [0] }
  | overflow (b : UInt8) (hs : d.i2c.state = .writeData)
      (he : d.i2c.payloadLenTransmitted = d.i2c.payloadLenFromHeader) :
      I2cStep d (.writeData b)
        { d with
          lastStatus := controlDataLengthError, i2c := { d.i2c with state := .writeOverflow } }
        { ret := controlDataLengthError }
  | lastByte (b : UInt8) (d₁ : Device σ) (hs : d.i2c.state = .writeData)
      (hne : d.i2c.payloadLenTransmitted ≠ d.i2c.payloadLenFromHeader)
      (he : incr d.i2c.payloadLenTransmitted = d.i2c.payloadLenFromHeader)
      (h₁ : d₁ = { d with i2c := { d.i2c with
        payload := d.i2c.payload.store d.i2c.payloadLenTransmitted b
        payloadLenTransmitted := incr d.i2c.payloadLenTransmitted } }) :
      I2cStep d (.writeData b) (i2cWriteCommand tasks d₁).1
        ((i2cWriteCommand tasks d₁).2.touch d.i2c.payloadLenTransmitted)
  | nextByte (b : UInt8) (hs : d.i2c.state = .writeData)
      (hne : d.i2c.payloadLenTransmitted ≠ d.i2c.payloadLenFromHeader)
      (hne' : incr d.i2c.payloadLenTransmitted ≠ d.i2c.payloadLenFromHeader) :
      I2cStep d (.writeData b)
        { d with
          lastStatus := controlSuccess
          i2c := { d.i2c with
            payload := d.i2c.payload.store d.i2c.payloadLenTransmitted b
            payloadLenTransmitted := incr d.i2c.payloadLenTransmitted } }
        { ret := controlSuccess, accesses := [d.i2c.payloadLenTransmitted] }
  | discard (b : UInt8) (hs : d.i2c.state = .writeOverflow) :
      I2cStep d (.writeData b) { d with lastStatus := controlSuccess } { ret := controlSuccess }
  | readOk (hs : d.i2c.state = .writeSize) (hc : isControlCmdRead d.i2c.cmd = true)
      (ho : (i2cReadCommand tasks d).reply.ret = controlSuccess) :
      I2cStep d .readStart
        { (i2cReadCommand tasks d).device with i2c := { d.i2c with
          payload := (i2cReadCommand tasks d).payload
          payloadLenTransmitted := 0
          state := .readStart } }
        (i2cReadCommand tasks d).reply
  /-- A user task that refuses a read leaves the state as it is, for another attempt. -/
  | readRefused (hs : d.i2c.state = .writeSize) (hc : isControlCmdRead d.i2c.cmd = true)
      (ho : (i2cReadCommand tasks d).reply.ret ≠ controlSuccess) :
      I2cStep d .readStart
        { (i2cReadCommand tasks d).device with i2c := { d.i2c with
          payload := (i2cReadCommand tasks d).payload } }
        (i2cReadCommand tasks d).reply
  | readFirst (hs : d.i2c.state = .readStart) :
      I2cStep d .readData
        { d with i2c := { d.i2c with payloadLenTransmitted := 1, state := .readData } }
        { ret := controlSuccess, output := .i2cData d.i2c.payload[0]?, accesses := [0] }
  | readOver (hs : d.i2c.state = .readData)
      (he : d.i2c.payloadLenTransmitted = d.i2c.payloadLenFromHeader) :
      I2cStep d .readData { d with i2c := { d.i2c with state := .readOverflow } }
        { ret := controlSuccess, output := .i2cData none }
  | readNext (hs : d.i2c.state = .readData)
      (hne : d.i2c.payloadLenTransmitted ≠ d.i2c.payloadLenFromHeader) :
      I2cStep d .readData
        { d with i2c := { d.i2c with
          payloadLenTransmitted := incr d.i2c.payloadLenTransmitted } }
        { ret := controlSuccess, output := .i2cData d.i2c.payload[d.i2c.payloadLenTransmitted]?
          accesses := [d.i2c.payloadLenTransmitted] }
  | stop :
      I2cStep d .stop { d with i2c := { d.i2c with state := .idle } } { ret := i2cStopRet d.i2c }

variable {tasks}

/-- `write_command` has recorded its value already when `control_process_i2c_write_data` records
it once more. -/
theorem record_writeCommand (d : Device σ) :
    { (i2cWriteCommand tasks d).1 with lastStatus := (i2cWriteCommand tasks d).2.ret }
      = (i2cWriteCommand tasks d).1 := by
  rw [i2cWriteCommand, ← writeCommand_lastStatus]

private theorem i2cStep_writeData (d : Device σ) (b : UInt8) :
    I2cStep tasks d (.writeData b) (controlProcessI2cWriteData tasks b d).1
      (controlProcessI2cWriteData tasks b d).2 := by
  unfold controlProcessI2cWriteData i2cWriteData
  split
  · -- `I2C_WRITE_START`: the byte is a resource
    next hs =>
    split
    · exact .reject _ _ _ _
    · next ifnum hr => exact .resid b ifnum hs hr
  · -- `I2C_WRITE_RESID`: the byte is a command code
    next hs => exact .cmd b hs
  · -- `I2C_WRITE_CMD`: the byte is a length
    next hs =>
    split
    · exact .reject _ _ _ _
    · next hn =>
      dsimp only
      split
      · next h0 =>
        obtain rfl : b = 0 := UInt8.toNat.inj h0
        rw [record_writeCommand]
        exact .lengthZero _ hs rfl
      · next h0 => exact .length b hs (Nat.le_of_not_lt hn) h0
  · -- `I2C_WRITE_SIZE`: the byte is the first one of a payload
    next hs =>
    split
    · exact .reject _ _ _ _
    · next hc =>
      dsimp only
      split
      · next h1 =>
        dsimp only [Reply.ret_touch]
        rw [record_writeCommand]
        exact .onlyByte b _ hs (by simpa using hc) h1 rfl
      · next h1 => exact .firstByte b hs (by simpa using hc) h1
  · -- `I2C_WRITE_DATA`: the byte is a further one
    next hs =>
    split
    · next he => exact .overflow b hs he
    · next hne =>
      dsimp only
      split
      · next he =>
        dsimp only [Reply.ret_touch]
        rw [record_writeCommand]
        exact .lastByte b _ hs hne he rfl
      · next hne' => exact .nextByte b hs hne hne'
  · -- `I2C_WRITE_OVERFLOW`
    next hs => exact .discard b hs
  · -- all other states
    exact .reject _ _ _ _

private theorem i2cStep_readStart (d : Device σ) :
    I2cStep tasks d .readStart (controlProcessI2cReadStart tasks d).1
      (controlProcessI2cReadStart tasks d).2 := by
  unfold controlProcessI2cReadStart
  split
  · exact .reject _ _ _ _
  · next hs =>
    split
    · next hc =>
      have h_i2c : (i2cReadCommand tasks d).device.i2c = d.i2c := readCommand_i2c ..
      dsimp only
      rw [h_i2c]
      split
      · next ho => exact .readOk (not_not.mp hs) hc ho
      · next ho => exact .readRefused (not_not.mp hs) hc ho
    · exact .reject _ _ _ _

private theorem i2cStep_readData (d : Device σ) :
    I2cStep tasks d .readData (controlProcessI2cReadData d).1
      (controlProcessI2cReadData d).2 := by
  unfold controlProcessI2cReadData
  split
  · -- `I2C_READ_START`
    next hs => exact .readFirst hs
  · -- `I2C_READ_DATA`
    next hs =>
    split
    · next he => exact .readOver hs he
    · next hne => exact .readNext hs hne
  · -- all other states
    exact .reject _ _ _ _

/-- **Inversion.** Every callback of the I2C slave is one of the rules. -/
theorem i2cStep_sound (d : Device σ) (cb : I2cCallback) :
    I2cStep tasks d cb ((i2cSystem tasks).step d cb).1 ((i2cSystem tasks).step d cb).2 := by
  cases cb with
  | writeStart => exact .start
  | writeData b => exact i2cStep_writeData d b
  | readStart => exact i2cStep_readStart d
  | readData => exact i2cStep_readData d
  | stop => exact .stop

end DeviceControl
