import DeviceControl.Control.ResourceTable

/-!
# The device and its user tasks

The state that the processing functions of `control.xc` share, and the three functions that serve
a command once its transport has received it: `writeCommand`, `readCommand` and
`specialReadCommand`.

A user task is code of the application. `UserTasks` takes all of them together as functions of one
state of theirs, so a task may answer with any byte, remember what it was told, and talk to the
other tasks. An interface call hands an array over for the time of the call: a task that serves a
read sees what the array holds and writes over as much of it as it likes.

`Reply` is everything one call of a processing function shows: its return value, what it assigns
to its reference parameters, the calls it made on user tasks, and the indices at which it touched
the payload array of its transport. An array handed to a user task counts as touched over the
length that is handed with it.
-/

namespace DeviceControl

/-! ### User tasks -/

/-- The behaviour of the user tasks at their `control` interfaces, as functions of their state. The
arguments after the state are the interface number and those of the interface function; the list
is what the array holds. -/
structure UserTasks (σ : Type) where
  /-- `i[ifnum].write_command`: the value returned and the tasks' next state. -/
  writeCommand : σ → UInt8 → ControlResid → ControlCmd → List UInt8 → ℕ → ControlRet × σ
  /-- `i[ifnum].read_command`: the value returned, what the task leaves in the array, and the
  tasks' next state. -/
  readCommand : σ → UInt8 → ControlResid → ControlCmd → List UInt8 → ℕ →
    ControlRet × List UInt8 × σ

/-- The tasks that answer every write with `ret`, and every read with `ret` and `bytes`. -/
def UserTasks.always (ret : ControlRet) (bytes : List UInt8) : UserTasks Unit where
  writeCommand _ _ _ _ _ _ := (ret, ())
  readCommand _ _ _ _ _ _ := (ret, bytes, ())

/-- The two command functions of the `control` interface. -/
inductive Method where
  | write
  | read
  deriving DecidableEq, Repr

/-- What a call tells a user task. A read hands over an array to be filled, so it has no payload
bytes of its own. -/
structure UserRequest where
  ifnum : UInt8
  method : Method
  resid : ControlResid
  cmd : ControlCmd
  payload : List UInt8
  payloadLen : ℕ
  deriving DecidableEq, Repr

/-- A call on a user task: the request, the value it returned and, for a read, the bytes that the
array handed over holds after it. -/
structure UserCall where
  request : UserRequest
  ret : ControlRet
  produced : List UInt8
  deriving DecidableEq, Repr

/-! ### The static data of `control.xc` -/

inductive I2cState where
  | idle
  | writeStart
  | writeResid
  | writeCmd
  | writeSize
  | writeData
  | writeOverflow
  | readStart
  | readData
  | readOverflow
  | error
  deriving DecidableEq, Repr

/-- The struct `i2c`. The counters are `unsigned`, their increments are `incr`. -/
structure I2c where
  state : I2cState
  resid : ControlResid
  cmd : ControlCmd
  ifnum : UInt8
  payloadLenFromHeader : ℕ
  payloadLenTransmitted : ℕ
  payload : Buffer UInt8 i2cDataMaxBytes

/-- The initialiser of `i2c`. -/
def I2c.initial : I2c where
  state := .idle
  resid := 0
  cmd := 0
  ifnum := 0
  payloadLenFromHeader := 0
  payloadLenTransmitted := 0
  payload := Buffer.ofList 0 []

inductive SpiState where
  | idle
  | resRecvd
  | writeCmdRecvd
  | writeData
  | readCmdRecvd
  | readDataStart
  | readDataWait
  | readData
  | error
  | payloadError
  deriving DecidableEq, Repr

/-- The struct `spi`. -/
structure Spi where
  state : SpiState
  resid : ControlResid
  cmd : ControlCmd
  ifnum : UInt8
  payloadLenFromHeader : ℕ
  payloadLenTransmitted : ℕ
  payload : Buffer UInt8 spiDataMaxBytes

/-- The initialiser of `spi`, and what `memset(&spi, 0, sizeof(spi))` leaves: `SPI_IDLE` is the
first value of its enumeration. -/
def Spi.zero : Spi where
  state := .idle
  resid := 0
  cmd := 0
  ifnum := 0
  payloadLenFromHeader := 0
  payloadLenTransmitted := 0
  payload := Buffer.ofList 0 []

/-- The device: the static data of the library and the state of the user tasks. -/
structure Device (σ : Type) where
  table : ResourceTable
  lastStatus : ControlStatus
  i2c : I2c
  spi : Spi
  users : σ

/-! ### Replies -/

/-- What a processing function assigns to its reference parameters. -/
inductive Output where
  | none
  /-- The byte of `control_process_i2c_read_data`, if the call assigns one. -/
  | i2cData (data : Option UInt8)
  /-- The word of `control_process_spi_master_requires_data`. -/
  | spiData (data : UInt32)
  /-- The array of `control_process_usb_get_request`. -/
  | usbData (requestData : List UInt8)
  /-- The array and the length of `control_process_xscope_upload`. -/
  | xscopeData (buf : List UInt8) (lengthOut : ℕ)
  deriving DecidableEq, Repr

/-- What one call of a processing function shows. -/
structure Reply where
  ret : ControlRet
  output : Output := .none
  calls : List UserCall := []
  accesses : List ℕ := []
  deriving DecidableEq, Repr

/-- A reply whose function also touches the payload array at index `i`. -/
def Reply.touch (i : ℕ) (r : Reply) : Reply := { r with accesses := i :: r.accesses }

@[simp] theorem Reply.ret_touch (i : ℕ) (r : Reply) : (r.touch i).ret = r.ret := rfl

/-! ### Serving a command -/

variable {σ : Type} (tasks : UserTasks σ)

section Write

variable {n : ℕ} (d : Device σ) (ifnum : UInt8) (resid : ControlResid) (cmd : ControlCmd)
  (payload : Buffer UInt8 n) (payloadLen : ℕ)

/-- The call that `writeCommand` makes for a resource of a user task. -/
def writeCall : UserCall where
  request := ⟨ifnum, .write, resid, cmd, payload.front payloadLen, payloadLen⟩
  ret := (tasks.writeCommand d.users ifnum resid cmd (payload.front payloadLen) payloadLen).1
  produced := []

/-- `write_command`. -/
def writeCommand : Device σ × Reply :=
  if resid = controlSpecialResid then
    ({ d with lastStatus := controlBadCommand }, { ret := controlBadCommand })
  else
    let answer := tasks.writeCommand d.users ifnum resid cmd (payload.front payloadLen) payloadLen
    ({ d with users := answer.2, lastStatus := answer.1 },
      { ret := answer.1
        calls := [writeCall tasks d ifnum resid cmd payload payloadLen]
        accesses := List.range payloadLen })

end Write

/-- `special_read_command`: the value returned and the array it leaves. -/
def specialReadCommand {n : ℕ} (lastStatus : ControlStatus) (cmd : ControlCmd)
    (payload : Buffer UInt8 n) (payloadLen : ℕ) : ControlRet × Buffer UInt8 n :=
  if cmd = controlGetVersion then
    if payloadLen ≠ sizeofControlVersion then (controlBadCommand, payload)
    else (controlSuccess, payload.store 0 controlVersion)
  else if cmd = controlGetLastCommandStatus then
    if payloadLen ≠ sizeofControlStatus then (controlBadCommand, payload)
    else (controlSuccess, payload.store 0 lastStatus)
  else (controlBadCommand, payload)

/-- What `read_command` leaves: the device, the payload array, and the reply. -/
structure ReadResult (σ : Type) (n : ℕ) where
  device : Device σ
  payload : Buffer UInt8 n
  reply : Reply

section Read

variable {n : ℕ} (d : Device σ) (ifnum : UInt8) (resid : ControlResid) (cmd : ControlCmd)
  (payload : Buffer UInt8 n) (payloadLen : ℕ)

/-- The payload array after a user task has served a read. -/
def readPayload : Buffer UInt8 n :=
  payload.overlay payloadLen
    (tasks.readCommand d.users ifnum resid cmd (payload.front payloadLen) payloadLen).2.1

/-- The call that `readCommand` makes for a resource of a user task. -/
def readCall : UserCall where
  request := ⟨ifnum, .read, resid, cmd, [], payloadLen⟩
  ret := (tasks.readCommand d.users ifnum resid cmd (payload.front payloadLen) payloadLen).1
  produced := (readPayload tasks d ifnum resid cmd payload payloadLen).front payloadLen

/-- `read_command`. -/
def readCommand : ReadResult σ n :=
  if resid = controlSpecialResid then
    let answer := specialReadCommand d.lastStatus cmd payload payloadLen
    { device := d
      payload := answer.2
      reply :=
        { ret := answer.1, accesses := if answer.1 = controlSuccess then [0] else [] } }
  else
    let answer := tasks.readCommand d.users ifnum resid cmd (payload.front payloadLen) payloadLen
    { device := { d with users := answer.2.2 }
      payload := readPayload tasks d ifnum resid cmd payload payloadLen
      reply :=
        { ret := answer.1
          calls := [readCall tasks d ifnum resid cmd payload payloadLen]
          accesses := List.range payloadLen } }

end Read

/-- A read of `CONTROL_GET_LAST_COMMAND_STATUS` answers with the recorded status. -/
theorem readCommand_lastCommandStatus {n : ℕ} (d : Device σ) (ifnum : UInt8)
    (payload : Buffer UInt8 n) :
    readCommand tasks d ifnum controlSpecialResid controlGetLastCommandStatus payload
        sizeofControlStatus
      = { device := d
          payload := payload.store 0 d.lastStatus
          reply := { ret := controlSuccess, accesses := [0] } } := rfl

/-! ### What serving a command changes -/

section Frame

variable {n : ℕ} (d : Device σ) (ifnum : UInt8) (resid : ControlResid) (cmd : ControlCmd)
  (payload : Buffer UInt8 n) (payloadLen : ℕ)

@[simp] theorem writeCommand_table :
    (writeCommand tasks d ifnum resid cmd payload payloadLen).1.table = d.table := by
  unfold writeCommand; split <;> rfl

@[simp] theorem writeCommand_i2c :
    (writeCommand tasks d ifnum resid cmd payload payloadLen).1.i2c = d.i2c := by
  unfold writeCommand; split <;> rfl

@[simp] theorem writeCommand_spi :
    (writeCommand tasks d ifnum resid cmd payload payloadLen).1.spi = d.spi := by
  unfold writeCommand; split <;> rfl

/-- `write_command` records the value it returns. -/
@[simp] theorem writeCommand_lastStatus :
    (writeCommand tasks d ifnum resid cmd payload payloadLen).1.lastStatus
      = (writeCommand tasks d ifnum resid cmd payload payloadLen).2.ret := by
  unfold writeCommand; split <;> rfl

@[simp] theorem readCommand_table :
    (readCommand tasks d ifnum resid cmd payload payloadLen).device.table = d.table := by
  unfold readCommand; split <;> rfl

@[simp] theorem readCommand_i2c :
    (readCommand tasks d ifnum resid cmd payload payloadLen).device.i2c = d.i2c := by
  unfold readCommand; split <;> rfl

@[simp] theorem readCommand_spi :
    (readCommand tasks d ifnum resid cmd payload payloadLen).device.spi = d.spi := by
  unfold readCommand; split <;> rfl

/-- `read_command` leaves the recorded status alone. -/
@[simp] theorem readCommand_lastStatus :
    (readCommand tasks d ifnum resid cmd payload payloadLen).device.lastStatus
      = d.lastStatus := by
  unfold readCommand; split <;> rfl

end Frame

/-! ### The calls that serving a command makes -/

section Calls

variable {n : ℕ} {d : Device σ} {ifnum : UInt8} {resid : ControlResid} {cmd : ControlCmd}
  {payload : Buffer UInt8 n} {payloadLen : ℕ}

/-- A write to the special resource calls nobody. -/
theorem calls_writeCommand_special :
    (writeCommand tasks d ifnum controlSpecialResid cmd payload payloadLen).2.calls = [] := by
  rw [writeCommand, if_pos rfl]

theorem calls_writeCommand (h : resid ≠ controlSpecialResid) :
    (writeCommand tasks d ifnum resid cmd payload payloadLen).2.calls
      = [writeCall tasks d ifnum resid cmd payload payloadLen] := by
  rw [writeCommand, if_neg h]

/-- A write that calls nobody leaves the user tasks as they are. -/
theorem users_writeCommand
    (h : (writeCommand tasks d ifnum resid cmd payload payloadLen).2.calls = []) :
    (writeCommand tasks d ifnum resid cmd payload payloadLen).1.users = d.users := by
  by_cases h_resid : resid = controlSpecialResid
  · rw [writeCommand, if_pos h_resid]
  · rw [calls_writeCommand tasks h_resid] at h
    exact absurd h (List.cons_ne_nil _ _)

theorem mem_calls_writeCommand {call : UserCall}
    (h : call ∈ (writeCommand tasks d ifnum resid cmd payload payloadLen).2.calls) :
    resid ≠ controlSpecialResid ∧ call = writeCall tasks d ifnum resid cmd payload payloadLen := by
  by_cases h_resid : resid = controlSpecialResid
  · rw [h_resid, calls_writeCommand_special] at h
    exact absurd h List.not_mem_nil
  · rw [calls_writeCommand tasks h_resid] at h
    exact ⟨h_resid, List.mem_singleton.mp h⟩

/-- A read of the special resource calls nobody. -/
theorem calls_readCommand_special :
    (readCommand tasks d ifnum controlSpecialResid cmd payload payloadLen).reply.calls = [] := by
  rw [readCommand, if_pos rfl]

theorem calls_readCommand (h : resid ≠ controlSpecialResid) :
    (readCommand tasks d ifnum resid cmd payload payloadLen).reply.calls
      = [readCall tasks d ifnum resid cmd payload payloadLen] := by
  rw [readCommand, if_neg h]

/-- A read that calls nobody leaves the user tasks as they are. -/
theorem users_readCommand
    (h : (readCommand tasks d ifnum resid cmd payload payloadLen).reply.calls = []) :
    (readCommand tasks d ifnum resid cmd payload payloadLen).device.users = d.users := by
  by_cases h_resid : resid = controlSpecialResid
  · rw [readCommand, if_pos h_resid]
  · rw [calls_readCommand tasks h_resid] at h
    exact absurd h (List.cons_ne_nil _ _)

theorem payload_readCommand (h : resid ≠ controlSpecialResid) :
    (readCommand tasks d ifnum resid cmd payload payloadLen).payload
      = readPayload tasks d ifnum resid cmd payload payloadLen := by
  rw [readCommand, if_neg h]

theorem ret_readCommand (h : resid ≠ controlSpecialResid) :
    (readCommand tasks d ifnum resid cmd payload payloadLen).reply.ret
      = (readCall tasks d ifnum resid cmd payload payloadLen).ret := by
  rw [readCommand, if_neg h, readCall]

/-- What a read returns depends on the user tasks only. -/
theorem ret_readCommand_congr {d' : Device σ} (h : d'.users = d.users) :
    (readCommand tasks d' ifnum resid cmd payload payloadLen).reply.ret
      = (readCommand tasks d ifnum resid cmd payload payloadLen).reply.ret := by
  by_cases h_resid : resid = controlSpecialResid
  · -- the recorded status is stored, and not returned
    rw [readCommand, readCommand, if_pos h_resid, if_pos h_resid]
    dsimp only [specialReadCommand]
    split_ifs <;> rfl
  · rw [ret_readCommand tasks h_resid, ret_readCommand tasks h_resid, readCall, readCall, h]

theorem mem_calls_readCommand {call : UserCall}
    (h : call ∈ (readCommand tasks d ifnum resid cmd payload payloadLen).reply.calls) :
    resid ≠ controlSpecialResid ∧ call = readCall tasks d ifnum resid cmd payload payloadLen := by
  by_cases h_resid : resid = controlSpecialResid
  · rw [h_resid, calls_readCommand_special] at h
    exact absurd h List.not_mem_nil
  · rw [calls_readCommand tasks h_resid] at h
    exact ⟨h_resid, List.mem_singleton.mp h⟩

/-- Every index touched while a command is served lies below the length handed over, or is the
first one. -/
theorem mem_accesses_writeCommand {i : ℕ}
    (h : i ∈ (writeCommand tasks d ifnum resid cmd payload payloadLen).2.accesses) :
    i < payloadLen := by
  unfold writeCommand at h
  split at h
  · exact absurd h List.not_mem_nil
  · exact List.mem_range.mp h

theorem mem_accesses_readCommand {i : ℕ}
    (h : i ∈ (readCommand tasks d ifnum resid cmd payload payloadLen).reply.accesses) :
    i < payloadLen ∨ i = 0 := by
  unfold readCommand at h
  split at h
  · -- the special resource stores its single byte at index 0
    dsimp only at h
    split at h
    · exact Or.inr (List.mem_singleton.mp h)
    · exact absurd h List.not_mem_nil
  · exact Or.inl (List.mem_range.mp h)

end Calls

end DeviceControl
