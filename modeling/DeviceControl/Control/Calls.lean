import DeviceControl.Control.System

/-!
# The calls on user tasks

What a single callback can say to a user task. `CallFrom` relates a call to the resource,
interface and command code it was made for; one lemma for each transport says where these come
from. On I2C and SPI they are the fields of the struct, in a state that has its resource
(`Addressed`); on USB and xSCOPE they are the fields of the request.

The direction of a call is part of it: on SPI, USB and xSCOPE it follows bit 7 of the command code.
On I2C it does so except at one place, the length byte 0, where a write is dispatched without a
look at the command code (`ZeroLengthRead`).
-/

namespace DeviceControl

variable {σ : Type} {tasks : UserTasks σ}

/-- The call was made for this resource, interface and command code, and not for the special
resource. -/
structure CallFrom (call : UserCall) (resid : ControlResid) (ifnum : UInt8) (cmd : ControlCmd) :
    Prop where
  ne_special : resid ≠ controlSpecialResid
  resid : call.request.resid = resid
  ifnum : call.request.ifnum = ifnum
  cmd : call.request.cmd = cmd

theorem callFrom_writeCommand {n : ℕ} {d : Device σ} {ifnum : UInt8} {resid : ControlResid}
    {cmd : ControlCmd} {payload : Buffer UInt8 n} {payloadLen : ℕ} {call : UserCall}
    (h : call ∈ (writeCommand tasks d ifnum resid cmd payload payloadLen).2.calls) :
    CallFrom call resid ifnum cmd ∧ call.request.method = .write := by
  obtain ⟨h_ne, rfl⟩ := mem_calls_writeCommand tasks h
  exact ⟨⟨h_ne, rfl, rfl, rfl⟩, rfl⟩

theorem callFrom_readCommand {n : ℕ} {d : Device σ} {ifnum : UInt8} {resid : ControlResid}
    {cmd : ControlCmd} {payload : Buffer UInt8 n} {payloadLen : ℕ} {call : UserCall}
    (h : call ∈ (readCommand tasks d ifnum resid cmd payload payloadLen).reply.calls) :
    CallFrom call resid ifnum cmd ∧ call.request.method = .read := by
  obtain ⟨h_ne, rfl⟩ := mem_calls_readCommand tasks h
  exact ⟨⟨h_ne, rfl, rfl, rfl⟩, rfl⟩

/-! ### Delivery -/

/-- A reply that reports success and calls nobody. -/
structure Reply.Quiet (r : Reply) : Prop where
  ret : r.ret = controlSuccess
  calls : r.calls = []

theorem Reply.quiet_success (accesses : List ℕ) :
    ({ ret := controlSuccess, accesses := accesses } : Reply).Quiet := ⟨rfl, rfl⟩

/-- The request of a write with payload `ps`. -/
def writeRequest (ifnum r c : UInt8) (ps : List UInt8) : UserRequest :=
  ⟨ifnum, .write, r, c, ps, ps.length⟩

/-- The request of a read of `n` bytes. -/
def readRequest (ifnum r c : UInt8) (n : ℕ) : UserRequest := ⟨ifnum, .read, r, c, [], n⟩

/-- What the user tasks are asked in the course of a trace. -/
def userRequests {ι : Type} (entries : List (ι × Reply)) : List UserRequest :=
  entries.flatMap fun p => p.2.calls.map UserCall.request

section UserRequests

variable {ι : Type} {entries : List (ι × Reply)}

theorem userRequests_eq_nil (h : ∀ p ∈ entries, p.2.calls = []) : userRequests entries = [] := by
  refine List.flatMap_eq_nil_iff.mpr fun p hp => ?_
  rw [h p hp, List.map_nil]

theorem userRequests_append (entries entries' : List (ι × Reply)) :
    userRequests (entries ++ entries') = userRequests entries ++ userRequests entries' :=
  List.flatMap_append

/-- Entries without calls in front of the last one do not count. -/
theorem userRequests_concat (h : ∀ p ∈ entries, p.2.calls = []) (p : ι × Reply) :
    userRequests (entries ++ [p]) = p.2.calls.map UserCall.request := by
  rw [userRequests_append, userRequests_eq_nil h, List.nil_append, userRequests,
    List.flatMap_singleton]

end UserRequests

/-- What the user tasks of `d` answer to a write with payload `ps`. -/
def Device.writeAnswer (tasks : UserTasks σ) (d : Device σ) (ifnum r c : UInt8) (ps : List UInt8) :
    ControlRet × σ :=
  tasks.writeCommand d.users ifnum r c ps ps.length

/-- The payload `ps` is delivered from `d`: one call with it, and the answer of the user task is
returned, recorded and kept. -/
structure DeliversWrite (tasks : UserTasks σ) (d : Device σ) (ifnum r c : UInt8) (ps : List UInt8)
    (d' : Device σ) (reply : Reply) : Prop where
  calls : reply.calls = [⟨writeRequest ifnum r c ps, (d.writeAnswer tasks ifnum r c ps).1, []⟩]
  ret : reply.ret = (d.writeAnswer tasks ifnum r c ps).1
  table : d'.table = d.table
  lastStatus : d'.lastStatus = (d.writeAnswer tasks ifnum r c ps).1
  users : d'.users = (d.writeAnswer tasks ifnum r c ps).2

theorem deliversWrite_writeCommand {n : ℕ} {d d₁ : Device σ} {ifnum r c : UInt8}
    {payload : Buffer UInt8 n} {k : ℕ} {ps : List UInt8} (h_ne : r ≠ controlSpecialResid)
    (h_table : d₁.table = d.table) (h_users : d₁.users = d.users) (h_len : k = ps.length)
    (h_payload : payload.front ps.length = ps) :
    DeliversWrite tasks d ifnum r c ps (writeCommand tasks d₁ ifnum r c payload k).1
      (writeCommand tasks d₁ ifnum r c payload k).2 := by
  subst h_len
  -- `write_command` passes the front of its array, which is `ps`
  have h_answer : tasks.writeCommand d₁.users ifnum r c (payload.front ps.length) ps.length
      = d.writeAnswer tasks ifnum r c ps := by
    rw [h_payload, h_users, Device.writeAnswer]
  rw [writeCommand, if_neg h_ne, h_answer]
  exact ⟨by rw [writeCall, h_answer, h_payload, writeRequest], rfl, h_table, rfl, rfl⟩

/-- A delivery is from any device with the same table and the same user tasks. -/
theorem DeliversWrite.congr {d d₀ d' : Device σ} {ifnum r c : UInt8} {ps : List UInt8}
    {reply : Reply} (h : DeliversWrite tasks d ifnum r c ps d' reply) (h_table : d₀.table = d.table)
    (h_users : d₀.users = d.users) : DeliversWrite tasks d₀ ifnum r c ps d' reply := by
  have h_answer : d₀.writeAnswer tasks ifnum r c ps = d.writeAnswer tasks ifnum r c ps := by
    rw [Device.writeAnswer, Device.writeAnswer, h_users]
  constructor
  · rw [h_answer, h.calls]
  · rw [h_answer, h.ret]
  · rw [h_table, h.table]
  · rw [h_answer, h.lastStatus]
  · rw [h_answer, h.users]

/-- What is handed to the transport with the reply is no part of a delivery. -/
theorem DeliversWrite.withOutput {d d' : Device σ} {ifnum r c : UInt8} {ps : List UInt8}
    {reply : Reply} (h : DeliversWrite tasks d ifnum r c ps d' reply) (out : Output) :
    DeliversWrite tasks d ifnum r c ps d' { reply with output := out } :=
  ⟨h.calls, h.ret, h.table, h.lastStatus, h.users⟩

/-- What the user tasks of `d` answer to a read of `n` bytes, for which they are handed the front
of `array`. -/
def Device.readAnswer {m : ℕ} (tasks : UserTasks σ) (d : Device σ) (ifnum r c : UInt8)
    (array : Buffer UInt8 m) (n : ℕ) : ControlRet × List UInt8 × σ :=
  tasks.readCommand d.users ifnum r c (array.front n) n

/-- A read of `n` bytes into `array` is delivered from `d`: one call, the answer of the user task is
returned and kept, and `payload` is the array with what the user task has produced. -/
structure DeliversRead {m : ℕ} (tasks : UserTasks σ) (d : Device σ) (ifnum r c : UInt8) (n : ℕ)
    (array payload : Buffer UInt8 m) (d' : Device σ) (reply : Reply) : Prop where
  calls : reply.calls
    = [⟨readRequest ifnum r c n, (d.readAnswer tasks ifnum r c array n).1, payload.front n⟩]
  ret : reply.ret = (d.readAnswer tasks ifnum r c array n).1
  payload : payload = array.overlay n (d.readAnswer tasks ifnum r c array n).2.1
  users : d'.users = (d.readAnswer tasks ifnum r c array n).2.2

theorem deliversRead_readCommand {m : ℕ} {d d₁ : Device σ} {ifnum r c : UInt8}
    {array : Buffer UInt8 m} {n : ℕ} (h_ne : r ≠ controlSpecialResid)
    (h_users : d₁.users = d.users) :
    DeliversRead tasks d ifnum r c n array (readCommand tasks d₁ ifnum r c array n).payload
      (readCommand tasks d₁ ifnum r c array n).device
      (readCommand tasks d₁ ifnum r c array n).reply := by
  have h_answer : tasks.readCommand d₁.users ifnum r c (array.front n) n
      = d.readAnswer tasks ifnum r c array n := by
    rw [h_users, Device.readAnswer]
  have h_payload : readPayload tasks d₁ ifnum r c array n
      = array.overlay n (d.readAnswer tasks ifnum r c array n).2.1 := by
    rw [readPayload, h_answer]
  rw [readCommand, if_neg h_ne, h_answer, h_payload]
  exact ⟨by rw [readCall, h_answer, h_payload, readRequest], rfl, rfl, rfl⟩

theorem DeliversRead.withOutput {m : ℕ} {d d' : Device σ} {ifnum r c : UInt8} {n : ℕ}
    {array payload : Buffer UInt8 m} {reply : Reply}
    (h : DeliversRead tasks d ifnum r c n array payload d' reply) (out : Output) :
    DeliversRead tasks d ifnum r c n array payload d' { reply with output := out } :=
  ⟨h.calls, h.ret, h.payload, h.users⟩

/-- A user task that fills the array has its list stand in front of it. -/
theorem DeliversRead.front {m : ℕ} {d d' : Device σ} {ifnum r c : UInt8} {n : ℕ}
    {array payload : Buffer UInt8 m} {reply : Reply}
    (h : DeliversRead tasks d ifnum r c n array payload d' reply) (h_le : n ≤ m)
    (h_fills : (d.readAnswer tasks ifnum r c array n).2.1.length = n) :
    payload.front n = (d.readAnswer tasks ifnum r c array n).2.1 := by
  rw [h.payload, Buffer.front_overlay _ h_fills h_le]

/-- The read that a transport would serve with `array` finds its resource and is answered with
success, by a user task or by the library itself. -/
def ReadSucceeds {m : ℕ} (tasks : UserTasks σ) (d : Device σ) (resid : ControlResid)
    (cmd : ControlCmd) (array : Buffer UInt8 m) (n : ℕ) : Prop :=
  ∃ ifnum, resourceTableSearch d.table resid = some ifnum ∧
    (readCommand tasks d ifnum resid cmd array n).reply.ret = controlSuccess

/-! ### I2C -/

/-- The states of the I2C machine in which the struct holds the resource of the command. -/
def I2cState.Addressed : I2cState → Prop
  | .writeResid => True
  | .writeCmd => True
  | .writeSize => True
  | .writeData => True
  | _ => False

/-- The length byte 0 arrives after a read command code. -/
def ZeroLengthRead (i : I2c) (cb : I2cCallback) : Prop :=
  i.state = .writeCmd ∧ isControlCmdRead i.cmd = true ∧ cb = .writeData 0

/-- The calls of an I2C callback. In `I2C_WRITE_DATA` the command code has been looked at when the
first payload byte came. -/
theorem i2cStep_call {d d' : Device σ} {cb : I2cCallback} {r : Reply}
    (h : I2cStep tasks d cb d' r) {call : UserCall} (h_call : call ∈ r.calls) :
    d.i2c.state.Addressed ∧ CallFrom call d.i2c.resid d.i2c.ifnum d.i2c.cmd ∧
      (call.request.method = .write ∧
          (isControlCmdRead d.i2c.cmd = false ∨ d.i2c.state = .writeData ∨
            ZeroLengthRead d.i2c cb) ∨
        call.request.method = .read ∧ isControlCmdRead d.i2c.cmd = true) := by
  cases h with
  | lengthZero d₁ hs h₁ =>
    subst h₁
    obtain ⟨h_from, h_write⟩ := callFrom_writeCommand h_call
    refine ⟨by rw [hs]; trivial, h_from, Or.inl ⟨h_write, ?_⟩⟩
    -- this branch of the source does not look at bit 7, so the read code has a case of its own
    cases hc : isControlCmdRead d.i2c.cmd with
    | false => exact Or.inl rfl
    | true => exact Or.inr (Or.inr ⟨hs, hc, rfl⟩)
  | onlyByte b d₁ hs hc h1 h₁ =>
    -- the branch of `I2C_WRITE_SIZE` looks at bit 7 itself
    subst h₁
    obtain ⟨h_from, h_write⟩ := callFrom_writeCommand h_call
    exact ⟨by rw [hs]; trivial, h_from, Or.inl ⟨h_write, Or.inl hc⟩⟩
  | lastByte b d₁ hs hne he h₁ =>
    -- `I2C_WRITE_DATA` does not look again
    subst h₁
    obtain ⟨h_from, h_write⟩ := callFrom_writeCommand h_call
    exact ⟨by rw [hs]; trivial, h_from, Or.inl ⟨h_write, Or.inr (Or.inl hs)⟩⟩
  | readOk hs hc ho =>
    -- `control_process_i2c_read_start` rejects a write code before it calls
    obtain ⟨h_from, h_read⟩ := callFrom_readCommand h_call
    exact ⟨by rw [hs]; trivial, h_from, Or.inr ⟨h_read, hc⟩⟩
  | readRefused hs hc ho =>
    obtain ⟨h_from, h_read⟩ := callFrom_readCommand h_call
    exact ⟨by rw [hs]; trivial, h_from, Or.inr ⟨h_read, hc⟩⟩
  | _ => exact absurd h_call List.not_mem_nil

/-- A callback that calls nobody leaves the user tasks as they are. -/
theorem i2cStep_users {d d' : Device σ} {cb : I2cCallback} {r : Reply}
    (h : I2cStep tasks d cb d' r) (h_calls : r.calls = []) : d'.users = d.users := by
  cases h with
  | lengthZero d₁ hs h₁ =>
    subst h₁
    exact users_writeCommand tasks h_calls
  | onlyByte b d₁ hs hc h1 h₁ =>
    subst h₁
    exact users_writeCommand tasks h_calls
  | lastByte b d₁ hs hne he h₁ =>
    subst h₁
    exact users_writeCommand tasks h_calls
  | readOk hs hc ho => exact users_readCommand tasks h_calls
  | readRefused hs hc ho => exact users_readCommand tasks h_calls
  | _ => rfl

theorem run_i2c_users {d : Device σ} {cbs : List I2cCallback}
    (h : ∀ p ∈ (i2cSystem tasks).trace d cbs, p.2.calls = []) :
    ((i2cSystem tasks).run d cbs).users = d.users :=
  (i2cSystem tasks).run_unchanged (Q := fun r => r.calls = [])
    (fun d cb => i2cStep_users (i2cStep_sound d cb)) h

/-! ### SPI -/

/-- The states of the SPI machine in which the struct holds the resource of the command. -/
def SpiState.Addressed : SpiState → Prop
  | .resRecvd => True
  | .writeCmdRecvd => True
  | .writeData => True
  | .readCmdRecvd => True
  | .readDataStart => True
  | _ => False

/-- The calls of an SPI callback. -/
theorem spiStep_call {d d' : Device σ} {cb : SpiCallback} {r : Reply}
    (h : SpiStep tasks d cb d' r) {call : UserCall} (h_call : call ∈ r.calls) :
    d.spi.state.Addressed ∧ CallFrom call d.spi.resid d.spi.ifnum d.spi.cmd ∧
      (call.request.method = .write ∧ d.spi.state = .writeData ∨
        call.request.method = .read ∧ d.spi.state = .readDataStart) := by
  cases h with
  | endsDispatch hs hk =>
    obtain ⟨h_from, h_write⟩ := callFrom_writeCommand h_call
    exact ⟨by rw [hs]; trivial, h_from, Or.inl ⟨h_write, hs⟩⟩
  | requiresDispatch hs =>
    obtain ⟨h_from, h_read⟩ := callFrom_readCommand h_call
    exact ⟨by rw [hs]; trivial, h_from, Or.inr ⟨h_read, hs⟩⟩
  | _ => exact absurd h_call List.not_mem_nil

/-! ### USB and xSCOPE -/

/-- The calls of a USB or xSCOPE callback. -/
theorem requestStep_call {d d' : Device σ} {resid : ControlResid} {cmd : ControlCmd} {r : Reply}
    (h : RequestStep tasks d resid cmd d' r) {call : UserCall} (h_call : call ∈ r.calls) :
    ∃ ifnum, resourceTableSearch d.table resid = some ifnum ∧ CallFrom call resid ifnum cmd ∧
      (call.request.method = .write ∧ isControlCmdRead cmd = false ∨
        call.request.method = .read ∧ isControlCmdRead cmd = true) := by
  cases h with
  | refused lastStatus output => exact absurd h_call List.not_mem_nil
  | write payload payloadLen ifnum lastStatus output hr hc =>
    obtain ⟨h_from, h_write⟩ := callFrom_writeCommand h_call
    exact ⟨ifnum, hr, h_from, Or.inl ⟨h_write, hc⟩⟩
  | read payload payloadLen ifnum output hr hc =>
    obtain ⟨h_from, h_read⟩ := callFrom_readCommand h_call
    exact ⟨ifnum, hr, h_from, Or.inr ⟨h_read, hc⟩⟩

end DeviceControl
