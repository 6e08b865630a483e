import DeviceControl.Control.Calls
import DeviceControl.Host.Support
import DeviceControl.Spi.Frame

/-!
# The commands of a host, whatever the transport

A `Command` is what a host wants of a resource: a command code with a payload, or, for a read, with
an array to be filled. This is the level at which the library is used, and it knows no transports.

Below it, `Command.callbacks` is what the device sees of a command on each transport: the host
builder fills an array, and the transport brings it to the processing functions in its normal order.
`received` is what the host gets back. `Carries` says that a transport has done its duty: one call
on the user task, for exactly the request that the command is, with the answer returned to the
dispatching callback and the bytes of a read in the hands of the host.
-/

namespace DeviceControl

variable {σ : Type}

/-! ### The abstract command -/

/-- A command of the host. The payload of a read is the array to be filled. -/
structure Command where
  resid : ControlResid
  cmd : ControlCmd
  payload : List UInt8

/-- What the command asks of the user task at an interface. -/
def Command.request (c : Command) (ifnum : UInt8) : UserRequest :=
  if isControlCmdRead c.cmd then readRequest ifnum c.resid c.cmd c.payload.length
  else writeRequest ifnum c.resid c.cmd c.payload

/-- `USB_DATA_MAX_BYTES`. -/
abbrev usbDataMaxBytes : ℕ := 2048

/-- The length field of a USB request. -/
theorem toNat_ofNat16 {n : ℕ} (h : n ≤ usbDataMaxBytes) : (UInt16.ofNat n).toNat = n :=
  UInt16.toNat_ofNat_of_lt (Nat.lt_of_le_of_lt h (by decide))

/-- The longest payload of a command on each transport. -/
def Transport.limit : Transport → ℕ
  | .i2c => i2cDataMaxBytes
  | .spi => spiDataMaxBytes
  | .usb => usbDataMaxBytes
  | .xscope => xscopeUploadMaxWords

/-! ### On the wire -/

/-- The arrays that a command passes through, with what earlier commands have left in them, and the
order in which the SPI master transfers the two directions of a byte. -/
structure HostArrays where
  i2cData : Buffer UInt8 i2cTransactionMaxBytes
  spiData : Buffer UInt8 spiTransactionMaxBytes
  spiRequiresFirst : Bool
  /-- The array of the device for the data of a USB request. -/
  usbData : Buffer UInt8 usbDataMaxBytes
  xscopeBuffer : XscopeBuffer
  /-- The array of the device that an xSCOPE upload is received into. -/
  xscopeUpload : XscopeBuffer

/-- The bytes of the command in an I2C frame. -/
def Command.i2cBytes (c : Command) (a : HostArrays) : List UInt8 :=
  sent (controlBuildI2cData a.i2cData c.resid c.cmd (some c.payload) c.payload.length)

/-- The bytes of the command in its first SPI transaction. -/
def Command.spiBytes (c : Command) (a : HostArrays) : List UInt8 :=
  sent (controlBuildSpiData a.spiData c.resid c.cmd (some c.payload) c.payload.length)

/-- The bytes of the command in an xSCOPE upload. -/
def Command.xscopeBytes (c : Command) (a : HostArrays) : List UInt8 :=
  sent (controlXscopeCreateUploadBuffer a.xscopeBuffer c.cmd c.resid (some c.payload)
    c.payload.length)

/-- The callbacks of the I2C slave. -/
def Command.i2cCallbacks (c : Command) (a : HostArrays) : List I2cCallback :=
  .writeStart :: (c.i2cBytes a).map .writeData
    ++ (if isControlCmdRead c.cmd then
        .readStart :: List.replicate c.payload.length .readData else [])
    ++ [.stop]

/-- The callbacks of the SPI slave. A read has a second transaction, for its data. -/
def Command.spiCallbacks (c : Command) (a : HostArrays) : List SpiCallback :=
  spiTransaction (exchange a.spiRequiresFirst (c.spiBytes a))
    ++ if isControlCmdRead c.cmd then
        spiTransaction (exchange a.spiRequiresFirst (List.replicate c.payload.length 0)) else []

/-- The USB request. -/
def Command.usbCallback (c : Command) (a : HostArrays) : Callback :=
  let header := controlUsbFillHeader c.resid c.cmd c.payload.length
  if isControlCmdRead c.cmd then .usbGetRequest header.1 header.2.1 header.2.2 a.usbData
  else .usbSetRequest header.1 header.2.1 header.2.2 (a.usbData.copy 0 c.payload)

/-- The xSCOPE upload. -/
def Command.xscopeCallback (c : Command) (a : HostArrays) : Callback :=
  .xscopeUpload (a.xscopeUpload.copy 0 (c.xscopeBytes a)) xscopeUploadMaxBytes
    (c.xscopeBytes a).length

/-- What the device sees of a command. -/
def Command.callbacks (c : Command) (a : HostArrays) : Transport → List Callback
  | .i2c => (c.i2cCallbacks a).map .i2c
  | .spi => (c.spiCallbacks a).map .spi
  | .usb => [c.usbCallback a]
  | .xscope => [c.xscopeCallback a]

/-- The bytes of an output. -/
def Output.bytes : Output → List UInt8
  | .none => []
  | .i2cData data => data.toList
  | .spiData data => [data.toUInt8]
  | .usbData requestData => requestData
  | .xscopeData buf lengthOut => (buf.take lengthOut).drop sizeofXscopeHeader

/-- The bytes that a callback brings to the host. -/
def hostBytes (p : Callback × Reply) : List UInt8 :=
  match p.1 with
  | .i2c .readData => p.2.output.bytes
  | .spi .masterRequiresData => p.2.output.bytes
  | .usbGetRequest .. => p.2.output.bytes
  | .xscopeUpload .. => p.2.output.bytes
  | _ => []

/-- The `n` bytes that a host has read: over SPI the last ones, of the second transaction. -/
def received (t : Transport) (n : ℕ) (replies : List (Callback × Reply)) : List UInt8 :=
  match t with
  | .spi => (replies.flatMap hostBytes).rtake n
  | _ => (replies.flatMap hostBytes).take n

/-! ### Carrying a command -/

/-- The transport carries the command from `d`, by this one call. -/
structure Carries (tasks : UserTasks σ) (t : Transport) (a : HostArrays) (c : Command)
    (d : Device σ) (ifnum : UInt8) (call : UserCall) : Prop where
  /-- The call is the request that the command is. -/
  request : call.request = c.request ifnum
  /-- One callback makes it, and returns what the user task returned. -/
  dispatched : ∃ pre cb reply post,
    (controlSystem tasks).trace d (c.callbacks a t) = pre ++ (cb, reply) :: post ∧
      reply.calls = [call] ∧ reply.ret = call.ret ∧ ∀ p ∈ pre ++ post, p.2.calls = []
  /-- The user task is asked in the state it has in `d`. -/
  write : isControlCmdRead c.cmd = false →
    call.ret = (d.writeAnswer tasks ifnum c.resid c.cmd c.payload).1 ∧ call.produced = []
  read : isControlCmdRead c.cmd = true → ∃ array,
    call.ret = (tasks.readCommand d.users ifnum c.resid c.cmd array c.payload.length).1 ∧
      ((tasks.readCommand d.users ifnum c.resid c.cmd array c.payload.length).2.1.length
          = c.payload.length →
        call.produced
          = (tasks.readCommand d.users ifnum c.resid c.cmd array c.payload.length).2.1)
  /-- The host receives what the user task produced. -/
  received : isControlCmdRead c.cmd = true → call.ret = controlSuccess →
    received t c.payload.length ((controlSystem tasks).trace d (c.callbacks a t)) = call.produced

section Carries

variable {tasks : UserTasks σ} {t : Transport} {a : HostArrays} {c : Command} {d d' : Device σ}
  {ifnum : UInt8} {pre post : List (Callback × Reply)} {cb : Callback} {reply : Reply}

/-- A write is carried by the callback that delivers its payload. -/
theorem carries_of_deliversWrite (h_write : isControlCmdRead c.cmd = false)
    (h_trace : (controlSystem tasks).trace d (c.callbacks a t) = pre ++ (cb, reply) :: post)
    (h_del : DeliversWrite tasks d ifnum c.resid c.cmd c.payload d' reply)
    (h_quiet : ∀ p ∈ pre ++ post, p.2.calls = []) :
    ∃ call, Carries tasks t a c d ifnum call := by
  refine ⟨⟨writeRequest ifnum c.resid c.cmd c.payload,
    (d.writeAnswer tasks ifnum c.resid c.cmd c.payload).1, []⟩, ?_⟩
  have h_not : isControlCmdRead c.cmd ≠ true := by
    rw [h_write]
    decide
  constructor
  case request =>
    rw [Command.request, if_neg h_not]
  case dispatched => exact ⟨pre, cb, reply, post, h_trace, h_del.calls, h_del.ret, h_quiet⟩
  case write => exact fun _ => ⟨rfl, rfl⟩
  case read => exact fun h_read => absurd h_read h_not
  case received => exact fun h_read => absurd h_read h_not

/-- A read is carried by the callback that delivers it, if the host gets what it leaves. -/
theorem carries_of_deliversRead {m : ℕ} {array payload : Buffer UInt8 m}
    (h_read : isControlCmdRead c.cmd = true) (h_le : c.payload.length ≤ m)
    (h_trace : (controlSystem tasks).trace d (c.callbacks a t) = pre ++ (cb, reply) :: post)
    (h_del : DeliversRead tasks d ifnum c.resid c.cmd c.payload.length array payload d' reply)
    (h_quiet : ∀ p ∈ pre ++ post, p.2.calls = [])
    (h_bytes : reply.ret = controlSuccess →
      received t c.payload.length (pre ++ (cb, reply) :: post)
        = payload.front c.payload.length) :
    ∃ call, Carries tasks t a c d ifnum call := by
  refine ⟨⟨readRequest ifnum c.resid c.cmd c.payload.length,
    (d.readAnswer tasks ifnum c.resid c.cmd array c.payload.length).1,
    payload.front c.payload.length⟩, ?_⟩
  have h_not : isControlCmdRead c.cmd ≠ false := by
    rw [h_read]
    decide
  constructor
  case request =>
    rw [Command.request, if_pos h_read]
  case dispatched => exact ⟨pre, cb, reply, post, h_trace, h_del.calls, h_del.ret, h_quiet⟩
  case write => exact fun h_write => absurd h_write h_not
  case read => exact fun _ => ⟨array.front c.payload.length, rfl, h_del.front h_le⟩
  case received =>
    intro _ h_ret
    rw [h_trace]
    exact h_bytes (h_del.ret.trans h_ret)

end Carries

end DeviceControl
