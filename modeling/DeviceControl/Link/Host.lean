import DeviceControl.Host.Write
import DeviceControl.Library.Abort
import DeviceControl.Session.Server
import DeviceControl.Session.Special
import DeviceControl.Usb.Transfer

/-!
# Hosts with a device at the other end

A `HostLink` is one of the five host implementations with the functions of its library and the
device at the other end of its bus, over some world `W`. `Works` says what the library and the bus
do: they bring a transfer to the adapter of the device, and tell the host what has become of it. A
NACK puts an end to an I2C transfer, and a USB request that the device does not complete fails.
Nothing comes back over SPI but the bytes of the slave, and over xSCOPE but the record of the
adapter.

The commands of the host are functions of a `HostState`. It has the static data of
`device_access_xscope.c` beside the world, which the other implementations do not look at.

`HostServed` is what is to be proved of a command, on whichever link: the command server has taken
its request, and the host has been told of the answer what the transport tells of it.
-/

namespace DeviceControl

variable {σ W : Type}

/-! ### Links -/

/-- A host implementation, its library and the device. The last argument of `write` of an xCORE asks
for a stop bit. -/
inductive HostLink (σ W : Type) where
  | rpiI2c (write : W → List UInt8 → ℤ × W) (rdwr : W → List UInt8 → ℕ → HostTransfer W)
      (device : W → Device σ)
  | xcoreI2c (write : W → List UInt8 → Bool → I2cMasterWrite W) (read : W → ℕ → I2cMasterRead W)
      (device : W → Device σ)
  | rpiSpi (transfern : W → List UInt8 → List UInt8 × W) (requiresFirst : Bool)
      (device : W → Device σ)
  | usb (controlOut : W → UsbSetupPacket → List UInt8 → ℤ × W)
      (controlIn : W → UsbSetupPacket → HostTransfer W) (server : W → UsbServer σ)
  | xscope (requestUpload : W → List UInt8 → XscopeOutcome W) (server : W → XscopeServer σ)
      (probeId : UInt32)

/-- The world of a host, and its static data for xSCOPE. -/
structure HostState (W : Type) where
  world : W
  xscope : XscopeHost

/-- What a command leaves for its caller: the value returned and the payload array. -/
structure HostAnswer where
  ret : ControlRet
  payload : List UInt8
  deriving DecidableEq, Repr

/-- `control_query_version` of `device_access_xscope.c`, where `b` is what its array holds before.
It has its own copy of the upload and of the wait. -/
def XscopeHost.controlQueryVersion (requestUpload : W → List UInt8 → XscopeOutcome W)
    (h : XscopeHost) (w : W) (b : XscopeBuffer) (version : UInt8) : Option (XscopeRead W) :=
  let built := controlXscopeCreateUploadBuffer b controlGetVersion controlSpecialResid none
    sizeofControlVersion
  let h := { h with recordCount := 0 }
  let outcome := requestUpload w (sent built)
  if outcome.accepted then
    match h.awaitResponse outcome.records with
    | none => none
    | some h =>
      some ⟨controlSuccess + h.responseRet, [h.responseByte sizeofXscopeHeader],
        [sizeofXscopeHeader], h, outcome.world⟩
  else some ⟨controlError, [version], [], h, outcome.world⟩

namespace HostLink

variable (L : HostLink σ W)

def transport : Transport :=
  match L with
  | rpiI2c .. => .i2c
  | xcoreI2c .. => .i2c
  | rpiSpi .. => .spi
  | usb .. => .usb
  | xscope .. => .xscope

/-- The device at the other end. -/
def device (w : W) : Device σ :=
  match L with
  | rpiI2c _ _ device => device w
  | xcoreI2c _ _ device => device w
  | rpiSpi _ _ device => device w
  | usb _ _ server => (server w).device
  | xscope _ server _ => (server w).device

/-! ### The commands of the host -/

section Commands

variable (s : HostState W) (l : HostLocals) (resid : ControlResid) (cmd : ControlCmd)
  (payload : List UInt8)

/-- `control_write_command`. Over xSCOPE it may wait for ever. -/
def controlWriteCommand : Option (HostAnswer × HostState W) :=
  match L with
  | rpiI2c write rdwr _ =>
    let r := rpiI2cControlWriteCommand s.world resid cmd payload write rdwr l.buffer l.queryData
      l.status
    some (⟨r.ret, payload⟩, { s with world := r.world })
  | xcoreI2c write read _ =>
    let r := xcoreI2cControlWriteCommand s.world resid cmd payload write read l.data l.queryData
      l.status
    some (⟨r.ret, payload⟩, { s with world := r.world })
  | rpiSpi transfern _ _ =>
    let r := rpiSpiControlWriteCommand s.world resid cmd payload transfern l.data l.status
    some (⟨r.ret, payload⟩, { s with world := r.world })
  | usb controlOut controlIn _ =>
    let r := usbControlWriteCommand s.world resid cmd payload controlOut controlIn l.requestData
      l.status
    some (⟨r.ret, payload⟩, { s with world := r.world })
  | xscope requestUpload _ _ =>
    (s.xscope.controlWriteCommand requestUpload s.world l.upload resid cmd payload).map fun r =>
      (⟨r.ret, payload⟩, ⟨r.world, r.host⟩)

/-- `control_read_command`. -/
def controlReadCommand : Option (HostAnswer × HostState W) :=
  match L with
  | rpiI2c _ rdwr _ =>
    let r := rpiI2cControlReadCommand s.world resid cmd payload rdwr l.data
    some (⟨r.ret, r.payload⟩, { s with world := r.world })
  | xcoreI2c write read _ =>
    let r := xcoreI2cControlReadCommand s.world resid cmd payload
      (fun w bytes => write w bytes false) read l.data
    some (⟨r.ret, r.payload⟩, { s with world := r.world })
  | rpiSpi transfern _ _ =>
    let r := rpiSpiControlReadCommand s.world resid cmd payload transfern
    some (⟨r.ret, r.payload⟩, { s with world := r.world })
  | usb _ controlIn _ =>
    let r := usbControlReadCommand s.world resid cmd payload controlIn
    some (⟨r.ret, r.payload⟩, { s with world := r.world })
  | xscope requestUpload _ _ =>
    (s.xscope.controlReadCommand requestUpload s.world l.upload resid cmd payload).map fun r =>
      (⟨r.ret, r.payload⟩, ⟨r.world, r.host⟩)

/-- `control_query_version`. The payload of the answer is the version, of which `version` is the
value before. -/
def controlQueryVersion (version : UInt8) : Option (HostAnswer × HostState W) :=
  match L with
  | usb _ controlIn _ =>
    let r := usbControlSpecialCommand s.world [version] controlGetVersion controlIn l.requestData
    some (⟨r.ret, r.payload⟩, { s with world := r.world })
  | xscope requestUpload _ _ =>
    (s.xscope.controlQueryVersion requestUpload s.world l.upload version).map fun r =>
      (⟨r.ret, r.payload⟩, ⟨r.world, r.host⟩)
  | _ => L.controlReadCommand s l controlSpecialResid controlGetVersion [version]

/-- A command of the application, with the function for its direction. -/
def command (c : Command) : Option (HostAnswer × HostState W) :=
  if isControlCmdRead c.cmd then L.controlReadCommand s l c.resid c.cmd c.payload
  else L.controlWriteCommand s l c.resid c.cmd c.payload

end Commands

end HostLink

/-! ### Buses that work -/

/-- The callbacks of an I2C transfer that the master comes to make, before it gives up at a NACK. -/
def i2cSent (tasks : UserTasks σ) (d : Device σ) (cbs : List I2cCallback) : List I2cCallback :=
  (i2cControlClient tasks).upTo (· = .nack) d cbs

/-- The callbacks of a read of the I2C master, up to its last byte. -/
def i2cReads (n : ℕ) : List I2cCallback := .readStart :: List.replicate n .readData

/-- The bytes that an I2C master reads. -/
def i2cBytesRead (tasks : UserTasks σ) (d : Device σ) (cbs : List I2cCallback) : List UInt8 :=
  (((i2cSystem tasks).trace d cbs).map fun p => (Callback.i2c p.1, p.2)).flatMap hostBytes

/-- `write` and the `ioctl` of a Raspberry Pi. They fail if there is a NACK, and the transfer ends
with a stop in either case. -/
structure RpiI2cWorks (tasks : UserTasks σ) (write : W → List UInt8 → ℤ × W)
    (rdwr : W → List UInt8 → ℕ → HostTransfer W) (device : W → Device σ) : Prop where
  write_device : ∀ w bytes, device (write w bytes).2
    = (i2cSystem tasks).run (device w)
        (i2cSent tasks (device w) (i2cWriteTransfer bytes) ++ [.stop])
  write_acked : ∀ w bytes, I2cAcked tasks (device w) (i2cWriteTransfer bytes) →
    (write w bytes).1 = bytes.length
  write_nacked : ∀ w bytes, ¬ I2cAcked tasks (device w) (i2cWriteTransfer bytes) →
    (write w bytes).1 < 0
  rdwr_device : ∀ w bytes n, device (rdwr w bytes n).world
    = (i2cSystem tasks).run (device w)
        (i2cSent tasks (device w) (i2cWriteTransfer bytes ++ i2cReads n) ++ [.stop])
  rdwr_acked : ∀ w bytes n, I2cAcked tasks (device w) (i2cWriteTransfer bytes ++ i2cReads n) →
    0 ≤ (rdwr w bytes n).ret ∧
      (rdwr w bytes n).bytes = i2cBytesRead tasks (device w) (i2cWriteTransfer bytes ++ i2cReads n)
  rdwr_nacked : ∀ w bytes n, ¬ I2cAcked tasks (device w) (i2cWriteTransfer bytes ++ i2cReads n) →
    (rdwr w bytes n).ret < 0

/-- The I2C master of an xCORE. A write ends with a stop if that is asked for. -/
structure XcoreI2cWorks (tasks : UserTasks σ) (write : W → List UInt8 → Bool → I2cMasterWrite W)
    (read : W → ℕ → I2cMasterRead W) (device : W → Device σ) : Prop where
  write_device : ∀ w bytes stop, device (write w bytes stop).world
    = (i2cSystem tasks).run (device w)
        (i2cSent tasks (device w) (i2cWriteTransfer bytes) ++ if stop then [.stop] else [])
  write_acked : ∀ w bytes stop, I2cAcked tasks (device w) (i2cWriteTransfer bytes) →
    (write w bytes stop).res = .ack ∧ (write w bytes stop).numBytesSent = bytes.length
  write_nacked : ∀ w bytes stop, ¬ I2cAcked tasks (device w) (i2cWriteTransfer bytes) →
    (write w bytes stop).res = .nack
  read_device : ∀ w n, device (read w n).world
    = (i2cSystem tasks).run (device w) (i2cSent tasks (device w) (i2cReads n) ++ [.stop])
  read_acked : ∀ w n, I2cAcked tasks (device w) (i2cReads n) →
    (read w n).res = .ack ∧ (read w n).bytes = i2cBytesRead tasks (device w) (i2cReads n)
  read_nacked : ∀ w n, ¬ I2cAcked tasks (device w) (i2cReads n) → (read w n).res = .nack

/-- `libusb_control_transfer` in either direction, for the vendor requests of the control library.
The host sends its data in packets, and takes the status stage. A request whose status or data stage
does not come about fails. -/
structure UsbWorks (tasks : UserTasks σ) (controlOut : W → UsbSetupPacket → List UInt8 → ℤ × W)
    (controlIn : W → UsbSetupPacket → HostTransfer W) (server : W → UsbServer σ) : Prop where
  out_server : ∀ w sp bytes, sp.bRequest = controlVendorRequest →
    server (controlOut w sp bytes).2
      = (usbH2dVendorRequest tasks (packetsOf bytes) .okay sp (server w)).server
  out_completed : ∀ w sp bytes, sp.bRequest = controlVendorRequest →
    (usbH2dVendorRequest tasks (packetsOf bytes) .okay sp (server w)).stage = some .okay →
      (controlOut w sp bytes).1 = bytes.length
  out_failed : ∀ w sp bytes, sp.bRequest = controlVendorRequest →
    (usbH2dVendorRequest tasks (packetsOf bytes) .okay sp (server w)).stage = none →
      (controlOut w sp bytes).1 < 0
  in_server : ∀ w sp, sp.bRequest = controlVendorRequest →
    server (controlIn w sp).world
      = (usbD2hVendorOutcome tasks (fun _ _ => .okay) sp (server w)).server
  in_completed : ∀ w sp, sp.bRequest = controlVendorRequest →
    (usbD2hVendorOutcome tasks (fun _ _ => .okay) sp (server w)).stage = some .okay →
      (controlIn w sp).ret = sp.wLength.toNat ∧
        (controlIn w sp).bytes = (server (controlIn w sp).world).requestData.front sp.wLength.toNat
  in_failed : ∀ w sp, sp.bRequest = controlVendorRequest →
    (usbD2hVendorOutcome tasks (fun _ _ => .okay) sp (server w)).stage = none →
      (controlIn w sp).ret < 0

namespace HostLink

variable (L : HostLink σ W)

/-- The library and the bus of the link do what they are for. -/
def Works (tasks : UserTasks σ) : Prop :=
  match L with
  | rpiI2c write rdwr device => RpiI2cWorks tasks write rdwr device
  | xcoreI2c write read device => XcoreI2cWorks tasks write read device
  | rpiSpi transfern requiresFirst device => ∀ w bytes,
      ((transfern w bytes).1, device (transfern w bytes).2)
        = spiTransfer tasks requiresFirst (device w) bytes
  | usb controlOut controlIn server => UsbWorks tasks controlOut controlIn server
  | xscope requestUpload server probeId => ∀ h : XscopeHost, h.probeIdSet = true →
      h.probeId = probeId → XscopeDelivers tasks requestUpload server h

/-- The link is ready for a command: no transaction is going on over SPI, and an xSCOPE host has
learned the probe of the device. -/
def Ready (s : HostState W) : Prop :=
  match L with
  | rpiSpi _ _ device => (device s.world).spi = Spi.zero
  | xscope _ _ probeId => s.xscope.probeIdSet = true ∧ s.xscope.probeId = probeId
  | _ => True

end HostLink

/-! ### Commands that are served -/

/-- The longest payload that a host brings to a user task. -/
def Transport.reach : Transport → ℕ
  | .i2c => i2cDataMaxBytes
  | .spi => spiDataMaxBytes
  | .usb => ep0MaxRequestSize
  | .xscope => xscopeUploadMaxWords

/-- What a transport tells its host of the value that a user task has returned. I2C and USB have one
bit for it, and SPI has nothing for a read. -/
def Transport.told (t : Transport) (method : Method) (ret : ControlRet) : ControlRet :=
  match t, method with
  | .spi, .read => controlSuccess
  | .spi, .write => ret
  | .xscope, _ => ret
  | _, _ => if ret = controlSuccess then controlSuccess else controlError

/-- Where a transport says success, that is what the user task has returned. SPI says it of every
read. -/
theorem Transport.ret_of_told {t : Transport} {method : Method} {ret : ControlRet}
    (h_t : t = .spi → method = .write) (h : t.told method ret = controlSuccess) :
    ret = controlSuccess := by
  by_contra h_ret
  have h_not : (if ret = controlSuccess then controlSuccess else controlError)
      ≠ controlSuccess := by
    rw [if_neg h_ret]
    decide
  cases t with
  | i2c => exact h_not h
  | spi =>
    rw [h_t rfl] at h
    exact h_ret h
  | usb => exact h_not h
  | xscope => exact h_ret h

/-- What a host makes of the answer of a user task. -/
structure HostSees (t : Transport) (q : UserRequest) (answer : UserAnswer) (a : HostAnswer) :
    Prop where
  ret : a.ret = t.told q.method answer.ret
  payload : q.method = .read → answer.ret = controlSuccess → a.payload = answer.data
  length : q.method = .read → a.ret = controlSuccess → a.payload.length = q.payloadLen

/-- The command server has taken the request of a command, and the host has been told of its
answer. The link is ready for the next command. -/
structure HostServed (tasks : UserTasks σ) (L : HostLink σ W) (s : HostState W) (q : UserRequest)
    (a : HostAnswer) (s' : HostState W) : Prop where
  sees : HostSees L.transport q ((commandServer tasks).step (L.device s.world).users q).2 a
  users : (L.device s'.world).users
    = ((commandServer tasks).step (L.device s.world).users q).1
  table : (L.device s'.world).table = (L.device s.world).table
  ready : L.Ready s'

/-- A read has been performed with the recorded status `status`, and the host has what it left in
the array. The special resource may have been read. -/
structure ReadDone (tasks : UserTasks σ) (L : HostLink σ W) (s : HostState W)
    (status : ControlStatus) (ifnum resid cmd : UInt8) (n : ℕ) (a : HostAnswer)
    (s' : HostState W) : Prop where
  read : ∃ (d : Device σ) (m : ℕ) (array : Buffer UInt8 m), n ≤ m ∧
    d.users = (L.device s.world).users ∧ d.lastStatus = status ∧
    (L.device s'.world).users = (readCommand tasks d ifnum resid cmd array n).device.users ∧
    a.ret = L.transport.told .read (readCommand tasks d ifnum resid cmd array n).reply.ret ∧
    ((readCommand tasks d ifnum resid cmd array n).reply.ret = controlSuccess →
      a.payload = (readCommand tasks d ifnum resid cmd array n).payload.front n)
  /-- Over SPI the host has its bytes in any case. -/
  length : L.transport = .spi → a.payload.length = n
  table : (L.device s'.world).table = (L.device s.world).table
  ready : L.Ready s'

section Done

variable {tasks : UserTasks σ} {L : HostLink σ W} {s s' : HostState W} {status : ControlStatus}
  {ifnum resid cmd : UInt8} {n : ℕ} {a : HostAnswer}

/-- The command server serves a read as the device does, whatever its array holds. -/
theorem server_readCommand (h_regular : tasks.Regular) (ifnum : UInt8)
    (h_ne : resid ≠ controlSpecialResid) (cmd : UInt8) (d : Device σ) {m : ℕ}
    (array : Buffer UInt8 m) (h_le : n ≤ m) :
    (commandServer tasks).step d.users (readRequest ifnum resid cmd n)
      = ((readCommand tasks d ifnum resid cmd array n).device.users,
          ⟨(readCommand tasks d ifnum resid cmd array n).reply.ret,
            if (readCommand tasks d ifnum resid cmd array n).reply.ret = controlSuccess then
              (readCommand tasks d ifnum resid cmd array n).payload.front n
            else []⟩) := by
  have h_calls : (readCommand tasks d ifnum resid cmd array n).reply.calls
      = [readCall tasks d ifnum resid cmd array n] := calls_readCommand tasks h_ne
  have h_fit : ReadsFit m (readCommand tasks d ifnum resid cmd array n).reply.calls := by
    rw [h_calls]
    exact List.forall_mem_singleton.mpr fun _ => h_le
  obtain ⟨h_trace, h_run⟩ := passes_readCommand h_regular d ifnum resid cmd array n h_fit
  rw [h_calls] at h_trace h_run
  -- the one call of the read is the request with its answer
  have h_answer : ((commandServer tasks).step d.users (readRequest ifnum resid cmd n)).2
      = (readCall tasks d ifnum resid cmd array n).answer :=
    congrArg Prod.snd (List.singleton_inj.mp h_trace)
  refine Prod.ext h_run (h_answer.trans ?_)
  rw [UserCall.answer, ret_readCommand tasks h_ne, payload_readCommand tasks h_ne]
  rfl

/-- A read of a user task that has been performed is one of the command server. -/
theorem ReadDone.served (h : ReadDone tasks L s status ifnum resid cmd n a s')
    (h_regular : tasks.Regular) (h_ne : resid ≠ controlSpecialResid) :
    HostServed tasks L s (readRequest ifnum resid cmd n) a s' := by
  obtain ⟨h_read, h_length, h_table, h_ready⟩ := h
  obtain ⟨d, m, array, h_le, h_users, -, h_next, h_ret, h_payload⟩ := h_read
  have h_step := server_readCommand h_regular ifnum h_ne cmd d array h_le
  rw [h_users] at h_step
  constructor
  case sees =>
    rw [h_step]
    refine ⟨h_ret, fun _ h_success => ?_, fun _ h_told => ?_⟩
    · dsimp only at h_success ⊢
      rw [if_pos h_success]
      exact h_payload h_success
    · show a.payload.length = n
      by_cases h_spi : L.transport = .spi
      · exact h_length h_spi
      · -- the read has succeeded, so the host has its data
        rw [h_ret] at h_told
        have h_success := Transport.ret_of_told (fun h => absurd h h_spi) h_told
        rw [h_payload h_success, Buffer.length_front, Nat.min_eq_left h_le]
  case users =>
    rw [h_step]
    exact h_next
  case table => exact h_table
  case ready => exact h_ready

/-- A write whose answer the device has kept. -/
theorem hostServed_write {ps : List UInt8}
    (h_ret : a.ret = L.transport.told .write
      ((L.device s.world).writeAnswer tasks ifnum resid cmd ps).1)
    (h_users : (L.device s'.world).users
      = ((L.device s.world).writeAnswer tasks ifnum resid cmd ps).2)
    (h_table : (L.device s'.world).table = (L.device s.world).table) (h_ready : L.Ready s') :
    HostServed tasks L s (writeRequest ifnum resid cmd ps) a s' :=
  ⟨⟨h_ret, nofun, nofun⟩, h_users, h_table, h_ready⟩

/-- A query has left the user tasks alone, and its byte is in the hands of the host. -/
theorem ReadDone.special (h : ReadDone tasks L s status ifnum controlSpecialResid cmd 1 a s')
    (h_cmd : IsSpecialCmd cmd) :
    a = ⟨controlSuccess, [specialAnswer cmd status]⟩ ∧
      (L.device s'.world).users = (L.device s.world).users := by
  obtain ⟨⟨d, m, array, h_le, h_users, h_status, h_next, h_ret, h_payload⟩, -, -, -⟩ := h
  rw [readCommand_special h_cmd] at h_next h_ret h_payload
  have h_success : a.ret = controlSuccess := by
    rw [h_ret]
    cases L.transport <;> rfl
  have h_byte : a.payload = [specialAnswer cmd status] := by
    rw [h_payload rfl, front_store_zero _ h_le, h_status]
  obtain ⟨ret, payload⟩ := a
  dsimp only at h_success h_byte
  rw [h_success, h_byte]
  exact ⟨rfl, h_next.trans h_users⟩

end Done

end DeviceControl
