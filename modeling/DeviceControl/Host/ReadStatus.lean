import DeviceControl.Host.Command
import DeviceControl.I2c.Frame
import DeviceControl.Spi.Served
import DeviceControl.Xscope.HostRead

/-!
# What a read command reports to the host

The five implementations of `control_read_command`, one for each transport of a host: I2C and SPI on
a Raspberry Pi, I2C on an xCORE, USB and xSCOPE. Each of them calls a library for its bus, which is
not part of the repository. A `HostTransport` is an implementation with the functions of its library
and the device at the other end of the bus, all over some world `W`; `ErrorFree` says that the bus
brings the callbacks to the device and tells the host of a NACK or a stall.

`host_read_status_iff` says for each of them when `CONTROL_SUCCESS` stands for a read that the
device has served with success. Over I2C and USB it always does. The transactions of SPI carry no
result of a read, and the implementation returns success for every one, even where the device has
taken the header for the second transaction of an earlier read. Over xSCOPE the return value is
missing from the response for an unknown resource.
-/

namespace DeviceControl

variable {σ W : Type}

/-! ### The libraries -/

/-- What a library function leaves that reads some bytes: its return value, the bytes and the
world. -/
structure HostTransfer (W : Type) where
  ret : ℤ
  bytes : List UInt8
  world : W

/-- `i2c_res_t`. -/
inductive I2cRes where
  | nack
  | ack
  deriving DecidableEq, Repr

/-- What the write of an I2C master leaves. -/
structure I2cMasterWrite (W : Type) where
  res : I2cRes
  numBytesSent : ℕ
  world : W

/-- What the read of an I2C master leaves. -/
structure I2cMasterRead (W : Type) where
  res : I2cRes
  bytes : List UInt8
  world : W

/-- What `control_read_command` leaves when it returns. -/
structure HostRead (W : Type) where
  ret : ControlRet
  payload : List UInt8
  world : W

/-! ### The implementations

The arrays that they build their messages in are not initialised, but for the one of SPI. -/

section Implementations

variable (w : W) (resid : ControlResid) (cmd : ControlCmd) (payload : List UInt8)

/-- `control_read_command` of `device_access_i2c_rpi.c`. The parameter `rdwr` is the `ioctl` for a
write and a read with a repeated start. -/
def rpiI2cControlReadCommand (rdwr : W → List UInt8 → ℕ → HostTransfer W)
    (readHdr : Buffer UInt8 i2cTransactionMaxBytes) : HostRead W :=
  let built := controlBuildI2cData readHdr resid cmd (some payload) payload.length
  if built.1 ≠ 3 then ⟨controlError, payload, w⟩
  else
    let transfer := rdwr w (sent built) (payload.length % 2 ^ 16)
    if transfer.ret < 0 then ⟨controlError, transfer.bytes, transfer.world⟩
    else ⟨controlSuccess, transfer.bytes, transfer.world⟩

/-- `control_read_command` of `device_access_i2c_xcore.xc`. -/
def xcoreI2cControlReadCommand (write : W → List UInt8 → I2cMasterWrite W)
    (read : W → ℕ → I2cMasterRead W) (data : Buffer UInt8 i2cTransactionMaxBytes) : HostRead W :=
  let built := controlBuildI2cData data resid (controlCmdSetRead cmd) (some payload) payload.length
  let written := write w (sent built)
  if written.res ≠ .ack then ⟨controlError, payload, written.world⟩
  else if written.numBytesSent ≠ built.1 then ⟨controlError, payload, written.world⟩
  else
    let received := read written.world payload.length
    if received.res ≠ .ack then ⟨controlError, payload, received.world⟩
    else ⟨controlSuccess, received.bytes, received.world⟩

/-- `control_read_command` of `device_access_spi_rpi.c`. The parameter `transfern` is
`bcm2835_spi_transfern`, which returns what it has received in the array. -/
def rpiSpiControlReadCommand (transfern : W → List UInt8 → List UInt8 × W) : HostRead W :=
  let built := controlBuildSpiData (Buffer.ofList 0 []) resid cmd (some payload)
    (payload.length % 2 ^ 32)
  let first := transfern w (sent built)
  let transactionLength := if payload.length < 8 then 8 else payload.length % 2 ^ 32
  let second := transfern first.2 (List.replicate transactionLength 0)
  ⟨controlSuccess, second.1.take payload.length, second.2⟩

/-- `control_read_command` of `device_access_usb.c`. The parameter `controlTransfer` is
`libusb_control_transfer` of a vendor request to the host. -/
def usbControlReadCommand (controlTransfer : W → UsbSetupPacket → HostTransfer W) : HostRead W :=
  if usbDataMaxBytes < payload.length then ⟨controlDataLengthError, payload, w⟩
  else
    let header := controlUsbFillHeader resid (controlCmdSetRead cmd) payload.length
    let transfer := controlTransfer w ⟨controlVendorRequest, header.2.1, header.1, header.2.2⟩
    if transfer.ret ≠ payload.length then ⟨controlError, transfer.bytes, transfer.world⟩
    else ⟨controlSuccess, transfer.bytes, transfer.world⟩

end Implementations

/-! ### Hosts on their buses -/

/-- A host implementation, the functions of its library and the device on the bus. -/
inductive HostTransport (σ W : Type) where
  | rpiI2c (rdwr : W → List UInt8 → ℕ → HostTransfer W) (device : W → Device σ)
  | xcoreI2c (write : W → List UInt8 → I2cMasterWrite W) (read : W → ℕ → I2cMasterRead W)
      (device : W → Device σ)
  | rpiSpi (transfern : W → List UInt8 → List UInt8 × W) (requiresFirst : Bool)
      (device : W → Device σ)
  | usb (controlTransfer : W → UsbSetupPacket → HostTransfer W) (server : W → UsbServer σ)
  | xscope (requestUpload : W → List UInt8 → XscopeOutcome W) (server : W → XscopeServer σ)
      (host : XscopeHost)

/-- The callbacks of a write of the I2C master, up to its last byte. -/
def i2cWriteTransfer (bytes : List UInt8) : List I2cCallback := .writeStart :: bytes.map .writeData

/-- The callbacks of a read of the I2C master. -/
def i2cReadTransfer (n : ℕ) : List I2cCallback :=
  .readStart :: (List.replicate n .readData ++ [.stop])

/-- A transaction of the SPI master: the bytes that it receives, and the device after it. -/
def spiTransfer (tasks : UserTasks σ) (requiresFirst : Bool) (d : Device σ) (bytes : List UInt8) :
    List UInt8 × Device σ :=
  let cbs := spiTransaction (exchange requiresFirst bytes)
  (((spiControlClient tasks).trace d cbs).filterMap fun p => p.2.map UInt32.toUInt8,
    (spiControlClient tasks).run d cbs)

/-- The callbacks of a read command over SPI: its header, and the zeroes for its data. -/
def rpiSpiCallbacks (requiresFirst : Bool) (resid : ControlResid) (cmd : ControlCmd)
    (payload : List UInt8) : List SpiCallback :=
  let built := controlBuildSpiData (Buffer.ofList 0 []) resid cmd (some payload)
    (payload.length % 2 ^ 32)
  let transactionLength := if payload.length < 8 then 8 else payload.length % 2 ^ 32
  spiTransaction (exchange requiresFirst (sent built))
    ++ spiTransaction (exchange requiresFirst (List.replicate transactionLength 0))

namespace HostTransport

variable (t : HostTransport σ W)

def transport : Transport :=
  match t with
  | rpiI2c .. => .i2c
  | xcoreI2c .. => .i2c
  | rpiSpi .. => .spi
  | usb .. => .usb
  | xscope .. => .xscope

/-- The bus works: it brings the callbacks to the device, and what it tells the host is so. Success
of an I2C transfer means that the slave has not answered with a NACK, and success of a USB transfer
that the request was not stalled. -/
def ErrorFree (tasks : UserTasks σ) : Prop :=
  match t with
  | rpiI2c rdwr device => ∀ w bytes n, 0 ≤ (rdwr w bytes n).ret →
      I2cAcked tasks (device w) (i2cWriteTransfer bytes ++ i2cReadTransfer n)
  | xcoreI2c write read device =>
      (∀ w bytes, (write w bytes).res = .ack → (write w bytes).numBytesSent = bytes.length →
        I2cAcked tasks (device w) (i2cWriteTransfer bytes) ∧
          device (write w bytes).world
            = (i2cControlClient tasks).run (device w) (i2cWriteTransfer bytes)) ∧
      ∀ w n, (read w n).res = .ack → I2cAcked tasks (device w) (i2cReadTransfer n)
  | rpiSpi transfern requiresFirst device => ∀ w bytes,
      ((transfern w bytes).1, device (transfern w bytes).2)
        = spiTransfer tasks requiresFirst (device w) bytes
  | usb controlTransfer server => ∀ w sp, 0 ≤ (controlTransfer w sp).ret →
      ∃ doGetRequest, (usbD2hVendorRequest tasks doGetRequest sp (server w)).1 = .okay
  | xscope requestUpload server host => XscopeDelivers tasks requestUpload server host

/-- No transaction is going on. Only SPI keeps something from one to the next that matters. -/
def AtRest (w : W) : Prop :=
  match t with
  | rpiSpi _ _ device => (device w).spi.AtRest
  | _ => True

section Read

variable (w : W) (b : Buffer UInt8 256) (resid : ControlResid) (cmd : ControlCmd)
  (payload : List UInt8)

/-- The value that `control_read_command` returns, if it does; `b` is what its array holds
before. -/
def controlReadCommand : Option ControlRet :=
  match t with
  | rpiI2c rdwr _ => some (rpiI2cControlReadCommand w resid cmd payload rdwr b).ret
  | xcoreI2c write read _ => some (xcoreI2cControlReadCommand w resid cmd payload write read b).ret
  | rpiSpi transfern _ _ => some (rpiSpiControlReadCommand w resid cmd payload transfern).ret
  | usb controlTransfer _ => some (usbControlReadCommand w resid cmd payload controlTransfer).ret
  | xscope requestUpload _ host =>
      (host.controlReadCommand requestUpload w b resid cmd payload).map XscopeRead.ret

/-- The device serves the read with success: the resource is found, and `read_command` of the device
returns `CONTROL_SUCCESS` for the array that the transport has for it. Over SPI one of the callbacks
has to perform it. -/
def ServesRead (tasks : UserTasks σ) : Prop :=
  match t with
  | rpiI2c _ device => ReadSucceeds tasks (device w) resid cmd (device w).i2c.payload payload.length
  | xcoreI2c _ _ device =>
      ReadSucceeds tasks (device w) resid cmd (device w).i2c.payload payload.length
  | rpiSpi _ requiresFirst device => SpiServesRead tasks (device w)
      (rpiSpiCallbacks requiresFirst resid cmd payload) resid cmd payload.length
  | usb _ server =>
      ReadSucceeds tasks (server w).device resid cmd (server w).requestData payload.length
  | xscope _ server _ => ReadSucceeds tasks (server w).device resid cmd
      ((server w).upload (xscopeReadUpload b resid cmd payload.length)).data payload.length

/-- The condition under which success is the truth. -/
def ReportsRead (tasks : UserTasks σ) : Prop :=
  match t with
  | rpiI2c .. => True
  | xcoreI2c .. => True
  | rpiSpi _ _ device => (device w).spi = Spi.zero ∧
      ∃ ifnum, resourceTableSearch (device w).table resid = some ifnum ∧
        (spiRead tasks (device w) ifnum resid cmd payload.length).reply.ret = controlSuccess
  | usb .. => True
  | xscope _ server _ =>
      (resourceTableSearch (server w).device.table resid).isSome ∨
        XscopeBuffer.pad b ≠ controlSuccess

end Read

end HostTransport

/-! ### I2C -/

section I2c

variable {tasks : UserTasks σ} {d : Device σ} {r c n : UInt8}

/-- A resource byte that is acknowledged is found. -/
theorem exists_search_of_acked {bs : List UInt8} {cbs : List I2cCallback}
    (h : I2cAcked tasks d (i2cWriteTransfer (r :: bs) ++ cbs)) :
    ∃ ifnum, resourceTableSearch d.table r = some ifnum := by
  have h_split : I2cAcked tasks d
      ([.writeStart] ++ .writeData r :: (bs.map I2cCallback.writeData ++ cbs)) := h
  have h_ret := h_split.ret fun _ => rfl
  cases h_search : resourceTableSearch d.table r with
  | some ifnum => exact ⟨ifnum, rfl⟩
  | none =>
    change (i2cWriteData tasks r { d with i2c := { d.i2c with state := .writeStart } }).2.ret = _
      at h_ret
    dsimp only [i2cWriteData] at h_ret
    rw [h_search] at h_ret
    cases h_ret

/-- **I2C.** A read that is acknowledged throughout is served with success, whatever the machine was
doing before. -/
theorem readSucceeds_of_acked (h_read : isControlCmdRead c = true)
    (h_le : n.toNat ≤ i2cDataMaxBytes) (h_ne : n.toNat ≠ 0) {k : ℕ}
    (h : I2cAcked tasks d (i2cWriteTransfer [r, c, n] ++ i2cReadTransfer k)) :
    ReadSucceeds tasks d r c d.i2c.payload n.toNat := by
  obtain ⟨ifnum, h_search⟩ := exists_search_of_acked h
  have h_split : I2cAcked tasks d
      (headerCallbacks r c n ++ .readStart :: (List.replicate k .readData ++ [.stop])) := h
  have h_ret := h_split.ret fun _ => rfl
  have h_await : ((d.addressed ifnum r c).announced n.toNat).i2c.AwaitsRead ifnum r c n.toNat :=
    ⟨rfl, rfl, rfl, rfl, rfl⟩
  rw [(trace_header tasks d h_search h_le h_ne).1, h_await.step tasks h_read] at h_ret
  -- the header has changed neither the user tasks nor the payload array
  have h_users : ((d.addressed ifnum r c).announced n.toNat).users = d.users := rfl
  refine ⟨ifnum, h_search, ?_⟩
  rw [← ret_readCommand_congr tasks h_users]
  exact h_ret

variable {w : W} {b : Buffer UInt8 i2cTransactionMaxBytes} {cmd : ControlCmd} {payload : List UInt8}

theorem rpiI2c_servesRead {rdwr : W → List UInt8 → ℕ → HostTransfer W} {device : W → Device σ}
    (h_bus : (HostTransport.rpiI2c rdwr device).ErrorFree tasks)
    (h_read : isControlCmdRead cmd = true) (h_pos : 1 ≤ payload.length)
    (h_len : payload.length ≤ i2cDataMaxBytes)
    (h_ret : (rpiI2cControlReadCommand w r cmd payload rdwr b).ret = controlSuccess) :
    ReadSucceeds tasks (device w) r cmd (device w).i2c.payload payload.length := by
  have h_nat := toNat_ofNat_of_le h_len
  dsimp only [rpiI2cControlReadCommand] at h_ret
  rw [sent_buildI2c_read b h_read (some payload) h_len (by decide)] at h_ret
  split at h_ret
  · cases h_ret
  split at h_ret
  · cases h_ret
  next h_transfer =>
  have h_acked := h_bus w _ _ (not_lt.mp h_transfer)
  rw [← h_nat]
  exact readSucceeds_of_acked h_read (by omega) (by omega) h_acked

theorem xcoreI2c_servesRead {write : W → List UInt8 → I2cMasterWrite W}
    {read : W → ℕ → I2cMasterRead W} {device : W → Device σ}
    (h_bus : (HostTransport.xcoreI2c write read device).ErrorFree tasks)
    (h_read : isControlCmdRead cmd = true) (h_pos : 1 ≤ payload.length)
    (h_len : payload.length ≤ i2cDataMaxBytes)
    (h_ret : (xcoreI2cControlReadCommand w r cmd payload write read b).ret = controlSuccess) :
    ReadSucceeds tasks (device w) r cmd (device w).i2c.payload payload.length := by
  have h_nat := toNat_ofNat_of_le h_len
  have h_sent : sent (controlBuildI2cData b r cmd (some payload) payload.length)
      = [r, cmd, UInt8.ofNat payload.length] :=
    sent_buildI2c_read b h_read (some payload) h_len (by decide)
  dsimp only [xcoreI2cControlReadCommand] at h_ret
  rw [controlCmdSetRead_of_read h_read, h_sent, buildI2c_read_size b h_read _ h_len] at h_ret
  split at h_ret
  · cases h_ret
  split at h_ret
  · cases h_ret
  split at h_ret
  · cases h_ret
  -- both transfers are acknowledged, and the second one starts where the first one has stopped
  next h_written h_count h_received =>
  obtain ⟨h_acked, h_world⟩ := h_bus.1 w _ (not_not.mp h_written) (not_not.mp h_count)
  have h_rest := h_bus.2 _ _ (not_not.mp h_received)
  rw [h_world] at h_rest
  rw [← h_nat]
  exact readSucceeds_of_acked h_read (by omega) (by omega) (h_acked.append h_rest)

end I2c

/-! ### SPI -/

section Spi

variable {tasks : UserTasks σ} {transfern : W → List UInt8 → List UInt8 × W} {requiresFirst : Bool}
  {device : W → Device σ} {w : W} {resid : ControlResid} {cmd : ControlCmd} {payload : List UInt8}

/-- A read command brings its callbacks to the device. -/
theorem rpiSpi_run (h_bus : (HostTransport.rpiSpi transfern requiresFirst device).ErrorFree tasks) :
    device (rpiSpiControlReadCommand w resid cmd payload transfern).world
      = (spiSystem tasks).run (device w) (rpiSpiCallbacks requiresFirst resid cmd payload) := by
  have h_transfer (w : W) (bytes : List UInt8) : device (transfern w bytes).2
      = (spiSystem tasks).run (device w) (spiTransaction (exchange requiresFirst bytes)) :=
    (congrArg Prod.snd (h_bus w bytes)).trans (run_spiControlClient _ _)
  rw [rpiSpiCallbacks, Transducer.run_append, ← h_transfer, ← h_transfer]
  rfl

/-- It leaves the machine at rest, for the next command. -/
theorem rpiSpi_atRest
    (h_bus : (HostTransport.rpiSpi transfern requiresFirst device).ErrorFree tasks) :
    (HostTransport.rpiSpi transfern requiresFirst device).AtRest
      (rpiSpiControlReadCommand w resid cmd payload transfern).world := by
  change (device _).spi.AtRest
  rw [rpiSpi_run h_bus, rpiSpiCallbacks, Transducer.run_append]
  exact atRest_of_transaction tasks _ _

variable (requiresFirst resid) in
/-- **SPI.** The device serves the read exactly if it finds the machine idle, and the read
succeeds. -/
theorem rpiSpi_servesRead_iff (h_rest : (device w).spi.AtRest)
    (h_read : isControlCmdRead cmd = true) (h_len : payload.length ≤ spiDataMaxBytes) :
    SpiServesRead tasks (device w) (rpiSpiCallbacks requiresFirst resid cmd payload) resid cmd
        payload.length ↔
      (device w).spi = Spi.zero ∧
        ∃ ifnum, resourceTableSearch (device w).table resid = some ifnum ∧
          (spiRead tasks (device w) ifnum resid cmd payload.length).reply.ret = controlSuccess := by
  have h_mod : payload.length % 2 ^ 32 = payload.length :=
    Nat.mod_eq_of_lt (h_len.trans_lt (by decide))
  rw [rpiSpiCallbacks, h_mod, sent_buildSpi_read _ h_read (some payload) h_len]
  exact spiServesRead_iff tasks h_rest h_read h_len requiresFirst _

end Spi

/-! ### USB -/

section Usb

variable {tasks : UserTasks σ} {w : W} {resid : ControlResid} {cmd : ControlCmd}
  {payload : List UInt8}

/-- A get request succeeds only for a read that succeeds. -/
theorem readSucceeds_of_getRequest {n : ℕ} {d : Device σ} {windex wvalue wlength : UInt16}
    {requestData : Buffer UInt8 n}
    (h : (controlProcessUsbGetRequest tasks windex wvalue wlength requestData d).2.ret
      = controlSuccess) :
    ReadSucceeds tasks d windex.toUInt8 wvalue.toUInt8 requestData wlength.toNat := by
  dsimp only [controlProcessUsbGetRequest] at h
  cases h_search : resourceTableSearch d.table windex.toUInt8 with
  | none =>
    rw [h_search] at h
    cases h
  | some ifnum =>
    rw [h_search] at h
    dsimp only at h
    split at h
    · exact ⟨ifnum, h_search, h⟩
    · cases h

/-- **USB.** A request that is not stalled is served with success. -/
theorem usb_servesRead {controlTransfer : W → UsbSetupPacket → HostTransfer W}
    {server : W → UsbServer σ} (h_bus : (HostTransport.usb controlTransfer server).ErrorFree tasks)
    (h_read : isControlCmdRead cmd = true)
    (h_ret : (usbControlReadCommand w resid cmd payload controlTransfer).ret = controlSuccess) :
    ReadSucceeds tasks (server w).device resid cmd (server w).requestData payload.length := by
  dsimp only [usbControlReadCommand] at h_ret
  split at h_ret
  · cases h_ret
  next h_len =>
  split at h_ret
  · cases h_ret
  -- as many bytes as asked for have been transferred, so the transfer has not failed
  next h_transfer =>
  have h_nonneg := (Int.natCast_nonneg payload.length).trans_eq (not_not.mp h_transfer).symm
  obtain ⟨doGetRequest, h_okay⟩ := h_bus w _ h_nonneg
  have h_get := readSucceeds_of_getRequest (ret_of_usbD2h_okay h_okay)
  dsimp only [controlUsbFillHeader] at h_get
  rwa [UInt8.toUInt8_toUInt16, UInt8.toUInt8_toUInt16, controlCmdSetRead_of_read h_read,
    toNat_ofNat16 (not_lt.mp h_len)] at h_get

end Usb

/-! ### xSCOPE -/

section Xscope

variable {tasks : UserTasks σ} {requestUpload : W → List UInt8 → XscopeOutcome W}
  {server : W → XscopeServer σ} {h : XscopeHost} {w : W} {b : XscopeBuffer} {resid : ControlResid}
  {cmd : ControlCmd} {payload : List UInt8}

/-- **xSCOPE.** The response has the return value of the read if its resource is found, and what
stood in the array of the host otherwise. -/
theorem xscope_servesRead_iff (h_link : XscopeDelivers tasks requestUpload server h)
    (h_read : isControlCmdRead cmd = true) (h_len : payload.length ≤ xscopeUploadMaxWords) :
    ((h.controlReadCommand requestUpload w b resid cmd payload).map XscopeRead.ret
          = some controlSuccess →
        ReadSucceeds tasks (server w).device resid cmd
          ((server w).upload (xscopeReadUpload b resid cmd payload.length)).data payload.length) ↔
      (resourceTableSearch (server w).device.table resid).isSome ∨ b.pad ≠ controlSuccess := by
  have h_mod : payload.length % 2 ^ 32 = payload.length :=
    Nat.mod_eq_of_lt (h_len.trans_lt (by decide))
  have h_short : payload.length % 2 ^ 32 ≤ xscopeUploadMaxWords := h_mod.trans_le h_len
  set uploaded := xscopeReadUpload b resid cmd payload.length with h_uploaded
  obtain ⟨h_resid, h_cmd, h_plen, h_pad⟩ :
      ((server w).upload uploaded).resid = resid ∧
        ((server w).upload uploaded).cmd = controlCmdSetRead cmd ∧
        ((server w).upload uploaded).payloadLen.toNat = payload.length % 2 ^ 32 ∧
        ((server w).upload uploaded).pad = b.pad :=
    readUpload_fields (server w) h_short
  rw [controlCmdSetRead_of_read h_read] at h_cmd
  obtain ⟨out, h_out, h_answer⟩ :=
    exists_readAnswer (server w) uploaded (by rw [h_cmd]; exact h_read)
  obtain ⟨r, h_run, h_r⟩ := h_link.answered (readUpload_ne_nil h_short) h_out
  -- the host returns the fourth byte of the response
  have h_byte {x : UInt8} (h_x : out[3]? = some x) : r.ret = x := by
    rw [h_r.ret, XscopeHost.responseRet, XscopeHost.responseByte, h_r.response, h_x,
      Option.getD_some]
  rw [h_run, Option.map_some, Option.some.injEq]
  cases h_search : resourceTableSearch (server w).device.table resid with
  | some ifnum =>
    refine iff_of_true (fun h_success => ⟨ifnum, h_search, ?_⟩) (Or.inl rfl)
    have h_ret := h_byte (h_answer.ret ifnum (by rw [h_resid]; exact h_search))
    rw [h_resid, h_cmd, h_plen, h_mod] at h_ret
    exact h_ret.symm.trans h_success
  | none =>
    have h_ret := h_byte (h_answer.pad (by rw [h_resid]; exact h_search))
    rw [h_ret, h_pad, Option.isSome_none, or_iff_right Bool.false_ne_true]
    -- a read of an unknown resource does not succeed
    refine forall_congr' fun _ => iff_of_false ?_ not_false
    rintro ⟨ifnum, h_some, -⟩
    rw [h_search] at h_some
    cases h_some

end Xscope

/-! ### All implementations -/

/-- **The status of a read.** Over an error-free bus, a read command returns success only for a read
that the device serves with success: always over I2C and USB; over SPI, where it returns success for
every read, exactly if it finds the machine idle and the read succeeds; over xSCOPE exactly if the
resource is found, or the array of the host did not happen to hold `CONTROL_SUCCESS` where the
response has its return value. -/
theorem host_read_status_iff {tasks : UserTasks σ} {t : HostTransport σ W}
    (h_bus : t.ErrorFree tasks) {w : W} (h_rest : t.AtRest w) (b : Buffer UInt8 256)
    (resid : ControlResid) {cmd : ControlCmd} {payload : List UInt8}
    (h_read : isControlCmdRead cmd = true) (h_pos : 1 ≤ payload.length)
    (h_len : payload.length ≤ t.transport.limit) :
    (t.controlReadCommand w b resid cmd payload = some controlSuccess →
        t.ServesRead w b resid cmd payload tasks) ↔
      t.ReportsRead w b resid cmd payload tasks := by
  cases t with
  | rpiI2c rdwr device =>
    refine iff_of_true (fun h_success => ?_) trivial
    exact rpiI2c_servesRead h_bus h_read h_pos h_len (Option.some.inj h_success)
  | xcoreI2c write read device =>
    refine iff_of_true (fun h_success => ?_) trivial
    exact xcoreI2c_servesRead h_bus h_read h_pos h_len (Option.some.inj h_success)
  | rpiSpi transfern requiresFirst device =>
    -- the command returns success in any case
    exact (forall_prop_of_true rfl).trans
      (rpiSpi_servesRead_iff requiresFirst resid h_rest h_read h_len)
  | usb controlTransfer server =>
    refine iff_of_true (fun h_success => ?_) trivial
    exact usb_servesRead h_bus h_read (Option.some.inj h_success)
  | xscope requestUpload server host => exact xscope_servesRead_iff h_bus h_read h_len

/-- The `ioctl` on an error-free bus: it fails if there is a NACK. -/
def i2cRdwr (tasks : UserTasks σ) (d : Device σ) (bytes : List UInt8) (n : ℕ) :
    HostTransfer (Device σ) :=
  let cbs := i2cWriteTransfer bytes ++ i2cReadTransfer n
  { ret := if .nack ∈ ((i2cControlClient tasks).trace d cbs).map Prod.snd then -1 else 2
    bytes := ((i2cSystem tasks).trace d cbs).flatMap fun p => hostBytes (.i2c p.1, p.2)
    world := (i2cControlClient tasks).run d cbs }

theorem i2cRdwr_errorFree (tasks : UserTasks σ) :
    (HostTransport.rpiI2c (i2cRdwr tasks) id).ErrorFree tasks := by
  intro d bytes n h_ret p hp h_nack
  have h_mem : I2cSlaveAnswer.nack ∈ ((i2cControlClient tasks).trace d
      (i2cWriteTransfer bytes ++ i2cReadTransfer n)).map Prod.snd :=
    List.mem_map.mpr ⟨p, hp, h_nack⟩
  dsimp only [i2cRdwr] at h_ret
  rw [if_pos h_mem] at h_ret
  exact absurd h_ret (by decide)

/-- A read over I2C that a user task answers with success. -/
theorem host_read_status_success :
    let tasks : UserTasks Unit := .always controlSuccess [7, 8]
    let t : HostTransport Unit (Device Unit) := .rpiI2c (i2cRdwr tasks) id
    let b : Buffer UInt8 256 := Buffer.ofList 0 []
    t.controlReadCommand (boot [[3]] ()) b 3 0x85 [0, 0] = some controlSuccess ∧
      t.ServesRead (boot [[3]] ()) b 3 0x85 [0, 0] tasks := by
  intro tasks t b
  have h_success : t.controlReadCommand (boot [[3]] ()) b 3 0x85 [0, 0] = some controlSuccess := by
    decide +kernel
  have h_read : isControlCmdRead 0x85 = true := by decide
  have h_len : ([0, 0] : List UInt8).length ≤ t.transport.limit := by decide
  have h_rest : t.AtRest (boot [[3]] ()) := trivial
  have h_iff := host_read_status_iff (i2cRdwr_errorFree tasks) h_rest b 3 h_read (by decide) h_len
  exact ⟨h_success, h_iff.mpr trivial h_success⟩

/-- A read over SPI that a user task refuses: the device has returned an error from the callback
that performed it, and the host returns success. -/
theorem host_read_status_hidden :
    let tasks : UserTasks Unit := .always controlError []
    let t : HostTransport Unit (Device Unit) := .rpiSpi (spiTransfer tasks false) false id
    let b : Buffer UInt8 256 := Buffer.ofList 0 []
    t.ErrorFree tasks ∧ t.AtRest (boot [[3]] ()) ∧
      (∃ p ∈ (spiSystem tasks).trace (boot [[3]] ()) (rpiSpiCallbacks false 3 0x85 [0, 0]),
        p.2.ret = controlError ∧ ∃ call ∈ p.2.calls, call.request = readRequest 0 3 0x85 2) ∧
      t.controlReadCommand (boot [[3]] ()) b 3 0x85 [0, 0] = some controlSuccess ∧
      ¬ t.ServesRead (boot [[3]] ()) b 3 0x85 [0, 0] tasks := by
  intro tasks t b
  have h_rest : (boot [[3]] ()).spi.AtRest := Or.inl rfl
  refine ⟨fun _ _ => rfl, h_rest, by decide +kernel, rfl, fun h_serves => ?_⟩
  have h_read : isControlCmdRead 0x85 = true := by decide
  have h_len : ([0, 0] : List UInt8).length ≤ spiDataMaxBytes := by decide
  obtain ⟨-, ifnum, -, h_ret⟩ :=
    (rpiSpi_servesRead_iff false 3 h_rest h_read h_len).mp h_serves
  -- the user task answers every read with an error
  have h_error : (spiRead tasks (boot [[3]] ()) ifnum 3 0x85 2).reply.ret = controlError := rfl
  cases h_error.symm.trans h_ret

end DeviceControl
