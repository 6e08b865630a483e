import DeviceControl.Host.ReadStatus

/-!
# The write commands of the hosts

The implementations of `control_write_command`. Over I2C, SPI and USB a write is followed by a read
of the last command's status, which is what the command returns; over xSCOPE it returns what the
response says.

A `HostImpl` is an implementation with the functions of its library, over some world `W`, and
`HostLocals` is what its uninitialised locals hold. `HostImpl.writeTransfers` says what comes of the
two transfers of a write, and `ret_write_eq_success_iff` when the command returns success.
-/

namespace DeviceControl

variable {W : Type}

/-! ### The implementations -/

/-- What `control_write_command` leaves when it returns. -/
structure HostWrite (W : Type) where
  ret : ControlRet
  world : W

/-- `VERSION_MAX_PAYLOAD_SIZE`. -/
abbrev versionMaxPayloadSize : ℕ := 64

section Implementations

variable (w : W) (resid : ControlResid) (cmd : ControlCmd) (payload : List UInt8)

/-- `control_write_command` of `device_access_i2c_rpi.c`. The parameter `write` is the system call,
with the number of bytes written or a negative value. -/
def rpiI2cControlWriteCommand (write : W → List UInt8 → ℤ × W)
    (rdwr : W → List UInt8 → ℕ → HostTransfer W)
    (bufferToSend : Buffer UInt8 (i2cTransactionMaxBytes + 3))
    (readHdr : Buffer UInt8 i2cTransactionMaxBytes) (commandStatus : ControlStatus) :
    HostWrite W :=
  let built := controlBuildI2cData bufferToSend resid cmd (some payload) payload.length
  let written := write w (sent built)
  if written.1 ≠ built.1 then ⟨controlError, written.2⟩
  else
    -- read control status of the last command
    let query := rpiI2cControlReadCommand written.2 controlSpecialResid controlGetLastCommandStatus
      [commandStatus] rdwr readHdr
    if query.ret ≠ controlSuccess then ⟨controlError, query.world⟩
    else ⟨query.payload.headD commandStatus, query.world⟩

/-- `control_write_command` of `device_access_i2c_xcore.xc`. The last argument of `write` asks for a
stop bit. -/
def xcoreI2cControlWriteCommand (write : W → List UInt8 → Bool → I2cMasterWrite W)
    (read : W → ℕ → I2cMasterRead W) (data queryData : Buffer UInt8 i2cTransactionMaxBytes)
    (status : ControlStatus) : HostWrite W :=
  let built := controlBuildI2cData data resid (controlCmdSetWrite cmd) (some payload) payload.length
  let written := write w (sent built) true
  if written.res ≠ .ack then ⟨controlError, written.world⟩
  else if written.numBytesSent ≠ built.1 then ⟨controlError, written.world⟩
  else
    -- read back write command status
    let query := xcoreI2cControlReadCommand written.world controlSpecialResid
      controlGetLastCommandStatus [status] (fun w bytes => write w bytes false) read queryData
    ⟨query.payload.headD status, query.world⟩

/-- `control_write_command` of `device_access_spi_rpi.c`. -/
def rpiSpiControlWriteCommand (transfern : W → List UInt8 → List UInt8 × W)
    (dataSentReceived : Buffer UInt8 spiTransactionMaxBytes) (commandStatus : ControlStatus) :
    HostWrite W :=
  let built := controlBuildSpiData dataSentReceived resid cmd (some payload)
    (payload.length % 2 ^ 32)
  let first := transfern w (sent built)
  -- read control status of the last command
  let query := rpiSpiControlReadCommand first.2 controlSpecialResid controlGetLastCommandStatus
    [commandStatus] transfern
  if query.ret ≠ controlSuccess then ⟨controlError, query.world⟩
  else ⟨query.payload.headD commandStatus, query.world⟩

/-- `control_special_command` of `device_access_usb.c`. -/
def usbControlSpecialCommand (cmdId : ControlCmd) (controlIn : W → UsbSetupPacket → HostTransfer W)
    (requestData : Buffer UInt8 versionMaxPayloadSize) : HostRead W :=
  let header := controlUsbFillHeader controlSpecialResid cmdId payload.length
  let transfer := controlIn w ⟨controlVendorRequest, header.2.1, header.1, header.2.2⟩
  if transfer.ret ≠ sizeofControlVersion then ⟨controlError, payload, transfer.world⟩
  else ⟨controlSuccess, (requestData.copy 0 transfer.bytes).front payload.length, transfer.world⟩

/-- `control_write_command` of `device_access_usb.c`. The parameters `controlOut` and `controlIn`
are `libusb_control_transfer` of a vendor request in either direction. -/
def usbControlWriteCommand (controlOut : W → UsbSetupPacket → List UInt8 → ℤ × W)
    (controlIn : W → UsbSetupPacket → HostTransfer W)
    (requestData : Buffer UInt8 versionMaxPayloadSize) (status : ControlStatus) : HostWrite W :=
  if usbDataMaxBytes < payload.length then ⟨controlDataLengthError, w⟩
  else
    let header := controlUsbFillHeader resid (controlCmdSetWrite cmd) payload.length
    let written := controlOut w ⟨controlVendorRequest, header.2.1, header.1, header.2.2⟩ payload
    if written.1 ≠ payload.length then ⟨controlError, written.2⟩
    else
      -- read back write command status
      let query := usbControlSpecialCommand written.2 [status] controlGetLastCommandStatus controlIn
        requestData
      ⟨query.payload.headD status, query.world⟩

end Implementations

/-! ### Hosts with their libraries -/

/-- A host implementation with the functions of its library. Nothing tells an SPI master whether the
slave takes part in a transfer, so `completes` does not enter the implementation. -/
inductive HostImpl (W : Type) where
  | rpiI2c (write : W → List UInt8 → ℤ × W) (rdwr : W → List UInt8 → ℕ → HostTransfer W)
  | xcoreI2c (write : W → List UInt8 → Bool → I2cMasterWrite W) (read : W → ℕ → I2cMasterRead W)
  | rpiSpi (transfern : W → List UInt8 → List UInt8 × W) (completes : W → List UInt8 → Prop)
  | usb (controlOut : W → UsbSetupPacket → List UInt8 → ℤ × W)
      (controlIn : W → UsbSetupPacket → HostTransfer W)
  | xscope (requestUpload : W → List UInt8 → XscopeOutcome W) (host : XscopeHost)

/-- What the uninitialised locals of a command hold: the array of the write, the one of the status
query, the status, and the arrays of USB and xSCOPE. -/
structure HostLocals where
  buffer : Buffer UInt8 (i2cTransactionMaxBytes + 3)
  data : Buffer UInt8 i2cTransactionMaxBytes
  queryData : Buffer UInt8 i2cTransactionMaxBytes
  status : ControlStatus
  requestData : Buffer UInt8 versionMaxPayloadSize
  upload : XscopeBuffer

/-- Locals that hold the same byte throughout. -/
def HostLocals.fill (x : UInt8) : HostLocals :=
  ⟨Buffer.ofList x [], Buffer.ofList x [], Buffer.ofList x [], x, Buffer.ofList x [],
    Buffer.ofList x []⟩

namespace HostImpl

variable (h : HostImpl W) (w : W) (l : HostLocals) (resid : ControlResid) (cmd : ControlCmd)
  (payload : List UInt8)

def transport : Transport :=
  match h with
  | rpiI2c .. => .i2c
  | xcoreI2c .. => .i2c
  | rpiSpi .. => .spi
  | usb .. => .usb
  | xscope .. => .xscope

/-- `control_write_command`. Over xSCOPE it may wait for ever. -/
def controlWriteCommand : Option (HostWrite W) :=
  match h with
  | rpiI2c write rdwr =>
      some (rpiI2cControlWriteCommand w resid cmd payload write rdwr l.buffer l.queryData l.status)
  | xcoreI2c write read =>
      some (xcoreI2cControlWriteCommand w resid cmd payload write read l.data l.queryData l.status)
  | rpiSpi transfern _ =>
      some (rpiSpiControlWriteCommand w resid cmd payload transfern l.data l.status)
  | usb controlOut controlIn =>
      some (usbControlWriteCommand w resid cmd payload controlOut controlIn l.requestData l.status)
  | xscope requestUpload host =>
      (host.controlWriteCommand requestUpload w l.upload resid cmd payload).map fun r =>
        ⟨r.ret, r.world⟩

/-- `control_read_command`. -/
def controlReadCommand : Option (HostRead W) :=
  match h with
  | rpiI2c _ rdwr => some (rpiI2cControlReadCommand w resid cmd payload rdwr l.data)
  | xcoreI2c write read => some (xcoreI2cControlReadCommand w resid cmd payload
      (fun w bytes => write w bytes false) read l.data)
  | rpiSpi transfern _ => some (rpiSpiControlReadCommand w resid cmd payload transfern)
  | usb _ controlIn => some (usbControlReadCommand w resid cmd payload controlIn)
  | xscope requestUpload host =>
      (host.controlReadCommand requestUpload w l.upload resid cmd payload).map fun r =>
        ⟨r.ret, r.payload, r.world⟩

end HostImpl

/-! ### The status query -/

/-- The header of the status query. -/
def statusHeader : List UInt8 := [controlSpecialResid, controlGetLastCommandStatus, 1]

/-- The setup packet of the status query. -/
def statusSetup : UsbSetupPacket :=
  ⟨controlVendorRequest, controlGetLastCommandStatus.toUInt16, controlSpecialResid.toUInt16, 1⟩

/-- The status query over SPI: a header with its padding, and the zeroes for the answer. -/
def spiStatusQuery : List UInt8 × List UInt8 :=
  (statusHeader ++ List.replicate 5 0, List.replicate 8 0)

section StatusQuery

variable (w : W) (status : ControlStatus)

/-- The header is what the builder makes of the query over I2C. -/
theorem built_statusHeader (data : Buffer UInt8 i2cTransactionMaxBytes)
    (p : Option (List UInt8)) :
    (controlBuildI2cData data controlSpecialResid controlGetLastCommandStatus p 1).1 = 3 ∧
      sent (controlBuildI2cData data controlSpecialResid controlGetLastCommandStatus p 1)
        = statusHeader :=
  ⟨buildI2c_read_size _ (by decide) _ (by decide),
    sent_buildI2c_read _ (by decide) _ (by decide) (by decide)⟩

theorem rpiI2c_statusQuery (rdwr : W → List UInt8 → ℕ → HostTransfer W)
    (readHdr : Buffer UInt8 i2cTransactionMaxBytes) :
    rpiI2cControlReadCommand w controlSpecialResid controlGetLastCommandStatus [status] rdwr readHdr
      = if (rdwr w statusHeader 1).ret < 0 then
          ⟨controlError, (rdwr w statusHeader 1).bytes, (rdwr w statusHeader 1).world⟩
        else ⟨controlSuccess, (rdwr w statusHeader 1).bytes, (rdwr w statusHeader 1).world⟩ := by
  obtain ⟨h_size, h_sent⟩ := built_statusHeader readHdr (some [status])
  dsimp only [rpiI2cControlReadCommand, List.length_singleton]
  rw [if_neg (not_not.mpr h_size), h_sent]
  rfl

theorem xcoreI2c_statusQuery (write : W → List UInt8 → I2cMasterWrite W)
    (read : W → ℕ → I2cMasterRead W) (data : Buffer UInt8 i2cTransactionMaxBytes) :
    xcoreI2cControlReadCommand w controlSpecialResid controlGetLastCommandStatus [status] write read
        data
      = (let written := write w statusHeader
        if written.res ≠ .ack then ⟨controlError, [status], written.world⟩
        else if written.numBytesSent ≠ 3 then ⟨controlError, [status], written.world⟩
        else
          let received := read written.world 1
          if received.res ≠ .ack then ⟨controlError, [status], received.world⟩
          else ⟨controlSuccess, received.bytes, received.world⟩) := by
  have h_cmd : controlCmdSetRead controlGetLastCommandStatus = controlGetLastCommandStatus :=
    controlCmdSetRead_of_read (by decide)
  obtain ⟨h_size, h_sent⟩ := built_statusHeader data (some [status])
  dsimp only [xcoreI2cControlReadCommand, List.length_singleton]
  simp only [h_cmd, h_size, h_sent]

theorem rpiSpi_statusQuery (transfern : W → List UInt8 → List UInt8 × W) :
    rpiSpiControlReadCommand w controlSpecialResid controlGetLastCommandStatus [status] transfern
      = (let first := transfern w spiStatusQuery.1
        let second := transfern first.2 spiStatusQuery.2
        ⟨controlSuccess, second.1.take 1, second.2⟩) := by
  have h_sent : sent (controlBuildSpiData (Buffer.ofList 0 []) controlSpecialResid
      controlGetLastCommandStatus (some [status]) 1) = spiStatusQuery.1 :=
    sent_buildSpi_read _ (by decide) _ (by decide)
  dsimp only [rpiSpiControlReadCommand, List.length_singleton]
  rw [show 1 % 2 ^ 32 = 1 from rfl, h_sent]
  rfl

theorem usb_statusQuery (controlIn : W → UsbSetupPacket → HostTransfer W)
    (requestData : Buffer UInt8 versionMaxPayloadSize) :
    usbControlSpecialCommand w [status] controlGetLastCommandStatus controlIn requestData
      = (let transfer := controlIn w statusSetup
        if transfer.ret ≠ 1 then ⟨controlError, [status], transfer.world⟩
        else ⟨controlSuccess, (requestData.copy 0 transfer.bytes).front 1, transfer.world⟩) :=
  rfl

end StatusQuery

/-! ### The transfers of a write -/

/-- What comes of the two transfers of a write: whether each of them completes, and the status byte
that the query delivers. -/
structure WriteTransfers where
  written : Prop
  queried : Prop
  status : Option ControlStatus

namespace HostImpl

variable (h : HostImpl W) (w : W) (l : HostLocals) (resid : ControlResid) (cmd : ControlCmd)
  (payload : List UInt8)

/-- The transfers of a write. Over xSCOPE there is no query. -/
def writeTransfers : WriteTransfers :=
  match h with
  | rpiI2c write rdwr =>
    let built := controlBuildI2cData l.buffer resid cmd (some payload) payload.length
    let query := rdwr (write w (sent built)).2 statusHeader 1
    ⟨(write w (sent built)).1 = built.1, 0 ≤ query.ret, query.bytes.head?⟩
  | xcoreI2c write read =>
    let built := controlBuildI2cData l.data resid (controlCmdSetWrite cmd) (some payload)
      payload.length
    let written := write w (sent built) true
    let header := write written.world statusHeader false
    let query := read header.world 1
    ⟨written.res = .ack ∧ written.numBytesSent = built.1,
      header.res = .ack ∧ header.numBytesSent = 3 ∧ query.res = .ack, query.bytes.head?⟩
  | rpiSpi transfern completes =>
    let bytes := sent (controlBuildSpiData l.data resid cmd (some payload)
      (payload.length % 2 ^ 32))
    let w₁ := (transfern w bytes).2
    let w₂ := (transfern w₁ spiStatusQuery.1).2
    ⟨completes w bytes, completes w₁ spiStatusQuery.1 ∧ completes w₂ spiStatusQuery.2,
      (transfern w₂ spiStatusQuery.2).1.head?⟩
  | usb controlOut controlIn =>
    let header := controlUsbFillHeader resid (controlCmdSetWrite cmd) payload.length
    let written := controlOut w ⟨controlVendorRequest, header.2.1, header.1, header.2.2⟩ payload
    let query := controlIn written.2 statusSetup
    ⟨payload.length ≤ usbDataMaxBytes ∧ written.1 = payload.length, query.ret = 1,
      query.bytes.head?⟩
  | xscope requestUpload _ =>
    let bytes := sent (controlXscopeCreateUploadBuffer l.upload (controlCmdSetWrite cmd) resid
      (some payload) (payload.length % 2 ^ 32))
    ⟨(requestUpload w bytes).accepted = true, False, none⟩

/-- A read that succeeds brings as many bytes as it was asked for, over USB as many as it
returns. -/
def Fills : Prop :=
  match h with
  | rpiI2c _ rdwr => ∀ w bytes n, 0 ≤ (rdwr w bytes n).ret → (rdwr w bytes n).bytes.length = n
  | xcoreI2c _ read => ∀ w n, (read w n).res = .ack → (read w n).bytes.length = n
  | rpiSpi transfern _ => ∀ w bytes, (transfern w bytes).1.length = bytes.length
  | usb _ controlIn =>
    ∀ w sp (n : ℕ), (controlIn w sp).ret = n → (controlIn w sp).bytes.length = n
  | xscope .. => True

/-- What a host with a status query takes for success, where `t` are the transfers of its write. Two
of them do not look at the result of the query, and what their `status` held stands for a byte that
has not come. -/
def TakesForSuccess (t : WriteTransfers) : Prop :=
  match h with
  | rpiI2c .. => t.written ∧ t.queried ∧ t.status = some controlSuccess
  | rpiSpi .. => t.status = some controlSuccess
  | xscope .. => False
  | _ => t.written ∧
      (t.queried ∧ t.status = some controlSuccess ∨ ¬ t.queried ∧ l.status = controlSuccess)

end HostImpl

/-! ### The value returned -/

section Returned

variable {w : W} {l : HostLocals} {resid : ControlResid} {cmd : ControlCmd} {payload : List UInt8}

/-- The status in the hands of the host, once a byte has come. -/
theorem headD_eq_iff {bytes : List UInt8} {status x : UInt8} (h : bytes ≠ []) :
    bytes.headD status = x ↔ bytes.head? = some x := by
  obtain ⟨b, bs, rfl⟩ := List.exists_cons_of_ne_nil h
  rw [List.headD_cons, List.head?_cons, Option.some.injEq]

theorem controlError_ne_success : controlError ≠ controlSuccess := by decide

theorem rpiI2c_ret_iff {write : W → List UInt8 → ℤ × W} {rdwr : W → List UInt8 → ℕ → HostTransfer W}
    (h_fills : (HostImpl.rpiI2c write rdwr).Fills) :
    (rpiI2cControlWriteCommand w resid cmd payload write rdwr l.buffer l.queryData l.status).ret
        = controlSuccess ↔
      (HostImpl.rpiI2c write rdwr).TakesForSuccess l
        ((HostImpl.rpiI2c write rdwr).writeTransfers w l resid cmd payload) := by
  dsimp only [rpiI2cControlWriteCommand, HostImpl.TakesForSuccess, HostImpl.writeTransfers]
  rw [rpiI2c_statusQuery]
  set built := controlBuildI2cData l.buffer resid cmd (some payload) payload.length
  set query := rdwr (write w (sent built)).2 statusHeader 1 with h_query
  by_cases h_written : (write w (sent built)).1 = built.1
  · rw [if_neg (not_not.mpr h_written)]
    by_cases h_queried : query.ret < 0
    · rw [if_pos h_queried, if_pos controlError_ne_success]
      exact iff_of_false controlError_ne_success fun h => absurd h.2.1 (Int.not_le.mpr h_queried)
    · have h_nonneg : 0 ≤ query.ret := Int.not_lt.mp h_queried
      have h_one : query.bytes.length = 1 := h_fills _ _ _ h_nonneg
      rw [if_neg h_queried, if_neg (not_not.mpr rfl),
        headD_eq_iff (List.ne_nil_of_length_eq_add_one h_one)]
      exact ⟨fun h => ⟨h_written, h_nonneg, h⟩, fun h => h.2.2⟩
  · rw [if_pos h_written]
    exact iff_of_false controlError_ne_success fun h => h_written h.1

theorem xcoreI2c_ret_iff {write : W → List UInt8 → Bool → I2cMasterWrite W}
    {read : W → ℕ → I2cMasterRead W} (h_fills : (HostImpl.xcoreI2c write read).Fills) :
    (xcoreI2cControlWriteCommand w resid cmd payload write read l.data l.queryData l.status).ret
        = controlSuccess ↔
      (HostImpl.xcoreI2c write read).TakesForSuccess l
        ((HostImpl.xcoreI2c write read).writeTransfers w l resid cmd payload) := by
  dsimp only [xcoreI2cControlWriteCommand, HostImpl.TakesForSuccess, HostImpl.writeTransfers]
  rw [xcoreI2c_statusQuery]
  set built := controlBuildI2cData l.data resid (controlCmdSetWrite cmd) (some payload)
    payload.length
  set written := write w (sent built) true
  set header := write written.world statusHeader false
  set query := read header.world 1
  by_cases h_res : written.res = .ack
  case neg =>
    rw [if_pos h_res]
    exact iff_of_false controlError_ne_success fun h => h_res h.1.1
  by_cases h_count : written.numBytesSent = built.1
  case neg =>
    rw [if_neg (not_not.mpr h_res), if_pos h_count]
    exact iff_of_false controlError_ne_success fun h => h_count h.1.2
  rw [if_neg (not_not.mpr h_res), if_neg (not_not.mpr h_count)]
  -- whatever keeps the query from being complete leaves the status as it was
  by_cases h_queried : header.res = .ack ∧ header.numBytesSent = 3 ∧ query.res = .ack
  · obtain ⟨h_header, h_three, h_query⟩ := h_queried
    have h_one : query.bytes.length = 1 := h_fills _ _ h_query
    dsimp only
    rw [if_neg (not_not.mpr h_header), if_neg (not_not.mpr h_three), if_neg (not_not.mpr h_query),
      headD_eq_iff (List.ne_nil_of_length_eq_add_one h_one)]
    exact ⟨fun h => ⟨⟨h_res, h_count⟩, Or.inl ⟨⟨h_header, h_three, h_query⟩, h⟩⟩,
      fun h => h.2.elim And.right fun h_not => absurd ⟨h_header, h_three, h_query⟩ h_not.1⟩
  · have h_kept : (if header.res ≠ .ack then
          (⟨controlError, [l.status], header.world⟩ : HostRead W)
        else if header.numBytesSent ≠ 3 then ⟨controlError, [l.status], header.world⟩
        else if query.res ≠ .ack then ⟨controlError, [l.status], query.world⟩
        else ⟨controlSuccess, query.bytes, query.world⟩).payload = [l.status] := by
      split_ifs with h_header h_three h_query
      · rfl
      · rfl
      · rfl
      · exact absurd ⟨not_not.mp h_header, not_not.mp h_three, not_not.mp h_query⟩ h_queried
    dsimp only
    rw [h_kept, List.headD_cons]
    exact ⟨fun h => ⟨⟨h_res, h_count⟩, Or.inr ⟨h_queried, h⟩⟩,
      fun h => h.2.elim (fun h_yes => absurd h_yes.1 h_queried) And.right⟩

theorem rpiSpi_ret_iff {transfern : W → List UInt8 → List UInt8 × W}
    {completes : W → List UInt8 → Prop} (h_fills : (HostImpl.rpiSpi transfern completes).Fills) :
    (rpiSpiControlWriteCommand w resid cmd payload transfern l.data l.status).ret = controlSuccess ↔
      (HostImpl.rpiSpi transfern completes).TakesForSuccess l
        ((HostImpl.rpiSpi transfern completes).writeTransfers w l resid cmd payload) := by
  dsimp only [rpiSpiControlWriteCommand, HostImpl.TakesForSuccess, HostImpl.writeTransfers]
  rw [rpiSpi_statusQuery]
  dsimp only
  set second := transfern (transfern _ spiStatusQuery.1).2 spiStatusQuery.2
  have h_eight : second.1.length = 8 := h_fills _ _
  have h_head : (second.1.take 1).head? = second.1.head? := by
    rw [List.head?_take, if_neg Nat.one_ne_zero]
  have h_some : second.1.take 1 ≠ [] := by
    refine List.ne_nil_of_length_eq_add_one (n := 0) ?_
    rw [List.length_take, h_eight]
    rfl
  rw [if_neg (not_not.mpr rfl), headD_eq_iff h_some, h_head]

theorem usb_ret_iff {controlOut : W → UsbSetupPacket → List UInt8 → ℤ × W}
    {controlIn : W → UsbSetupPacket → HostTransfer W}
    (h_fills : (HostImpl.usb controlOut controlIn).Fills) :
    (usbControlWriteCommand w resid cmd payload controlOut controlIn l.requestData l.status).ret
        = controlSuccess ↔
      (HostImpl.usb controlOut controlIn).TakesForSuccess l
        ((HostImpl.usb controlOut controlIn).writeTransfers w l resid cmd payload) := by
  dsimp only [usbControlWriteCommand, HostImpl.TakesForSuccess, HostImpl.writeTransfers]
  rw [usb_statusQuery]
  set header := controlUsbFillHeader resid (controlCmdSetWrite cmd) payload.length
  set written := controlOut w ⟨controlVendorRequest, header.2.1, header.1, header.2.2⟩ payload
  set query := controlIn written.2 statusSetup
  by_cases h_long : usbDataMaxBytes < payload.length
  · rw [if_pos h_long]
    -- refused for its length
    have h_error : controlDataLengthError ≠ controlSuccess := by decide
    exact iff_of_false h_error fun h => absurd h.1.1 (Nat.not_le.mpr h_long)
  rw [if_neg h_long]
  by_cases h_written : written.1 = payload.length
  case neg =>
    rw [if_pos h_written]
    -- not written in full
    exact iff_of_false controlError_ne_success fun h => h_written h.1.2
  rw [if_neg (not_not.mpr h_written)]
  have h_sent : payload.length ≤ usbDataMaxBytes ∧ written.1 = payload.length :=
    ⟨Nat.not_lt.mp h_long, h_written⟩
  dsimp only
  by_cases h_queried : query.ret = 1
  · -- the byte that has come stands in front of the array
    obtain ⟨b, h_bytes⟩ := List.length_eq_one_iff.mp (h_fills _ _ 1 h_queried)
    have h_front : (l.requestData.copy 0 query.bytes).front 1 = [b] := by
      rw [h_bytes]
      exact Buffer.front_copy_zero (l := [b]) _ (Nat.le_add_left 1 63)
    rw [if_neg (not_not.mpr h_queried), h_front, h_bytes, List.headD_cons, List.head?_cons,
      Option.some.injEq]
    exact ⟨fun h => ⟨h_sent, Or.inl ⟨h_queried, h⟩⟩,
      fun h => h.2.elim And.right fun h_not => absurd h_queried h_not.1⟩
  · rw [if_pos h_queried, List.headD_cons]
    exact ⟨fun h => ⟨h_sent, Or.inr ⟨h_queried, h⟩⟩,
      fun h => h.2.elim (fun h_yes => absurd h_yes.1 h_queried) And.right⟩

/-- **What a write returns.** A host with a status query returns success exactly for what it takes
for it. -/
theorem ret_write_eq_success_iff {h : HostImpl W} (h_query : h.transport ≠ .xscope)
    (h_fills : h.Fills) (w : W) (l : HostLocals) (resid : ControlResid) (cmd : ControlCmd)
    (payload : List UInt8) : ∃ r, h.controlWriteCommand w l resid cmd payload = some r ∧
      (r.ret = controlSuccess ↔ h.TakesForSuccess l (h.writeTransfers w l resid cmd payload)) := by
  cases h with
  | rpiI2c write rdwr => exact ⟨_, rfl, rpiI2c_ret_iff h_fills⟩
  | xcoreI2c write read => exact ⟨_, rfl, xcoreI2c_ret_iff h_fills⟩
  | rpiSpi transfern completes => exact ⟨_, rfl, rpiSpi_ret_iff h_fills⟩
  | usb controlOut controlIn => exact ⟨_, rfl, usb_ret_iff h_fills⟩
  | xscope requestUpload host => exact absurd rfl h_query

end Returned

end DeviceControl
