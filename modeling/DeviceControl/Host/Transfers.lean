import DeviceControl.Host.Write

/-!
# What a host puts on its bus

A `BusTransfer` is what a host asks of its library by one call. `HostImpl.recorded` is the same
implementation with a library that keeps a record of these, which changes nothing else: the
theorems `recorded_write` and `recorded_read` say so, and what the record is. A write makes one
transfer, or none if it refuses, and then the transfers of the status query as far as they succeed.
-/

namespace DeviceControl

variable {W : Type}

/-! ### The record -/

/-- What a host asks of its library by one call. -/
inductive BusTransfer where
  | i2cWrite (bytes : List UInt8) (stop : Bool)
  | i2cRead (n : ℕ)
  /-- A write and a read with a repeated start. -/
  | i2cRdwr (bytes : List UInt8) (n : ℕ)
  | spi (bytes : List UInt8)
  | usbOut (sp : UsbSetupPacket) (payload : List UInt8)
  | usbIn (sp : UsbSetupPacket)
  | xscope (bytes : List UInt8)
  deriving DecidableEq, Repr

namespace HostImpl

/-- The implementation with a library that records what it is asked for. -/
def recorded (h : HostImpl W) : HostImpl (W × List BusTransfer) :=
  match h with
  | rpiI2c write rdwr => rpiI2c
      (fun w bytes => ((write w.1 bytes).1, (write w.1 bytes).2, w.2 ++ [.i2cWrite bytes true]))
      (fun w bytes n => ⟨(rdwr w.1 bytes n).ret, (rdwr w.1 bytes n).bytes,
        (rdwr w.1 bytes n).world, w.2 ++ [.i2cRdwr bytes n]⟩)
  | xcoreI2c write read => xcoreI2c
      (fun w bytes stop => ⟨(write w.1 bytes stop).res, (write w.1 bytes stop).numBytesSent,
        (write w.1 bytes stop).world, w.2 ++ [.i2cWrite bytes stop]⟩)
      (fun w n => ⟨(read w.1 n).res, (read w.1 n).bytes, (read w.1 n).world, w.2 ++ [.i2cRead n]⟩)
  | rpiSpi transfern completes => rpiSpi
      (fun w bytes => ((transfern w.1 bytes).1, (transfern w.1 bytes).2, w.2 ++ [.spi bytes]))
      (fun w bytes => completes w.1 bytes)
  | usb controlOut controlIn => usb
      (fun w sp payload => ((controlOut w.1 sp payload).1, (controlOut w.1 sp payload).2,
        w.2 ++ [.usbOut sp payload]))
      (fun w sp => ⟨(controlIn w.1 sp).ret, (controlIn w.1 sp).bytes, (controlIn w.1 sp).world,
        w.2 ++ [.usbIn sp]⟩)
  | xscope requestUpload host => xscope
      (fun w bytes => ⟨(requestUpload w.1 bytes).accepted, (requestUpload w.1 bytes).records,
        (requestUpload w.1 bytes).world, w.2 ++ [.xscope bytes]⟩) host

variable (h : HostImpl W) (w : W) (l : HostLocals) (resid : ControlResid) (cmd : ControlCmd)
  (payload : List UInt8)

/-- What a write command puts on the bus, if it returns. -/
def writeLog : Option (List BusTransfer) :=
  (h.recorded.controlWriteCommand (w, []) l resid cmd payload).map fun r => r.world.2

/-- What a read command puts on the bus, if it returns. -/
def readLog : Option (List BusTransfer) :=
  (h.recorded.controlReadCommand (w, []) l resid cmd payload).map fun r => r.world.2

/-- The transfer of a write, as it is built. -/
def built : List BusTransfer :=
  match h with
  | rpiI2c .. => [.i2cWrite (sent (controlBuildI2cData l.buffer resid cmd (some payload)
      payload.length)) true]
  | xcoreI2c .. => [.i2cWrite (sent (controlBuildI2cData l.data resid (controlCmdSetWrite cmd)
      (some payload) payload.length)) true]
  | rpiSpi .. => [.spi (sent (controlBuildSpiData l.data resid cmd (some payload)
      (payload.length % 2 ^ 32)))]
  | usb .. => if usbDataMaxBytes < payload.length then [] else
      let header := controlUsbFillHeader resid (controlCmdSetWrite cmd) payload.length
      [.usbOut ⟨controlVendorRequest, header.2.1, header.1, header.2.2⟩ payload]
  | xscope .. => [.xscope (sent (controlXscopeCreateUploadBuffer l.upload (controlCmdSetWrite cmd)
      resid (some payload) (payload.length % 2 ^ 32)))]

/-- The transfers of the status query. -/
def statusQuery : List BusTransfer :=
  match h with
  | rpiI2c .. => [.i2cRdwr statusHeader 1]
  | xcoreI2c .. => [.i2cWrite statusHeader false, .i2cRead 1]
  | rpiSpi .. => [.spi spiStatusQuery.1, .spi spiStatusQuery.2]
  | usb .. => [.usbIn statusSetup]
  | xscope .. => []

/-- The transfers of a read, as they are built. -/
def builtRead : List BusTransfer :=
  match h with
  | rpiI2c .. =>
    let built := controlBuildI2cData l.data resid cmd (some payload) payload.length
    if built.1 ≠ 3 then [] else [.i2cRdwr (sent built) (payload.length % 2 ^ 16)]
  | xcoreI2c .. => [.i2cWrite (sent (controlBuildI2cData l.data resid (controlCmdSetRead cmd)
      (some payload) payload.length)) false, .i2cRead payload.length]
  | rpiSpi .. => [.spi (sent (controlBuildSpiData (Buffer.ofList 0 []) resid cmd (some payload)
      (payload.length % 2 ^ 32))),
      .spi (List.replicate (if payload.length < 8 then 8 else payload.length % 2 ^ 32) 0)]
  | usb .. => if usbDataMaxBytes < payload.length then [] else
      let header := controlUsbFillHeader resid (controlCmdSetRead cmd) payload.length
      [.usbIn ⟨controlVendorRequest, header.2.1, header.1, header.2.2⟩]
  | xscope .. => [.xscope (sent (controlXscopeCreateUploadBuffer l.upload (controlCmdSetRead cmd)
      resid none (payload.length % 2 ^ 32)))]

end HostImpl

/-! ### What is recorded -/

section Recorded

variable (w : W) (log : List BusTransfer) (l : HostLocals) (resid : ControlResid) (cmd : ControlCmd)
  (payload : List UInt8)

/-- What a write leaves with the record. -/
def HostWrite.withLog (r : HostWrite W) (log : List BusTransfer) :
    HostWrite (W × List BusTransfer) :=
  ⟨r.ret, r.world, log⟩

/-- What a read leaves with the record. -/
def HostRead.withLog (r : HostRead W) (log : List BusTransfer) :
    HostRead (W × List BusTransfer) :=
  ⟨r.ret, r.payload, r.world, log⟩

/-- The builder makes no upload that is too long for the endpoint. -/
theorem xscopeBuilt_accepted (buffer : XscopeBuffer) (cmd : ControlCmd) (resid : ControlResid)
    (payload : Option (List UInt8)) (n : ℕ) :
    ¬ uploadLenExceedsXscopeLimit
      (controlXscopeCreateUploadBuffer buffer cmd resid payload n).1 = true := by
  obtain ⟨h_header, h_words, h_bytes, -⟩ := xscope_sizes
  rw [uploadLenExceedsXscopeLimit, decide_eq_true_iff, controlXscopeCreateUploadBuffer]
  split
  · exact Nat.not_lt_zero _
  · next h_len =>
    -- the header, and a payload of 64 bytes at most
    dsimp only
    split <;> dsimp only <;> omega

/-- A read of the xCORE host, recorded: the header is written, and read from if it is taken. -/
theorem xcoreI2c_recorded_read (write : W → List UInt8 → Bool → I2cMasterWrite W)
    (read : W → ℕ → I2cMasterRead W) (data : Buffer UInt8 i2cTransactionMaxBytes) :
    let built := controlBuildI2cData data resid (controlCmdSetRead cmd) (some payload)
      payload.length
    ∃ transfers, transfers <+: [.i2cWrite (sent built) false, .i2cRead payload.length] ∧
      transfers ≠ [] ∧
      xcoreI2cControlReadCommand (w, log) resid cmd payload
          (fun w bytes => ⟨(write w.1 bytes false).res, (write w.1 bytes false).numBytesSent,
            (write w.1 bytes false).world, w.2 ++ [.i2cWrite bytes false]⟩)
          (fun w n => ⟨(read w.1 n).res, (read w.1 n).bytes, (read w.1 n).world,
            w.2 ++ [.i2cRead n]⟩) data
        = (xcoreI2cControlReadCommand w resid cmd payload (fun w bytes => write w bytes false) read
            data).withLog (log ++ transfers) := by
  intro built
  dsimp only [xcoreI2cControlReadCommand]
  set written := write w (sent built) false
  set received := read written.world payload.length
  by_cases h_header : written.res = .ack ∧ written.numBytesSent = built.1
  · -- the header is taken, so the read is recorded whatever comes of it
    obtain ⟨h_res, h_count⟩ := h_header
    refine ⟨_, List.prefix_rfl, List.cons_ne_nil _ _, ?_⟩
    rw [if_neg (not_not.mpr h_res), if_neg (not_not.mpr h_res), if_neg (not_not.mpr h_count),
      if_neg (not_not.mpr h_count), List.append_assoc]
    by_cases h_received : received.res = .ack
    · rw [if_neg (not_not.mpr h_received), if_neg (not_not.mpr h_received)]
      rfl
    · rw [if_pos h_received, if_pos h_received]
      rfl
  · -- the header is not taken, or not all of it: the host gives up before the read
    refine ⟨[.i2cWrite (sent built) false], ⟨[.i2cRead payload.length], rfl⟩,
      List.cons_ne_nil _ _, ?_⟩
    by_cases h_res : written.res = .ack
    · have h_count : written.numBytesSent ≠ built.1 := fun h => h_header ⟨h_res, h⟩
      rw [if_neg (not_not.mpr h_res), if_neg (not_not.mpr h_res), if_pos h_count, if_pos h_count]
      rfl
    · rw [if_pos h_res, if_pos h_res]
      rfl

/-- The record of a read starts with its first transfer as it is built. -/
def HostImpl.RecordsRead (h : HostImpl W) : Prop :=
  ∃ transfers, transfers <+: h.builtRead l resid cmd payload ∧
    (h.builtRead l resid cmd payload ≠ [] → transfers ≠ []) ∧
    h.recorded.controlReadCommand (w, log) l resid cmd payload
      = (h.controlReadCommand w l resid cmd payload).map fun r => r.withLog (log ++ transfers)

/-- The record of a write has its transfer as it is built, and the status query as far as it
goes. -/
def HostImpl.RecordsWrite (h : HostImpl W) : Prop :=
  ∃ query, query <+: h.statusQuery ∧
    h.recorded.controlWriteCommand (w, log) l resid cmd payload
      = (h.controlWriteCommand w l resid cmd payload).map fun r =>
          r.withLog (log ++ (h.built l resid cmd payload ++ query))

theorem rpiI2c_recordsRead (write : W → List UInt8 → ℤ × W)
    (rdwr : W → List UInt8 → ℕ → HostTransfer W) :
    (HostImpl.rpiI2c write rdwr).RecordsRead w log l resid cmd payload := by
  refine ⟨_, List.prefix_rfl, id, ?_⟩
  dsimp only [HostImpl.recorded, HostImpl.controlReadCommand, rpiI2cControlReadCommand,
    HostImpl.builtRead]
  set built := controlBuildI2cData l.data resid cmd (some payload) payload.length
  set transfer := rdwr w (sent built) (payload.length % 2 ^ 16)
  -- what is not a header of three bytes is not transferred
  by_cases h_three : built.1 = 3
  case neg =>
    rw [if_pos h_three, if_pos h_three, if_pos h_three, List.append_nil]
    rfl
  rw [if_neg (not_not.mpr h_three), if_neg (not_not.mpr h_three), if_neg (not_not.mpr h_three)]
  by_cases h_failed : transfer.ret < 0
  · rw [if_pos h_failed, if_pos h_failed]
    rfl
  · rw [if_neg h_failed, if_neg h_failed]
    rfl

theorem rpiSpi_recordsRead (transfern : W → List UInt8 → List UInt8 × W)
    (completes : W → List UInt8 → Prop) :
    (HostImpl.rpiSpi transfern completes).RecordsRead w log l resid cmd payload := by
  refine ⟨_, List.prefix_rfl, id, ?_⟩
  dsimp only [HostImpl.recorded, HostImpl.controlReadCommand, rpiSpiControlReadCommand,
    HostImpl.builtRead]
  rw [List.append_assoc]
  rfl

theorem usb_recordsRead (controlOut : W → UsbSetupPacket → List UInt8 → ℤ × W)
    (controlIn : W → UsbSetupPacket → HostTransfer W) :
    (HostImpl.usb controlOut controlIn).RecordsRead w log l resid cmd payload := by
  refine ⟨_, List.prefix_rfl, id, ?_⟩
  dsimp only [HostImpl.recorded, HostImpl.controlReadCommand, usbControlReadCommand,
    HostImpl.builtRead]
  set header := controlUsbFillHeader resid (controlCmdSetRead cmd) payload.length
  set transfer := controlIn w ⟨controlVendorRequest, header.2.1, header.1, header.2.2⟩
  -- what is too long is not transferred
  by_cases h_long : usbDataMaxBytes < payload.length
  · rw [if_pos h_long, if_pos h_long, if_pos h_long, List.append_nil]
    rfl
  rw [if_neg h_long, if_neg h_long, if_neg h_long]
  by_cases h_count : transfer.ret = payload.length
  · rw [if_neg (not_not.mpr h_count), if_neg (not_not.mpr h_count)]
    rfl
  · rw [if_pos h_count, if_pos h_count]
    rfl

theorem xscope_recordsRead (requestUpload : W → List UInt8 → XscopeOutcome W)
    (host : XscopeHost) :
    (HostImpl.xscope requestUpload host).RecordsRead w log l resid cmd payload := by
  refine ⟨_, List.prefix_rfl, id, ?_⟩
  dsimp only [HostImpl.recorded, HostImpl.controlReadCommand, XscopeHost.controlReadCommand,
    HostImpl.builtRead]
  set outcome := requestUpload w (sent (controlXscopeCreateUploadBuffer l.upload
    (controlCmdSetRead cmd) resid none (payload.length % 2 ^ 32)))
  cases outcome.accepted with
  | false => rfl
  | true =>
    rw [if_pos rfl, if_pos rfl]
    cases { host with recordCount := 0 }.awaitResponse outcome.records <;> rfl

/-- **A read, recorded.** -/
theorem recorded_read (h : HostImpl W) : h.RecordsRead w log l resid cmd payload := by
  cases h with
  | rpiI2c write rdwr => exact rpiI2c_recordsRead ..
  | xcoreI2c write read =>
    obtain ⟨transfers, h_pre, h_ne, h_eq⟩ :=
      xcoreI2c_recorded_read w log resid cmd payload write read l.data
    exact ⟨transfers, h_pre, fun _ => h_ne, congrArg some h_eq⟩
  | rpiSpi transfern completes => exact rpiSpi_recordsRead ..
  | usb controlOut controlIn => exact usb_recordsRead ..
  | xscope requestUpload host => exact xscope_recordsRead ..

theorem rpiI2c_recordsWrite (write : W → List UInt8 → ℤ × W)
    (rdwr : W → List UInt8 → ℕ → HostTransfer W) :
    (HostImpl.rpiI2c write rdwr).RecordsWrite w log l resid cmd payload := by
  unfold HostImpl.RecordsWrite
  dsimp only [HostImpl.recorded, HostImpl.controlWriteCommand, rpiI2cControlWriteCommand,
    HostImpl.built, HostImpl.statusQuery]
  rw [rpiI2c_statusQuery, rpiI2c_statusQuery]
  set built := controlBuildI2cData l.buffer resid cmd (some payload) payload.length
  set query := rdwr (write w (sent built)).2 statusHeader 1
  -- the query follows a write that is taken whole
  by_cases h_written : (write w (sent built)).1 = built.1
  case neg =>
    refine ⟨[], List.nil_prefix, ?_⟩
    rw [if_pos h_written, if_pos h_written]
    rfl
  rw [if_neg (not_not.mpr h_written), if_neg (not_not.mpr h_written)]
  refine ⟨_, List.prefix_rfl, ?_⟩
  by_cases h_queried : query.ret < 0
  · rw [if_pos h_queried, if_pos h_queried, if_pos controlError_ne_success,
      if_pos controlError_ne_success, List.append_assoc]
    rfl
  · rw [if_neg h_queried, if_neg h_queried, if_neg (not_not.mpr rfl), if_neg (not_not.mpr rfl),
      List.append_assoc]
    rfl

theorem xcoreI2c_recordsWrite (write : W → List UInt8 → Bool → I2cMasterWrite W)
    (read : W → ℕ → I2cMasterRead W) :
    (HostImpl.xcoreI2c write read).RecordsWrite w log l resid cmd payload := by
  unfold HostImpl.RecordsWrite
  dsimp only [HostImpl.recorded, HostImpl.controlWriteCommand, xcoreI2cControlWriteCommand,
    HostImpl.built]
  set built := controlBuildI2cData l.data resid (controlCmdSetWrite cmd) (some payload)
    payload.length
  set written := write w (sent built) true
  by_cases h_res : written.res = .ack
  case neg =>
    refine ⟨[], List.nil_prefix, ?_⟩
    rw [if_pos h_res, if_pos h_res]
    rfl
  by_cases h_count : written.numBytesSent = built.1
  case neg =>
    refine ⟨[], List.nil_prefix, ?_⟩
    rw [if_neg (not_not.mpr h_res), if_neg (not_not.mpr h_res), if_pos h_count, if_pos h_count]
    rfl
  rw [if_neg (not_not.mpr h_res), if_neg (not_not.mpr h_res), if_neg (not_not.mpr h_count),
    if_neg (not_not.mpr h_count)]
  -- the query is a read of the host's own
  obtain ⟨query, h_pre, -, h_eq⟩ := xcoreI2c_recorded_read written.world
    (log ++ [.i2cWrite (sent built) true]) controlSpecialResid controlGetLastCommandStatus
    [l.status] write read l.queryData
  rw [controlCmdSetRead_of_read (by decide), List.length_singleton,
    sent_buildI2c_read _ (by decide) _ (by decide) (by decide)] at h_pre
  refine ⟨query, h_pre, ?_⟩
  rw [h_eq, List.append_assoc]
  rfl

theorem rpiSpi_recordsWrite (transfern : W → List UInt8 → List UInt8 × W)
    (completes : W → List UInt8 → Prop) :
    (HostImpl.rpiSpi transfern completes).RecordsWrite w log l resid cmd payload := by
  refine ⟨_, List.prefix_rfl, ?_⟩
  dsimp only [HostImpl.recorded, HostImpl.controlWriteCommand, rpiSpiControlWriteCommand,
    HostImpl.built, HostImpl.statusQuery]
  rw [rpiSpi_statusQuery, rpiSpi_statusQuery]
  dsimp only
  rw [if_neg (not_not.mpr rfl), if_neg (not_not.mpr rfl), List.append_assoc, List.append_assoc]
  rfl

theorem usb_recordsWrite (controlOut : W → UsbSetupPacket → List UInt8 → ℤ × W)
    (controlIn : W → UsbSetupPacket → HostTransfer W) :
    (HostImpl.usb controlOut controlIn).RecordsWrite w log l resid cmd payload := by
  unfold HostImpl.RecordsWrite
  dsimp only [HostImpl.recorded, HostImpl.controlWriteCommand, usbControlWriteCommand,
    HostImpl.built, HostImpl.statusQuery]
  rw [usb_statusQuery, usb_statusQuery]
  set header := controlUsbFillHeader resid (controlCmdSetWrite cmd) payload.length
  set written := controlOut w ⟨controlVendorRequest, header.2.1, header.1, header.2.2⟩ payload
  set query := controlIn written.2 statusSetup
  by_cases h_long : usbDataMaxBytes < payload.length
  · -- refused by the host, so nothing is recorded
    refine ⟨[], List.nil_prefix, ?_⟩
    rw [if_pos h_long, if_pos h_long, if_pos h_long, List.append_nil, List.append_nil]
    rfl
  rw [if_neg h_long, if_neg h_long, if_neg h_long]
  by_cases h_count : written.1 = payload.length
  case neg =>
    refine ⟨[], List.nil_prefix, ?_⟩
    rw [if_pos h_count, if_pos h_count]
    rfl
  -- written in full: the status query is recorded behind it
  refine ⟨_, List.prefix_rfl, ?_⟩
  rw [if_neg (not_not.mpr h_count), if_neg (not_not.mpr h_count)]
  by_cases h_queried : query.ret = 1
  · dsimp only
    rw [if_neg (not_not.mpr h_queried), if_neg (not_not.mpr h_queried), List.append_assoc]
    rfl
  · dsimp only
    rw [if_pos h_queried, if_pos h_queried, List.append_assoc]
    rfl

theorem xscope_recordsWrite (requestUpload : W → List UInt8 → XscopeOutcome W)
    (host : XscopeHost) :
    (HostImpl.xscope requestUpload host).RecordsWrite w log l resid cmd payload := by
  refine ⟨[], List.nil_prefix, ?_⟩
  dsimp only [HostImpl.recorded, HostImpl.controlWriteCommand, XscopeHost.controlWriteCommand,
    HostImpl.built]
  set built := controlXscopeCreateUploadBuffer l.upload (controlCmdSetWrite cmd) resid
    (some payload) (payload.length % 2 ^ 32)
  set outcome := requestUpload w (sent built)
  rw [if_neg (xscopeBuilt_accepted _ _ _ _ _), if_neg (xscopeBuilt_accepted _ _ _ _ _)]
  cases outcome.accepted with
  | false =>
    rw [if_neg Bool.false_ne_true, if_neg Bool.false_ne_true]
    rfl
  | true =>
    rw [if_pos rfl, if_pos rfl]
    cases { host with recordCount := 0 }.awaitResponse outcome.records <;> rfl

/-- **A write, recorded.** -/
theorem recorded_write (h : HostImpl W) : h.RecordsWrite w log l resid cmd payload := by
  cases h with
  | rpiI2c write rdwr => exact rpiI2c_recordsWrite ..
  | xcoreI2c write read => exact xcoreI2c_recordsWrite ..
  | rpiSpi transfern completes => exact rpiSpi_recordsWrite ..
  | usb controlOut controlIn => exact usb_recordsWrite ..
  | xscope requestUpload host => exact xscope_recordsWrite ..

end Recorded

end DeviceControl
