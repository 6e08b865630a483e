import DeviceControl.Control.System

/-!
# The transport adapters

The adapters stand between the transport libraries and the processing functions. They decide what
of a return value the other side of the transport gets to know: over I2C it is the acknowledge bit,
over USB the result that the endpoint code turns into a stall, and over SPI and xSCOPE nothing but
the bytes that are sent back.

The USB and the xSCOPE adapter keep one array each for the data of all commands.
-/

namespace DeviceControl

variable {σ : Type} (tasks : UserTasks σ)

/-! ### I2C -/

/-- What the slave answers on the bus. -/
inductive I2cSlaveAnswer where
  | ack
  | nack
  /-- The byte that is driven onto the bus, if `control_process_i2c_read_data` assigned one. -/
  | data (data : Option UInt8)
  | none
  deriving DecidableEq, Repr

/-- The acknowledge bit of `i2c_control_client`. -/
def i2cAck (ret : ControlRet) : I2cSlaveAnswer := if ret = controlSuccess then .ack else .nack

/-- `i2c_control_client`. -/
def i2cControlClient : Transducer (Device σ) I2cCallback I2cSlaveAnswer where
  step d cb :=
    let r := (i2cSystem tasks).step d cb
    match cb with
    | .writeStart => (r.1, i2cAck r.2.ret)
    | .readStart => (r.1, i2cAck r.2.ret)
    | .writeData _ => (r.1, i2cAck r.2.ret)
    | .readData =>
      match r.2.output with
      | .i2cData data => (r.1, .data data)
      | _ => (r.1, .data none)
    | .stop => (r.1, .none)

variable {tasks} in
/-- The bus sees the states of the processing functions. -/
theorem i2cControlClient_fst (d : Device σ) (cb : I2cCallback) :
    ((i2cControlClient tasks).step d cb).1 = ((i2cSystem tasks).step d cb).1 := by
  cases cb with
  | readData =>
    dsimp only [i2cControlClient]
    split <;> rfl
  | _ => rfl

variable {tasks} in
theorem run_i2cControlClient (d : Device σ) (cbs : List I2cCallback) :
    (i2cControlClient tasks).run d cbs = (i2cSystem tasks).run d cbs :=
  Transducer.run_congr i2cControlClient_fst d cbs

/-- A return value that is acknowledged is success. -/
theorem i2cAck_ne_nack {ret : ControlRet} (h : i2cAck ret ≠ .nack) : ret = controlSuccess := by
  by_contra h_ret
  exact h (if_neg h_ret)

/-- The slave acknowledges all that it can refuse. -/
def I2cAcked (d : Device σ) (cbs : List I2cCallback) : Prop :=
  ∀ p ∈ (i2cControlClient tasks).trace d cbs, p.2 ≠ .nack

section Acked

variable {tasks} {d : Device σ} {pre post : List I2cCallback}

theorem I2cAcked.append {cbs cbs' : List I2cCallback} (h : I2cAcked tasks d cbs)
    (h' : I2cAcked tasks ((i2cControlClient tasks).run d cbs) cbs') :
    I2cAcked tasks d (cbs ++ cbs') := by
  rw [I2cAcked, Transducer.trace_append]
  exact List.forall_mem_append.mpr ⟨h, h'⟩

/-- A callback whose return value decides the acknowledge bit has succeeded. -/
theorem I2cAcked.ret {cb : I2cCallback} (h : I2cAcked tasks d (pre ++ cb :: post))
    (h_ack : ∀ d, ((i2cControlClient tasks).step d cb).2
      = i2cAck ((i2cSystem tasks).step d cb).2.ret) :
    ((i2cSystem tasks).step ((i2cSystem tasks).run d pre) cb).2.ret = controlSuccess := by
  have h_mem : (cb, ((i2cControlClient tasks).step ((i2cControlClient tasks).run d pre) cb).2)
      ∈ (i2cControlClient tasks).trace d (pre ++ cb :: post) :=
    (i2cControlClient tasks).mem_trace.mpr ⟨pre, post, rfl, rfl⟩
  apply i2cAck_ne_nack
  rw [← h_ack, ← run_i2cControlClient]
  exact h _ h_mem

end Acked

/-! ### SPI -/

/-- `spi_control_client`. It drops what the processing functions return, and hands on the data that
the master requires. -/
def spiControlClient : Transducer (Device σ) SpiCallback (Option UInt32) where
  step d cb :=
    let r := (spiSystem tasks).step d cb
    match cb, r.2.output with
    | .masterRequiresData, .spiData data => (r.1, some data)
    | _, _ => (r.1, none)

variable {tasks} in
theorem run_spiControlClient (d : Device σ) (cbs : List SpiCallback) :
    (spiControlClient tasks).run d cbs = (spiSystem tasks).run d cbs := by
  refine Transducer.run_congr (fun d cb => ?_) d cbs
  dsimp only [spiControlClient]
  split <;> rfl

/-! ### USB -/

/-- `XUD_Result_t`. -/
inductive XudResult where
  | okay
  | reset
  | err
  deriving DecidableEq, Repr

/-- `USB_SetupPacket_t`, as far as the adapter looks at it. -/
structure UsbSetupPacket where
  bRequest : UInt8
  wValue : UInt16
  wIndex : UInt16
  wLength : UInt16
  deriving DecidableEq, Repr

/-- `EP0_MAX_REQUEST_SIZE`. -/
abbrev ep0MaxRequestSize : ℕ := 256

/-- The device behind the USB adapter, with the adapter's `request_data`. -/
structure UsbServer (σ : Type) where
  device : Device σ
  requestData : Buffer UInt8 ep0MaxRequestSize

/-- `USB_D2H_VendorRequest`. The parameter `doGetRequest` is `XUD_DoGetRequest`, which sends the
bytes. -/
def usbD2hVendorRequest (doGetRequest : List UInt8 → UInt16 → XudResult) (sp : UsbSetupPacket)
    (s : UsbServer σ) : XudResult × UsbServer σ :=
  if sp.bRequest = controlVendorRequest ∧ sp.wLength.toNat ≤ ep0MaxRequestSize then
    let r := controlProcessUsbGetRequest tasks sp.wIndex sp.wValue sp.wLength s.requestData s.device
    let requestData : Buffer UInt8 ep0MaxRequestSize :=
      match r.2.output with
      | .usbData bytes => Buffer.ofList 0 bytes
      | _ => s.requestData
    (if r.2.ret = controlSuccess then doGetRequest requestData.toList sp.wLength else .err,
      ⟨r.1, requestData⟩)
  else (.err, s)

variable {tasks} in
/-- The request is answered with a result other than an error only after a get request that
succeeded. -/
theorem ret_of_usbD2h_okay {doGetRequest : List UInt8 → UInt16 → XudResult} {sp : UsbSetupPacket}
    {s : UsbServer σ} (h : (usbD2hVendorRequest tasks doGetRequest sp s).1 = .okay) :
    (controlProcessUsbGetRequest tasks sp.wIndex sp.wValue sp.wLength s.requestData s.device).2.ret
      = controlSuccess := by
  unfold usbD2hVendorRequest at h
  split at h
  · dsimp only at h
    split at h
    · next h_ret => exact h_ret
    · cases h
  · cases h

/-! ### xSCOPE -/

/-- The device behind the xSCOPE adapter, with the adapter's `buffer`. -/
structure XscopeServer (σ : Type) where
  device : Device σ
  buffer : XscopeBuffer

/-- The case of `xscope_control_client`: the upload is received into the buffer and answered from
it. -/
def xscopeControlClient (s : XscopeServer σ) (received : List UInt8) :
    Option (List UInt8) × XscopeServer σ :=
  let buf : XscopeBuffer := s.buffer.copy 0 received
  let r := controlProcessXscopeUpload tasks buf xscopeUploadMaxBytes received.length s.device
  match r.2.output with
  | .xscopeData out returnSize =>
    (if 0 < returnSize then some (out.take returnSize) else none, ⟨r.1, Buffer.ofList 0 out⟩)
  | _ => (none, ⟨r.1, buf⟩)

end DeviceControl
