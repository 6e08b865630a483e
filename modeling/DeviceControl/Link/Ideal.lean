import DeviceControl.Link.Host

/-!
# Ideal buses

A bus for each host implementation that does what `HostLink.Works` asks for and nothing else, with
the device and its adapter as the world. So the assumptions about the libraries can be met, and the
commands can be run from the call on the host down to the user task.
-/

namespace DeviceControl

variable {σ : Type} (tasks : UserTasks σ)

instance (d : Device σ) (cbs : List I2cCallback) : Decidable (I2cAcked tasks d cbs) :=
  inferInstanceAs (Decidable (∀ p ∈ (i2cControlClient tasks).trace d cbs, p.2 ≠ .nack))

/-- A Raspberry Pi and a device on one I2C bus. -/
def idealRpiI2c : HostLink σ (Device σ) :=
  .rpiI2c
    (fun d bytes => (if I2cAcked tasks d (i2cWriteTransfer bytes) then bytes.length else -1,
      (i2cSystem tasks).run d (i2cSent tasks d (i2cWriteTransfer bytes) ++ [.stop])))
    (fun d bytes n =>
      let cbs := i2cWriteTransfer bytes ++ i2cReads n
      { ret := if I2cAcked tasks d cbs then 2 else -1
        bytes := i2cBytesRead tasks d cbs
        world := (i2cSystem tasks).run d (i2cSent tasks d cbs ++ [.stop]) })
    id

theorem idealRpiI2c_works : (idealRpiI2c tasks).Works tasks where
  write_device _ _ := rfl
  write_acked _ _ h_acked := if_pos h_acked
  write_nacked _ _ h_nacked := lt_of_eq_of_lt (if_neg h_nacked) neg_one_lt_zero
  rdwr_device _ _ _ := rfl
  rdwr_acked _ _ _ h_acked := ⟨le_of_le_of_eq zero_le_two (if_pos h_acked).symm, rfl⟩
  rdwr_nacked _ _ _ h_nacked := lt_of_eq_of_lt (if_neg h_nacked) neg_one_lt_zero

/-- An xCORE and a device on one I2C bus. -/
def idealXcoreI2c : HostLink σ (Device σ) :=
  .xcoreI2c
    (fun d bytes stop =>
      { res := if I2cAcked tasks d (i2cWriteTransfer bytes) then .ack else .nack
        numBytesSent := bytes.length
        world := (i2cSystem tasks).run d
          (i2cSent tasks d (i2cWriteTransfer bytes) ++ if stop then [.stop] else []) })
    (fun d n =>
      { res := if I2cAcked tasks d (i2cReads n) then .ack else .nack
        bytes := i2cBytesRead tasks d (i2cReads n)
        world := (i2cSystem tasks).run d (i2cSent tasks d (i2cReads n) ++ [.stop]) })
    id

theorem idealXcoreI2c_works : (idealXcoreI2c tasks).Works tasks where
  write_device _ _ _ := rfl
  write_acked _ _ _ h_acked := ⟨if_pos h_acked, rfl⟩
  write_nacked _ _ _ h_nacked := if_neg h_nacked
  read_device _ _ := rfl
  read_acked _ _ h_acked := ⟨if_pos h_acked, rfl⟩
  read_nacked _ _ h_nacked := if_neg h_nacked

/-- A Raspberry Pi and a device on one SPI bus. -/
def idealRpiSpi (requiresFirst : Bool) : HostLink σ (Device σ) :=
  .rpiSpi (spiTransfer tasks requiresFirst) requiresFirst id

theorem idealRpiSpi_works (requiresFirst : Bool) : (idealRpiSpi tasks requiresFirst).Works tasks :=
  fun _ _ => rfl

/-- A host and a device on one USB cable. -/
def idealUsb : HostLink σ (UsbServer σ) :=
  .usb
    (fun server sp bytes =>
      let o := usbH2dVendorRequest tasks (packetsOf bytes) .okay sp server
      (if o.stage = some .okay then bytes.length else -1, o.server))
    (fun server sp =>
      let o := usbD2hVendorOutcome tasks (fun _ _ => .okay) sp server
      { ret := if o.stage = some .okay then sp.wLength.toNat else -1
        bytes := o.server.requestData.front sp.wLength.toNat
        world := o.server })
    id

theorem idealUsb_works : (idealUsb tasks).Works tasks where
  out_server _ _ _ _ := rfl
  out_completed _ _ _ _ h_stage := if_pos h_stage
  out_failed _ _ _ _ h_stage :=
    lt_of_eq_of_lt (if_neg fun h => Option.some_ne_none _ (h.symm.trans h_stage)) neg_one_lt_zero
  in_server _ _ _ := rfl
  in_completed _ _ _ h_stage := ⟨if_pos h_stage, rfl⟩
  in_failed _ _ _ h_stage :=
    lt_of_eq_of_lt (if_neg fun h => Option.some_ne_none _ (h.symm.trans h_stage)) neg_one_lt_zero

/-- A host and a device with an xSCOPE server between them. -/
def idealXscope (probeId : UInt32) : HostLink σ (XscopeServer σ) :=
  .xscope (xscopeLink tasks probeId) id probeId

theorem idealXscope_works (probeId : UInt32) : (idealXscope tasks probeId).Works tasks := by
  rintro h h_set rfl
  exact xscopeLink_delivers tasks h_set

end DeviceControl
