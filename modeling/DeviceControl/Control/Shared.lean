import Mathlib

/-!
# Shared definitions of the control protocol

The types, codes and limits that `control_shared.h`, `control_transport_shared.h` and `control.h`
give to the device and the host. Every protocol field is one byte wide. `ControlRet` is a byte too
and not an enumeration: the library's own codes are the six below, and a user task may answer with
any byte.
-/

namespace DeviceControl

/-! ### Field types -/

/-- `control_resid_t`: identifies a resource. -/
abbrev ControlResid := UInt8

/-- `control_cmd_t`: identifies a command of a resource. -/
abbrev ControlCmd := UInt8

/-- `control_ret_t`: a return value. -/
abbrev ControlRet := UInt8

/-- `control_status_t`: the status of a command. -/
abbrev ControlStatus := UInt8

/-! ### Return values -/

def controlSuccess : ControlRet := 0
def controlRegistrationFailed : ControlRet := 1
def controlBadCommand : ControlRet := 2
def controlDataLengthError : ControlRet := 3
def controlOtherTransportError : ControlRet := 4
def controlError : ControlRet := 5

/-! ### Command codes -/

/-- `IS_CONTROL_CMD_READ` on a command code: bit 7 is set. -/
def isControlCmdRead (c : ControlCmd) : Bool := c &&& 0x80 != 0

/-- `IS_CONTROL_CMD_READ` on a 32-bit datum. -/
def isControlCmdRead32 (c : UInt32) : Bool := c &&& 0x80 != 0

/-- `CONTROL_CMD_SET_READ`: the command code with the read bit set. -/
def controlCmdSetRead (c : ControlCmd) : ControlCmd := c ||| 0x80

/-- `CONTROL_CMD_SET_WRITE`: the command code with the read bit cleared. -/
def controlCmdSetWrite (c : ControlCmd) : ControlCmd := c &&& ~~~0x80

/-- What holds of every byte, from its 256 values. -/
theorem forall_byte {P : UInt8 → Prop} (h : ∀ n : Fin 256, P (UInt8.ofNat n)) (b : UInt8) :
    P b := by
  rw [← UInt8.ofNat_toNat (x := b)]
  exact h ⟨b.toNat, b.toNat_lt⟩

theorem isControlCmdRead_setRead (c : ControlCmd) : isControlCmdRead (controlCmdSetRead c) = true :=
  forall_byte (P := fun c => isControlCmdRead (controlCmdSetRead c) = true) (by decide +kernel) c

theorem isControlCmdRead_setWrite (c : ControlCmd) :
    isControlCmdRead (controlCmdSetWrite c) = false :=
  forall_byte (P := fun c => isControlCmdRead (controlCmdSetWrite c) = false) (by decide +kernel) c

/-- A read command code has the read bit already. -/
theorem controlCmdSetRead_of_read {c : ControlCmd} (h : isControlCmdRead c = true) :
    controlCmdSetRead c = c :=
  forall_byte (P := fun c => isControlCmdRead c = true → controlCmdSetRead c = c)
    (by decide +kernel) c h

/-- A write command code does not have it. -/
theorem controlCmdSetWrite_of_write {c : ControlCmd} (h : isControlCmdRead c = false) :
    controlCmdSetWrite c = c :=
  forall_byte (P := fun c => isControlCmdRead c = false → controlCmdSetWrite c = c)
    (by decide +kernel) c h

/-- The bit that the macro tests lies in the low byte. -/
theorem isControlCmdRead32_eq (c : UInt32) : isControlCmdRead32 c = isControlCmdRead c.toUInt8 := by
  have h_byte : (c &&& 0x80).toUInt8 = c.toUInt8 &&& 0x80 := UInt32.toUInt8_and c 0x80
  have h_zero : c &&& 0x80 = 0 ↔ c.toUInt8 &&& 0x80 = 0 := by
    rw [← h_byte]
    constructor
    · intro h
      rw [h]
      rfl
    · intro h
      have h_le : (c &&& 0x80).toNat ≤ 0x80 := by
        rw [UInt32.toNat_and]
        exact Nat.and_le_right
      have h_mod : (c &&& 0x80).toNat % 2 ^ 8 = 0 := by
        rw [← UInt32.toNat_toUInt8, h]
        rfl
      exact UInt32.toNat.inj (by rw [UInt32.toNat_zero]; omega)
  rw [isControlCmdRead32, isControlCmdRead, Bool.eq_iff_iff, bne_iff_ne, bne_iff_ne, ne_eq, ne_eq,
    h_zero]

/-! ### The special resource -/

/-- `CONTROL_SPECIAL_RESID`: the resource owned by the library itself. -/
def controlSpecialResid : ControlResid := 0

/-- `CONTROL_GET_VERSION`. -/
def controlGetVersion : ControlCmd := controlCmdSetRead 0

/-- `CONTROL_GET_LAST_COMMAND_STATUS`. -/
def controlGetLastCommandStatus : ControlCmd := controlCmdSetRead 1

/-- `CONTROL_VERSION`. -/
def controlVersion : UInt8 := 0x10

/-- `sizeof(control_version_t)`. -/
abbrev sizeofControlVersion : ℕ := 1

/-- `sizeof(control_status_t)`. -/
abbrev sizeofControlStatus : ℕ := 1

/-- `CONTROL_VENDOR_REQUEST`, as it is if the application does not define it. -/
def controlVendorRequest : UInt8 := 0

/-! ### Limits -/

abbrev i2cTransactionMaxBytes : ℕ := 256
abbrev i2cDataMaxBytes : ℕ := i2cTransactionMaxBytes - 3
abbrev spiTransactionMaxBytes : ℕ := 256
abbrev spiDataMaxBytes : ℕ := spiTransactionMaxBytes - 3
abbrev xscopeUploadMaxWords : ℕ := 64
abbrev xscopeUploadMaxBytes : ℕ := xscopeUploadMaxWords * 4
abbrev xscopeDataMaxBytes : ℕ := xscopeUploadMaxBytes - 4

/-- `++` on an `unsigned` counter. -/
def incr (n : ℕ) : ℕ := (n + 1) % 2 ^ 32

theorem incr_of_lt {n : ℕ} (h : n + 1 < 2 ^ 32) : incr n = n + 1 := Nat.mod_eq_of_lt h

/-- A counter below a length that a payload array holds is far from the wrap. -/
theorem succ_lt_wrap {k n : ℕ} (h_lt : k < n) (h_le : n ≤ 253) : k + 1 < 2 ^ 32 :=
  calc k + 1 ≤ n := h_lt
    _ ≤ 253 := h_le
    _ < 2 ^ 32 := by decide

end DeviceControl
