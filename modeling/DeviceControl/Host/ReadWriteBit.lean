import DeviceControl.Host.Transfers

/-!
# The bit that tells a read from a write

The application calls `control_write_command` or `control_read_command`, and the top bit of the
command code says the same on the bus. Whatever the bit is in the code that it passes, a write
should put a write frame on the bus, and a read a read frame.

`read_write_bit_iff` is the exact condition for every implementation. The xCORE I2C, the USB and the
xSCOPE host set the bit. The two RPi hosts leave it to the caller, and with the bit of the other
direction they put the wrong frame on the bus, or none at all. An xSCOPE host has no frame for a
payload of more than 64 bytes.
-/

namespace DeviceControl

variable {W : Type}

/-! ### Frames -/

/-- The longest payload that the format of a transport has room for. -/
def Transport.room : Transport → ℕ
  | .i2c => i2cDataMaxBytes
  | .spi => spiDataMaxBytes
  | .usb => usbDataMaxBytes
  | .xscope => xscopeDataMaxBytes

/-- The first bytes of a frame. -/
def frameHeader (resid : ControlResid) (cmd : ControlCmd) (n : ℕ) : List UInt8 :=
  [resid, cmd, UInt8.ofNat n]

namespace HostImpl

variable (h : HostImpl W) (w : W) (l : HostLocals) (resid : ControlResid) (cmd : ControlCmd)
  (payload : List UInt8)

/-- The write frame for a command, which carries the whole payload. -/
def writeFrame : BusTransfer :=
  let header := frameHeader resid (controlCmdSetWrite cmd) payload.length
  match h.transport with
  | .i2c => .i2cWrite (header ++ payload) true
  | .spi => .spi (header ++ payload)
  | .usb => .usbOut ⟨controlVendorRequest, (controlCmdSetWrite cmd).toUInt16, resid.toUInt16,
      UInt16.ofNat payload.length⟩ payload
  | .xscope => .xscope (header ++ l.upload.pad :: payload)

/-- The read frame for a command, in as many transfers as the host makes of it. -/
def readFrame : List BusTransfer :=
  let header := frameHeader resid (controlCmdSetRead cmd) payload.length
  match h with
  | rpiI2c .. => [.i2cRdwr header payload.length]
  | xcoreI2c .. => [.i2cWrite header false, .i2cRead payload.length]
  | rpiSpi .. => [.spi (header ++ List.replicate 5 0),
      .spi (List.replicate (max 8 payload.length) 0)]
  | usb .. => [.usbIn ⟨controlVendorRequest, (controlCmdSetRead cmd).toUInt16, resid.toUInt16,
      UInt16.ofNat payload.length⟩]
  | xscope .. => [.xscope (header ++ [l.upload.pad])]

/-- A write puts the write frame on the bus, and after it nothing but the status query. -/
def PutsWrite : Prop :=
  ∃ query, query <+: h.statusQuery ∧
    h.writeLog w l resid cmd payload = some (h.writeFrame l resid cmd payload :: query)

/-- A read puts the read frame on the bus, as far as it is taken, and nothing else. -/
def PutsRead : Prop :=
  ∃ transfers, transfers ≠ [] ∧ transfers <+: h.readFrame l resid cmd payload ∧
    h.readLog w l resid cmd payload = some transfers

/-- The condition for a write. -/
def WritesAlike : Prop :=
  match h with
  | rpiI2c .. => isControlCmdRead cmd = false
  | rpiSpi .. => isControlCmdRead cmd = false
  | xscope .. => payload.length ≤ xscopeUploadMaxWords
  | _ => True

/-- The condition for a read. -/
def ReadsAlike : Prop :=
  match h with
  | rpiI2c .. => isControlCmdRead cmd = true
  | rpiSpi .. => isControlCmdRead cmd = true
  | xscope .. => payload.length ≤ xscopeUploadMaxWords
  | _ => True

/-- The endpoint of an xSCOPE host answers every upload that it accepts. -/
def Answers : Prop :=
  match h with
  | xscope requestUpload host => ∀ w bytes, bytes ≠ [] → bytes.length ≤ xscopeUploadMaxBytes →
      (requestUpload w bytes).accepted = true → host.responses (requestUpload w bytes).records ≠ []
  | _ => True

end HostImpl

/-! ### Frames as they are built -/

section Built

variable {h : HostImpl W} {w : W} {l : HostLocals} {resid : ControlResid} {cmd : ControlCmd}
  {payload : List UInt8}

/-- A code is that of a write exactly if it is left alone. -/
theorem setWrite_eq_self_iff {c : ControlCmd} :
    controlCmdSetWrite c = c ↔ isControlCmdRead c = false := by
  constructor
  · intro h_eq
    rw [← h_eq]
    exact isControlCmdRead_setWrite c
  · exact controlCmdSetWrite_of_write

theorem setRead_eq_self_iff {c : ControlCmd} :
    controlCmdSetRead c = c ↔ isControlCmdRead c = true := by
  constructor
  · intro h_eq
    rw [← h_eq]
    exact isControlCmdRead_setRead c
  · exact controlCmdSetRead_of_read

/-- Bytes that start with the code as it is are the write frame exactly for a write. -/
theorem eq_writeFrame_iff {bytes : List UInt8}
    (h_write : isControlCmdRead cmd = false →
      bytes = frameHeader resid cmd payload.length ++ payload)
    (h_read : isControlCmdRead cmd = true → ∃ tail,
      bytes = frameHeader resid cmd payload.length ++ tail) :
    bytes = frameHeader resid (controlCmdSetWrite cmd) payload.length ++ payload ↔
      isControlCmdRead cmd = false := by
  rw [← setWrite_eq_self_iff]
  constructor
  · intro h_eq
    cases h_dir : isControlCmdRead cmd with
    | false => exact controlCmdSetWrite_of_write h_dir
    | true =>
      -- the code stands in the second byte on both sides
      obtain ⟨tail, rfl⟩ := h_read h_dir
      exact (List.cons.inj (List.cons.inj h_eq).2).1.symm
  · intro h_self
    rw [h_self]
    exact h_write (setWrite_eq_self_iff.mp h_self)

/-- Bytes that start with the code of a write are no read frame. -/
theorem ne_readFrame_of_write (h_write : isControlCmdRead cmd = false) {n : ℕ}
    {tail tail' : List UInt8} :
    resid :: cmd :: tail ≠ frameHeader resid (controlCmdSetRead cmd) n ++ tail' := by
  intro h_eq
  have h_self : cmd = controlCmdSetRead cmd := (List.cons.inj (List.cons.inj h_eq).2).1
  rw [setRead_eq_self_iff.mp h_self.symm] at h_write
  cases h_write

theorem sent_i2c_eq_frame_iff {n : ℕ} (resid : ControlResid) (data : Buffer UInt8 n)
    (h_len : payload.length ≤ i2cDataMaxBytes) (h_n : 3 + payload.length ≤ n) :
    sent (controlBuildI2cData data resid cmd (some payload) payload.length)
        = frameHeader resid (controlCmdSetWrite cmd) payload.length ++ payload ↔
      isControlCmdRead cmd = false :=
  eq_writeFrame_iff (fun h_write => sent_buildI2c_write data h_write h_len h_n)
    fun h_read => ⟨[], sent_buildI2c_read data h_read _ h_len (by omega)⟩

theorem sent_spi_eq_frame_iff (resid : ControlResid) (data : Buffer UInt8 spiTransactionMaxBytes)
    (h_len : payload.length ≤ spiDataMaxBytes) :
    sent (controlBuildSpiData data resid cmd (some payload) payload.length)
        = frameHeader resid (controlCmdSetWrite cmd) payload.length ++ payload ↔
      isControlCmdRead cmd = false :=
  eq_writeFrame_iff (fun h_write => sent_buildSpi_write data h_write h_len)
    fun h_read => ⟨List.replicate 5 0, sent_buildSpi_read data h_read _ h_len⟩

end Built

/-! ### The two commands -/

section Commands

variable {h : HostImpl W} {w : W} {l : HostLocals} {resid : ControlResid} {cmd : ControlCmd}
  {payload : List UInt8}

/-- A write that makes one transfer puts the write frame on the bus exactly if it is that. -/
theorem putsWrite_iff {x : BusTransfer} (h_built : h.built l resid cmd payload = [x]) :
    h.PutsWrite w l resid cmd payload ↔
      (h.controlWriteCommand w l resid cmd payload).isSome ∧
        x = h.writeFrame l resid cmd payload := by
  obtain ⟨query, h_query, h_recorded⟩ := recorded_write w [] l resid cmd payload h
  have h_log : h.writeLog w l resid cmd payload
      = (h.controlWriteCommand w l resid cmd payload).map fun _ => x :: query := by
    rw [HostImpl.writeLog, h_recorded, Option.map_map, h_built]
    rfl
  rw [HostImpl.PutsWrite, h_log]
  cases h.controlWriteCommand w l resid cmd payload with
  | none =>
    refine iff_of_false ?_ ?_
    · rintro ⟨_, -, h_none⟩
      cases h_none
    · rintro ⟨h_some, -⟩
      cases h_some
  | some r =>
    constructor
    · rintro ⟨query', -, h_some⟩
      exact ⟨rfl, (List.cons.inj (Option.some.inj h_some)).1⟩
    · rintro ⟨-, rfl⟩
      exact ⟨query, h_query, rfl⟩

/-- A read puts the read frame on the bus if that is what it builds. -/
theorem putsRead_of_eq (h_some : (h.controlReadCommand w l resid cmd payload).isSome)
    (h_built : h.builtRead l resid cmd payload = h.readFrame l resid cmd payload) :
    h.PutsRead w l resid cmd payload := by
  obtain ⟨transfers, h_pre, h_ne, h_recorded⟩ := recorded_read w [] l resid cmd payload h
  obtain ⟨r, h_r⟩ := Option.isSome_iff_exists.mp h_some
  rw [h_built] at h_pre h_ne
  have h_frame : h.readFrame l resid cmd payload ≠ [] := by
    cases h <;> exact List.cons_ne_nil _ _
  refine ⟨transfers, h_ne h_frame, h_pre, ?_⟩
  rw [HostImpl.readLog, h_recorded, h_r]
  rfl

/-- What it puts on the bus starts with the first transfer that it builds. -/
theorem head_of_putsRead (h_puts : h.PutsRead w l resid cmd payload) :
    (h.builtRead l resid cmd payload).head? = (h.readFrame l resid cmd payload).head? := by
  obtain ⟨transfers, h_pre, -, h_recorded⟩ := recorded_read w [] l resid cmd payload h
  obtain ⟨transfers', h_ne, ⟨rest, h_rest⟩, h_log⟩ := h_puts
  rw [HostImpl.readLog, h_recorded, Option.map_map] at h_log
  obtain ⟨r, -, rfl⟩ := Option.map_eq_some_iff.mp h_log
  obtain ⟨rest', h_rest'⟩ := h_pre
  have h_some : transfers ≠ [] := h_ne
  rw [← h_rest', ← h_rest, List.head?_append_of_ne_nil _ h_some]
  exact (List.head?_append_of_ne_nil _ h_some).symm

end Commands

/-! ### I2C, SPI and USB -/

section Hosts

variable {w : W} {l : HostLocals} {resid : ControlResid} {cmd : ControlCmd} {payload : List UInt8}

theorem i2cFrame_fits {n : ℕ} (h_len : n ≤ i2cDataMaxBytes) : 3 + n ≤ i2cTransactionMaxBytes :=
  Nat.add_le_of_le_sub' (by decide) h_len

theorem rpiI2c_putsWrite_iff {write : W → List UInt8 → ℤ × W}
    {rdwr : W → List UInt8 → ℕ → HostTransfer W} (h_len : payload.length ≤ i2cDataMaxBytes) :
    (HostImpl.rpiI2c write rdwr).PutsWrite w l resid cmd payload ↔
      isControlCmdRead cmd = false := by
  have h_fits : 3 + payload.length ≤ i2cTransactionMaxBytes + 3 :=
    (i2cFrame_fits h_len).trans (Nat.le_add_right _ 3)
  rw [putsWrite_iff rfl, ← sent_i2c_eq_frame_iff resid l.buffer h_len h_fits]
  constructor
  · rintro ⟨-, h_frame⟩
    exact (BusTransfer.i2cWrite.inj h_frame).1
  · exact fun h_bytes => ⟨rfl, congrArg (BusTransfer.i2cWrite · true) h_bytes⟩

theorem rpiI2c_putsRead_iff {write : W → List UInt8 → ℤ × W}
    {rdwr : W → List UInt8 → ℕ → HostTransfer W} (h_len : payload.length ≤ i2cDataMaxBytes) :
    (HostImpl.rpiI2c write rdwr).PutsRead w l resid cmd payload ↔ isControlCmdRead cmd = true := by
  have h_mod : payload.length % 2 ^ 16 = payload.length :=
    Nat.mod_eq_of_lt (h_len.trans_lt (by decide))
  cases h_dir : isControlCmdRead cmd with
  | true =>
    refine iff_of_true (putsRead_of_eq rfl ?_) rfl
    dsimp only [HostImpl.builtRead, HostImpl.readFrame]
    rw [if_neg (not_not.mpr (buildI2c_read_size _ h_dir _ h_len)),
      sent_buildI2c_read _ h_dir _ h_len (by decide), h_mod, controlCmdSetRead_of_read h_dir]
    rfl
  | false =>
    refine iff_of_false (fun h_puts => ?_) Bool.false_ne_true
    have h_head := head_of_putsRead h_puts
    dsimp only [HostImpl.builtRead, HostImpl.readFrame] at h_head
    -- a frame that is built from the code as it is does not have the bit
    rw [sent_buildI2c_write _ h_dir h_len (i2cFrame_fits h_len)] at h_head
    split at h_head
    · cases h_head
    · have h_bytes := (BusTransfer.i2cRdwr.inj (Option.some.inj h_head)).1
      exact ne_readFrame_of_write h_dir (h_bytes.trans (List.append_nil _).symm)

theorem xcoreI2c_putsWrite {write : W → List UInt8 → Bool → I2cMasterWrite W}
    {read : W → ℕ → I2cMasterRead W} (h_len : payload.length ≤ i2cDataMaxBytes) :
    (HostImpl.xcoreI2c write read).PutsWrite w l resid cmd payload := by
  rw [putsWrite_iff rfl, sent_buildI2c_write _ (isControlCmdRead_setWrite cmd) h_len
    (i2cFrame_fits h_len)]
  exact ⟨rfl, rfl⟩

theorem xcoreI2c_putsRead {write : W → List UInt8 → Bool → I2cMasterWrite W}
    {read : W → ℕ → I2cMasterRead W} (h_len : payload.length ≤ i2cDataMaxBytes) :
    (HostImpl.xcoreI2c write read).PutsRead w l resid cmd payload := by
  refine putsRead_of_eq rfl ?_
  dsimp only [HostImpl.builtRead]
  rw [sent_buildI2c_read _ (isControlCmdRead_setRead cmd) _ h_len (by decide)]
  rfl

theorem rpiSpi_putsWrite_iff {transfern : W → List UInt8 → List UInt8 × W}
    {completes : W → List UInt8 → Prop} (h_len : payload.length ≤ spiDataMaxBytes) :
    (HostImpl.rpiSpi transfern completes).PutsWrite w l resid cmd payload ↔
      isControlCmdRead cmd = false := by
  have h_mod : payload.length % 2 ^ 32 = payload.length :=
    Nat.mod_eq_of_lt (h_len.trans_lt (by decide))
  rw [putsWrite_iff rfl, ← sent_spi_eq_frame_iff resid l.data h_len, h_mod]
  constructor
  · rintro ⟨-, h_frame⟩
    exact BusTransfer.spi.inj h_frame
  · exact fun h_bytes => ⟨rfl, congrArg BusTransfer.spi h_bytes⟩

theorem rpiSpi_putsRead_iff {transfern : W → List UInt8 → List UInt8 × W}
    {completes : W → List UInt8 → Prop} (h_len : payload.length ≤ spiDataMaxBytes) :
    (HostImpl.rpiSpi transfern completes).PutsRead w l resid cmd payload ↔
      isControlCmdRead cmd = true := by
  have h_mod : payload.length % 2 ^ 32 = payload.length :=
    Nat.mod_eq_of_lt (h_len.trans_lt (by decide))
  have h_max : (if payload.length < 8 then 8 else payload.length) = max 8 payload.length := by
    split <;> omega
  cases h_dir : isControlCmdRead cmd with
  | true =>
    refine iff_of_true (putsRead_of_eq rfl ?_) rfl
    dsimp only [HostImpl.builtRead]
    rw [h_mod, h_max, sent_buildSpi_read _ h_dir _ h_len]
    dsimp only [HostImpl.readFrame]
    rw [controlCmdSetRead_of_read h_dir]
    rfl
  | false =>
    refine iff_of_false (fun h_puts => ?_) Bool.false_ne_true
    have h_head := head_of_putsRead h_puts
    dsimp only [HostImpl.builtRead, HostImpl.readFrame] at h_head
    rw [h_mod, sent_buildSpi_write _ h_dir h_len] at h_head
    have h_bytes := BusTransfer.spi.inj (Option.some.inj h_head)
    exact ne_readFrame_of_write h_dir h_bytes

theorem usb_putsWrite {controlOut : W → UsbSetupPacket → List UInt8 → ℤ × W}
    {controlIn : W → UsbSetupPacket → HostTransfer W} (h_len : payload.length ≤ usbDataMaxBytes) :
    (HostImpl.usb controlOut controlIn).PutsWrite w l resid cmd payload := by
  have h_built : (HostImpl.usb controlOut controlIn).built l resid cmd payload
      = [(HostImpl.usb controlOut controlIn).writeFrame l resid cmd payload] :=
    if_neg (Nat.not_lt.mpr h_len)
  rw [putsWrite_iff h_built]
  exact ⟨rfl, rfl⟩

theorem usb_putsRead {controlOut : W → UsbSetupPacket → List UInt8 → ℤ × W}
    {controlIn : W → UsbSetupPacket → HostTransfer W} (h_len : payload.length ≤ usbDataMaxBytes) :
    (HostImpl.usb controlOut controlIn).PutsRead w l resid cmd payload :=
  putsRead_of_eq rfl (if_neg (Nat.not_lt.mpr h_len))

end Hosts

/-! ### xSCOPE -/

section Xscope

variable {requestUpload : W → List UInt8 → XscopeOutcome W} {host : XscopeHost} {w : W}
  {l : HostLocals} {resid : ControlResid} {cmd : ControlCmd} {payload : List UInt8}

/-- An upload that is answered brings the host out of its loop. -/
theorem awaitResponse_isSome (h_answers : (HostImpl.xscope requestUpload host).Answers)
    {bytes : List UInt8} (h_ne : bytes ≠ []) (h_len : bytes.length ≤ xscopeUploadMaxBytes)
    (h_accepted : (requestUpload w bytes).accepted = true) :
    ∃ h', { host with recordCount := 0 }.awaitResponse (requestUpload w bytes).records
      = some h' := by
  have h_some := h_answers w bytes h_ne h_len h_accepted
  rw [awaitResponse_zero, List.getLast?_eq_some_getLast h_some]
  exact ⟨_, rfl⟩

/-- What is sent fits into the buffer of the adapter. -/
theorem length_sent_le {n : ℕ} (built : ℕ × Filling UInt8 n) : (sent built).length ≤ n := by
  rw [sent, Buffer.length_front]
  exact min_le_right _ _

theorem xscope_write_isSome (h_answers : (HostImpl.xscope requestUpload host).Answers)
    (h_ne : sent (controlXscopeCreateUploadBuffer l.upload (controlCmdSetWrite cmd) resid
      (some payload) (payload.length % 2 ^ 32)) ≠ []) :
    ((HostImpl.xscope requestUpload host).controlWriteCommand w l resid cmd payload).isSome := by
  dsimp only [HostImpl.controlWriteCommand, XscopeHost.controlWriteCommand]
  rw [if_neg (xscopeBuilt_accepted _ _ _ _ _)]
  set bytes := sent (controlXscopeCreateUploadBuffer l.upload (controlCmdSetWrite cmd) resid
    (some payload) (payload.length % 2 ^ 32)) with h_bytes
  cases h_accepted : (requestUpload w bytes).accepted with
  | false => rfl
  | true =>
    obtain ⟨h', h_await⟩ := awaitResponse_isSome h_answers h_ne (length_sent_le _) h_accepted
    rw [if_pos rfl, h_await]
    rfl

theorem xscope_read_isSome (h_answers : (HostImpl.xscope requestUpload host).Answers)
    (h_ne : xscopeReadUpload l.upload resid cmd payload.length ≠ []) :
    ((HostImpl.xscope requestUpload host).controlReadCommand w l resid cmd payload).isSome := by
  dsimp only [HostImpl.controlReadCommand, XscopeHost.controlReadCommand]
  rw [← xscopeReadUpload]
  set bytes := xscopeReadUpload l.upload resid cmd payload.length with h_bytes
  cases h_accepted : (requestUpload w bytes).accepted with
  | false => rfl
  | true =>
    obtain ⟨h', h_await⟩ := awaitResponse_isSome h_answers h_ne (length_sent_le _) h_accepted
    rw [if_pos rfl, h_await]
    rfl

theorem xscope_putsWrite_iff (h_answers : (HostImpl.xscope requestUpload host).Answers)
    (h_len : payload.length ≤ xscopeDataMaxBytes) :
    (HostImpl.xscope requestUpload host).PutsWrite w l resid cmd payload ↔
      payload.length ≤ xscopeUploadMaxWords := by
  -- the length is cast to 32 bits on its way, which changes nothing within the limit
  have h_mod : payload.length % 2 ^ 32 = payload.length :=
    Nat.mod_eq_of_lt (h_len.trans_lt (by decide))
  rw [putsWrite_iff rfl]
  by_cases h_short : payload.length ≤ xscopeUploadMaxWords
  · have h_sent : sent (controlXscopeCreateUploadBuffer l.upload (controlCmdSetWrite cmd) resid
        (some payload) payload.length)
          = frameHeader resid (controlCmdSetWrite cmd) payload.length ++ l.upload.pad :: payload :=
      sent_xscope_write l.upload (isControlCmdRead_setWrite cmd) h_short
    refine iff_of_true ⟨xscope_write_isSome h_answers ?_, ?_⟩ h_short
    · rw [h_mod, h_sent]
      exact List.cons_ne_nil _ _
    · rw [h_mod, h_sent]
      rfl
  · -- the builder refuses, and an upload of no bytes is no frame
    have h_nil : sent (controlXscopeCreateUploadBuffer l.upload (controlCmdSetWrite cmd) resid
        (some payload) (payload.length % 2 ^ 32)) = [] := by
      rw [h_mod, xscope_refused _ _ (Nat.lt_of_not_le h_short)]
      rfl
    rw [h_nil]
    refine iff_of_false ?_ h_short
    rintro ⟨-, h_frame⟩
    exact absurd (BusTransfer.xscope.inj h_frame).symm (List.cons_ne_nil _ _)

theorem xscope_putsRead_iff (h_answers : (HostImpl.xscope requestUpload host).Answers)
    (h_len : payload.length ≤ xscopeDataMaxBytes) :
    (HostImpl.xscope requestUpload host).PutsRead w l resid cmd payload ↔
      payload.length ≤ xscopeUploadMaxWords := by
  have h_mod : payload.length % 2 ^ 32 = payload.length :=
    Nat.mod_eq_of_lt (h_len.trans_lt (by decide))
  by_cases h_short : payload.length ≤ xscopeUploadMaxWords
  · -- the upload of a read is its header with the byte that pads it
    have h_upload : xscopeReadUpload l.upload resid cmd payload.length
        = frameHeader resid (controlCmdSetRead cmd) payload.length ++ [l.upload.pad] := by
      rw [xscopeReadUpload, h_mod,
        sent_xscope_read l.upload (isControlCmdRead_setRead cmd) none h_short]
      rfl
    refine iff_of_true (putsRead_of_eq (xscope_read_isSome h_answers ?_) ?_) h_short
    · rw [h_upload]
      exact List.cons_ne_nil _ _
    · exact congrArg (fun bytes => [BusTransfer.xscope bytes]) h_upload
  · -- an upload of no bytes is not the frame that is expected first
    have h_nil : xscopeReadUpload l.upload resid cmd payload.length = [] := by
      rw [xscopeReadUpload, h_mod, xscope_refused _ _ (Nat.lt_of_not_le h_short)]
      rfl
    refine iff_of_false (fun h_puts => ?_) h_short
    have h_head : some (BusTransfer.xscope (xscopeReadUpload l.upload resid cmd payload.length))
        = some (.xscope (frameHeader resid (controlCmdSetRead cmd) payload.length
          ++ [l.upload.pad])) := head_of_putsRead h_puts
    rw [h_nil] at h_head
    cases h_head

end Xscope

/-! ### All implementations -/

/-- **The read/write bit.** For a payload that the format of the transport has room for, a write
puts the write frame on the bus, and a read the read frame, exactly if the code has the bit of its
direction where the implementation leaves it alone, and the payload is of at most 64 bytes over
xSCOPE. -/
theorem read_write_bit_iff {h : HostImpl W} (h_answers : h.Answers) (w : W) (l : HostLocals)
    (resid : ControlResid) (cmd : ControlCmd) {payload : List UInt8}
    (h_len : payload.length ≤ h.transport.room) :
    (h.PutsWrite w l resid cmd payload ↔ h.WritesAlike cmd payload) ∧
      (h.PutsRead w l resid cmd payload ↔ h.ReadsAlike cmd payload) := by
  cases h with
  | rpiI2c write rdwr => exact ⟨rpiI2c_putsWrite_iff h_len, rpiI2c_putsRead_iff h_len⟩
  | xcoreI2c write read =>
    exact ⟨iff_of_true (xcoreI2c_putsWrite h_len) trivial,
      iff_of_true (xcoreI2c_putsRead h_len) trivial⟩
  | rpiSpi transfern completes => exact ⟨rpiSpi_putsWrite_iff h_len, rpiSpi_putsRead_iff h_len⟩
  | usb controlOut controlIn =>
    exact ⟨iff_of_true (usb_putsWrite h_len) trivial, iff_of_true (usb_putsRead h_len) trivial⟩
  | xscope requestUpload host =>
    exact ⟨xscope_putsWrite_iff h_answers h_len, xscope_putsRead_iff h_answers h_len⟩

/-- A USB host on a bus where all goes well, with a code that has the wrong bit for a write. -/
theorem read_write_bit_usb :
    let h : HostImpl Unit := .usb (fun _ _ payload => (payload.length, ())) fun _ sp =>
      ⟨sp.wLength.toNat, List.replicate sp.wLength.toNat 0, ()⟩
    h.PutsWrite () (.fill 0) 3 0x85 [42] := by
  intro h
  have h_len : ([42] : List UInt8).length ≤ h.transport.room := by decide
  exact (read_write_bit_iff (h := h) trivial () (.fill 0) 3 0x85 h_len).1.mpr trivial

/-- The RPi I2C host, with the same command: its payload does not reach the bus, where the xCORE
host sends it. A read of the RPi SPI host without the bit sends the array that is to be filled as
the payload of a write. -/
theorem read_write_bit_payload_lost :
    let spi : HostImpl Unit := .rpiSpi (fun _ bytes => (bytes, ())) fun _ _ => True
    let rpi : HostImpl Unit := .rpiI2c (fun _ bytes => (bytes.length, ())) fun _ _ n =>
      ⟨2, List.replicate n 0, ()⟩
    let xcore : HostImpl Unit := .xcoreI2c (fun _ bytes _ => ⟨.ack, bytes.length, ()⟩) fun _ n =>
      ⟨.ack, List.replicate n 0, ()⟩
    rpi.writeLog () (.fill 0) 3 0x85 [42]
        = some [.i2cWrite [3, 0x85, 1] true, .i2cRdwr statusHeader 1] ∧
      xcore.writeLog () (.fill 0) 3 0x85 [42]
        = some [.i2cWrite [3, 5, 1, 42] true, .i2cWrite statusHeader false, .i2cRead 1] ∧
      spi.readLog () (.fill 0) 3 5 [42] = some [.spi [3, 5, 1, 42], .spi (List.replicate 8 0)] ∧
      ¬ rpi.PutsWrite () (.fill 0) 3 0x85 [42] := by
  intro spi rpi xcore
  have h_rpi : rpi.writeLog () (.fill 0) 3 0x85 [42]
      = some [.i2cWrite [3, 0x85, 1] true, .i2cRdwr statusHeader 1] := by decide +kernel
  refine ⟨h_rpi, by decide +kernel, by decide +kernel, fun h_puts => ?_⟩
  obtain ⟨query, -, h_log⟩ := h_puts
  rw [h_rpi] at h_log
  have h_frame := (List.cons.inj (Option.some.inj h_log)).1
  exact absurd h_frame (by decide)

end DeviceControl
