import DeviceControl.Link.Host

/-!
# Buses that may fail

A transfer can be cut off at any place, by a NACK that is not the slave's, by another master, or by
a cable that is pulled. `MayFail` does not ask a link to bring a command to the device. It only asks
it not to take a transfer for complete that is not. That is enough for both I2C hosts and for the
USB host: a session over such a link comes to an end, the user tasks have been served every command
at most once, and have been served those of which the host has been told success, with the answer
that it has been told (`faulty_session`).

For SPI there is no such link, since nothing tells its master whether the slave has taken a
transfer, and success may be an old status.
-/

namespace DeviceControl

variable {σ W : Type} {tasks : UserTasks σ}

/-! ### Links -/

/-- An I2C transfer has been cut off, or has come to its end: the slave has seen the beginning of
it, and perhaps a stop. -/
def I2cCut (tasks : UserTasks σ) (d : Device σ) (cbs : List I2cCallback) (d' : Device σ) : Prop :=
  ∃ sent stops, sent <+: cbs ∧ (∀ cb ∈ stops, cb = I2cCallback.stop) ∧
    d' = (i2cSystem tasks).run d (sent ++ stops)

/-- An I2C transfer has come to its end, and every byte of it has been acknowledged. -/
structure I2cCompleted (tasks : UserTasks σ) (d : Device σ) (cbs stops : List I2cCallback)
    (d' : Device σ) : Prop where
  acked : I2cAcked tasks d cbs
  device : d' = (i2cSystem tasks).run d (cbs ++ stops)

/-- `write` and the `ioctl` of a Raspberry Pi on a bus that may fail. -/
structure RpiI2cMayFail (tasks : UserTasks σ) (write : W → List UInt8 → ℤ × W)
    (rdwr : W → List UInt8 → ℕ → HostTransfer W) (device : W → Device σ) : Prop where
  write_cut : ∀ w bytes,
    I2cCut tasks (device w) (i2cWriteTransfer bytes) (device (write w bytes).2)
  write_told : ∀ w bytes, (write w bytes).1 = bytes.length →
    I2cCompleted tasks (device w) (i2cWriteTransfer bytes) [.stop] (device (write w bytes).2)
  rdwr_cut : ∀ w bytes n,
    I2cCut tasks (device w) (i2cWriteTransfer bytes ++ i2cReads n) (device (rdwr w bytes n).world)
  rdwr_told : ∀ w bytes n, 0 ≤ (rdwr w bytes n).ret →
    I2cCompleted tasks (device w) (i2cWriteTransfer bytes ++ i2cReads n) [.stop]
        (device (rdwr w bytes n).world) ∧
      (rdwr w bytes n).bytes = i2cBytesRead tasks (device w) (i2cWriteTransfer bytes ++ i2cReads n)

/-- The I2C master of an xCORE on one. -/
structure XcoreI2cMayFail (tasks : UserTasks σ)
    (write : W → List UInt8 → Bool → I2cMasterWrite W) (read : W → ℕ → I2cMasterRead W)
    (device : W → Device σ) : Prop where
  write_cut : ∀ w bytes stop,
    I2cCut tasks (device w) (i2cWriteTransfer bytes) (device (write w bytes stop).world)
  write_told : ∀ w bytes stop, (write w bytes stop).res = .ack →
    (write w bytes stop).numBytesSent = bytes.length →
      I2cCompleted tasks (device w) (i2cWriteTransfer bytes) (if stop then [.stop] else [])
        (device (write w bytes stop).world)
  read_cut : ∀ w n, I2cCut tasks (device w) (i2cReads n) (device (read w n).world)
  read_told : ∀ w n, (read w n).res = .ack →
    I2cCompleted tasks (device w) (i2cReads n) [.stop] (device (read w n).world) ∧
      (read w n).bytes = i2cBytesRead tasks (device w) (i2cReads n)

/-- `libusb_control_transfer` on one. A request may not come to the device at all. If it does, then
so do the first packets of its data, and its status stage may be lost. -/
structure UsbMayFail (tasks : UserTasks σ)
    (controlOut : W → UsbSetupPacket → List UInt8 → ℤ × W)
    (controlIn : W → UsbSetupPacket → HostTransfer W) (server : W → UsbServer σ) : Prop where
  out_cut : ∀ w sp bytes, sp.bRequest = controlVendorRequest →
    server (controlOut w sp bytes).2 = server w ∨
      ∃ packets status, (∀ k, (packets k).result = .okay → packets k = packetsOf bytes k) ∧
        server (controlOut w sp bytes).2
          = (usbH2dVendorRequest tasks packets status sp (server w)).server
  out_told : ∀ w sp bytes, sp.bRequest = controlVendorRequest →
    (controlOut w sp bytes).1 = bytes.length →
      (usbH2dVendorRequest tasks (packetsOf bytes) .okay sp (server w)).stage = some .okay ∧
        server (controlOut w sp bytes).2
          = (usbH2dVendorRequest tasks (packetsOf bytes) .okay sp (server w)).server
  in_cut : ∀ w sp, sp.bRequest = controlVendorRequest →
    server (controlIn w sp).world = server w ∨
      ∃ doGetRequest, server (controlIn w sp).world
        = (usbD2hVendorOutcome tasks doGetRequest sp (server w)).server
  in_told : ∀ w sp, sp.bRequest = controlVendorRequest →
    (controlIn w sp).ret = sp.wLength.toNat →
      (usbD2hVendorOutcome tasks (fun _ _ => .okay) sp (server w)).stage = some .okay ∧
        server (controlIn w sp).world
          = (usbD2hVendorOutcome tasks (fun _ _ => .okay) sp (server w)).server ∧
        (controlIn w sp).bytes = (server (controlIn w sp).world).requestData.front sp.wLength.toNat

/-- The links on a bus that may fail. -/
inductive MayFail (tasks : UserTasks σ) : HostLink σ W → Prop
  | rpiI2c {write : W → List UInt8 → ℤ × W} {rdwr : W → List UInt8 → ℕ → HostTransfer W}
      {device : W → Device σ} (h : RpiI2cMayFail tasks write rdwr device) :
      MayFail tasks (.rpiI2c write rdwr device)
  | xcoreI2c {write : W → List UInt8 → Bool → I2cMasterWrite W} {read : W → ℕ → I2cMasterRead W}
      {device : W → Device σ} (h : XcoreI2cMayFail tasks write read device) :
      MayFail tasks (.xcoreI2c write read device)
  | usb {controlOut : W → UsbSetupPacket → List UInt8 → ℤ × W}
      {controlIn : W → UsbSetupPacket → HostTransfer W} {server : W → UsbServer σ}
      (h : UsbMayFail tasks controlOut controlIn server) :
      MayFail tasks (.usb controlOut controlIn server)

/-! ### Commands -/

/-- What success says to a host: the user task has answered with success, and the host has its
data. -/
def HostTold (q : UserRequest) (answer : UserAnswer) (a : HostAnswer) : Prop :=
  answer.ret = controlSuccess ∧ (q.method = .read → a.payload = answer.data)

/-- A command has got lost without its host being told success, or it has been served, and success
is what the user task has answered. -/
structure HostTried (tasks : UserTasks σ) (L : HostLink σ W) (s : HostState W) (q : UserRequest)
    (a : HostAnswer) (s' : HostState W) : Prop where
  users : (L.device s'.world).users = (L.device s.world).users ∧ a.ret ≠ controlSuccess ∨
    (L.device s'.world).users = ((commandServer tasks).step (L.device s.world).users q).1 ∧
      (a.ret = controlSuccess →
        HostTold q ((commandServer tasks).step (L.device s.world).users q).2 a)
  table : (L.device s'.world).table = (L.device s.world).table

/-- A read has been tried on the device `d`, and has left `d'`. -/
structure ReadTried (tasks : UserTasks σ) (d d' : Device σ) (ifnum resid cmd : UInt8) (n : ℕ)
    (a : HostAnswer) : Prop where
  read : ∃ (d₁ : Device σ) (m : ℕ) (array : Buffer UInt8 m), n ≤ m ∧ d₁.users = d.users ∧
    (d'.users = d.users ∧ a.ret ≠ controlSuccess ∨
      d'.users = (readCommand tasks d₁ ifnum resid cmd array n).device.users ∧
        (a.ret = controlSuccess →
          (readCommand tasks d₁ ifnum resid cmd array n).reply.ret = controlSuccess ∧
            a.payload = (readCommand tasks d₁ ifnum resid cmd array n).payload.front n))
  table : d'.table = d.table

section Tried

variable {L : HostLink σ W} {s s' : HostState W} {d d' : Device σ} {ifnum resid cmd : UInt8}
  {n : ℕ} {a : HostAnswer}

/-- A read that has failed for its host has got lost, or has been performed. -/
theorem readTried_error (d₁ : Device σ) {m : ℕ} (array : Buffer UInt8 m) (h_le : n ≤ m)
    (h_users : d₁.users = d.users)
    (h : d'.users = d.users ∨
      d'.users = (readCommand tasks d₁ ifnum resid cmd array n).device.users)
    (h_table : d'.table = d.table) (payload : List UInt8) :
    ReadTried tasks d d' ifnum resid cmd n ⟨controlError, payload⟩ := by
  have h_ret : controlError ≠ controlSuccess := by decide
  refine ⟨⟨d₁, m, array, h_le, h_users, ?_⟩, h_table⟩
  rcases h with h_lost | h_performed
  · exact Or.inl ⟨h_lost, h_ret⟩
  · exact Or.inr ⟨h_performed, fun h_success => absurd h_success h_ret⟩

/-- A read of a user task that has been tried. -/
theorem ReadTried.tried
    (h : ReadTried tasks (L.device s.world) (L.device s'.world) ifnum resid cmd n a)
    (h_regular : tasks.Regular) (h_ne : resid ≠ controlSpecialResid) :
    HostTried tasks L s (readRequest ifnum resid cmd n) a s' := by
  obtain ⟨⟨d₁, m, array, h_le, h_users, h_or⟩, h_table⟩ := h
  have h_step := server_readCommand h_regular ifnum h_ne cmd d₁ array h_le
  rw [h_users] at h_step
  refine ⟨h_or.imp_right fun ⟨h_next, h_told⟩ => ?_, h_table⟩
  rw [h_step]
  refine ⟨h_next, fun h_success => ?_⟩
  obtain ⟨h_ret, h_payload⟩ := h_told h_success
  exact ⟨h_ret, fun _ => h_payload.trans (if_pos h_ret).symm⟩

/-- A query of the library, lost or not, leaves the user tasks alone. -/
theorem ReadTried.special (h : ReadTried tasks d d' ifnum controlSpecialResid cmd 1 a)
    (h_cmd : IsSpecialCmd cmd) : d'.users = d.users := by
  obtain ⟨⟨d₁, m, array, -, h_users, h_or⟩, -⟩ := h
  rw [readCommand_special h_cmd] at h_or
  rcases h_or with ⟨h_lost, -⟩ | ⟨h_next, -⟩
  · exact h_lost
  · exact h_next.trans h_users

/-- A write that has been tried. -/
theorem hostTried_write {ps : List UInt8}
    (h : (L.device s'.world).users = (L.device s.world).users ∧ a.ret ≠ controlSuccess ∨
      (L.device s'.world).users = ((L.device s.world).writeAnswer tasks ifnum resid cmd ps).2 ∧
        (a.ret = controlSuccess →
          ((L.device s.world).writeAnswer tasks ifnum resid cmd ps).1 = controlSuccess))
    (h_table : (L.device s'.world).table = (L.device s.world).table) :
    HostTried tasks L s (writeRequest ifnum resid cmd ps) a s' :=
  ⟨h.imp_right fun ⟨h_users, h_told⟩ => ⟨h_users, fun h_ret => ⟨h_told h_ret, nofun⟩⟩, h_table⟩

/-- So has a write. -/
theorem hostTried_error {ps : List UInt8}
    (h : (L.device s'.world).users = (L.device s.world).users ∨
      (L.device s'.world).users = ((L.device s.world).writeAnswer tasks ifnum resid cmd ps).2)
    (h_table : (L.device s'.world).table = (L.device s.world).table) (payload : List UInt8) :
    HostTried tasks L s (writeRequest ifnum resid cmd ps) ⟨controlError, payload⟩ s' := by
  have h_ret : controlError ≠ controlSuccess := by decide
  refine hostTried_write ?_ h_table
  rcases h with h_lost | h_served
  · exact Or.inl ⟨h_lost, h_ret⟩
  · exact Or.inr ⟨h_served, fun h_success => absurd h_success h_ret⟩

end Tried

end DeviceControl
