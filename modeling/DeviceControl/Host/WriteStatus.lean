import DeviceControl.Host.Write

/-!
# The status that a write returns

A write returns the status of the last command, which it queries once the write transfer is done. It
should say success only for a status that it has received.

`write_status_iff` is the exact condition. The RPi I2C host looks at the result of the query. The
xCORE I2C and the USB host do not, so after a query that fails they return what the local held in
which the status was to be put. The SPI host has no result to look at, and returns the byte that it
finds in place of the status, whatever has become of its transfers.
-/

namespace DeviceControl

variable {W : Type}

namespace HostImpl

variable (h : HostImpl W) (w : W) (l : HostLocals) (resid : ControlResid) (cmd : ControlCmd)
  (payload : List UInt8)

/-- Success is returned only if the write transfer completes, the query completes and the status
that it delivers is success. -/
def HonestStatus : Prop :=
  let t := h.writeTransfers w l resid cmd payload
  ∀ r, h.controlWriteCommand w l resid cmd payload = some r → r.ret = controlSuccess →
    t.written ∧ t.queried ∧ t.status = some controlSuccess

/-- Nothing that stands in place of a status is mistaken for success: over SPI no byte of a transfer
in which the slave takes no part, over xCORE I2C and USB not what the local held. -/
def NothingMistaken : Prop :=
  let t := h.writeTransfers w l resid cmd payload
  match h with
  | rpiSpi .. => ¬ (t.written ∧ t.queried) → t.status ≠ some controlSuccess
  | xcoreI2c .. => t.written → ¬ t.queried → l.status ≠ controlSuccess
  | usb .. => t.written → ¬ t.queried → l.status ≠ controlSuccess
  | _ => True

end HostImpl

/-- An uninitialised status does harm only after a query that fails. -/
theorem honest_of_local_iff {s : ControlStatus} (t : WriteTransfers) :
    (t.written ∧ (t.queried ∧ t.status = some controlSuccess ∨ ¬ t.queried ∧ s = controlSuccess) →
        t.written ∧ t.queried ∧ t.status = some controlSuccess) ↔
      (t.written → ¬ t.queried → s ≠ controlSuccess) := by
  constructor
  · exact fun h_honest h_written h_not h_s =>
      h_not (h_honest ⟨h_written, Or.inr ⟨h_not, h_s⟩⟩).2.1
  · rintro h_cond ⟨h_written, h_byte | ⟨h_not, h_s⟩⟩
    · exact ⟨h_written, h_byte⟩
    · exact absurd h_s (h_cond h_written h_not)

variable {h : HostImpl W}

/-- **The status of a write.** With a library that brings the bytes it says it has read, a host that
queries the status returns success only for a status that it has received exactly if nothing is
mistaken for one. -/
theorem write_status_iff (h_query : h.transport ≠ .xscope) (h_fills : h.Fills) (w : W)
    (l : HostLocals) (resid : ControlResid) (cmd : ControlCmd) (payload : List UInt8) :
    h.HonestStatus w l resid cmd payload ↔ h.NothingMistaken w l resid cmd payload := by
  obtain ⟨r, h_some, h_ret⟩ := ret_write_eq_success_iff h_query h_fills w l resid cmd payload
  set t := h.writeTransfers w l resid cmd payload with h_t
  have h_taken : h.HonestStatus w l resid cmd payload ↔
      (h.TakesForSuccess l t → t.written ∧ t.queried ∧ t.status = some controlSuccess) := by
    rw [HostImpl.HonestStatus, h_some, ← h_t, ← h_ret]
    exact ⟨fun h_honest => h_honest r rfl, fun h_honest r' h_r' => Option.some.inj h_r' ▸ h_honest⟩
  rw [h_taken]
  cases h with
  -- this host returns an error of its own wherever it has no status
  | rpiI2c write rdwr => exact iff_of_true id trivial
  | xcoreI2c write read => exact honest_of_local_iff t
  | rpiSpi transfern completes =>
    -- this one takes whatever byte it has received, whether the slave took part or not
    constructor
    · exact fun h_honest h_lost h_byte => h_lost ⟨(h_honest h_byte).1, (h_honest h_byte).2.1⟩
    · intro h_cond h_byte
      obtain ⟨h_written, h_queried⟩ := not_not.mp fun h_lost => h_cond h_lost h_byte
      exact ⟨h_written, h_queried, h_byte⟩
  | usb controlOut controlIn => exact honest_of_local_iff t
  | xscope requestUpload host => exact absurd rfl h_query

/-- A USB host whose writes complete, and whose reads time out. -/
def usbDeafHost : HostImpl Unit :=
  .usb (fun _ _ payload => (payload.length, ())) fun _ _ => ⟨-7, [], ()⟩

theorem usbDeafHost_fills : usbDeafHost.Fills := by
  -- no read succeeds, so there is nothing to be filled
  intro _ _ n h_ret
  have h_neg : (-7 : ℤ) = n := h_ret
  omega

/-- A status query that times out, where the local did not hold success. -/
theorem write_status_timeout :
    usbDeafHost.HonestStatus () (.fill 0xff) 3 5 [42] := by
  have h_query : usbDeafHost.transport ≠ .xscope := by decide
  have h_iff := write_status_iff h_query usbDeafHost_fills () (.fill 0xff) 3 5 [42]
  exact h_iff.mpr fun _ _ => by decide

/-- The same where it did: the write returns success, and no status has been received. -/
theorem write_status_uninitialised :
    (usbDeafHost.controlWriteCommand () (.fill 0) 3 5 [42]).map HostWrite.ret
        = some controlSuccess ∧
      ¬ usbDeafHost.HonestStatus () (.fill 0) 3 5 [42] := by
  have h_success : (usbDeafHost.controlWriteCommand () (.fill 0) 3 5 [42]).map HostWrite.ret
      = some controlSuccess := by decide +kernel
  refine ⟨h_success, fun h_honest => ?_⟩
  obtain ⟨r, h_some, h_ret⟩ := Option.map_eq_some_iff.mp h_success
  have h_queried : (-7 : ℤ) = 1 := (h_honest r h_some h_ret).2.1
  exact absurd h_queried (by decide)

end DeviceControl
