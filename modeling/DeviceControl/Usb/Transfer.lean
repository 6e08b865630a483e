import DeviceControl.Host.ReadWriteBit
import DeviceControl.Host.WriteStatus
import DeviceControl.Usb.Payload

/-!
# USB transfers of the host at the device

The host takes payloads of up to `USB_TRANSACTION_MAX_BYTES`, 2048, and leaves it to the device to
have an array of that size. The array of the adapter has `EP0_MAX_REQUEST_SIZE`, 256 bytes.

`usb_reaches_iff` puts the two together: over a bus without errors, which brings the payload in full
packets and a last shorter one, what the host accepts reaches the user task exactly up to 256 bytes.
-/

namespace DeviceControl

variable {σ W : Type}

/-! ### Packets -/

/-- The packets of a payload: full ones, and a last one with the rest. -/
def packetsOf (payload : List UInt8) (k : ℕ) : XudPacket :=
  .received ((payload.drop (bMaxPacketSize0 * k)).take bMaxPacketSize0) (List.length_take_le _ _)

/-- The first packets bring the beginning of the payload. -/
theorem packetBytes_packetsOf (payload : List UInt8) (k : ℕ) :
    packetBytes (packetsOf payload) k = payload.take (bMaxPacketSize0 * k) := by
  induction k with
  | zero => rfl
  | succ k ih =>
    rw [packetBytes_succ, ih, Nat.mul_succ, List.take_add]
    rfl

/-- A packet is asked for as long as something is left. -/
theorem continues_packetsOf_iff {payload : List UInt8} {wLength : UInt16}
    (h_len : wLength.toNat = payload.length) (k : ℕ) :
    Continues (packetsOf payload) wLength k ↔ bMaxPacketSize0 * k < payload.length := by
  rw [Continues, h_len]
  refine and_iff_right_of_imp fun h_lt j hj => ⟨rfl, ?_⟩
  -- the packets before it are full
  change 64 * k < payload.length at h_lt
  have h_full : 64 ≤ (payload.drop (64 * j)).length := by
    rw [List.length_drop]
    omega
  exact List.length_take_of_le h_full

/-- The data stage of a payload takes all its packets, and brings the payload. -/
theorem dataStage_packetsOf {payload : List UInt8} {wLength : UInt16}
    (h_len : wLength.toNat = payload.length) :
    ∃ k, DataStage (packetsOf payload) wLength k ∧ resultAfter (packetsOf payload) k = .okay ∧
      packetBytes (packetsOf payload) k = payload := by
  set k := (payload.length + 63) / 64 with h_k
  refine ⟨k, ⟨fun j hj => ?_, ?_⟩, ?_, ?_⟩
  · rw [continues_packetsOf_iff h_len]
    change 64 * j < payload.length
    omega
  · rw [continues_packetsOf_iff h_len]
    change ¬ 64 * k < payload.length
    omega
  · cases k <;> rfl
  · rw [packetBytes_packetsOf]
    refine List.take_of_length_le ?_
    change payload.length ≤ 64 * k
    omega

/-! ### Reaching the user task -/

section Reaches

variable (tasks : UserTasks σ) (h : HostImpl W) (w : W) (l : HostLocals) (resid : ControlResid)
  (cmd : ControlCmd) (payload : List UInt8) (s : UsbServer σ) (ifnum : UInt8)

/-- The write of the host is accepted by the device, which calls the user task once, with the whole
payload. -/
def UsbWriteReaches (status : XudResult) : Prop :=
  ∃ sp query, h.writeLog w l resid cmd payload = some (.usbOut sp payload :: query) ∧
    (usbH2dVendorRequest tasks (packetsOf payload) status sp s).requests
      = [writeRequest ifnum resid (controlCmdSetWrite cmd) payload]

/-- The read of the host is accepted by the device, which calls the user task once, for as many
bytes. -/
def UsbReadReaches (doGetRequest : List UInt8 → UInt16 → XudResult) : Prop :=
  ∃ sp, h.readLog w l resid cmd payload = some [.usbIn sp] ∧
    (usbD2hVendorOutcome tasks doGetRequest sp s).requests
      = [readRequest ifnum resid (controlCmdSetRead cmd) payload.length]

end Reaches

section Usb

variable {tasks : UserTasks σ} {controlOut : W → UsbSetupPacket → List UInt8 → ℤ × W}
  {controlIn : W → UsbSetupPacket → HostTransfer W} {w : W} {l : HostLocals} {resid : ControlResid}
  {cmd : ControlCmd} {payload : List UInt8} {s : UsbServer σ} {ifnum : UInt8}

/-- The setup packet of a vendor request to the device. -/
def vendorSetup (resid : ControlResid) (cmd : ControlCmd) (n : ℕ) : UsbSetupPacket :=
  ⟨controlVendorRequest, cmd.toUInt16, resid.toUInt16, UInt16.ofNat n⟩

/-- The casts of its fields lose nothing. -/
theorem vendorSetup_fields (resid : ControlResid) (cmd : ControlCmd) {n : ℕ}
    (h_len : n ≤ usbDataMaxBytes) :
    (vendorSetup resid cmd n).wIndex.toUInt8 = resid ∧
      (vendorSetup resid cmd n).wValue.toUInt8 = cmd ∧
      (vendorSetup resid cmd n).wLength.toNat = n :=
  ⟨UInt8.toUInt8_toUInt16 resid, UInt8.toUInt8_toUInt16 cmd, toNat_ofNat16 h_len⟩

/-- The device accepts it if its array is long enough. -/
theorem accepted_vendorSetup_iff {n : ℕ} (h_len : n ≤ usbDataMaxBytes) :
    (vendorSetup resid cmd n).Accepted ↔ n ≤ ep0MaxRequestSize := by
  obtain ⟨-, -, h_nat⟩ := vendorSetup_fields resid cmd h_len
  rw [UsbSetupPacket.Accepted, h_nat]
  exact and_iff_right rfl

/-- A write to a user task within the array delivers its payload, and nothing beyond it is
delivered. -/
theorem requests_write_iff (h_len : payload.length ≤ usbDataMaxBytes)
    (h_search : resourceTableSearch s.device.table resid = some ifnum)
    (h_ne : resid ≠ controlSpecialResid) (h_write : isControlCmdRead cmd = false)
    (status : XudResult) :
    (usbH2dVendorRequest tasks (packetsOf payload) status (vendorSetup resid cmd payload.length)
        s).requests = [writeRequest ifnum resid cmd payload] ↔
      payload.length ≤ ep0MaxRequestSize := by
  obtain ⟨h_resid, h_cmd, h_nat⟩ := vendorSetup_fields resid cmd h_len
  rw [← accepted_vendorSetup_iff h_len]
  set sp := vendorSetup resid cmd payload.length
  constructor
  · intro h_requests
    by_contra h_refused
    rw [usbH2d_refused h_refused] at h_requests
    cases h_requests
  · intro h_accepted
    obtain ⟨k, h_stage, h_okay, h_received⟩ := dataStage_packetsOf h_nat
    have h_to : sp.WritesTo s.device.table ifnum :=
      ⟨by rw [h_resid, h_search], by rwa [h_resid], by rwa [h_cmd]⟩
    rw [requests_usbH2d h_accepted h_stage h_okay h_to, front_filled h_accepted h_stage h_okay
      (by rw [h_received, h_nat]), h_received, h_resid, h_cmd, h_nat, List.take_length]
    rfl

/-- The control function is called for every read that is accepted. -/
theorem usbD2h_control {sp : UsbSetupPacket} (h_accepted : sp.Accepted)
    (doGetRequest : List UInt8 → UInt16 → XudResult) :
    (usbD2hVendorOutcome tasks doGetRequest sp s).control
      = some ((usbSystem tasks).step s.device
          ⟨.read, sp.wIndex, sp.wValue, sp.wLength, _, s.requestData⟩).2 := by
  rw [usbStep_get rfl]
  unfold usbD2hVendorOutcome
  rw [if_pos h_accepted]
  dsimp only
  split <;> rfl

/-- A read for a user task is served within the array, and refused beyond it. -/
theorem requests_read_iff (h_len : payload.length ≤ usbDataMaxBytes)
    (h_search : resourceTableSearch s.device.table resid = some ifnum)
    (h_ne : resid ≠ controlSpecialResid) (h_read : isControlCmdRead cmd = true)
    (doGetRequest : List UInt8 → UInt16 → XudResult) :
    (usbD2hVendorOutcome tasks doGetRequest (vendorSetup resid cmd payload.length) s).requests
        = [readRequest ifnum resid cmd payload.length] ↔
      payload.length ≤ ep0MaxRequestSize := by
  obtain ⟨h_resid, h_cmd, h_nat⟩ := vendorSetup_fields resid cmd h_len
  rw [← accepted_vendorSetup_iff h_len]
  set sp := vendorSetup resid cmd payload.length
  constructor
  · intro h_requests
    by_contra h_refused
    rw [usbD2hVendorOutcome, if_neg h_refused] at h_requests
    cases h_requests
  · intro h_accepted
    set q : UsbRequest := ⟨.read, sp.wIndex, sp.wValue, sp.wLength, _, s.requestData⟩
    -- the fields of the setup packet are those of the command
    have h_disp : q.Dispatches s.device.table ifnum := by
      refine ⟨?_, ?_, iff_of_true ?_ rfl⟩
      · change resourceTableSearch _ sp.wIndex.toUInt8 = _
        rw [h_resid, h_search]
      · change sp.wIndex.toUInt8 ≠ _
        rwa [h_resid]
      · change isControlCmdRead sp.wValue.toUInt8 = true
        rwa [h_cmd]
    obtain ⟨produced, h_calls⟩ :
        ∃ produced, ((usbSystem tasks).step s.device q).2.calls = _ := calls_of_dispatches h_disp
    have h_request : q.request ifnum = readRequest ifnum resid cmd payload.length := by
      change (⟨ifnum, .read, sp.wIndex.toUInt8, sp.wValue.toUInt8, [], sp.wLength.toNat⟩ :
        UserRequest) = _
      rw [h_resid, h_cmd, h_nat]
      rfl
    rw [VendorOutcome.requests, usbD2h_control h_accepted, Option.elim_some, h_calls,
      List.map_singleton, h_request]

/-- **What the USB host accepts.** A payload of up to 2048 bytes for a user task reaches it exactly
if it has at most 256. -/
theorem usb_reaches_iff (tasks : UserTasks σ)
    (h_search : resourceTableSearch s.device.table resid = some ifnum)
    (h_ne : resid ≠ controlSpecialResid) (h_len : payload.length ≤ usbDataMaxBytes)
    (cmd : ControlCmd) (w : W) (l : HostLocals) (status : XudResult)
    (doGetRequest : List UInt8 → UInt16 → XudResult) :
    let h : HostImpl W := .usb controlOut controlIn
    (UsbWriteReaches tasks h w l resid cmd payload s ifnum status ↔
        payload.length ≤ ep0MaxRequestSize) ∧
      (UsbReadReaches tasks h w l resid cmd payload s ifnum doGetRequest ↔
        payload.length ≤ ep0MaxRequestSize) := by
  intro h
  constructor
  · obtain ⟨query, -, h_log⟩ : h.PutsWrite w l resid cmd payload := usb_putsWrite h_len
    have h_frame : h.writeFrame l resid cmd payload
        = .usbOut (vendorSetup resid (controlCmdSetWrite cmd) payload.length) payload := rfl
    rw [← requests_write_iff h_len h_search h_ne (isControlCmdRead_setWrite cmd) status]
    constructor
    · rintro ⟨sp, query', h_log', h_requests⟩
      -- the setup packet is the one of the host
      rw [h_log, h_frame] at h_log'
      obtain ⟨h_sp, -⟩ := BusTransfer.usbOut.inj (List.cons.inj (Option.some.inj h_log')).1
      rw [h_sp]
      exact h_requests
    · exact fun h_requests => ⟨_, query, h_log, h_requests⟩
  · obtain ⟨transfers, h_some, h_pre, h_log⟩ : h.PutsRead w l resid cmd payload :=
      usb_putsRead h_len
    have h_frame : h.readFrame l resid cmd payload
        = [.usbIn (vendorSetup resid (controlCmdSetRead cmd) payload.length)] := rfl
    obtain rfl : transfers
        = [.usbIn (vendorSetup resid (controlCmdSetRead cmd) payload.length)] := by
      rw [h_frame] at h_pre
      obtain ⟨rest, rfl, h_rest⟩ := (List.prefix_cons_iff.mp h_pre).resolve_left h_some
      rw [List.prefix_nil.mp h_rest]
    rw [← requests_read_iff h_len h_search h_ne (isControlCmdRead_setRead cmd) doGetRequest]
    constructor
    · rintro ⟨sp, h_log', h_requests⟩
      rw [h_log] at h_log'
      have h_sp := BusTransfer.usbIn.inj (List.cons.inj (Option.some.inj h_log')).1
      rw [h_sp]
      exact h_requests
    · exact fun h_requests => ⟨_, h_log, h_requests⟩

end Usb

/-- One byte, written and read. -/
theorem usb_reaches_byte :
    let tasks : UserTasks Unit := .always controlSuccess [7]
    let stage : List UInt8 → UInt16 → XudResult := fun _ _ => .okay
    UsbWriteReaches tasks usbDeafHost () (.fill 0) 3 5 [42] (usbBoot [[3]] ()) 0 .okay ∧
      UsbReadReaches tasks usbDeafHost () (.fill 0) 3 5 [42] (usbBoot [[3]] ()) 0 stage := by
  intro tasks stage
  have h_search : resourceTableSearch (usbBoot [[3]] ()).device.table 3 = some 0 := by
    decide +kernel
  have h_len : ([42] : List UInt8).length ≤ usbDataMaxBytes := by decide
  obtain ⟨h_write, h_read⟩ :=
    usb_reaches_iff tasks h_search (by decide) h_len 5 () (.fill 0) .okay stage
  exact ⟨h_write.mpr (by decide), h_read.mpr (by decide)⟩

/-- A payload of 257 bytes, within the limit of the host: the device refuses the request. -/
theorem usb_reaches_refused :
    let tasks : UserTasks Unit := .always controlSuccess []
    let payload : List UInt8 := List.replicate 257 42
    let o := usbH2dVendorRequest tasks (packetsOf payload) .okay (vendorSetup 3 5 257)
      (usbBoot [[3]] ())
    payload.length ≤ usbDataMaxBytes ∧ o.result = .err ∧ o.requests = [] ∧
      ¬ UsbWriteReaches tasks usbDeafHost () (.fill 0) 3 5 payload (usbBoot [[3]] ()) 0 .okay := by
  intro tasks payload o
  have h_length : payload.length = 257 := List.length_replicate
  have h_len : payload.length ≤ usbDataMaxBytes := by
    rw [h_length]
    decide
  have h_search : resourceTableSearch (usbBoot [[3]] ()).device.table 3 = some 0 := by
    decide +kernel
  refine ⟨h_len, by decide +kernel, by decide +kernel, ?_⟩
  rintro ⟨sp, query, h_log, h_requests⟩
  obtain ⟨query', -, h_log'⟩ :
      usbDeafHost.PutsWrite () (.fill 0) 3 5 payload := usb_putsWrite h_len
  rw [h_log'] at h_log
  have h_frame := (List.cons.inj (Option.some.inj h_log)).1
  obtain rfl : vendorSetup 3 5 payload.length = sp := (BusTransfer.usbOut.inj h_frame).1
  have h_fits := (requests_write_iff h_len h_search (by decide) (by decide) .okay).mp h_requests
  rw [h_length] at h_fits
  exact absurd h_fits (by decide)

end DeviceControl
