import DeviceControl.Link.Host

/-!
# The USB link

A command is a vendor request, and a write has a second one behind it for the status that it has
left. The array of the adapter has room for `EP0_MAX_REQUEST_SIZE` bytes. Up to there every request
is accepted, and its status stage tells the host whether the control function has succeeded: the
host waits for it in vain where that has failed.
-/

namespace DeviceControl

variable {σ W : Type} {tasks : UserTasks σ}

/-! ### Requests at the device -/

section Request

variable {server : UsbServer σ} {resid cmd ifnum : UInt8}

/-- Within the array of the adapter the host takes every length. -/
theorem le_usbDataMaxBytes {n : ℕ} (h_len : n ≤ ep0MaxRequestSize) : n ≤ usbDataMaxBytes :=
  h_len.trans (by decide)

/-- A buffer is the list of its elements. -/
theorem ofList_toList {n : ℕ} (b : Buffer UInt8 n) : Buffer.ofList 0 b.toList = b := by
  refine Vector.ext fun i hi => ?_
  have h_at : (Buffer.ofList 0 b.toList : Buffer UInt8 n)[i]? = b[i]? := by
    rw [Buffer.getElem?_ofList _ _ hi, Vector.getElem?_toList, Vector.getElem?_eq_getElem hi]
    rfl
  rwa [Vector.getElem?_eq_getElem hi, Vector.getElem?_eq_getElem hi, Option.some_inj] at h_at

/-- **Read requests.** A read leaves what `read_command` does, and has a data stage exactly if that
has succeeded. -/
theorem usbD2h_read (tasks : UserTasks σ) (server : UsbServer σ)
    (h_search : resourceTableSearch server.device.table resid = some ifnum)
    (h_read : isControlCmdRead cmd = true) {n : ℕ} (h_len : n ≤ ep0MaxRequestSize) :
    let r := readCommand tasks server.device ifnum resid cmd server.requestData n
    let o := usbD2hVendorOutcome tasks (fun _ _ => .okay) (vendorSetup resid cmd n) server
    o.server = ⟨r.device, r.payload⟩ ∧
      o.stage = if r.reply.ret = controlSuccess then some .okay else none := by
  intro r o
  have h_max := le_usbDataMaxBytes h_len
  obtain ⟨h_resid, h_cmd, h_nat⟩ := vendorSetup_fields resid cmd h_max
  have h_accepted : (vendorSetup resid cmd n).Accepted := (accepted_vendorSetup_iff h_max).mpr h_len
  set sp := vendorSetup resid cmd n
  have h_get : controlProcessUsbGetRequest tasks sp.wIndex sp.wValue sp.wLength server.requestData
      server.device = (r.device, { r.reply with output := .usbData r.payload.toList }) := by
    unfold controlProcessUsbGetRequest
    dsimp only
    rw [h_resid, h_cmd, h_nat, h_search]
    exact if_pos h_read
  have h_outcome : o = usbD2hVendorOutcome tasks (fun _ _ => .okay) sp server := rfl
  unfold usbD2hVendorOutcome at h_outcome
  rw [if_pos h_accepted, h_get] at h_outcome
  dsimp only at h_outcome
  rw [ofList_toList] at h_outcome
  by_cases h_ret : r.reply.ret = controlSuccess
  · rw [if_pos h_ret] at h_outcome ⊢
    rw [h_outcome]
    exact ⟨rfl, rfl⟩
  · rw [if_neg h_ret] at h_outcome ⊢
    rw [h_outcome]
    exact ⟨rfl, rfl⟩

/-- **Write requests.** A write is served with its payload, whatever the array of the adapter has
held, and has a status stage exactly if the user task answers with success. -/
theorem usbH2d_write (tasks : UserTasks σ) (server : UsbServer σ) {payload : List UInt8}
    (h_search : resourceTableSearch server.device.table resid = some ifnum)
    (h_ne : resid ≠ controlSpecialResid) (h_write : isControlCmdRead cmd = false)
    (h_len : payload.length ≤ ep0MaxRequestSize) :
    let answer := server.device.writeAnswer tasks ifnum resid cmd payload
    let o := usbH2dVendorRequest tasks (packetsOf payload) .okay
      (vendorSetup resid cmd payload.length) server
    o.stage = (if answer.1 = controlSuccess then some .okay else none) ∧
      o.server.device.users = answer.2 ∧ o.server.device.lastStatus = answer.1 ∧
      o.server.device.table = server.device.table := by
  intro answer o
  have h_max := le_usbDataMaxBytes h_len
  obtain ⟨h_resid, h_cmd, h_nat⟩ := vendorSetup_fields resid cmd h_max
  have h_accepted : (vendorSetup resid cmd payload.length).Accepted :=
    (accepted_vendorSetup_iff h_max).mpr h_len
  set sp := vendorSetup resid cmd payload.length
  obtain ⟨k, h_stage, h_okay, h_bytes⟩ := dataStage_packetsOf h_nat
  have h_filled : (server.filled (packetsOf payload) k).front payload.length = payload := by
    rw [UsbServer.filled, h_bytes]
    exact Buffer.front_copy_zero _ h_len
  set data := server.filled (packetsOf payload) k
  have h_del : DeliversWrite tasks server.device ifnum resid cmd payload
      (writeCommand tasks server.device ifnum resid cmd data payload.length).1
      (writeCommand tasks server.device ifnum resid cmd data payload.length).2 :=
    deliversWrite_writeCommand h_ne rfl rfl rfl h_filled
  set written := writeCommand tasks server.device ifnum resid cmd data payload.length
  -- the control function dispatches, and records what it returns
  have h_step : (usbSystem tasks).step server.device (sp.setRequest data)
      = ({ written.1 with lastStatus := written.2.ret }, written.2) := by
    rw [usbStep_set rfl]
    unfold controlProcessUsbSetRequest
    dsimp only [UsbSetupPacket.setRequest]
    rw [h_resid, h_cmd, h_nat, h_search]
    dsimp only
    rw [h_write]
    rfl
  have h_outcome : o = _ := usbH2d_received h_accepted h_stage h_okay
  rw [h_step] at h_outcome
  dsimp only at h_outcome
  rw [h_del.ret] at h_outcome
  by_cases h_ret : answer.1 = controlSuccess
  · rw [if_pos h_ret] at h_outcome ⊢
    rw [h_outcome]
    exact ⟨rfl, h_del.users, rfl, h_del.table⟩
  · rw [if_neg h_ret] at h_outcome ⊢
    rw [h_outcome]
    exact ⟨rfl, h_del.users, rfl, h_del.table⟩

end Request

/-! ### The commands of the host -/

section Messages

variable {cmd : UInt8} {payload : List UInt8} (w : W) (resid : ControlResid)

theorem usb_read_eq (controlIn : W → UsbSetupPacket → HostTransfer W)
    (h_read : isControlCmdRead cmd = true) (h_len : payload.length ≤ ep0MaxRequestSize) :
    usbControlReadCommand w resid cmd payload controlIn
      = (let transfer := controlIn w (vendorSetup resid cmd payload.length)
        if transfer.ret ≠ payload.length then ⟨controlError, transfer.bytes, transfer.world⟩
        else ⟨controlSuccess, transfer.bytes, transfer.world⟩) := by
  unfold usbControlReadCommand
  rw [if_neg (Nat.not_lt.mpr (le_usbDataMaxBytes h_len)), controlCmdSetRead_of_read h_read]
  rfl

theorem usb_write_eq (controlOut : W → UsbSetupPacket → List UInt8 → ℤ × W)
    (controlIn : W → UsbSetupPacket → HostTransfer W)
    (requestData : Buffer UInt8 versionMaxPayloadSize) (status : ControlStatus)
    (h_write : isControlCmdRead cmd = false) (h_len : payload.length ≤ ep0MaxRequestSize) :
    let written := controlOut w (vendorSetup resid cmd payload.length) payload
    let query := usbControlSpecialCommand written.2 [status] controlGetLastCommandStatus controlIn
      requestData
    usbControlWriteCommand w resid cmd payload controlOut controlIn requestData status
      = if written.1 ≠ payload.length then ⟨controlError, written.2⟩
        else ⟨query.payload.headD status, query.world⟩ := by
  intro written query
  unfold usbControlWriteCommand
  rw [if_neg (Nat.not_lt.mpr (le_usbDataMaxBytes h_len)), controlCmdSetWrite_of_write h_write]
  rfl

end Messages

section Commands

variable {controlOut : W → UsbSetupPacket → List UInt8 → ℤ × W}
  {controlIn : W → UsbSetupPacket → HostTransfer W} {server : W → UsbServer σ}
  {resid cmd ifnum : UInt8}

/-- A control transfer to the host: it completes exactly if the read succeeds, with what that has
left in the array. -/
theorem usb_controlIn (h_works : UsbWorks tasks controlOut controlIn server) (w : W)
    (h_search : resourceTableSearch (server w).device.table resid = some ifnum)
    (h_read : isControlCmdRead cmd = true) {n : ℕ} (h_len : n ≤ ep0MaxRequestSize) :
    let r := readCommand tasks (server w).device ifnum resid cmd (server w).requestData n
    let transfer := controlIn w (vendorSetup resid cmd n)
    (server transfer.world).device = r.device ∧
      (r.reply.ret = controlSuccess → transfer.ret = n ∧ transfer.bytes = r.payload.front n) ∧
      (r.reply.ret ≠ controlSuccess → transfer.ret < 0) := by
  intro r transfer
  obtain ⟨h_server, h_stage⟩ := usbD2h_read tasks (server w) h_search h_read h_len
  obtain ⟨-, -, h_nat⟩ := vendorSetup_fields resid cmd (le_usbDataMaxBytes h_len)
  have h_left : server transfer.world = ⟨r.device, r.payload⟩ :=
    (h_works.in_server w _ rfl).trans h_server
  refine ⟨congrArg UsbServer.device h_left, fun h_ret => ?_, fun h_ret => ?_⟩
  · rw [if_pos h_ret] at h_stage
    obtain ⟨h_count, h_bytes⟩ := h_works.in_completed w _ rfl h_stage
    change _ = (server transfer.world).requestData.front _ at h_bytes
    rw [h_left, h_nat] at h_bytes
    rw [h_nat] at h_count
    exact ⟨h_count, h_bytes⟩
  · rw [if_neg h_ret] at h_stage
    exact h_works.in_failed w _ rfl h_stage

variable (h_works : UsbWorks tasks controlOut controlIn server) (s : HostState W)

include h_works

/-- **A read over USB.** -/
theorem usb_readDone (payload : List UInt8)
    (h_search : resourceTableSearch (server s.world).device.table resid = some ifnum)
    (h_read : isControlCmdRead cmd = true) (h_len : payload.length ≤ ep0MaxRequestSize) :
    let r := usbControlReadCommand s.world resid cmd payload controlIn
    ReadDone tasks (.usb controlOut controlIn server) s (server s.world).device.lastStatus ifnum
      resid cmd payload.length ⟨r.ret, r.payload⟩ { s with world := r.world } := by
  intro r
  obtain ⟨h_device, h_completed, h_failed⟩ :=
    usb_controlIn h_works s.world h_search h_read h_len
  set transfer := controlIn s.world (vendorSetup resid cmd payload.length)
  set read := readCommand tasks (server s.world).device ifnum resid cmd
    (server s.world).requestData payload.length
  have h_result : r = if transfer.ret ≠ payload.length then
        ⟨controlError, transfer.bytes, transfer.world⟩
      else ⟨controlSuccess, transfer.bytes, transfer.world⟩ :=
    usb_read_eq s.world resid controlIn h_read h_len
  have h_world : r.world = transfer.world := by
    rw [h_result]
    split
    · rfl
    · rfl
  constructor
  case read =>
    refine ⟨(server s.world).device, ep0MaxRequestSize, (server s.world).requestData, h_len, rfl,
      rfl, ?_, ?_, ?_⟩
    · show (server r.world).device.users = _
      rw [h_world, h_device]
    · show r.ret = if read.reply.ret = controlSuccess then controlSuccess else controlError
      rw [h_result]
      by_cases h_ret : read.reply.ret = controlSuccess
      · rw [if_pos h_ret, if_neg (not_not.mpr (h_completed h_ret).1)]
      · have h_neg := h_failed h_ret
        rw [if_neg h_ret, if_pos (by omega)]
    · intro h_ret
      obtain ⟨h_count, h_bytes⟩ := h_completed h_ret
      show r.payload = _
      rw [h_result, if_neg (not_not.mpr h_count), h_bytes]
  case length =>
    intro h_spi
    cases h_spi
  case table =>
    show (server r.world).device.table = (server s.world).device.table
    rw [h_world, h_device]
    exact readCommand_table ..
  case ready => exact trivial

/-- **A query over USB.** The function for it is one of its own, with an array of its own. -/
theorem usb_specialDone (status : UInt8) (requestData : Buffer UInt8 versionMaxPayloadSize)
    (h_cmd : IsSpecialCmd cmd) (h_table : (server s.world).device.table.Reserves) :
    let r := usbControlSpecialCommand s.world [status] cmd controlIn requestData
    ReadDone tasks (.usb controlOut controlIn server) s (server s.world).device.lastStatus
      ifnumReserved controlSpecialResid cmd 1 ⟨r.ret, r.payload⟩ { s with world := r.world } := by
  intro r
  have h_len : 1 ≤ ep0MaxRequestSize := by decide
  obtain ⟨h_device, h_completed, -⟩ := usb_controlIn h_works s.world
    (resourceTableSearch_special h_table) h_cmd.read h_len
  rw [readCommand_special h_cmd] at h_device h_completed
  set transfer := controlIn s.world (vendorSetup controlSpecialResid cmd 1)
  obtain ⟨h_count, h_bytes⟩ := h_completed rfl
  have h_one : transfer.ret = sizeofControlVersion := h_count
  have h_result : r
      = ⟨controlSuccess, (requestData.copy 0 transfer.bytes).front 1, transfer.world⟩ := by
    change usbControlSpecialCommand s.world [status] cmd controlIn requestData = _
    unfold usbControlSpecialCommand
    exact if_neg (not_not.mpr h_one)
  rw [h_result]
  constructor
  case read =>
    refine ⟨(server s.world).device, ep0MaxRequestSize, (server s.world).requestData, h_len, rfl,
      rfl, ?_⟩
    rw [readCommand_special h_cmd]
    refine ⟨congrArg Device.users h_device, rfl, fun _ => ?_⟩
    dsimp only at h_bytes ⊢
    rw [h_bytes, front_store_zero _ h_len]
    have h_fits : 1 ≤ versionMaxPayloadSize := by decide
    exact Buffer.front_copy_zero requestData h_fits
  case length =>
    intro h_spi
    cases h_spi
  case table => exact congrArg Device.table h_device
  case ready => exact trivial

/-- **A write over USB.** -/
theorem usb_writeServed {payload : List UInt8} (h_table : (server s.world).device.table.Reserves)
    (h_search : resourceTableSearch (server s.world).device.table resid = some ifnum)
    (h_ne : resid ≠ controlSpecialResid) (h_write : isControlCmdRead cmd = false)
    (h_len : payload.length ≤ ep0MaxRequestSize) (l : HostLocals) :
    let r := usbControlWriteCommand s.world resid cmd payload controlOut controlIn l.requestData
      l.status
    HostServed tasks (.usb controlOut controlIn server) s (writeRequest ifnum resid cmd payload)
      ⟨r.ret, payload⟩ { s with world := r.world } := by
  intro r
  obtain ⟨h_stage, h_users, h_recorded, h_same⟩ :=
    usbH2d_write tasks (server s.world) h_search h_ne h_write h_len
  rw [← h_works.out_server _ _ _ rfl] at h_users h_recorded h_same
  set written := controlOut s.world (vendorSetup resid cmd payload.length) payload
  set query := usbControlSpecialCommand written.2 [l.status] controlGetLastCommandStatus controlIn
    l.requestData
  have h_result : r = if written.1 ≠ payload.length then ⟨controlError, written.2⟩
      else ⟨query.payload.headD l.status, query.world⟩ :=
    usb_write_eq s.world resid controlOut controlIn l.requestData l.status h_write h_len
  by_cases h_answer : ((server s.world).device.writeAnswer tasks ifnum resid cmd payload).1
      = controlSuccess
  · -- the status stage is through, and the query reads what the write has recorded
    rw [if_pos h_answer] at h_stage
    have h_count : written.1 = payload.length := h_works.out_completed s.world _ _ rfl h_stage
    have h_special : (server written.2).device.table.Reserves := by
      rw [h_same]
      exact h_table
    have h_done := usb_specialDone h_works ⟨written.2, s.xscope⟩ l.status l.requestData
      (Or.inr rfl) h_special
    obtain ⟨h_told, h_kept⟩ := h_done.special (Or.inr rfl)
    obtain ⟨-, h_payload⟩ := HostAnswer.mk.inj h_told
    rw [h_result, if_neg (not_not.mpr h_count), h_payload]
    refine hostServed_write ?_ (h_kept.trans h_users) (h_done.table.trans h_same) trivial
    exact (h_recorded.trans h_answer).trans (if_pos h_answer).symm
  · -- the host waits for a status stage that does not come
    rw [if_neg h_answer] at h_stage
    have h_neg : written.1 < 0 := h_works.out_failed s.world _ _ rfl h_stage
    rw [h_result, if_pos (by omega)]
    exact hostServed_write (if_neg h_answer).symm h_users h_same trivial

end Commands

end DeviceControl
