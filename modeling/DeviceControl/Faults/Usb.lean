import DeviceControl.Faults.Link
import DeviceControl.Link.Usb

/-!
# The USB link on a bus that may fail

The adapter calls the control function once it has all the packets of a write. So a write that has
been served has been served with the whole payload, even if its status stage gets lost.
-/

namespace DeviceControl

variable {σ W : Type} {tasks : UserTasks σ}

section Usb

variable {packets packets' : ℕ → XudPacket} {wLength : UInt16} {k : ℕ}

theorem continues_congr (h : ∀ j < k, packets j = packets' j) :
    Continues packets wLength k ↔ Continues packets' wLength k := by
  refine and_congr_left' (forall₂_congr fun j hj => ?_)
  rw [h j hj]

/-- All packets of a data stage that succeeds have come through. -/
theorem DataStage.okay (h : DataStage packets wLength k) (h_okay : resultAfter packets k = .okay) :
    ∀ j < k, (packets j).result = .okay := by
  intro j hj
  rcases Nat.lt_or_eq_of_le (Nat.succ_le_of_lt hj) with h_lt | rfl
  · exact ((h.asked (j + 1) h_lt).1 j (Nat.lt_succ_self j)).1
  · exact h_okay

/-- What a write leaves once its data has been received. -/
theorem usbH2d_server {server : UsbServer σ} {sp : UsbSetupPacket} (h : sp.Accepted)
    (h_stage : DataStage packets sp.wLength k) (h_okay : resultAfter packets k = .okay)
    (status : XudResult) :
    (usbH2dVendorRequest tasks packets status sp server).server
      = ⟨((usbSystem tasks).step server.device (sp.setRequest (server.filled packets k))).1,
          server.filled packets k⟩ := by
  rw [usbH2d_received h h_stage h_okay]
  dsimp only
  split
  · rfl
  · rfl

variable {server : UsbServer σ} {resid cmd ifnum : UInt8}

/-- **A write whose packets get lost.** Either one of them is missing, and the device stays as it
is, or the request goes as it would on a bus that works. -/
theorem usbH2d_cut (tasks : UserTasks σ) (server : UsbServer σ) (status : XudResult)
    (resid cmd : UInt8) {payload : List UInt8} (h_len : payload.length ≤ ep0MaxRequestSize)
    (h_packets : ∀ k, (packets k).result = .okay → packets k = packetsOf payload k) :
    let sp := vendorSetup resid cmd payload.length
    let o := usbH2dVendorRequest tasks packets status sp server
    o.server.device = server.device ∨
      o.server = (usbH2dVendorRequest tasks (packetsOf payload) .okay sp server).server := by
  intro sp o
  have h_max := le_usbDataMaxBytes h_len
  have h_accepted : sp.Accepted := (accepted_vendorSetup_iff h_max).mpr h_len
  obtain ⟨k, h_stage, -⟩ := usbEp0Receive_spec packets sp.wLength server.requestData
  by_cases h_okay : resultAfter packets k = .okay
  · right
    have h_same : ∀ j < k, packets j = packetsOf payload j := fun j hj =>
      h_packets j (h_stage.okay h_okay j hj)
    -- a data stage does not look beyond its packets
    have h_stage' : DataStage (packetsOf payload) sp.wLength k := by
      refine ⟨fun j hj => ?_, fun h_more => h_stage.ends ((continues_congr h_same).mpr h_more)⟩
      exact (continues_congr fun i hi => h_same i (hi.trans hj)).mp (h_stage.asked j hj)
    have h_okay' : resultAfter (packetsOf payload) k = .okay := by
      cases k <;> rfl
    have h_bytes : packetBytes packets k = packetBytes (packetsOf payload) k := by
      refine List.flatMap_congr fun j hj => ?_
      rw [h_same j (List.mem_range.mp hj)]
    have h_filled : server.filled packets k = server.filled (packetsOf payload) k :=
      congrArg (server.requestData.copy 0) h_bytes
    show (usbH2dVendorRequest tasks packets status sp server).server = _
    rw [usbH2d_server h_accepted h_stage h_okay, usbH2d_server h_accepted h_stage' h_okay',
      h_filled]
  · left
    show (usbH2dVendorRequest tasks packets status sp server).server.device = _
    rw [usbH2d_failed h_accepted h_stage h_okay]

/-- What a read leaves does not depend on its data stage. -/
theorem usbD2h_server_congr (tasks : UserTasks σ) (f g : List UInt8 → UInt16 → XudResult)
    (sp : UsbSetupPacket) (server : UsbServer σ) :
    (usbD2hVendorOutcome tasks f sp server).server
      = (usbD2hVendorOutcome tasks g sp server).server := by
  unfold usbD2hVendorOutcome
  dsimp only
  split
  · split
    · rfl
    · rfl
  · rfl

variable {controlOut : W → UsbSetupPacket → List UInt8 → ℤ × W}
  {controlIn : W → UsbSetupPacket → HostTransfer W} {server : W → UsbServer σ}
  (h : UsbMayFail tasks controlOut controlIn server)

include h

/-- A control transfer to the host: the read is performed or not, and if the transfer completes then
it has been performed and has succeeded. -/
theorem UsbMayFail.transferred (w : W)
    (h_search : resourceTableSearch (server w).device.table resid = some ifnum)
    (h_read : isControlCmdRead cmd = true) {n : ℕ} (h_len : n ≤ ep0MaxRequestSize) :
    let r := readCommand tasks (server w).device ifnum resid cmd (server w).requestData n
    let transfer := controlIn w (vendorSetup resid cmd n)
    ((server transfer.world).device = (server w).device ∨
        (server transfer.world).device = r.device) ∧
      (transfer.ret = n → (server transfer.world).device = r.device ∧
        r.reply.ret = controlSuccess ∧ transfer.bytes = r.payload.front n) := by
  intro r transfer
  obtain ⟨h_server, h_stage⟩ := usbD2h_read tasks (server w) h_search h_read h_len
  obtain ⟨-, -, h_nat⟩ := vendorSetup_fields resid cmd (le_usbDataMaxBytes h_len)
  constructor
  · refine (h.in_cut w (vendorSetup resid cmd n) rfl).imp (congrArg UsbServer.device) ?_
    rintro ⟨doGetRequest, h_cut⟩
    rw [usbD2h_server_congr tasks doGetRequest fun _ _ => .okay, h_server] at h_cut
    exact congrArg UsbServer.device h_cut
  · intro h_count
    obtain ⟨h_okay, h_left, h_bytes⟩ :=
      h.in_told w (vendorSetup resid cmd n) rfl (by rw [h_nat]; exact h_count)
    rw [h_left, h_server, h_nat] at h_bytes
    rw [h_server] at h_left
    refine ⟨congrArg UsbServer.device h_left, ?_, h_bytes⟩
    by_contra h_ret
    rw [h_okay, if_neg h_ret] at h_stage
    cases h_stage

theorem UsbMayFail.readTried (w : W) (payload : List UInt8)
    (h_search : resourceTableSearch (server w).device.table resid = some ifnum)
    (h_read : isControlCmdRead cmd = true) (h_len : payload.length ≤ ep0MaxRequestSize) :
    let r := usbControlReadCommand w resid cmd payload controlIn
    ReadTried tasks (server w).device (server r.world).device ifnum resid cmd payload.length
      ⟨r.ret, r.payload⟩ := by
  intro r
  obtain ⟨h_or, h_told⟩ := h.transferred w h_search h_read h_len
  have h_result : r = _ := usb_read_eq w resid controlIn h_read h_len
  set transfer := controlIn w (vendorSetup resid cmd payload.length)
  set d := (server w).device
  have h_table : (server transfer.world).device.table = d.table := by
    rcases h_or with h_lost | h_performed
    · rw [h_lost]
    · rw [h_performed]
      exact readCommand_table ..
  by_cases h_count : transfer.ret = payload.length
  · have h_success : r = ⟨controlSuccess, transfer.bytes, transfer.world⟩ :=
      h_result.trans (if_neg (not_not.mpr h_count))
    rw [h_success]
    obtain ⟨h_device, h_ret, h_bytes⟩ := h_told h_count
    refine ⟨⟨d, ep0MaxRequestSize, (server w).requestData, h_len, rfl, Or.inr ?_⟩, h_table⟩
    exact ⟨congrArg Device.users h_device, fun _ => ⟨h_ret, h_bytes⟩⟩
  · have h_error : r = ⟨controlError, transfer.bytes, transfer.world⟩ :=
      h_result.trans (if_pos h_count)
    rw [h_error]
    refine readTried_error d (server w).requestData h_len rfl ?_ h_table _
    exact h_or.imp (congrArg Device.users) (congrArg Device.users)

theorem UsbMayFail.writeTried {payload : List UInt8} {s : HostState W}
    (h_table : (server s.world).device.table.Reserves)
    (h_search : resourceTableSearch (server s.world).device.table resid = some ifnum)
    (h_ne : resid ≠ controlSpecialResid) (h_write : isControlCmdRead cmd = false)
    (h_len : payload.length ≤ ep0MaxRequestSize) (l : HostLocals) :
    let r := usbControlWriteCommand s.world resid cmd payload controlOut controlIn l.requestData
      l.status
    HostTried tasks (.usb controlOut controlIn server) s (writeRequest ifnum resid cmd payload)
      ⟨r.ret, payload⟩ { s with world := r.world } := by
  intro r
  obtain ⟨h_stage, h_users, -, h_same⟩ :=
    usbH2d_write tasks (server s.world) h_search h_ne h_write h_len
  have h_cut := h.out_cut s.world (vendorSetup resid cmd payload.length) payload rfl
  have h_told := h.out_told s.world (vendorSetup resid cmd payload.length) payload rfl
  have h_result : r = _ :=
    usb_write_eq s.world resid controlOut controlIn l.requestData l.status h_write h_len
  set written := controlOut s.world (vendorSetup resid cmd payload.length) payload
  -- the write has been served, or the device is as before
  have h_or : (server written.2).device = (server s.world).device ∨
      server written.2 = (usbH2dVendorRequest tasks (packetsOf payload) .okay
        (vendorSetup resid cmd payload.length) (server s.world)).server := by
    rcases h_cut with h_lost | ⟨packets, status, h_packets, h_left⟩
    · exact Or.inl (congrArg UsbServer.device h_lost)
    · rw [h_left]
      exact usbH2d_cut tasks (server s.world) status resid cmd h_len h_packets
  have h_kept : (server written.2).device.table = (server s.world).device.table := by
    rcases h_or with h_lost | h_served
    · rw [h_lost]
    · rw [h_served, h_same]
  by_cases h_count : written.1 = payload.length
  · obtain ⟨h_okay, h_left⟩ := h_told h_count
    have h_answer : ((server s.world).device.writeAnswer tasks ifnum resid cmd payload).1
        = controlSuccess := by
      by_contra h_ret
      rw [h_okay, if_neg h_ret] at h_stage
      cases h_stage
    rw [← h_left] at h_users
    -- the query changes nothing
    have h_special : resourceTableSearch (server written.2).device.table controlSpecialResid
        = some ifnumReserved := resourceTableSearch_special (by rw [h_kept]; exact h_table)
    have h_cmd : IsSpecialCmd controlGetLastCommandStatus := Or.inr rfl
    have h_one : 1 ≤ ep0MaxRequestSize := by decide
    obtain ⟨h_query, -⟩ := h.transferred written.2 h_special h_cmd.read h_one
    rw [readCommand_special h_cmd, or_self] at h_query
    have h_world : r.world
        = (controlIn written.2
            (vendorSetup controlSpecialResid controlGetLastCommandStatus 1)).world := by
      rw [h_result]
      rw [if_neg (not_not.mpr h_count)]
      unfold usbControlSpecialCommand
      dsimp only
      split
      · rfl
      · rfl
    rw [← h_world] at h_query
    refine hostTried_write (Or.inr ⟨?_, fun _ => h_answer⟩) ?_
    · exact (congrArg Device.users h_query).trans h_users
    · exact (congrArg Device.table h_query).trans h_kept
  · have h_error : r = ⟨controlError, written.2⟩ := h_result.trans (if_pos h_count)
    rw [h_error]
    refine hostTried_error ?_ ?_ payload
    · rcases h_or with h_lost | h_served
      · exact Or.inl (congrArg Device.users h_lost)
      · rw [← h_served] at h_users
        exact Or.inr h_users
    · exact h_kept

end Usb

end DeviceControl
