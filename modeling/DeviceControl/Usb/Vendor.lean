import DeviceControl.Usb.Receive
import DeviceControl.Usb.Status

/-!
# Vendor requests at endpoint 0

`USB_H2D_VendorRequest` and `USB_D2H_VendorRequest` stand between endpoint 0 and the processing
functions. `VendorOutcome` is all that one of them shows: the result it returns, the reply of the
control function if it got as far, and the result of the stage behind it. The packets of the data
stage and the results of `lib_xud` are whatever the bus makes of them.

The write goes through `USB_EP0_Receive` first, so its result variable has been set to
`XUD_RES_OKAY` by the time the control function is called, and nothing takes that back if the
control function fails. In the read it is still `XUD_RES_ERR` there. `usb_vendor_reports_iff` is
the exact condition under which failures are reported.
-/

namespace DeviceControl

variable {σ : Type} (tasks : UserTasks σ)

/-! ### The functions -/

/-- What a vendor request function returns, what its calls returned, and what it leaves. -/
structure VendorOutcome (σ : Type) where
  result : XudResult
  /-- The reply of the control function, if it was called. -/
  control : Option Reply
  /-- The result of `XUD_DoSetRequestStatus` or `XUD_DoGetRequest`, if it was performed. -/
  stage : Option XudResult
  server : UsbServer σ

/-- The request is for the control library and fits into `request_data`. -/
def UsbSetupPacket.Accepted (sp : UsbSetupPacket) : Prop :=
  sp.bRequest = controlVendorRequest ∧ sp.wLength.toNat ≤ ep0MaxRequestSize

instance (sp : UsbSetupPacket) : Decidable sp.Accepted := inferInstanceAs (Decidable (_ ∧ _))

/-- `USB_H2D_VendorRequest`. The packets are those that `XUD_GetBuffer` delivers in turn, and
`doSetRequestStatus` is what `XUD_DoSetRequestStatus` returns. -/
def usbH2dVendorRequest (packets : ℕ → XudPacket) (doSetRequestStatus : XudResult)
    (sp : UsbSetupPacket) (s : UsbServer σ) : VendorOutcome σ :=
  let received : XudResult × Buffer UInt8 ep0MaxRequestSize :=
    if sp.Accepted then
      let r := usbEp0Receive packets sp.wLength s.requestData
      (r.result, r.buffer)
    else (.err, s.requestData)
  if received.1 = .okay then
    let ctrl := controlProcessUsbSetRequest tasks sp.wIndex sp.wValue sp.wLength received.2 s.device
    if ctrl.2.ret = controlSuccess then
      { result := doSetRequestStatus, control := some ctrl.2, stage := some doSetRequestStatus
        server := ⟨ctrl.1, received.2⟩ }
    else
      { result := received.1, control := some ctrl.2, stage := none
        server := ⟨ctrl.1, received.2⟩ }
  else
    { result := received.1, control := none, stage := none, server := ⟨s.device, received.2⟩ }

/-- `USB_D2H_VendorRequest` with the calls it makes: `usbD2hVendorRequest` is its result. -/
def usbD2hVendorOutcome (doGetRequest : List UInt8 → UInt16 → XudResult) (sp : UsbSetupPacket)
    (s : UsbServer σ) : VendorOutcome σ :=
  if sp.Accepted then
    let r := controlProcessUsbGetRequest tasks sp.wIndex sp.wValue sp.wLength s.requestData s.device
    let requestData : Buffer UInt8 ep0MaxRequestSize :=
      match r.2.output with
      | .usbData bytes => Buffer.ofList 0 bytes
      | _ => s.requestData
    if r.2.ret = controlSuccess then
      let stage := doGetRequest requestData.toList sp.wLength
      { result := stage, control := some r.2, stage := some stage, server := ⟨r.1, requestData⟩ }
    else { result := .err, control := some r.2, stage := none, server := ⟨r.1, requestData⟩ }
  else { result := .err, control := none, stage := none, server := s }

theorem usbD2hVendorOutcome_eq (doGetRequest : List UInt8 → UInt16 → XudResult)
    (sp : UsbSetupPacket) (s : UsbServer σ) :
    ((usbD2hVendorOutcome tasks doGetRequest sp s).result,
        (usbD2hVendorOutcome tasks doGetRequest sp s).server)
      = usbD2hVendorRequest tasks doGetRequest sp s := by
  have h_iff : sp.Accepted ↔ sp.bRequest = controlVendorRequest ∧
      sp.wLength.toNat ≤ ep0MaxRequestSize := Iff.rfl
  unfold usbD2hVendorOutcome usbD2hVendorRequest
  by_cases h_accepted : sp.Accepted
  · rw [if_pos h_accepted, if_pos (h_iff.mp h_accepted)]
    by_cases h_ret : (controlProcessUsbGetRequest tasks sp.wIndex sp.wValue sp.wLength
        s.requestData s.device).2.ret = controlSuccess
    · -- the same array on both sides, behind a match of each function's own
      dsimp only
      rewrite [if_pos h_ret, if_pos h_ret]
      rfl
    · dsimp only
      rewrite [if_neg h_ret, if_neg h_ret]
      rfl
  · rw [if_neg h_accepted, if_neg (h_iff.not.mp h_accepted)]

/-- The request that a write makes of the control function, with what the data stage has left in
the array. -/
def UsbSetupPacket.setRequest (sp : UsbSetupPacket) (requestData : Buffer UInt8 ep0MaxRequestSize) :
    UsbRequest :=
  ⟨.write, sp.wIndex, sp.wValue, sp.wLength, ep0MaxRequestSize, requestData⟩

/-! ### How a write goes -/

section Write

variable {tasks} {packets : ℕ → XudPacket} {status : XudResult} {sp : UsbSetupPacket}
  {s : UsbServer σ} {k : ℕ}

/-- What `request_data` holds after a data stage of `k` packets. -/
def UsbServer.filled (s : UsbServer σ) (packets : ℕ → XudPacket) (k : ℕ) :
    Buffer UInt8 ep0MaxRequestSize :=
  s.requestData.copy 0 (packetBytes packets k)

theorem usbH2d_refused (h : ¬ sp.Accepted) :
    usbH2dVendorRequest tasks packets status sp s
      = { result := .err, control := none, stage := none, server := s } := by
  unfold usbH2dVendorRequest
  rw [if_neg h]
  rfl

theorem usbEp0Receive_after (h : DataStage packets sp.wLength k)
    (b : Buffer UInt8 ep0MaxRequestSize) :
    (usbEp0Receive packets sp.wLength b).After packets sp.wLength b k := by
  obtain ⟨k', h_stage, h_after⟩ := usbEp0Receive_spec packets sp.wLength b
  rw [h.unique h_stage]
  exact h_after

/-- A data stage that fails ends the request. -/
theorem usbH2d_failed (h : sp.Accepted) (h_stage : DataStage packets sp.wLength k)
    (h_failed : resultAfter packets k ≠ .okay) :
    usbH2dVendorRequest tasks packets status sp s
      = { result := resultAfter packets k, control := none, stage := none
          server := ⟨s.device, s.filled packets k⟩ } := by
  have h_after := usbEp0Receive_after h_stage s.requestData
  unfold usbH2dVendorRequest
  rw [if_pos h]
  dsimp only
  rw [h_after.result, h_after.buffer, if_neg h_failed]
  rfl

section Received

variable (h : sp.Accepted) (h_stage : DataStage packets sp.wLength k)
  (h_okay : resultAfter packets k = .okay)

include h h_stage h_okay

/-- A data stage that succeeds is followed by the control function. -/
theorem usbH2d_received :
    usbH2dVendorRequest tasks packets status sp s
      = (let ctrl := (usbSystem tasks).step s.device (sp.setRequest (s.filled packets k))
        if ctrl.2.ret = controlSuccess then
          { result := status, control := some ctrl.2, stage := some status
            server := ⟨ctrl.1, s.filled packets k⟩ }
        else
          { result := .okay, control := some ctrl.2, stage := none
            server := ⟨ctrl.1, s.filled packets k⟩ }) := by
  have h_after := usbEp0Receive_after h_stage s.requestData
  unfold usbH2dVendorRequest
  rw [if_pos h]
  dsimp only
  rw [h_after.result, h_after.buffer, if_pos h_okay, usbStep_set rfl, h_okay]
  rfl

/-- A control function that succeeds is followed by the status stage. -/
theorem usbH2d_taken
    (h_ret : ((usbSystem tasks).step s.device (sp.setRequest (s.filled packets k))).2.ret
      = controlSuccess) :
    usbH2dVendorRequest tasks packets status sp s
      = (let ctrl := (usbSystem tasks).step s.device (sp.setRequest (s.filled packets k))
        { result := status, control := some ctrl.2, stage := some status
          server := ⟨ctrl.1, s.filled packets k⟩ }) := by
  rw [usbH2d_received h h_stage h_okay]
  exact if_pos h_ret

/-- A control function that fails leaves the result of the data stage. -/
theorem usbH2d_refusedByTask
    (h_ret : ((usbSystem tasks).step s.device (sp.setRequest (s.filled packets k))).2.ret
      ≠ controlSuccess) :
    usbH2dVendorRequest tasks packets status sp s
      = (let ctrl := (usbSystem tasks).step s.device (sp.setRequest (s.filled packets k))
        { result := .okay, control := some ctrl.2, stage := none
          server := ⟨ctrl.1, s.filled packets k⟩ }) := by
  rw [usbH2d_received h h_stage h_okay]
  exact if_neg h_ret

/-- The control function is called either way. -/
theorem usbH2d_control :
    (usbH2dVendorRequest tasks packets status sp s).control
      = some ((usbSystem tasks).step s.device (sp.setRequest (s.filled packets k))).2 := by
  by_cases h_ret : ((usbSystem tasks).step s.device (sp.setRequest (s.filled packets k))).2.ret
      = controlSuccess
  · rw [usbH2d_taken h h_stage h_okay h_ret]
  · rw [usbH2d_refusedByTask h h_stage h_okay h_ret]

end Received

/-- A set request that does not dispatch is refused: the resource is unknown or the special one, or
the command code is that of a read. -/
theorem ret_set_of_not_dispatches {d : Device σ} {q : UsbRequest} (h_write : q.method = .write)
    (h : ∀ ifnum, ¬ q.Dispatches d.table ifnum) :
    ((usbSystem tasks).step d q).2.ret = controlBadCommand := by
  cases h_search : resourceTableSearch d.table q.resid with
  | none =>
    rw [usbStep_set h_write, controlProcessUsbSetRequest]
    change resourceTableSearch d.table q.windex.toUInt8 = none at h_search
    rw [h_search]
  | some ifnum =>
    rw [usbStep_set_found h_search h_write]
    by_cases h_read : isControlCmdRead q.cmd = true
    · rw [if_pos h_read]
    · rw [if_neg h_read, writeCommand]
      have h_dir : ¬ q.method = .read := fun h_eq => by cases h_write.symm.trans h_eq
      -- what is left is the special resource, which takes no writes
      have h_special : q.resid = controlSpecialResid := by
        by_contra h_ne
        exact h ifnum ⟨h_search, h_ne, iff_of_false h_read h_dir⟩
      rw [if_pos h_special]

/-- A set request that dispatches returns the code of the user task. -/
theorem ret_set_of_dispatches {d : Device σ} {q : UsbRequest} (h_write : q.method = .write)
    {ifnum : UInt8} (h : q.Dispatches d.table ifnum) :
    ((usbSystem tasks).step d q).2.ret
      = (tasks.writeCommand d.users ifnum q.resid q.cmd
          (q.requestData.front q.wlength.toNat) q.wlength.toNat).1 := by
  obtain ⟨h_search, h_ne, h_dir⟩ := h
  have h_code : ¬ isControlCmdRead q.cmd = true := fun h_read => by
    cases h_write.symm.trans (h_dir.mp h_read)
  rw [usbStep_set_found h_search h_write, if_neg h_code, writeCommand, if_neg h_ne]

/-- A set request succeeds exactly if it dispatches and the user task answers the payload with
success. -/
theorem ret_setRequest_iff {d : Device σ} {b : Buffer UInt8 ep0MaxRequestSize} (h : sp.Accepted) :
    ((usbSystem tasks).step d (sp.setRequest b)).2.ret = controlSuccess ↔
      ∃ ifnum, (sp.setRequest b).Dispatches d.table ifnum ∧
        (d.writeAnswer tasks ifnum (sp.setRequest b).resid (sp.setRequest b).cmd
          (b.front sp.wLength.toNat)).1 = controlSuccess := by
  set q := sp.setRequest b
  have h_write : q.method = .write := rfl
  -- as many bytes are handed over as the request says
  have h_len : (b.front sp.wLength.toNat).length = sp.wLength.toNat := by
    rw [Buffer.length_front, Nat.min_eq_left h.2]
  have h_answer {ifnum : UInt8} (h_disp : q.Dispatches d.table ifnum) :
      ((usbSystem tasks).step d q).2.ret
        = (d.writeAnswer tasks ifnum q.resid q.cmd (b.front sp.wLength.toNat)).1 := by
    rw [ret_set_of_dispatches h_write h_disp, Device.writeAnswer, h_len]
    rfl
  constructor
  · intro h_ret
    by_cases h_disp : ∃ ifnum, q.Dispatches d.table ifnum
    · obtain ⟨ifnum, h_disp⟩ := h_disp
      exact ⟨ifnum, h_disp, (h_answer h_disp).symm.trans h_ret⟩
    · have h_bad : ((usbSystem tasks).step d q).2.ret = controlBadCommand :=
        ret_set_of_not_dispatches h_write (not_exists.mp h_disp)
      exact absurd (h_bad.symm.trans h_ret) (by decide)
  · rintro ⟨ifnum, h_disp, h_ret⟩
    exact (h_answer h_disp).trans h_ret

end Write

/-! ### Failures are reported -/

/-- What endpoint 0 gets to know of a command: it is told `XUD_RES_OKAY` only if the control
function and the stage behind it have succeeded, and `XUD_RES_ERR` if the control function has
failed. -/
structure VendorOutcome.Reports (o : VendorOutcome σ) : Prop where
  okay : o.result = .okay →
    (∃ reply, o.control = some reply ∧ reply.ret = controlSuccess) ∧ o.stage = some .okay
  error : ∀ reply, o.control = some reply → reply.ret ≠ controlSuccess → o.result = .err

/-- The stage behind a control function that has succeeded decides the result. -/
theorem VendorOutcome.Reports.of_success {o : VendorOutcome σ} {reply : Reply}
    (h_control : o.control = some reply) (h_ret : reply.ret = controlSuccess)
    (h_stage : o.stage = some o.result) : o.Reports where
  okay h_okay := ⟨⟨reply, h_control, h_ret⟩, by rw [h_stage, h_okay]⟩
  error reply' h_reply h_fail := by
    obtain rfl : reply = reply' := Option.some.inj (h_control.symm.trans h_reply)
    exact absurd h_ret h_fail

/-- Where the data of a write has been received, a user task takes it and answers with success. -/
def UsbWriteTaken (packets : ℕ → XudPacket) (sp : UsbSetupPacket) (s : UsbServer σ) : Prop :=
  sp.Accepted → ∀ k, DataStage packets sp.wLength k → resultAfter packets k = .okay →
    ∃ ifnum, (sp.setRequest (s.filled packets k)).Dispatches s.device.table ifnum ∧
      (s.device.writeAnswer tasks ifnum sp.wIndex.toUInt8 sp.wValue.toUInt8
        ((s.filled packets k).front sp.wLength.toNat)).1 = controlSuccess

theorem usbD2h_reports (doGetRequest : List UInt8 → UInt16 → XudResult) (sp : UsbSetupPacket)
    (s : UsbServer σ) : (usbD2hVendorOutcome tasks doGetRequest sp s).Reports := by
  unfold usbD2hVendorOutcome
  split_ifs with h_accepted
  · dsimp only
    split_ifs with h_ret
    · exact .of_success rfl h_ret rfl
    · -- the read side returns `XUD_RES_ERR` here, as the write side does not
      exact ⟨nofun, fun _ _ _ => rfl⟩
  · exact ⟨nofun, nofun⟩

variable {tasks} in
/-- A write reports what becomes of it exactly if the control function succeeds where it is
called. -/
theorem usbH2d_reports_iff {packets : ℕ → XudPacket} {status : XudResult} {sp : UsbSetupPacket}
    {s : UsbServer σ} :
    (usbH2dVendorRequest tasks packets status sp s).Reports ↔ UsbWriteTaken tasks packets sp s := by
  obtain ⟨k, h_stage, -⟩ := usbEp0Receive_spec packets sp.wLength s.requestData
  by_cases h_accepted : sp.Accepted
  · by_cases h_okay : resultAfter packets k = .okay
    · have h_ret : ((usbSystem tasks).step s.device (sp.setRequest (s.filled packets k))).2.ret
          = controlSuccess ↔ _ := ret_setRequest_iff h_accepted
      constructor
      · intro h _ k' h_stage' _
        rw [← h_stage.unique h_stage']
        by_contra h_not
        -- the control function has failed, and the result of the receive loop is returned
        have h_fail := h_ret.not.mpr h_not
        rw [usbH2d_refusedByTask h_accepted h_stage h_okay h_fail] at h
        cases h.error _ rfl h_fail
      · intro h
        have h_success := h_ret.mpr (h h_accepted k h_stage h_okay)
        rw [usbH2d_taken h_accepted h_stage h_okay h_success]
        exact .of_success rfl h_success rfl
    · -- without its data a write gets no further, and what it returns is the failure
      rw [usbH2d_failed h_accepted h_stage h_okay]
      refine iff_of_true ⟨fun h => absurd h h_okay, nofun⟩ ?_
      intro _ k' h_stage' h_okay'
      rw [← h_stage.unique h_stage'] at h_okay'
      exact absurd h_okay' h_okay
  · rw [usbH2d_refused h_accepted]
    exact iff_of_true ⟨nofun, nofun⟩ fun h => absurd h h_accepted

/-- **Failed USB commands.** A read reports every failure to endpoint 0. A write does exactly if the
request is refused at once, or its data stage fails, or it is for a user task and that answers with
success. -/
theorem usb_vendor_reports_iff (packets : ℕ → XudPacket) (status : XudResult)
    (doGetRequest : List UInt8 → UInt16 → XudResult) (sp : UsbSetupPacket) (s : UsbServer σ) :
    ((usbH2dVendorRequest tasks packets status sp s).Reports ↔
        UsbWriteTaken tasks packets sp s) ∧
      (usbD2hVendorOutcome tasks doGetRequest sp s).Reports :=
  ⟨usbH2d_reports_iff, usbD2h_reports tasks doGetRequest sp s⟩

/-- The device behind the USB adapter as it starts. -/
def usbBoot (answers : List (List ControlResid)) (users : σ) : UsbServer σ :=
  ⟨boot answers users, Buffer.ofList 0 []⟩

/-- A write that its user task refuses is returned as `XUD_RES_OKAY`, without a status stage. -/
theorem usb_failed_write_okay :
    let packets : ℕ → XudPacket := fun _ => .received [42] (by decide)
    let sp : UsbSetupPacket := ⟨controlVendorRequest, 5, 3, 1⟩
    let o := usbH2dVendorRequest (.always controlError []) packets .okay sp (usbBoot [[3]] ())
    o.result = .okay ∧ o.control.map (fun reply => reply.ret) = some controlError ∧
      o.stage = none ∧ ¬ o.Reports := by
  intro packets sp o
  have h_stage : o.stage = none := by decide +kernel
  have h_result : o.result = .okay := by decide +kernel
  refine ⟨h_result, by decide +kernel, h_stage, fun h => ?_⟩
  have h_some := (h.okay h_result).2
  rw [h_stage] at h_some
  cases h_some

end DeviceControl
