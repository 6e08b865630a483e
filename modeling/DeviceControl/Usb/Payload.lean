import DeviceControl.Usb.Vendor

/-!
# The payload of a USB write

The array `request_data` is static: every write receives into it and every read is answered from
it. A data stage that ends with a short packet leaves the array as it was behind that packet, and
the control function is handed `wLength` bytes all the same.

`usb_ownData_iff` is the exact condition under which a user task sees bytes of its own request only.
It speaks about whole histories of requests at endpoint 0, and about pairs of histories that differ
in their data.
-/

namespace DeviceControl

variable {σ : Type} (tasks : UserTasks σ)

/-! ### Histories of vendor requests -/

/-- A vendor request, with what the bus makes of it. -/
inductive UsbTransaction where
  | h2d (packets : ℕ → XudPacket) (doSetRequestStatus : XudResult) (sp : UsbSetupPacket)
  | d2h (doGetRequest : List UInt8 → UInt16 → XudResult) (sp : UsbSetupPacket)

/-- The device at endpoint 0. -/
def usbServerSystem : Transducer (UsbServer σ) UsbTransaction (VendorOutcome σ) where
  step s
    | .h2d packets status sp =>
      ((usbH2dVendorRequest tasks packets status sp s).server,
        usbH2dVendorRequest tasks packets status sp s)
    | .d2h doGetRequest sp =>
      ((usbD2hVendorOutcome tasks doGetRequest sp s).server,
        usbD2hVendorOutcome tasks doGetRequest sp s)

/-- Two requests that differ in the data of their packets only. -/
def UsbTransaction.SameShape : UsbTransaction → UsbTransaction → Prop
  | .h2d packets status sp, .h2d packets' status' sp' =>
    sp = sp' ∧ status = status' ∧
      ∀ k, (packets k).result = (packets' k).result ∧
        (packets k).data.length = (packets' k).data.length
  | .d2h doGetRequest sp, .d2h doGetRequest' sp' => sp = sp' ∧ doGetRequest = doGetRequest'
  | _, _ => False

/-- What a vendor request has asked of user tasks. -/
def VendorOutcome.requests (o : VendorOutcome σ) : List UserRequest :=
  (o.control.elim [] fun reply => reply.calls).map fun call => call.request

/-- The write is for the user task of interface `ifnum`. -/
structure UsbSetupPacket.WritesTo (sp : UsbSetupPacket) (t : ResourceTable) (ifnum : UInt8) :
    Prop where
  registered : resourceTableSearch t sp.wIndex.toUInt8 = some ifnum
  ne_special : sp.wIndex.toUInt8 ≠ controlSpecialResid
  write : isControlCmdRead sp.wValue.toUInt8 = false

theorem dispatches_setRequest_iff {sp : UsbSetupPacket} {b : Buffer UInt8 ep0MaxRequestSize}
    {t : ResourceTable} {ifnum : UInt8} :
    (sp.setRequest b).Dispatches t ifnum ↔ sp.WritesTo t ifnum := by
  constructor
  · rintro ⟨h_reg, h_ne, h_dir⟩
    refine ⟨h_reg, h_ne, Bool.eq_false_iff.mpr fun h_read => ?_⟩
    cases h_dir.mp h_read
  · rintro ⟨h_reg, h_ne, h_write⟩
    refine ⟨h_reg, h_ne, iff_of_false ?_ nofun⟩
    exact Bool.eq_false_iff.mp h_write

section Write

variable {tasks} {packets : ℕ → XudPacket} {status : XudResult} {sp : UsbSetupPacket}
  {s : UsbServer σ} {k : ℕ}

/-- A write does what its set request does to the device, or nothing. -/
theorem usbH2d_device :
    (usbH2dVendorRequest tasks packets status sp s).server.device = s.device ∨
      ∃ q, (usbH2dVendorRequest tasks packets status sp s).server.device
        = ((usbSystem tasks).step s.device q).1 := by
  obtain ⟨k, h_stage, -⟩ := usbEp0Receive_spec packets sp.wLength s.requestData
  by_cases h_accepted : sp.Accepted
  · by_cases h_okay : resultAfter packets k = .okay
    · refine Or.inr ⟨sp.setRequest (s.filled packets k), ?_⟩
      by_cases h_ret : ((usbSystem tasks).step s.device (sp.setRequest (s.filled packets k))).2.ret
          = controlSuccess
      · rw [usbH2d_taken h_accepted h_stage h_okay h_ret]
      · rw [usbH2d_refusedByTask h_accepted h_stage h_okay h_ret]
    · rw [usbH2d_failed h_accepted h_stage h_okay]
      exact Or.inl rfl
  · rw [usbH2d_refused h_accepted]
    exact Or.inl rfl

/-- A read does what its get request does to the device, or nothing. -/
theorem usbD2h_device {doGetRequest : List UInt8 → UInt16 → XudResult} :
    (usbD2hVendorOutcome tasks doGetRequest sp s).server.device = s.device ∨
      ∃ q, (usbD2hVendorOutcome tasks doGetRequest sp s).server.device
        = ((usbSystem tasks).step s.device q).1 := by
  unfold usbD2hVendorOutcome
  by_cases h_accepted : sp.Accepted
  · rw [if_pos h_accepted]
    refine Or.inr ⟨⟨.read, sp.wIndex, sp.wValue, sp.wLength, _, s.requestData⟩, ?_⟩
    rw [usbStep_get rfl]
    dsimp only
    split_ifs <;> rfl
  · rw [if_neg h_accepted]
    exact Or.inl rfl

theorem usbServer_device (s : UsbServer σ) (transaction : UsbTransaction) :
    ((usbServerSystem tasks).step s transaction).1.device = s.device ∨
      ∃ q, ((usbServerSystem tasks).step s transaction).1.device
        = ((usbSystem tasks).step s.device q).1 := by
  cases transaction with
  | h2d packets status sp => exact usbH2d_device
  | d2h doGetRequest sp => exact usbD2h_device

/-- Endpoint 0 takes the device through reachable states only. -/
theorem Reachable.run_usbServer {answers : List (List ControlResid)}
    (h : Reachable tasks answers s.device) (history : List UsbTransaction) :
    Reachable tasks answers ((usbServerSystem tasks).run s history).device := by
  refine (usbServerSystem tasks).run_invariant
    (P := fun s => Reachable tasks answers s.device) ?_ h history
  intro s transaction h_s
  rcases usbServer_device s transaction with h_eq | ⟨q, h_eq⟩
  · rw [h_eq]
    exact h_s
  · rw [h_eq]
    exact h_s.run_usb [q]

/-- A write whose data has been received hands it to the user task that it is for. -/
theorem requests_usbH2d (h : sp.Accepted) (h_stage : DataStage packets sp.wLength k)
    (h_okay : resultAfter packets k = .okay) {ifnum : UInt8}
    (h_to : sp.WritesTo s.device.table ifnum) :
    (usbH2dVendorRequest tasks packets status sp s).requests
      = [⟨ifnum, .write, sp.wIndex.toUInt8, sp.wValue.toUInt8,
          (s.filled packets k).front sp.wLength.toNat, sp.wLength.toNat⟩] := by
  have h_disp : (sp.setRequest (s.filled packets k)).Dispatches s.device.table ifnum :=
    dispatches_setRequest_iff.mpr h_to
  obtain ⟨produced, h_calls⟩ : ∃ produced,
      ((usbSystem tasks).step s.device (sp.setRequest (s.filled packets k))).2.calls = _ :=
    calls_of_dispatches h_disp
  rw [VendorOutcome.requests, usbH2d_control h h_stage h_okay, Option.elim_some, h_calls]
  rfl

/-- All other writes ask nothing of anybody. -/
theorem requests_usbH2d_eq_nil
    (h : ¬ (sp.Accepted ∧ (∃ ifnum, sp.WritesTo s.device.table ifnum) ∧
      ∃ k, DataStage packets sp.wLength k ∧ resultAfter packets k = .okay)) :
    (usbH2dVendorRequest tasks packets status sp s).requests = [] := by
  obtain ⟨k, h_stage, -⟩ := usbEp0Receive_spec packets sp.wLength s.requestData
  unfold VendorOutcome.requests
  by_cases h_accepted : sp.Accepted
  · by_cases h_okay : resultAfter packets k = .okay
    · -- the data has been received, so the write is for nobody
      have h_none : ∀ ifnum,
          ¬ (sp.setRequest (s.filled packets k)).Dispatches s.device.table ifnum :=
        fun ifnum h_disp => h ⟨h_accepted, ⟨ifnum, dispatches_setRequest_iff.mp h_disp⟩, k, h_stage,
          h_okay⟩
      rw [usbH2d_control h_accepted h_stage h_okay, Option.elim_some,
        calls_of_not_dispatches h_none]
      rfl
    · rw [usbH2d_failed h_accepted h_stage h_okay]
      rfl
  · rw [usbH2d_refused h_accepted]
    rfl

/-- Where enough has been received, the payload is the beginning of it. -/
theorem front_filled (h : sp.Accepted) (h_stage : DataStage packets sp.wLength k)
    (h_okay : resultAfter packets k = .okay)
    (h_le : sp.wLength.toNat ≤ (packetBytes packets k).length) :
    (s.filled packets k).front sp.wLength.toNat
      = (packetBytes packets k).take sp.wLength.toNat := by
  rw [← Buffer.take_front _ h_le, UsbServer.filled,
    Buffer.front_copy_zero _ (h_stage.length_le h_okay h.2)]

end Write

/-! ### Own data only -/

/-- After this history, the write hands over bytes of its own packets, as many as it says, and it
does not depend on the data of the history what it asks of whom. -/
structure OwnData (answers : List (List ControlResid)) (users : σ) (history : List UsbTransaction)
    (packets : ℕ → XudPacket) (status : XudResult) (sp : UsbSetupPacket) : Prop where
  own : ∀ q ∈ (usbH2dVendorRequest tasks packets status sp
      ((usbServerSystem tasks).run (usbBoot answers users) history)).requests,
    ∃ k, DataStage packets sp.wLength k ∧ q.payload.length = sp.wLength.toNat ∧
      q.payload <+: packetBytes packets k
  independent : ∀ history', List.Forall₂ UsbTransaction.SameShape history history' →
    (usbH2dVendorRequest tasks packets status sp
        ((usbServerSystem tasks).run (usbBoot answers users) history')).requests
      = (usbH2dVendorRequest tasks packets status sp
        ((usbServerSystem tasks).run (usbBoot answers users) history)).requests

/-- A write for a user task whose data stage succeeds brings as many bytes as it says. -/
def UsbWriteFilled (t : ResourceTable) (packets : ℕ → XudPacket) (sp : UsbSetupPacket) : Prop :=
  sp.Accepted → ∀ ifnum, sp.WritesTo t ifnum → ∀ k, DataStage packets sp.wLength k →
    resultAfter packets k = .okay → sp.wLength.toNat ≤ (packetBytes packets k).length

/-- **The payload of a USB write.** After every history of vendor requests, a write hands its user
task data of its own request only, and the same whatever data the history had, exactly if its data
stage is not ended early by a short packet. -/
theorem usb_ownData_iff (answers : List (List ControlResid)) (users : σ)
    (history : List UsbTransaction) (packets : ℕ → XudPacket) (status : XudResult)
    (sp : UsbSetupPacket) :
    OwnData tasks answers users history packets status sp ↔
      UsbWriteFilled (registeredTable answers) packets sp := by
  have h_table (history : List UsbTransaction) :
      ((usbServerSystem tasks).run (usbBoot answers users) history).device.table
        = registeredTable answers :=
    ((reachable_boot answers users).run_usbServer history).table
  by_cases h : sp.Accepted ∧ (∃ ifnum, sp.WritesTo (registeredTable answers) ifnum) ∧
      ∃ k, DataStage packets sp.wLength k ∧ resultAfter packets k = .okay
  · -- a write that is handed over: its payload is the front of the array, of `wLength` bytes
    obtain ⟨h_accepted, ⟨ifnum, h_to⟩, k, h_stage, h_okay⟩ := h
    have h_requests (history : List UsbTransaction) : (usbH2dVendorRequest tasks packets status sp
        ((usbServerSystem tasks).run (usbBoot answers users) history)).requests = _ :=
      requests_usbH2d h_accepted h_stage h_okay (h_table history ▸ h_to)
    constructor
    · intro h_own _ ifnum' _ k' h_stage' _
      -- there is one data stage, and a prefix of its bytes is not longer than they are
      obtain ⟨k'', h_stage'', h_len, h_pre⟩ := h_own.own _ (by
        rw [h_requests]
        exact List.mem_singleton_self _)
      rw [← h_len, h_stage'.unique h_stage'']
      exact h_pre.length_le
    · intro h_filled
      have h_le := h_filled h_accepted ifnum h_to k h_stage h_okay
      constructor
      · intro q h_q
        rw [h_requests, List.mem_singleton] at h_q
        subst h_q
        refine ⟨k, h_stage, ?_, ?_⟩
        · rw [Buffer.length_front, Nat.min_eq_left h_accepted.2]
        · rw [front_filled h_accepted h_stage h_okay h_le]
          exact List.take_prefix _ _
      · -- the payload is the beginning of what has been received, whatever was there before
        intro history' _
        rw [h_requests, h_requests, front_filled h_accepted h_stage h_okay h_le,
          front_filled h_accepted h_stage h_okay h_le]
  · -- any other write asks for nothing, and the condition does not speak about it
    have h_nil (history : List UsbTransaction) : (usbH2dVendorRequest tasks packets status sp
        ((usbServerSystem tasks).run (usbBoot answers users) history)).requests = [] :=
      requests_usbH2d_eq_nil (by rw [h_table]; exact h)
    refine iff_of_true ⟨fun q h_q => ?_, fun history' _ => by rw [h_nil, h_nil]⟩ ?_
    · rw [h_nil] at h_q
      exact absurd h_q List.not_mem_nil
    · intro h_accepted ifnum h_to k h_stage h_okay
      exact absurd ⟨h_accepted, ⟨ifnum, h_to⟩, k, h_stage, h_okay⟩ h

/-- A write of four bytes that brings one: its user task is handed three bytes of the write before,
and others if that had others. -/
theorem usb_short_packet_residue :
    let tasks : UserTasks Unit := .always controlSuccess []
    let sp : UsbSetupPacket := ⟨controlVendorRequest, 5, 3, 4⟩
    let packet : (bytes : List UInt8) → bytes.length ≤ bMaxPacketSize0 → ℕ → XudPacket :=
      fun bytes h _ => .received bytes h
    let short := packet [9] (by decide)
    let before := [UsbTransaction.h2d (packet [1, 2, 3, 4] (by decide)) .okay sp]
    let before' := [UsbTransaction.h2d (packet [5, 6, 7, 8] (by decide)) .okay sp]
    let requests := fun history => (usbH2dVendorRequest tasks short .okay sp
      ((usbServerSystem tasks).run (usbBoot [[3]] ()) history)).requests
    requests before = [writeRequest 0 3 5 [9, 2, 3, 4]] ∧
      requests before' = [writeRequest 0 3 5 [9, 6, 7, 8]] ∧
      ¬ OwnData tasks [[3]] () before short .okay sp := by
  intro tasks sp packet short before before' requests
  have h_before : requests before = [writeRequest 0 3 5 [9, 2, 3, 4]] := by decide +kernel
  have h_before' : requests before' = [writeRequest 0 3 5 [9, 6, 7, 8]] := by decide +kernel
  refine ⟨h_before, h_before', fun h => ?_⟩
  have h_shape : List.Forall₂ UsbTransaction.SameShape before before' :=
    .cons ⟨rfl, rfl, fun _ => ⟨rfl, rfl⟩⟩ .nil
  have h_eq : requests before' = requests before := h.independent before' h_shape
  rw [h_before, h_before'] at h_eq
  exact absurd h_eq (by decide)

end DeviceControl
