import DeviceControl.Link.Session
import DeviceControl.Usb.Endpoint0

/-!
# The USB link through endpoint 0

`UsbWorks` speaks about the adapter. In the USB example that sits in the loop of endpoint 0, and
between the transfers of the host that loop has the enumeration of the operating system and the
resets of the bus to deal with. `endpoint0Usb` is the link with the loop at its other end, and with
any such traffic before each transfer. It works like one without (`endpoint0Usb_works`), so that the
sessions of `host_session` go through it.
-/

namespace DeviceControl

variable {σ : Type}

/-- The constants are those of the USB standard, which the host sends, and the request for the MSOS
descriptor is not the one for the control library. -/
structure Ep0Constants.Standard (c : Ep0Constants) : Prop where
  /-- `LIBUSB_ENDPOINT_OUT | LIBUSB_REQUEST_TYPE_VENDOR | LIBUSB_RECIPIENT_DEVICE` -/
  h2dVendorDev : c.h2dVendorDev = 0x40
  /-- `LIBUSB_ENDPOINT_IN | LIBUSB_REQUEST_TYPE_VENDOR | LIBUSB_RECIPIENT_DEVICE` -/
  d2hVendorDev : c.d2hVendorDev = 0xC0
  getMsosDescriptor : c.getMsosDescriptor ≠ controlVendorRequest

/-! ### The link -/

/-- The round of a control transfer of the host, on a bus without errors. -/
def transferRound (sp : UsbSetupPacket) (direction : UInt8) (bytes : List UInt8) : Ep0Round where
  getSetupPacket := .okay
  sp := ⟨sp, direction, 2, 0⟩
  getBosDescriptor := .okay
  getMsosDescriptor := .okay
  packets := packetsOf bytes
  doSetRequestStatus := .okay
  doGetRequest _ _ := .okay
  standardRequests _ := .okay
  getBusState := .other
  resetEndpoint := .hs

/-- Endpoint 0, and the number of transfers that the host has made. -/
structure Ep0World (σ : Type) where
  transfers : ℕ
  endpoint : Endpoint0 σ

section Link

variable (tasks : UserTasks σ) (c : Ep0Constants) (traffic : ℕ → List Ep0Round)

/-- A control transfer, behind the traffic before it. -/
def Ep0World.transfer (w : Ep0World σ) (r : Ep0Round) : Option (VendorOutcome σ) × Ep0World σ :=
  let next := (endpoint0 tasks c).step ((endpoint0 tasks c).run w.endpoint (traffic w.transfers)) r
  (vendorOutcome next.2, ⟨w.transfers + 1, next.1⟩)

/-- The stage of a control transfer has come about. -/
def Completed (outcome : Option (VendorOutcome σ)) : Prop :=
  outcome.bind VendorOutcome.stage = some .okay

instance (outcome : Option (VendorOutcome σ)) : Decidable (Completed outcome) :=
  inferInstanceAs (Decidable (_ = _))

/-- A host and endpoint 0 on one USB cable, on which there is other traffic, too. -/
def endpoint0Usb : HostLink σ (Ep0World σ) :=
  .usb
    (fun w sp bytes =>
      let t := w.transfer tasks c traffic (transferRound sp 0 bytes)
      (if Completed t.1 then bytes.length else -1, t.2))
    (fun w sp =>
      let t := w.transfer tasks c traffic (transferRound sp 1 [])
      { ret := if Completed t.1 then sp.wLength.toNat else -1
        bytes := t.2.endpoint.server.requestData.front sp.wLength.toNat
        world := t.2 })
    (fun w => w.endpoint.server)

variable {tasks c traffic}

/-- Traffic without vendor requests passes the adapter by, and the transfer behind it is handed on
to it. -/
theorem transfer_eq (h_traffic : ∀ k, ∀ r ∈ traffic k, r.transaction c = none)
    (w : Ep0World σ) {r : Ep0Round} {t : UsbTransaction} (h_t : r.transaction c = some t) :
    let next := (usbServerSystem tasks).step w.endpoint.server t
    (w.transfer tasks c traffic r).1 = some next.2 ∧
      (w.transfer tasks c traffic r).2.endpoint.server = next.1 := by
  intro next
  set e := (endpoint0 tasks c).run w.endpoint (traffic w.transfers) with h_e
  have h_steps : (endpoint0 tasks c).EveryStep ((endpoint0 tasks c).Embeds (usbServerSystem tasks)
      Endpoint0.server (Ep0Round.transaction c) vendorOutcome) w.endpoint (traffic w.transfers) :=
    Transducer.everyStep_of_forall fun r _ e => endpoint0_embeds tasks c e r
  obtain ⟨h_run, -⟩ := Transducer.Embeds.run h_steps
  have h_none : (traffic w.transfers).filterMap (Ep0Round.transaction c) = [] :=
    List.filterMap_eq_nil_iff.mpr (h_traffic w.transfers)
  rw [h_none, Transducer.run_nil] at h_run
  -- the server has not changed, so the transfer meets it as it was
  obtain ⟨h_server, h_out⟩ := (endpoint0_embeds tasks c e r).taken t h_t
  rw [h_e, ← h_run, ← h_e] at h_server h_out
  exact ⟨h_out, h_server⟩

/-- A transfer to the device is handed on to the adapter. -/
theorem transaction_out (h_std : c.Standard) (sp : UsbSetupPacket) (bytes : List UInt8) :
    (transferRound sp 0 bytes).transaction c = some (.h2d (packetsOf bytes) .okay sp) := by
  have h_setup : (transferRound sp 0 bytes).getSetupPacket = .okay := rfl
  have h_type : (transferRound sp 0 bytes).sp.bmRequestType = c.h2dVendorDev := by
    rw [h_std.h2dVendorDev]
    show (0 : UInt8).toNat <<< 7 ||| (2 : UInt8).toNat <<< 5 ||| (0 : UInt8).toNat = 0x40
    decide
  rw [Ep0Round.transaction, if_pos h_setup, if_pos h_type]
  rfl

/-- And so is one to the host, which is not a request for a descriptor. -/
theorem transaction_in (h_std : c.Standard) {sp : UsbSetupPacket}
    (h_sp : sp.bRequest = controlVendorRequest) :
    (transferRound sp 1 []).transaction c = some (.d2h (fun _ _ => .okay) sp) := by
  have h_setup : (transferRound sp 1 []).getSetupPacket = .okay := rfl
  have h_type : (transferRound sp 1 []).sp.bmRequestType = 0xC0 := by
    show (1 : UInt8).toNat <<< 7 ||| (2 : UInt8).toNat <<< 5 ||| (0 : UInt8).toNat = 0xC0
    decide
  have h_not_out : (transferRound sp 1 []).sp.bmRequestType ≠ c.h2dVendorDev := by
    rw [h_type, h_std.h2dVendorDev]
    decide
  have h_in : (transferRound sp 1 []).sp.bmRequestType = c.d2hVendorDev ∧
      (transferRound sp 1 []).sp.bRequest ≠ c.getMsosDescriptor := by
    refine ⟨h_type.trans h_std.d2hVendorDev.symm, ?_⟩
    show sp.bRequest ≠ c.getMsosDescriptor
    rw [h_sp]
    exact h_std.getMsosDescriptor.symm
  rw [Ep0Round.transaction, if_pos h_setup, if_neg h_not_out, if_pos h_in]
  rfl

/-- **The link through endpoint 0.** For the host it works as if the adapter were alone. -/
theorem endpoint0Usb_works (h_std : c.Standard)
    (h_traffic : ∀ k, ∀ r ∈ traffic k, r.transaction c = none) :
    (endpoint0Usb tasks c traffic).Works tasks := by
  have h_out (w : Ep0World σ) (sp : UsbSetupPacket) (bytes : List UInt8) :
      let t := w.transfer tasks c traffic (transferRound sp 0 bytes)
      let o := usbH2dVendorRequest tasks (packetsOf bytes) .okay sp w.endpoint.server
      (Completed t.1 ↔ o.stage = some .okay) ∧ t.2.endpoint.server = o.server := by
    intro t o
    obtain ⟨h_outcome, h_server⟩ := transfer_eq h_traffic w (transaction_out h_std sp bytes)
    refine ⟨?_, h_server⟩
    rw [Completed, h_outcome]
    rfl
  have h_in (w : Ep0World σ) {sp : UsbSetupPacket} (h_sp : sp.bRequest = controlVendorRequest) :
      let t := w.transfer tasks c traffic (transferRound sp 1 [])
      let o := usbD2hVendorOutcome tasks (fun _ _ => .okay) sp w.endpoint.server
      (Completed t.1 ↔ o.stage = some .okay) ∧ t.2.endpoint.server = o.server := by
    intro t o
    obtain ⟨h_outcome, h_server⟩ := transfer_eq h_traffic w (transaction_in h_std h_sp)
    refine ⟨?_, h_server⟩
    rw [Completed, h_outcome]
    rfl
  have h_neg {p : Prop} [Decidable p] {stage : Option XudResult} (n : ℕ)
      (h_iff : p ↔ stage = some .okay) (h_none : stage = none) :
      (if p then (n : ℤ) else -1) < 0 := by
    rw [if_neg fun h => Option.some_ne_none _ ((h_iff.mp h).symm.trans h_none)]
    exact neg_one_lt_zero
  constructor
  case out_server => exact fun w sp bytes _ => (h_out w sp bytes).2
  case out_completed => exact fun w sp bytes _ h_stage => if_pos ((h_out w sp bytes).1.mpr h_stage)
  case out_failed => exact fun w sp bytes _ h_stage => h_neg _ (h_out w sp bytes).1 h_stage
  case in_server => exact fun w sp h_sp => (h_in w h_sp).2
  case in_completed =>
    exact fun w sp h_sp h_stage => ⟨if_pos ((h_in w h_sp).1.mpr h_stage), rfl⟩
  case in_failed => exact fun w sp h_sp h_stage => h_neg _ (h_in w h_sp).1 h_stage

end Link

/-! ### Sessions -/

/-- **Sessions through endpoint 0.** Whatever else happens on the bus between its transfers, the
enumeration of the device and bus resets among it, a host gets through all commands that are in
reach, and user tasks that are regular are served them as by the command server. -/
theorem endpoint0_session {tasks : UserTasks σ} {c : Ep0Constants} {traffic : ℕ → List Ep0Round}
    (h_regular : tasks.Regular) (h_std : c.Standard)
    (h_traffic : ∀ k, ∀ r ∈ traffic k, r.transaction c = none) (s : HostState (Ep0World σ))
    (h_table : s.world.endpoint.server.device.table.Reserves) (ps : List (Command × HostLocals))
    (h : ∀ p ∈ ps, InReach s.world.endpoint.server.device.table .usb p.1) :
    let L := endpoint0Usb tasks c traffic
    ∃ answers s', L.session s ps = some (answers, s') ∧
      SessionServed tasks L s
        (ps.map fun p => p.1.requestOf s.world.endpoint.server.device.table) answers s' :=
  host_session h_regular (endpoint0Usb_works h_std h_traffic) trivial h_table ps h

/-- A byte written and read back, with a bus reset before each transfer. -/
theorem endpoint0_session_run :
    let c : Ep0Constants := ⟨0x80, 0x40, 0xC0, 6, 0x20, by decide⟩
    let reset :=
      { transferRound ⟨0, 0, 0, 0⟩ 0 [] with getSetupPacket := .reset, getBusState := .reset }
    let L := endpoint0Usb (app false) c fun _ => [reset]
    let s : HostState (Ep0World App) := .initial ⟨0, usbBoot [[resourceId]] .initial, none⟩
    let ps : List (Command × HostLocals) :=
      [(⟨resourceId, 0, [42]⟩, .fill 0), (⟨resourceId, 0x80, [0, 0]⟩, .fill 0)]
    ∃ s', L.session s ps = some ([⟨controlSuccess, [42]⟩, ⟨controlSuccess, [42, 42]⟩], s') ∧
      (L.device s'.world).users = ⟨2, 42⟩ := by
  intro c reset L s ps
  have h_search : resourceTableSearch s.world.endpoint.server.device.table resourceId = some 0 := by
    decide +kernel
  have h_ne : resourceId ≠ controlSpecialResid := by decide
  have h_reach : ∀ p ∈ ps, InReach s.world.endpoint.server.device.table .usb p.1 := by
    refine List.forall_mem_cons.mpr ⟨?_, List.forall_mem_singleton.mpr ?_⟩
    · exact ⟨⟨0, h_search⟩, h_ne, by decide, nofun⟩
    · exact ⟨⟨0, h_search⟩, h_ne, by decide, fun _ => by decide⟩
  have h_boot : Reachable (app false) [[resourceId]] (boot [[resourceId]] .initial) :=
    reachable_boot _ _
  have h_std : c.Standard := ⟨rfl, rfl, by decide⟩
  have h_traffic : ∀ r ∈ [reset], r.transaction c = none :=
    List.forall_mem_singleton.mpr rfl
  obtain ⟨answers, s', h_run, h_served⟩ := endpoint0_session (app_regular false) h_std
    (fun _ => h_traffic) s h_boot.reserves ps h_reach
  have h_eval : (L.session s ps).map (fun r => (r.1, (L.device r.2.world).users))
      = some ([⟨controlSuccess, [42]⟩, ⟨controlSuccess, [42, 42]⟩], ⟨2, 42⟩) := by decide +kernel
  rw [h_run] at h_eval
  obtain ⟨rfl, h_users⟩ := Prod.mk.inj (Option.some.inj h_eval)
  exact ⟨s', h_run, h_users⟩

end DeviceControl
