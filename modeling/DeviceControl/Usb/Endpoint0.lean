import DeviceControl.Session.Server
import DeviceControl.Usb.Transfer

/-!
# The loop of endpoint 0

The task `Endpoint0` of the USB example hands the vendor requests of a host on to the adapter, and
leaves everything else that a host asks of endpoint 0 to `lib_xud`. In between it keeps up with the
state of the bus. The loop is the transducer `endpoint0`: an input is one round, with what the
functions of `lib_xud` return in it.

* For the adapter the other traffic does not exist. `endpoint0_embeds` says so of a round, and
  `endpoint0_served` draws from it that the user tasks are served as by the command server. There is
  no condition on the lengths here, since the adapter refuses what its array cannot hold.
* A result other than `XUD_RES_ERR` keeps a request from `USB_StandardRequests`, where those are
  stalled that nobody has answered. `endpoint0_answers_iff` says when every setup packet of a run is
  answered.
-/

namespace DeviceControl

variable {σ : Type}

/-! ### The loop -/

/-- `XUD_BusState_t`, as far as endpoint 0 looks at it. -/
inductive XudBusState where
  | reset
  | suspend
  | resume
  | other
  deriving DecidableEq, Repr

/-- `XUD_BusSpeed_t`. -/
inductive XudBusSpeed where
  | fs
  | hs
  deriving DecidableEq, Repr

/-- What the setup packets of `lib_xud` are compared with. The cases of the switch are different
from each other. -/
structure Ep0Constants where
  /-- `USB_BMREQ_D2H_STANDARD_DEV` -/
  d2hStandardDev : ℕ
  /-- `USB_BMREQ_H2D_VENDOR_DEV` -/
  h2dVendorDev : ℕ
  /-- `USB_BMREQ_D2H_VENDOR_DEV` -/
  d2hVendorDev : ℕ
  /-- `USB_GET_DESCRIPTOR` -/
  getDescriptor : UInt8
  /-- `XUD_REQUEST_GET_MSOS_DESCRIPTOR` -/
  getMsosDescriptor : UInt8
  nodup : [d2hStandardDev, h2dVendorDev, d2hVendorDev].Nodup

/-- `USB_SetupPacket_t`, with the fields of its `bmRequestType`. -/
structure Ep0SetupPacket extends UsbSetupPacket where
  direction : UInt8
  type : UInt8
  recipient : UInt8

/-- `bmRequestType`, as endpoint 0 puts it together. -/
def Ep0SetupPacket.bmRequestType (sp : Ep0SetupPacket) : ℕ :=
  sp.direction.toNat <<< 7 ||| sp.type.toNat <<< 5 ||| sp.recipient.toNat

/-- A round of the loop: the setup packet, and what each function of `lib_xud` returns if it is
called. -/
structure Ep0Round where
  getSetupPacket : XudResult
  sp : Ep0SetupPacket
  getBosDescriptor : XudResult
  getMsosDescriptor : XudResult
  packets : ℕ → XudPacket
  doSetRequestStatus : XudResult
  doGetRequest : List UInt8 → UInt16 → XudResult
  standardRequests : Option XudBusSpeed → XudResult
  getBusState : XudBusState
  resetEndpoint : XudBusSpeed

/-- What endpoint 0 does in a round. A vendor request comes with what has become of it. -/
inductive Ep0Action (σ : Type) where
  | getBosDescriptor
  | getMsosDescriptor
  | vendor (outcome : VendorOutcome σ)
  | standardRequests (usbBusSpeed : Option XudBusSpeed)
  | resetEndpoint
  | ackBusState

/-- The variables of endpoint 0 that stay from round to round. The bus speed is not known before the
first reset. -/
structure Endpoint0 (σ : Type) where
  server : UsbServer σ
  usbBusSpeed : Option XudBusSpeed

/-- A round up to a point: `result`, and what has been done. -/
structure Ep0Handled (σ : Type) where
  result : XudResult
  actions : List (Ep0Action σ)
  endpoint : Endpoint0 σ

section Loop

variable (tasks : UserTasks σ) (c : Ep0Constants) (r : Ep0Round)

/-- The switch on `bmRequestType`. -/
def endpoint0Switch (e : Endpoint0 σ) : Ep0Handled σ :=
  if r.sp.bmRequestType = c.d2hStandardDev then
    if r.sp.bRequest = c.getDescriptor then ⟨r.getBosDescriptor, [.getBosDescriptor], e⟩
    else ⟨.err, [], e⟩
  else if r.sp.bmRequestType = c.h2dVendorDev then
    let o := usbH2dVendorRequest tasks r.packets r.doSetRequestStatus r.sp.toUsbSetupPacket e.server
    ⟨o.result, [.vendor o], { e with server := o.server }⟩
  else if r.sp.bmRequestType = c.d2hVendorDev then
    if r.sp.bRequest = c.getMsosDescriptor then ⟨r.getMsosDescriptor, [.getMsosDescriptor], e⟩
    else
      let o := usbD2hVendorOutcome tasks r.doGetRequest r.sp.toUsbSetupPacket e.server
      ⟨o.result, [.vendor o], { e with server := o.server }⟩
  else ⟨.err, [], e⟩

/-- What the switch has not handled goes to the standard requests. -/
def endpoint0Standard (h : Ep0Handled σ) : Ep0Handled σ :=
  if h.result = .err then
    { h with
      result := r.standardRequests h.endpoint.usbBusSpeed
      actions := h.actions ++ [.standardRequests h.endpoint.usbBusSpeed] }
  else h

/-- A change of the bus state, which is `XUD_RES_UPDATE`. -/
def endpoint0BusChange (h : Ep0Handled σ) : Ep0Handled σ :=
  if h.result = .reset then
    match r.getBusState with
    | .reset =>
      { h with
        actions := h.actions ++ [.resetEndpoint]
        endpoint := { h.endpoint with usbBusSpeed := some r.resetEndpoint } }
    | .suspend => { h with actions := h.actions ++ [.ackBusState] }
    | .resume => { h with actions := h.actions ++ [.ackBusState] }
    | .other => h
  else h

/-- A round up to its last part. -/
def endpoint0Handled (e : Endpoint0 σ) : Ep0Handled σ :=
  if r.getSetupPacket = .okay then endpoint0Standard r (endpoint0Switch tasks c r e)
  else ⟨r.getSetupPacket, [], e⟩

/-- The loop of `Endpoint0`. -/
def endpoint0 : Transducer (Endpoint0 σ) Ep0Round (List (Ep0Action σ)) where
  step e r :=
    let h := endpoint0BusChange r (endpoint0Handled tasks c r e)
    (h.endpoint, h.actions)

end Loop

/-! ### The adapter in the loop -/

/-- The vendor request that a round hands on to the adapter. -/
def Ep0Round.transaction (c : Ep0Constants) (r : Ep0Round) : Option UsbTransaction :=
  if r.getSetupPacket = .okay then
    if r.sp.bmRequestType = c.h2dVendorDev then
      some (.h2d r.packets r.doSetRequestStatus r.sp.toUsbSetupPacket)
    else if r.sp.bmRequestType = c.d2hVendorDev ∧ r.sp.bRequest ≠ c.getMsosDescriptor then
      some (.d2h r.doGetRequest r.sp.toUsbSetupPacket)
    else none
  else none

/-- The vendor request of an action. -/
def Ep0Action.outcome : Ep0Action σ → Option (VendorOutcome σ)
  | .vendor o => some o
  | _ => none

/-- The vendor request of a round. -/
def vendorOutcome (actions : List (Ep0Action σ)) : Option (VendorOutcome σ) :=
  actions.findSome? Ep0Action.outcome

/-- The action puts an end to a control transfer: it has a data or status stage or a stall. -/
def Ep0Action.Answers : Ep0Action σ → Prop
  | .vendor o => o.stage ≠ none
  | .resetEndpoint => False
  | .ackBusState => False
  | _ => True

/-- The setup packet of a round has been answered. -/
def Answered (actions : List (Ep0Action σ)) : Prop := ∃ a ∈ actions, a.Answers

section Round

variable {tasks : UserTasks σ} {c : Ep0Constants} {r : Ep0Round} {e : Endpoint0 σ}

theorem vendorOutcome_concat {actions : List (Ep0Action σ)} {a : Ep0Action σ}
    (h : a.outcome = none) : vendorOutcome (actions ++ [a]) = vendorOutcome actions := by
  rw [vendorOutcome, List.findSome?_append]
  simp [h, vendorOutcome]

theorem answered_concat {actions : List (Ep0Action σ)} {a : Ep0Action σ} :
    Answered (actions ++ [a]) ↔ Answered actions ∨ a.Answers := by
  simp [Answered, or_and_right, exists_or]

/-- The bus is nothing to the adapter, and no answer. -/
theorem endpoint0BusChange_spec (r : Ep0Round) (h : Ep0Handled σ) :
    (endpoint0BusChange r h).endpoint.server = h.endpoint.server ∧
      vendorOutcome (endpoint0BusChange r h).actions = vendorOutcome h.actions ∧
      (Answered (endpoint0BusChange r h).actions ↔ Answered h.actions) := by
  have h_same : h.endpoint.server = h.endpoint.server ∧
      vendorOutcome h.actions = vendorOutcome h.actions ∧
      (Answered h.actions ↔ Answered h.actions) := ⟨rfl, rfl, Iff.rfl⟩
  have h_silent (a : Ep0Action σ) (h_out : a.outcome = none) (h_not : ¬ a.Answers) :
      vendorOutcome (h.actions ++ [a]) = vendorOutcome h.actions ∧
        (Answered (h.actions ++ [a]) ↔ Answered h.actions) :=
    ⟨vendorOutcome_concat h_out, answered_concat.trans (or_iff_left h_not)⟩
  unfold endpoint0BusChange
  split
  · split
    · exact ⟨rfl, h_silent .resetEndpoint rfl not_false⟩
    · exact ⟨rfl, h_silent .ackBusState rfl not_false⟩
    · exact ⟨rfl, h_silent .ackBusState rfl not_false⟩
    · exact h_same
  · exact h_same

/-- The standard requests are nothing to the adapter, and an answer to what is left. -/
theorem endpoint0Standard_spec (r : Ep0Round) (h : Ep0Handled σ) :
    (endpoint0Standard r h).endpoint.server = h.endpoint.server ∧
      vendorOutcome (endpoint0Standard r h).actions = vendorOutcome h.actions ∧
      (Answered (endpoint0Standard r h).actions ↔ Answered h.actions ∨ h.result = .err) := by
  unfold endpoint0Standard
  split
  · next h_err =>
    refine ⟨rfl, vendorOutcome_concat rfl, answered_concat.trans ?_⟩
    exact or_congr_right (iff_of_true trivial h_err)
  · next h_ne => exact ⟨rfl, rfl, (or_iff_left h_ne).symm⟩

/-- A request for the adapter. -/
theorem endpoint0Switch_taken (tasks : UserTasks σ) (e : Endpoint0 σ) {t : UsbTransaction}
    (h : r.transaction c = some t) :
    let next := (usbServerSystem tasks).step e.server t
    r.getSetupPacket = .okay ∧ endpoint0Switch tasks c r e
      = ⟨next.2.result, [.vendor next.2], { e with server := next.1 }⟩ := by
  obtain ⟨h_ne, h_ne', h_ne''⟩ : c.d2hStandardDev ≠ c.h2dVendorDev ∧
      c.d2hStandardDev ≠ c.d2hVendorDev ∧ c.h2dVendorDev ≠ c.d2hVendorDev := by
    simpa [and_assoc] using c.nodup
  unfold Ep0Round.transaction at h
  unfold endpoint0Switch
  split_ifs at h with h_setup h_out h_in
  · -- to the device
    cases h
    rw [if_neg (by rw [h_out]; exact h_ne.symm), if_pos h_out]
    exact ⟨h_setup, rfl⟩
  · -- to the host
    cases h
    rw [if_neg (by rw [h_in.1]; exact h_ne'.symm), if_neg h_out, if_pos h_in.1, if_neg h_in.2]
    exact ⟨h_setup, rfl⟩

/-- Any other request is answered by `lib_xud`, or is still to be handled. -/
theorem endpoint0Switch_left (tasks : UserTasks σ) (e : Endpoint0 σ)
    (h_setup : r.getSetupPacket = .okay) (h : r.transaction c = none) :
    let handled := endpoint0Switch tasks c r e
    handled.endpoint = e ∧ vendorOutcome handled.actions = none ∧
      (Answered handled.actions ∨ handled.result = .err) := by
  have h_answer (a : Ep0Action σ) (h_a : a.Answers) : Answered [a] :=
    ⟨a, List.mem_singleton_self a, h_a⟩
  unfold Ep0Round.transaction at h
  rw [if_pos h_setup] at h
  obtain ⟨h_out, h_in⟩ : r.sp.bmRequestType ≠ c.h2dVendorDev ∧
      ¬ (r.sp.bmRequestType = c.d2hVendorDev ∧ r.sp.bRequest ≠ c.getMsosDescriptor) := by
    split_ifs at h with h_out h_in
    exact ⟨h_out, h_in⟩
  unfold endpoint0Switch
  rw [if_neg h_out]
  split_ifs with h_std h_desc h_d2h h_msos
  · exact ⟨rfl, rfl, Or.inl (h_answer _ trivial)⟩
  · exact ⟨rfl, rfl, Or.inr rfl⟩
  · exact ⟨rfl, rfl, Or.inl (h_answer _ trivial)⟩
  · exact absurd ⟨h_d2h, h_msos⟩ h_in
  · exact ⟨rfl, rfl, Or.inr rfl⟩

/-! ### Rounds -/

/-- Behind the switch a round has nothing more for the adapter, and the standard requests answer
what the switch has not handled. -/
theorem endpoint0_handled (tasks : UserTasks σ) (c : Ep0Constants) (e : Endpoint0 σ)
    (h_setup : r.getSetupPacket = .okay) :
    let next := (endpoint0 tasks c).step e r
    let handled := endpoint0Switch tasks c r e
    next.1.server = handled.endpoint.server ∧
      vendorOutcome next.2 = vendorOutcome handled.actions ∧
      (Answered next.2 ↔ Answered handled.actions ∨ handled.result = .err) := by
  intro next handled
  obtain ⟨h_bus, h_bus_out, h_bus_answered⟩ :=
    endpoint0BusChange_spec r (endpoint0Standard r handled)
  obtain ⟨h_std, h_std_out, h_std_answered⟩ := endpoint0Standard_spec r handled
  have h_handled : endpoint0Handled tasks c r e = endpoint0Standard r handled := if_pos h_setup
  rw [← h_handled] at h_bus h_bus_out h_bus_answered h_std h_std_out h_std_answered
  exact ⟨h_bus.trans h_std, h_bus_out.trans h_std_out, h_bus_answered.trans h_std_answered⟩

/-- Without a setup packet there is only the bus. -/
theorem endpoint0_noSetup (tasks : UserTasks σ) (c : Ep0Constants) (e : Endpoint0 σ)
    (h_setup : r.getSetupPacket ≠ .okay) :
    let next := (endpoint0 tasks c).step e r
    next.1.server = e.server ∧ vendorOutcome next.2 = none := by
  intro next
  obtain ⟨h_bus, h_bus_out, -⟩ := endpoint0BusChange_spec r (endpoint0Handled tasks c r e)
  have h_handled : endpoint0Handled tasks c r e = ⟨r.getSetupPacket, [], e⟩ := if_neg h_setup
  exact ⟨h_bus.trans (congrArg (fun h => h.endpoint.server) h_handled),
    h_bus_out.trans (congrArg (fun h => vendorOutcome h.actions) h_handled)⟩

/-- **A round.** To the adapter it is a vendor request, or nothing. -/
theorem endpoint0_embeds (tasks : UserTasks σ) (c : Ep0Constants) (e : Endpoint0 σ)
    (r : Ep0Round) :
    (endpoint0 tasks c).Embeds (usbServerSystem tasks) Endpoint0.server (Ep0Round.transaction c)
      vendorOutcome e r := by
  constructor
  case taken =>
    intro t h_t
    obtain ⟨h_setup, h_eq⟩ := endpoint0Switch_taken tasks e h_t
    obtain ⟨h_server, h_out, -⟩ := endpoint0_handled tasks c e h_setup
    rw [h_eq] at h_server h_out
    exact ⟨h_server, h_out⟩
  case left =>
    intro h_none
    by_cases h_setup : r.getSetupPacket = .okay
    · obtain ⟨h_server, h_out, -⟩ := endpoint0_handled tasks c e h_setup
      obtain ⟨h_same, h_nothing, -⟩ := endpoint0Switch_left tasks e h_setup h_none
      rw [h_same] at h_server
      exact ⟨h_server, h_out.trans h_nothing⟩
    · exact endpoint0_noSetup tasks c e h_setup

/-- A vendor request leaves its control transfer closed if there is a stage behind it, or a result
that leads to the standard requests. -/
def VendorOutcome.Closed (o : VendorOutcome σ) : Prop := o.result = .err ∨ o.stage ≠ none

/-- The setup packet of a vendor request is answered exactly if the adapter leaves it closed. -/
theorem answered_taken_iff {t : UsbTransaction} (h : r.transaction c = some t) :
    Answered ((endpoint0 tasks c).step e r).2 ↔
      ((usbServerSystem tasks).step e.server t).2.Closed := by
  obtain ⟨h_setup, h_eq⟩ := endpoint0Switch_taken tasks e h
  obtain ⟨-, -, h_answered⟩ := endpoint0_handled tasks c e h_setup
  rw [h_answered, h_eq, or_comm]
  simp [Answered, Ep0Action.Answers, VendorOutcome.Closed]

/-- All other setup packets are answered. -/
theorem answered_left (h_setup : r.getSetupPacket = .okay) (h : r.transaction c = none) :
    Answered ((endpoint0 tasks c).step e r).2 := by
  obtain ⟨-, -, h_or⟩ := endpoint0Switch_left tasks e h_setup h
  obtain ⟨-, -, h_answered⟩ := endpoint0_handled tasks c e h_setup
  exact h_answered.mpr h_or

end Round

/-! ### Every setup packet is answered -/

section Answered

variable {tasks : UserTasks σ} {packets : ℕ → XudPacket} {status : XudResult} {sp : UsbSetupPacket}
  {s : UsbServer σ} {k : ℕ}

/-- Where its data has been received, a write is taken exactly if the control function succeeds. -/
theorem usbWriteTaken_iff (h : sp.Accepted) (h_stage : DataStage packets sp.wLength k)
    (h_okay : resultAfter packets k = .okay) :
    UsbWriteTaken tasks packets sp s ↔
      ((usbSystem tasks).step s.device (sp.setRequest (s.filled packets k))).2.ret
        = controlSuccess := by
  rw [ret_setRequest_iff h]
  constructor
  · intro h_taken
    exact h_taken h k h_stage h_okay
  · intro h_taken _ k' h_stage' _
    rw [← h_stage.unique h_stage']
    exact h_taken

/-- A vendor request of which endpoint 0 gets to know the end. A write is not among them if the
control function fails, or if its data stage ends with a bus reset. -/
def UsbTransaction.Ends (tasks : UserTasks σ) (s : UsbServer σ) : UsbTransaction → Prop
  | .h2d packets _ sp =>
    UsbWriteTaken tasks packets sp s ∧
      (sp.Accepted → ∀ k, DataStage packets sp.wLength k → resultAfter packets k ≠ .reset)
  | .d2h _ _ => True

theorem closed_h2d_iff :
    (usbH2dVendorRequest tasks packets status sp s).Closed ↔
      (UsbTransaction.h2d packets status sp).Ends tasks s := by
  obtain ⟨k, h_stage, -⟩ := usbEp0Receive_spec packets sp.wLength s.requestData
  -- there is one data stage, so its result decides
  have h_reset : (sp.Accepted → ∀ k, DataStage packets sp.wLength k →
      resultAfter packets k ≠ .reset) ↔ (sp.Accepted → resultAfter packets k ≠ .reset) := by
    refine imp_congr_right fun _ => ⟨fun h => h k h_stage, fun h k' h_stage' => ?_⟩
    rwa [← h_stage.unique h_stage']
  rw [UsbTransaction.Ends, h_reset]
  by_cases h_accepted : sp.Accepted
  · by_cases h_okay : resultAfter packets k = .okay
    · rw [usbWriteTaken_iff h_accepted h_stage h_okay, h_okay]
      by_cases h_ret : ((usbSystem tasks).step s.device (sp.setRequest (s.filled packets k))).2.ret
          = controlSuccess
      · -- the status stage follows
        rw [usbH2d_taken h_accepted h_stage h_okay h_ret]
        exact iff_of_true (Or.inr (Option.some_ne_none _)) ⟨h_ret, fun _ => nofun⟩
      · -- neither a status stage nor an error
        rw [usbH2d_refusedByTask h_accepted h_stage h_okay h_ret]
        refine iff_of_false ?_ fun h => h_ret h.1
        rintro (h_err | h_some)
        · cases h_err
        · exact h_some rfl
    · have h_taken : UsbWriteTaken tasks packets sp s := fun _ k' h_stage' h_okay' =>
        absurd (h_stage.unique h_stage' ▸ h_okay') h_okay
      rw [usbH2d_failed h_accepted h_stage h_okay, and_iff_right h_taken, VendorOutcome.Closed,
        or_iff_left (not_not.mpr rfl), forall_prop_of_true h_accepted]
      show resultAfter packets k = .err ↔ resultAfter packets k ≠ .reset
      cases h_res : resultAfter packets k with
      | okay => exact absurd h_res h_okay
      | reset => decide
      | err => decide
  · rw [usbH2d_refused h_accepted]
    exact iff_of_true (Or.inl rfl)
      ⟨fun h => absurd h h_accepted, fun h => absurd h h_accepted⟩

theorem closed_d2h (doGetRequest : List UInt8 → UInt16 → XudResult) :
    (usbD2hVendorOutcome tasks doGetRequest sp s).Closed := by
  unfold usbD2hVendorOutcome
  split_ifs
  · dsimp only
    split_ifs
    · exact Or.inr (Option.some_ne_none _)
    · exact Or.inl rfl
  · exact Or.inl rfl

theorem closed_iff {t : UsbTransaction} :
    ((usbServerSystem tasks).step s t).2.Closed ↔ t.Ends tasks s := by
  cases t with
  | h2d packets status sp => exact closed_h2d_iff
  | d2h doGetRequest sp => exact iff_of_true (closed_d2h doGetRequest) trivial

/-- **Answers.** In a run of endpoint 0 every setup packet is answered exactly if each write among
the vendor requests is refused at once, fails in its data stage without a bus reset, or is taken by
its user task. The requests for `lib_xud` and the changes of the bus between them do not count. -/
theorem endpoint0_answers_iff (tasks : UserTasks σ) (c : Ep0Constants) (e : Endpoint0 σ)
    (rounds : List Ep0Round) :
    (∀ p ∈ (endpoint0 tasks c).trace e rounds, p.1.getSetupPacket = .okay → Answered p.2) ↔
      (usbServerSystem tasks).EveryStep (UsbTransaction.Ends tasks) e.server
        (rounds.filterMap (Ep0Round.transaction c)) := by
  let P (r : Ep0Round) (actions : List (Ep0Action σ)) : Prop :=
    r.getSetupPacket = .okay → Answered actions
  refine Transducer.Embeds.forall_trace_iff (P := P) (endpoint0_embeds tasks c) ?_ ?_
  · intro e r t h_t
    obtain ⟨h_setup, -⟩ := endpoint0Switch_taken tasks e h_t
    calc (r.getSetupPacket = .okay → Answered ((endpoint0 tasks c).step e r).2)
        ↔ Answered ((endpoint0 tasks c).step e r).2 := forall_prop_of_true h_setup
      _ ↔ ((usbServerSystem tasks).step e.server t).2.Closed := answered_taken_iff h_t
      _ ↔ t.Ends tasks e.server := closed_iff
  · exact fun e r h_none h_setup => answered_left h_setup h_none

end Answered

/-! ### The user tasks -/

section Served

variable {tasks : UserTasks σ}

/-- The calls of a vendor request, with their answers. -/
def VendorOutcome.served (o : VendorOutcome σ) : List (UserRequest × UserAnswer) :=
  o.control.elim [] Reply.served

/-- A request that is not longer than its array asks for no more than fits into it. -/
theorem readsFit_usb {q : UsbRequest} (h : q.wlength.toNat ≤ q.size) (d : Device σ) :
    ReadsFit q.callback.capacity ((usbSystem tasks).step d q).2.calls := by
  have h_capacity : q.callback.capacity = q.size := by
    unfold UsbRequest.callback
    cases q.method with
    | write => rfl
    | read => rfl
  rw [h_capacity]
  intro call h_call _
  by_cases h_disp : ∃ ifnum, q.Dispatches d.table ifnum
  · obtain ⟨ifnum, h_disp⟩ := h_disp
    obtain ⟨produced, h_calls⟩ :
        ∃ produced, ((usbSystem tasks).step d q).2.calls = _ := calls_of_dispatches h_disp
    rw [h_calls] at h_call
    obtain rfl := List.mem_singleton.mp h_call
    show (q.request ifnum).payloadLen ≤ q.size
    unfold UsbRequest.request
    cases q.method with
    | write => exact h
    | read => exact h
  · rw [calls_of_not_dispatches (not_exists.mp h_disp)] at h_call
    cases h_call

/-- A vendor request calls the control function once, for no more than its array holds, or leaves
the device alone. -/
theorem usbServer_control (s : UsbServer σ) (t : UsbTransaction) :
    let next := (usbServerSystem tasks).step s t
    (next.2.control = none ∧ next.1.device = s.device) ∨
      ∃ q : UsbRequest, q.wlength.toNat ≤ q.size ∧
        next.2.control = some ((usbSystem tasks).step s.device q).2 ∧
        next.1.device = ((usbSystem tasks).step s.device q).1 := by
  cases t with
  | h2d packets status sp =>
    obtain ⟨k, h_stage, -⟩ := usbEp0Receive_spec packets sp.wLength s.requestData
    show ((usbH2dVendorRequest tasks packets status sp s).control = none ∧ _) ∨ _
    by_cases h_accepted : sp.Accepted
    · by_cases h_okay : resultAfter packets k = .okay
      · refine Or.inr ⟨sp.setRequest (s.filled packets k), h_accepted.2,
          usbH2d_control h_accepted h_stage h_okay, ?_⟩
        show (usbH2dVendorRequest tasks packets status sp s).server.device = _
        rw [usbH2d_received h_accepted h_stage h_okay]
        dsimp only
        split
        · rfl
        · rfl
      · refine Or.inl ⟨?_, ?_⟩
        · rw [usbH2d_failed h_accepted h_stage h_okay]
        · show (usbH2dVendorRequest tasks packets status sp s).server.device = s.device
          rw [usbH2d_failed h_accepted h_stage h_okay]
    · refine Or.inl ⟨?_, ?_⟩
      · rw [usbH2d_refused h_accepted]
      · show (usbH2dVendorRequest tasks packets status sp s).server.device = s.device
        rw [usbH2d_refused h_accepted]
  | d2h doGetRequest sp =>
    show ((usbD2hVendorOutcome tasks doGetRequest sp s).control = none ∧
      (usbD2hVendorOutcome tasks doGetRequest sp s).server.device = s.device) ∨ _
    by_cases h_accepted : sp.Accepted
    · refine Or.inr ⟨⟨.read, sp.wIndex, sp.wValue, sp.wLength, _, s.requestData⟩, h_accepted.2,
        usbD2h_control h_accepted doGetRequest, ?_⟩
      show (usbD2hVendorOutcome tasks doGetRequest sp s).server.device = _
      rw [usbStep_get rfl]
      unfold usbD2hVendorOutcome
      rw [if_pos h_accepted]
      dsimp only
      split
      · rfl
      · rfl
    · rw [usbD2hVendorOutcome, if_neg h_accepted]
      exact Or.inl ⟨rfl, rfl⟩

/-- **A vendor request.** What it asks of a user task goes to the command server. -/
theorem usbServer_mediates (h_regular : tasks.Regular) (s : UsbServer σ) (t : UsbTransaction) :
    (usbServerSystem tasks).Mediates (commandServer tasks) (fun s => s.device.users)
      VendorOutcome.served s t := by
  rcases usbServer_control s t with ⟨h_none, h_device⟩ | ⟨q, h_len, h_control, h_device⟩
  · have h_served : ((usbServerSystem tasks).step s t).2.served = [] := by
      rw [VendorOutcome.served, h_none, Option.elim_none]
    constructor
    · rw [h_served]
      rfl
    · rw [h_served, h_device]
      rfl
  · obtain ⟨h_trace, h_run⟩ := passes_step h_regular s.device q.callback (readsFit_usb h_len _)
    have h_served : ((usbServerSystem tasks).step s t).2.served
        = ((usbSystem tasks).step s.device q).2.served := by
      rw [VendorOutcome.served, h_control, Option.elim_some]
    have h_requests : (((usbSystem tasks).step s.device q).2.served).map Prod.fst
        = ((usbSystem tasks).step s.device q).2.calls.map UserCall.request := by
      rw [Reply.served, List.map_map]
      rfl
    constructor
    · rw [h_served, h_requests]
      exact h_trace
    · rw [h_served, h_requests, h_device]
      exact h_run

/-- **Endpoint 0.** Whatever a host, or several programs on it, ask of endpoint 0, and whatever the
bus does in between, the adapter is taken through the vendor requests in their order, and user tasks
that are regular are served as by a server that takes one command after the other. -/
theorem endpoint0_served (h_regular : tasks.Regular) (c : Ep0Constants) (e : Endpoint0 σ)
    (rounds : List Ep0Round) :
    let transactions := rounds.filterMap (Ep0Round.transaction c)
    let outcomes := (((endpoint0 tasks c).trace e rounds).map Prod.snd).filterMap vendorOutcome
    let history := outcomes.flatMap VendorOutcome.served
    ((usbServerSystem tasks).trace e.server transactions).map Prod.snd = outcomes ∧
      (commandServer tasks).trace e.server.device.users (history.map Prod.fst) = history ∧
      (commandServer tasks).run e.server.device.users (history.map Prod.fst)
        = ((endpoint0 tasks c).run e rounds).server.device.users := by
  intro transactions outcomes history
  obtain ⟨h_run, h_outcomes⟩ := Transducer.Embeds.run (s := e)
    (Transducer.everyStep_of_forall fun r _ e => endpoint0_embeds tasks c e r :
      (endpoint0 tasks c).EveryStep _ e rounds)
  have h_steps : (usbServerSystem tasks).EveryStep ((usbServerSystem tasks).Mediates
      (commandServer tasks) (fun s => s.device.users) VendorOutcome.served) e.server transactions :=
    Transducer.everyStep_of_forall fun t _ s => usbServer_mediates h_regular s t
  obtain ⟨h_trace, h_users⟩ := Transducer.Mediates.run h_steps
  -- the calls of the vendor requests are those of their outcomes
  have h_history : ((usbServerSystem tasks).trace e.server transactions).flatMap
      (fun p => p.2.served) = history := by
    rw [← List.flatMap_map Prod.snd, h_outcomes]
  rw [h_history] at h_trace h_users
  rw [h_run] at h_users
  exact ⟨h_outcomes, h_trace, h_users⟩

/-- A byte written to the application and read back, with a reset of the bus and a request for a
descriptor in between. -/
theorem endpoint0_served_run :
    let c : Ep0Constants := ⟨0x80, 0x40, 0xC0, 6, 0x20, by decide⟩
    let reset : Ep0Round :=
      { getSetupPacket := .reset, sp := ⟨⟨0, 0, 0, 0⟩, 0, 0, 0⟩, getBosDescriptor := .okay
        getMsosDescriptor := .okay, packets := packetsOf [42], doSetRequestStatus := .okay
        doGetRequest := fun _ _ => .okay, standardRequests := fun _ => .okay
        getBusState := .reset, resetEndpoint := .hs }
    let write := { reset with getSetupPacket := .okay, sp := ⟨vendorSetup resourceId 0 1, 0, 2, 0⟩ }
    let descriptor := { reset with getSetupPacket := .okay, sp := ⟨⟨6, 0, 0, 18⟩, 1, 0, 0⟩ }
    let read :=
      { reset with getSetupPacket := .okay, sp := ⟨vendorSetup resourceId 0x80 1, 1, 2, 0⟩ }
    let rounds := [reset, write, reset, descriptor, read]
    let e : Endpoint0 App := ⟨usbBoot [[resourceId]] .initial, none⟩
    let outcomes :=
      (((endpoint0 (app false) c).trace e rounds).map Prod.snd).filterMap vendorOutcome
    let history := outcomes.flatMap VendorOutcome.served
    (commandServer (app false)).trace .initial (history.map Prod.fst) = history ∧
      history.map (fun p => p.2.data) = [[], [42]] := by
  intro c reset write descriptor read rounds e outcomes history
  obtain ⟨-, h_trace, -⟩ := endpoint0_served (app_regular false) c e rounds
  exact ⟨h_trace, by decide +kernel⟩

end Served

end DeviceControl
