import DeviceControl.Control.Calls

/-!
# The last command status over USB

Over USB a host asks for the status of its last command with a get request. The set requests record
what they return, on every path, and the get requests leave the record alone. So the query answers
with the code of the most recent set request, whatever was asked in between (`usb_status_exact`).

The same theorem says which requests of a run call a user task, and for what.
-/

namespace DeviceControl

variable {σ : Type} (tasks : UserTasks σ)

/-! ### Requests -/

/-- A vendor request: its direction, the fields of its setup packet and the array of its data. -/
structure UsbRequest where
  method : Method
  windex : UInt16
  wvalue : UInt16
  wlength : UInt16
  size : ℕ
  requestData : Buffer UInt8 size

namespace UsbRequest

variable (q : UsbRequest)

def callback : Callback :=
  match q.method with
  | .write => .usbSetRequest q.windex q.wvalue q.wlength q.requestData
  | .read => .usbGetRequest q.windex q.wvalue q.wlength q.requestData

/-- The resource and the command code are the low bytes of their fields. -/
def resid : ControlResid := q.windex.toUInt8
def cmd : ControlCmd := q.wvalue.toUInt8

/-- What the request asks of the user task at an interface. -/
def request (ifnum : UInt8) : UserRequest :=
  match q.method with
  | .write =>
    ⟨ifnum, .write, q.resid, q.cmd, q.requestData.front q.wlength.toNat, q.wlength.toNat⟩
  | .read => readRequest ifnum q.resid q.cmd q.wlength.toNat

/-- The request is for a user task, at this interface, and of the direction of its command code. -/
structure Dispatches (t : ResourceTable) (ifnum : UInt8) : Prop where
  registered : resourceTableSearch t q.resid = some ifnum
  ne_special : q.resid ≠ controlSpecialResid
  direction : isControlCmdRead q.cmd = true ↔ q.method = .read

/-- The request is the query of the last command status. -/
structure IsStatusQuery : Prop where
  method : q.method = .read
  resid : q.resid = controlSpecialResid
  cmd : q.cmd = controlGetLastCommandStatus
  wlength : q.wlength.toNat = sizeofControlStatus
  size : 0 < q.size

end UsbRequest

/-- The USB side of the device. -/
def usbSystem : Transducer (Device σ) UsbRequest Reply :=
  (controlSystem tasks).comap UsbRequest.callback

/-- The code that the most recent set request of a run has returned. -/
def lastSetRet (h : List (UsbRequest × Reply)) : ControlStatus :=
  ((h.filter fun p => p.1.method = .write).getLast?.map fun p => p.2.ret).getD controlSuccess

/-- A request calls a user task exactly if it dispatches, and then once. The user task answers in
the state it has in `d`, and its answer is returned and kept in `d'`. -/
structure UsbCallsExact (tasks : UserTasks σ) (t : ResourceTable) (d : Device σ) (q : UsbRequest)
    (d' : Device σ) (reply : Reply) : Prop where
  dispatch_iff : reply.calls ≠ [] ↔ ∃ ifnum, q.Dispatches t ifnum
  dispatch : ∀ ifnum, q.Dispatches t ifnum →
    ∃ produced, reply.calls = [⟨q.request ifnum, reply.ret, produced⟩]
  /-- The answer to a set request is recorded. -/
  set : q.method = .write → ∀ ifnum, q.Dispatches t ifnum →
    let answer := tasks.writeCommand d.users ifnum q.resid q.cmd
      (q.requestData.front q.wlength.toNat) q.wlength.toNat
    reply.ret = answer.1 ∧ d'.lastStatus = answer.1 ∧ d'.users = answer.2
  /-- The host of a get request is given the array with the answer. -/
  get : q.method = .read → ∀ ifnum, q.Dispatches t ifnum →
    ∃ payload, reply.output = .usbData payload.toList ∧
      DeliversRead tasks d ifnum q.resid q.cmd q.wlength.toNat q.requestData payload d' reply

/-! ### One request -/

section Step

variable {tasks}

theorem run_usb (d : Device σ) (requests : List UsbRequest) :
    (controlSystem tasks).run d (requests.map UsbRequest.callback)
      = (usbSystem tasks).run d requests :=
  ((controlSystem tasks).run_comap UsbRequest.callback d requests).symm

theorem Reachable.run_usb {answers : List (List ControlResid)} {d : Device σ}
    (h : Reachable tasks answers d) (requests : List UsbRequest) :
    Reachable tasks answers ((usbSystem tasks).run d requests) := by
  rw [← DeviceControl.run_usb]
  exact h.run _

theorem usbStep_set {q : UsbRequest} (h : q.method = .write) (d : Device σ) :
    (usbSystem tasks).step d q
      = controlProcessUsbSetRequest tasks q.windex q.wvalue q.wlength q.requestData d := by
  change (controlSystem tasks).step d q.callback = _
  rw [UsbRequest.callback, h]
  rfl

theorem usbStep_get {q : UsbRequest} (h : q.method = .read) (d : Device σ) :
    (usbSystem tasks).step d q
      = controlProcessUsbGetRequest tasks q.windex q.wvalue q.wlength q.requestData d := by
  change (controlSystem tasks).step d q.callback = _
  rw [UsbRequest.callback, h]
  rfl

/-- A set request records what it returns. -/
theorem lastStatus_set {q : UsbRequest} (h : q.method = .write) (d : Device σ) :
    ((usbSystem tasks).step d q).1.lastStatus = ((usbSystem tasks).step d q).2.ret := by
  rw [usbStep_set h]
  rfl

/-- A get request records nothing. -/
theorem lastStatus_get {q : UsbRequest} (h : q.method = .read) (d : Device σ) :
    ((usbSystem tasks).step d q).1.lastStatus = d.lastStatus := by
  rw [usbStep_get h]
  unfold controlProcessUsbGetRequest
  dsimp only
  split
  · rfl
  · split
    · exact readCommand_lastStatus ..
    · rfl

section Found

variable {d : Device σ} {q : UsbRequest} {ifnum : UInt8}

/-- A set request for a resource that is found, by the direction of its command code. -/
theorem usbStep_set_found (h_search : resourceTableSearch d.table q.resid = some ifnum)
    (h_method : q.method = .write) :
    ((usbSystem tasks).step d q).2
      = if isControlCmdRead q.cmd then { ret := controlBadCommand }
        else (writeCommand tasks d ifnum q.resid q.cmd q.requestData q.wlength.toNat).2 := by
  rw [usbStep_set h_method]
  exact usbSetRequest_found h_search

/-- A get request for a resource that is found. -/
theorem usbStep_get_found (h_search : resourceTableSearch d.table q.resid = some ifnum)
    (h_method : q.method = .read) :
    ((usbSystem tasks).step d q).2
      = if isControlCmdRead q.cmd then
          let r := readCommand tasks d ifnum q.resid q.cmd q.requestData q.wlength.toNat
          { r.reply with output := .usbData r.payload.toList }
        else { ret := controlBadCommand, output := .usbData q.requestData.toList } := by
  rw [usbStep_get h_method]
  exact usbGetRequest_found h_search

end Found

/-- The requests that do not dispatch call nobody: the resource is unknown or the special one, or
the command code is of the other direction. -/
theorem calls_of_not_dispatches {d : Device σ} {q : UsbRequest}
    (h : ∀ ifnum, ¬ q.Dispatches d.table ifnum) : ((usbSystem tasks).step d q).2.calls = [] := by
  by_contra h_ne
  obtain ⟨call, h_call⟩ := List.exists_mem_of_ne_nil _ h_ne
  have h_step : RequestStep tasks d q.resid q.cmd ((usbSystem tasks).step d q).1
      ((usbSystem tasks).step d q).2 := by
    cases h_method : q.method with
    | write => rw [usbStep_set h_method]; exact usbSetRequest_sound ..
    | read => rw [usbStep_get h_method]; exact usbGetRequest_sound ..
  obtain ⟨ifnum, h_search, h_from, -⟩ := requestStep_call h_step h_call
  refine h ifnum ⟨h_search, h_from.ne_special, ?_⟩
  -- a request of the other direction returns before it calls
  cases h_method : q.method with
  | write =>
    refine iff_of_false (fun h_read => ?_) nofun
    rw [usbStep_set_found h_search h_method, if_pos h_read] at h_call
    exact absurd h_call List.not_mem_nil
  | read =>
    refine iff_of_true ?_ rfl
    by_contra h_write
    rw [usbStep_get_found h_search h_method, if_neg h_write] at h_call
    exact absurd h_call List.not_mem_nil

section Dispatches

variable {d : Device σ} {q : UsbRequest} {ifnum : UInt8}

/-- A set request that dispatches is a `write_command` of its array. -/
theorem UsbRequest.Dispatches.set (h : q.Dispatches d.table ifnum) (h_method : q.method = .write) :
    (usbSystem tasks).step d q
      = writeCommand tasks d ifnum q.resid q.cmd q.requestData q.wlength.toNat := by
  have h_search : resourceTableSearch d.table q.windex.toUInt8 = some ifnum := h.registered
  have h_write : ¬ isControlCmdRead q.wvalue.toUInt8 = true := fun h_read => by
    rw [h.direction.mp h_read] at h_method
    cases h_method
  rw [usbStep_set h_method, controlProcessUsbSetRequest]
  dsimp only
  rw [h_search]
  dsimp only
  -- the status is recorded twice, with the same value
  rw [if_neg h_write, ← writeCommand_lastStatus]
  rfl

/-- A get request that dispatches is a `read_command` into its array. -/
theorem UsbRequest.Dispatches.get (h : q.Dispatches d.table ifnum) (h_method : q.method = .read) :
    (usbSystem tasks).step d q
      = (let r := readCommand tasks d ifnum q.resid q.cmd q.requestData q.wlength.toNat
        (r.device, { r.reply with output := .usbData r.payload.toList })) := by
  have h_search : resourceTableSearch d.table q.windex.toUInt8 = some ifnum := h.registered
  have h_read : isControlCmdRead q.wvalue.toUInt8 = true := h.direction.mpr h_method
  rw [usbStep_get h_method, controlProcessUsbGetRequest]
  dsimp only
  rw [h_search]
  dsimp only
  rw [if_pos h_read]
  rfl

/-- A request that dispatches makes one call, and returns its answer. -/
theorem calls_of_dispatches (h : q.Dispatches d.table ifnum) :
    ∃ produced, ((usbSystem tasks).step d q).2.calls
      = [⟨q.request ifnum, ((usbSystem tasks).step d q).2.ret, produced⟩] := by
  cases h_method : q.method with
  | write =>
    rw [h.set h_method, UsbRequest.request, h_method, writeCommand, if_neg h.ne_special]
    exact ⟨[], rfl⟩
  | read =>
    rw [h.get h_method, UsbRequest.request, h_method]
    dsimp only
    rw [calls_readCommand tasks h.ne_special, ret_readCommand tasks h.ne_special]
    exact ⟨_, rfl⟩

end Dispatches

theorem usbCallsExact_step (d : Device σ) (q : UsbRequest) :
    UsbCallsExact tasks d.table d q ((usbSystem tasks).step d q).1
      ((usbSystem tasks).step d q).2 := by
  constructor
  case dispatch_iff =>
    constructor
    · intro h_calls
      by_contra h_none
      exact h_calls (calls_of_not_dispatches (not_exists.mp h_none))
    · rintro ⟨ifnum, h⟩ h_nil
      obtain ⟨produced, h_calls⟩ := calls_of_dispatches h
      exact List.cons_ne_nil _ _ (h_calls.symm.trans h_nil)
  case dispatch => exact fun ifnum h => calls_of_dispatches h
  case set =>
    intro h_method ifnum h
    rw [h.set h_method, writeCommand, if_neg h.ne_special]
    exact ⟨rfl, rfl, rfl⟩
  case get =>
    intro h_method ifnum h
    rw [h.get h_method]
    have h_del : DeliversRead tasks d ifnum q.resid q.cmd q.wlength.toNat q.requestData _ _ _ :=
      deliversRead_readCommand h.ne_special rfl
    exact ⟨_, rfl, h_del.withOutput _⟩

end Step

/-! ### The record -/

theorem lastSetRet_concat (h : List (UsbRequest × Reply)) (p : UsbRequest × Reply) :
    lastSetRet (h ++ [p]) = if p.1.method = .write then p.2.ret else lastSetRet h := by
  rw [lastSetRet, List.filter_append]
  by_cases h_method : p.1.method = .write
  · rw [if_pos h_method, List.filter_cons_of_pos (by simpa using h_method), List.filter_nil,
      List.getLast?_concat]
    rfl
  · rw [if_neg h_method, List.filter_cons_of_neg (by simpa using h_method), List.filter_nil,
      List.append_nil]
    rfl

/-- **The record is exact.** After every run of requests the device has recorded the code of the
most recent set request. -/
theorem lastStatus_run (answers : List (List ControlResid)) (users : σ)
    (requests : List UsbRequest) :
    ((usbSystem tasks).run (boot answers users) requests).lastStatus
      = lastSetRet ((usbSystem tasks).trace (boot answers users) requests) := by
  refine (usbSystem tasks).run_history (P := fun h d => d.lastStatus = lastSetRet h) rfl ?_ requests
  intro h d q ih
  rw [lastSetRet_concat]
  cases h_method : q.method with
  | write => rw [if_pos rfl, lastStatus_set h_method]
  | read => rw [if_neg nofun, lastStatus_get h_method, ih]

/-- **USB status is exact.** After every run of set and get requests from the initial state, the
query of the last command status is answered with success and the code of the most recent set
request. In the run, a request calls a user task exactly if its resource is registered and not the
special one, and its command code is of its direction; and then once, for what the request says.
What the user task answers, in the state it has before the request, is returned and kept. -/
theorem usb_status_exact (answers : List (List ControlResid)) (users : σ)
    (requests : List UsbRequest) {query : UsbRequest} (h_query : query.IsStatusQuery) :
    let history := (usbSystem tasks).trace (boot answers users) requests
    let d := (usbSystem tasks).run (boot answers users) requests
    let reply := ((usbSystem tasks).step d query).2
    reply.ret = controlSuccess ∧
      (∃ array, reply.output = .usbData array ∧ array[0]? = some (lastSetRet history)) ∧
      ∀ (k : ℕ) (q : UsbRequest) (reply : Reply), history[k]? = some (q, reply) →
        UsbCallsExact tasks (registeredTable answers)
          ((usbSystem tasks).run (boot answers users) (requests.take k)) q
          ((usbSystem tasks).run (boot answers users) (requests.take (k + 1))) reply := by
  intro history d reply
  have h_reach (requests : List UsbRequest) : Reachable tasks answers
      ((usbSystem tasks).run (boot answers users) requests) :=
    (reachable_boot answers users).run_usb requests
  -- the query is for the special resource, which no registration takes away
  have h_search : resourceTableSearch d.table query.resid = some ifnumReserved := by
    rw [h_query.resid]
    exact resourceTableSearch_special (h_reach requests).reserves
  -- it is answered by the library itself, with what has been recorded
  have h_reply : reply
      = { ret := controlSuccess, accesses := [0]
          output := .usbData (query.requestData.store 0 d.lastStatus).toList } := by
    change ((usbSystem tasks).step d query).2 = _
    rw [usbStep_get_found h_search h_query.method, h_query.resid, h_query.cmd, h_query.wlength,
      if_pos (by decide), readCommand_lastCommandStatus]
  rw [h_reply]
  refine ⟨rfl, ⟨_, rfl, ?_⟩, fun k q reply h_at => ?_⟩
  · rw [Vector.getElem?_toList, Buffer.getElem?_store_self _ _ h_query.size,
      lastStatus_run tasks answers users requests]
  · obtain ⟨h_request, rfl⟩ := (usbSystem tasks).getElem?_trace_eq_some.mp h_at
    rw [← (h_reach (requests.take k)).table, List.take_add_one, h_request, Option.toList_some,
      Transducer.run_concat]
    exact usbCallsExact_step _ q

/-- A write that a user task refuses, and a read after it. -/
theorem usb_status_exact_run :
    let tasks : UserTasks Unit := .always 7 [9]
    let requests : List UsbRequest :=
      [⟨.write, 3, 5, 1, 1, Buffer.ofList 0 [42]⟩, ⟨.read, 3, 0x85, 1, 1, Buffer.ofList 0 []⟩]
    let d := (usbSystem tasks).run (boot [[3]] ()) requests
    let query : UsbRequest := ⟨.read, 0, 0x81, 1, 1, Buffer.ofList 0 []⟩
    ∃ array, ((usbSystem tasks).step d query).2.output = .usbData array ∧ array[0]? = some 7 := by
  intro tasks requests d query
  have h_query : query.IsStatusQuery := ⟨rfl, rfl, by decide, rfl, Nat.one_pos⟩
  exact (usb_status_exact tasks [[3]] () requests h_query).2.1

end DeviceControl
