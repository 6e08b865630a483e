import DeviceControl.Control.App
import DeviceControl.Control.Calls
import DeviceControl.Library.Interleaving

/-!
# The command server

What the device is, said without its transports: `commandServer` serves one command after the
other, and its state is that of the user tasks. The device serves whatever the four transports
bring it in between one another, byte by byte, and still every run of it is a run of this server:
`served_in_order` says that the calls on the user tasks, in the order in which they are made, are
the requests and the answers of the server, and that it ends in the state of the user tasks.

The server knows no arrays. So the user tasks have to be `Regular`: what a read finds in the array
that it is to fill is what an earlier command of the same transport has left there, and a task that
looks at it, or leaves a part of it standing, makes the transports differ. A read that is longer
than the array of its transport is left out for the same reason.
-/

namespace DeviceControl

variable {σ : Type}

/-! ### The abstract server -/

/-- The user tasks do not look at the array of a read, and fill it if they grant the read. -/
structure UserTasks.Regular (tasks : UserTasks σ) : Prop where
  array : ∀ (s : σ) (ifnum r c : UInt8) (array array' : List UInt8) (n : ℕ),
    tasks.readCommand s ifnum r c array n = tasks.readCommand s ifnum r c array' n
  fills : ∀ (s : σ) (ifnum r c : UInt8) (array : List UInt8) (n : ℕ),
    (tasks.readCommand s ifnum r c array n).1 = controlSuccess →
      (tasks.readCommand s ifnum r c array n).2.1.length = n

/-- The example application is regular, in either build. -/
theorem app_regular (erroneous : Bool) : (app erroneous).Regular where
  array _ _ _ _ _ _ _ := rfl
  fills s ifnum r c array n h := by
    dsimp only [app] at h ⊢
    split at h
    · cases h
    · next h_ne =>
      rw [if_neg h_ne]
      exact List.length_replicate

/-- What a user task answers: the value that it returns, and the data of a read that it grants. -/
structure UserAnswer where
  ret : ControlRet
  data : List UInt8
  deriving DecidableEq, Repr

/-- What a call has answered. The array of a read that is refused is nobody's business. -/
def UserCall.answer (call : UserCall) : UserAnswer :=
  ⟨call.ret, if call.ret = controlSuccess then call.produced else []⟩

/-- The request of a call with its answer. -/
def UserCall.served (call : UserCall) : UserRequest × UserAnswer := (call.request, call.answer)

/-- The calls of a reply, as requests with their answers. -/
def Reply.served (r : Reply) : List (UserRequest × UserAnswer) := r.calls.map UserCall.served

/-- The command server. -/
def commandServer (tasks : UserTasks σ) : Transducer σ UserRequest UserAnswer where
  step s q :=
    match q.method with
    | .write =>
      let answer := tasks.writeCommand s q.ifnum q.resid q.cmd q.payload q.payloadLen
      (answer.2, ⟨answer.1, []⟩)
    | .read =>
      let answer := tasks.readCommand s q.ifnum q.resid q.cmd [] q.payloadLen
      (answer.2.2, ⟨answer.1, if answer.1 = controlSuccess then answer.2.1 else []⟩)

/-! ### One callback -/

/-- These calls bring the user tasks from one state to another, as the server does. -/
def Passes (tasks : UserTasks σ) (users users' : σ) (calls : List UserCall) : Prop :=
  (commandServer tasks).trace users (calls.map UserCall.request) = calls.map UserCall.served ∧
    (commandServer tasks).run users (calls.map UserCall.request) = users'

/-- The calls of a callback have room for their data in an array of `m` bytes. -/
def ReadsFit (m : ℕ) (calls : List UserCall) : Prop :=
  ∀ call ∈ calls, call.request.method = .read → call.request.payloadLen ≤ m

section Step

variable {tasks : UserTasks σ} {d d' : Device σ}

theorem passes_nil (users : σ) : Passes tasks users users [] := ⟨rfl, rfl⟩

theorem passes_writeCommand {n : ℕ} (d : Device σ) (ifnum resid cmd : UInt8)
    (payload : Buffer UInt8 n) (payloadLen : ℕ) :
    Passes tasks d.users (writeCommand tasks d ifnum resid cmd payload payloadLen).1.users
      (writeCommand tasks d ifnum resid cmd payload payloadLen).2.calls := by
  by_cases h_resid : resid = controlSpecialResid
  · rw [writeCommand, if_pos h_resid]
    exact passes_nil _
  · rw [writeCommand, if_neg h_resid]
    refine ⟨?_, rfl⟩
    -- a write has no data, whether it succeeds or not
    have h_data : (writeCall tasks d ifnum resid cmd payload payloadLen).answer
        = ⟨(writeCall tasks d ifnum resid cmd payload payloadLen).ret, []⟩ := by
      rw [UserCall.answer]
      exact congrArg _ (ite_self [])
    rw [List.map_singleton, List.map_singleton, UserCall.served, h_data]
    rfl

theorem passes_readCommand {n : ℕ} (h_regular : tasks.Regular) (d : Device σ)
    (ifnum resid cmd : UInt8) (payload : Buffer UInt8 n) (payloadLen : ℕ)
    (h_fit : ReadsFit n (readCommand tasks d ifnum resid cmd payload payloadLen).reply.calls) :
    Passes tasks d.users (readCommand tasks d ifnum resid cmd payload payloadLen).device.users
      (readCommand tasks d ifnum resid cmd payload payloadLen).reply.calls := by
  by_cases h_resid : resid = controlSpecialResid
  · rw [readCommand, if_pos h_resid]
    exact passes_nil _
  · rw [calls_readCommand tasks h_resid] at h_fit ⊢
    have h_le : payloadLen ≤ n := h_fit _ (List.mem_singleton_self _) rfl
    set call := readCall tasks d ifnum resid cmd payload payloadLen with h_call
    set answer := tasks.readCommand d.users ifnum resid cmd [] payloadLen with h_def
    -- the task does not see that the array is not empty
    have h_same : tasks.readCommand d.users ifnum resid cmd (payload.front payloadLen) payloadLen
        = answer := h_regular.array ..
    have h_ret : call.ret = answer.1 := by rw [h_call, readCall, h_same]
    have h_data : answer.1 = controlSuccess → call.produced = answer.2.1 := by
      intro h_success
      rw [h_call, readCall, readPayload, h_same]
      exact Buffer.front_overlay _ (h_regular.fills _ _ _ _ _ _ h_success) h_le
    have h_answer : call.answer
        = ⟨answer.1, if answer.1 = controlSuccess then answer.2.1 else []⟩ := by
      rw [UserCall.answer, h_ret]
      by_cases h_success : answer.1 = controlSuccess
      · rw [if_pos h_success, if_pos h_success, h_data h_success]
      · rw [if_neg h_success, if_neg h_success]
    have h_users : (readCommand tasks d ifnum resid cmd payload payloadLen).device.users
        = answer.2.2 := by
      rw [readCommand, if_neg h_resid, ← h_same]
    rw [h_users, Passes, List.map_singleton, List.map_singleton, UserCall.served, h_answer]
    exact ⟨rfl, rfl⟩

theorem passes_i2cWriteCommand {d₁ : Device σ} (h_users : d₁.users = d.users) :
    Passes tasks d.users (i2cWriteCommand tasks d₁).1.users (i2cWriteCommand tasks d₁).2.calls := by
  rw [← h_users, i2cWriteCommand]
  exact passes_writeCommand ..

theorem passes_i2cStep (h_regular : tasks.Regular) {cb : I2cCallback} {r : Reply}
    (h : I2cStep tasks d cb d' r) (h_fit : ReadsFit i2cDataMaxBytes r.calls) :
    Passes tasks d.users d'.users r.calls := by
  cases h with
  -- the three places that dispatch a write, and the two that dispatch a read
  | lengthZero d₁ hs h₁ => exact passes_i2cWriteCommand (by rw [h₁])
  | onlyByte b d₁ hs hc h1 h₁ => exact passes_i2cWriteCommand (by rw [h₁])
  | lastByte b d₁ hs hne he h₁ => exact passes_i2cWriteCommand (by rw [h₁])
  | readOk hs hc ho => exact passes_readCommand h_regular d _ _ _ _ _ h_fit
  | readRefused hs hc ho => exact passes_readCommand h_regular d _ _ _ _ _ h_fit
  | _ => exact passes_nil _

theorem passes_spiStep (h_regular : tasks.Regular) {cb : SpiCallback} {r : Reply}
    (h : SpiStep tasks d cb d' r) (h_fit : ReadsFit spiDataMaxBytes r.calls) :
    Passes tasks d.users d'.users r.calls := by
  cases h with
  | endsDispatch hs hk => exact passes_writeCommand ..
  | requiresDispatch hs => exact passes_readCommand h_regular d _ _ _ _ _ h_fit
  | _ => exact passes_nil _

end Step

/-! ### Every run -/

/-- The size of the array that the data of a callback goes through. -/
def Callback.capacity : Callback → ℕ
  | .i2c _ => i2cDataMaxBytes
  | .spi _ => spiDataMaxBytes
  | @Callback.usbSetRequest _ _ _ n _ => n
  | @Callback.usbGetRequest _ _ _ n _ => n
  | .xscopeUpload .. => xscopeDataMaxBytes

section Run

variable {tasks : UserTasks σ} {d : Device σ}

/-- **The step.** Every callback passes its calls on to the server. -/
theorem passes_step (h_regular : tasks.Regular) (d : Device σ) (cb : Callback)
    (h_fit : ReadsFit cb.capacity ((controlSystem tasks).step d cb).2.calls) :
    Passes tasks d.users ((controlSystem tasks).step d cb).1.users
      ((controlSystem tasks).step d cb).2.calls := by
  cases cb with
  | i2c cb => exact passes_i2cStep h_regular (i2cStep_sound d cb) h_fit
  | spi cb => exact passes_spiStep h_regular (spiStep_sound d cb) h_fit
  | usbSetRequest windex wvalue wlength requestData =>
    change Passes tasks d.users
      (controlProcessUsbSetRequest tasks windex wvalue wlength requestData d).1.users
      (controlProcessUsbSetRequest tasks windex wvalue wlength requestData d).2.calls
    dsimp only [controlProcessUsbSetRequest]
    split
    · exact passes_nil _
    · split
      · exact passes_nil _
      · exact passes_writeCommand ..
  | usbGetRequest windex wvalue wlength requestData =>
    change ReadsFit _
      (controlProcessUsbGetRequest tasks windex wvalue wlength requestData d).2.calls at h_fit
    change Passes tasks d.users
      (controlProcessUsbGetRequest tasks windex wvalue wlength requestData d).1.users
      (controlProcessUsbGetRequest tasks windex wvalue wlength requestData d).2.calls
    unfold controlProcessUsbGetRequest at h_fit ⊢
    dsimp only at h_fit ⊢
    split
    · exact passes_nil _
    · next ifnum h_search =>
      rw [h_search] at h_fit
      dsimp only at h_fit
      split
      · next h_read =>
        rw [if_pos h_read] at h_fit
        exact passes_readCommand h_regular d _ _ _ _ _ h_fit
      · exact passes_nil _
  | xscopeUpload buf bufSize lengthIn =>
    change ReadsFit _ (controlProcessXscopeUpload tasks buf bufSize lengthIn d).2.calls at h_fit
    change Passes tasks d.users (controlProcessXscopeUpload tasks buf bufSize lengthIn d).1.users
      (controlProcessXscopeUpload tasks buf bufSize lengthIn d).2.calls
    unfold controlProcessXscopeUpload at h_fit ⊢
    dsimp only at h_fit ⊢
    split
    · exact passes_nil _
    · next ifnum h_search =>
      rw [h_search] at h_fit
      dsimp only at h_fit
      split
      · next h_read =>
        rw [if_pos h_read] at h_fit
        exact passes_readCommand h_regular d _ _ _ _ _ h_fit
      · exact passes_writeCommand ..

/-- **Serial service.** However the callbacks of the four transports come in between one another,
user tasks that are regular are served as by a server that takes one command after the other, if
each read fits the array of its transport: their calls, in the order in which they are made, are its
requests with its answers, and leave them in its state. -/
theorem served_in_order (h_regular : tasks.Regular) (d : Device σ) (cbs : List Callback)
    (h_fit : ∀ p ∈ (controlSystem tasks).trace d cbs, ReadsFit p.1.capacity p.2.calls) :
    let history := ((controlSystem tasks).trace d cbs).flatMap fun p => p.2.served
    (commandServer tasks).trace d.users (history.map Prod.fst) = history ∧
      (commandServer tasks).run d.users (history.map Prod.fst)
        = ((controlSystem tasks).run d cbs).users := by
  intro history
  have h_steps : (controlSystem tasks).EveryStep
      (fun d cb => ReadsFit cb.capacity ((controlSystem tasks).step d cb).2.calls) d cbs :=
    (controlSystem tasks).everyStep_of_trace (fun cb r => ReadsFit cb.capacity r.calls) h_fit
  refine Transducer.Mediates.run (h_steps.mono fun d cb h_cb => ?_)
  obtain ⟨h_trace, h_run⟩ := passes_step h_regular d cb h_cb
  have h_requests : (((controlSystem tasks).step d cb).2.served).map Prod.fst
      = ((controlSystem tasks).step d cb).2.calls.map UserCall.request := by
    rw [Reply.served, List.map_map]
    rfl
  constructor
  · rw [h_requests, h_trace, Reply.served]
  · rw [h_requests, h_run]

end Run

/-- A write over I2C, and reads over USB before its last byte and behind it. -/
theorem served_in_order_run :
    let read : Callback := .usbGetRequest 0x12 0x80 1 (Buffer.ofList 9 [] : Buffer UInt8 1)
    let cbs : List Callback := [.i2c .writeStart, .i2c (.writeData 0x12), .i2c (.writeData 0),
      .i2c (.writeData 1), read, .i2c (.writeData 42), read]
    let history := ((controlSystem (app false)).trace (boot [[resourceId]] .initial) cbs).flatMap
      fun p => p.2.served
    (commandServer (app false)).trace .initial (history.map Prod.fst) = history ∧
      history.map (fun p => p.2.data) = [[0], [], [42]] := by
  intro read cbs history
  have h_fit : ∀ p ∈ (controlSystem (app false)).trace (boot [[resourceId]] .initial) cbs,
      ReadsFit p.1.capacity p.2.calls := by
    unfold ReadsFit
    decide +kernel
  exact ⟨(served_in_order (app_regular false) _ cbs h_fit).1, by decide +kernel⟩

end DeviceControl
