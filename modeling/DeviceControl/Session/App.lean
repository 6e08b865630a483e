import DeviceControl.I2c.Frame
import DeviceControl.Session.Server

/-!
# The example application as a register

The examples write a byte to the application and read it back. `app_is_register` says what they can
count on, whatever comes in between and on whichever transport: a read that is granted is filled
with the byte that the last write granted before it has stored.

`App.stored` is that byte as a fold over the requests and their answers, with nothing said of the
task. The erroneous build refuses every third command, and the exact condition is `App.Takes`: it
says which resource has to be asked for at which position of the history.
-/

namespace DeviceControl

/-! ### What a history has stored -/

/-- The byte that a write stores. -/
def UserRequest.firstByte (q : UserRequest) : UInt8 :=
  if 0 < q.payloadLen then q.payload[0]?.getD 0 else 0

/-- One entry of a history stores a byte if it is a write that has been granted. -/
def App.storeStep (value : UInt8) (p : UserRequest × UserAnswer) : UInt8 :=
  if p.1.method = .write ∧ p.2.ret = controlSuccess then p.1.firstByte else value

/-- The byte that the last granted write of a history has stored. -/
def App.stored (history : List (UserRequest × UserAnswer)) : UInt8 :=
  history.foldl App.storeStep 0

theorem App.stored_concat (history : List (UserRequest × UserAnswer))
    (p : UserRequest × UserAnswer) :
    App.stored (history ++ [p]) = App.storeStep (App.stored history) p := by
  rw [App.stored, List.foldl_append]
  rfl

/-- The task takes the command that comes after `k` others. -/
def App.Takes (erroneous : Bool) (k : ℕ) (resid : ControlResid) : Prop :=
  App.takenFor erroneous ((k + 1) % 2 ^ 32) resid = resourceId

instance (erroneous : Bool) (k : ℕ) (resid : ControlResid) :
    Decidable (App.Takes erroneous k resid) := inferInstanceAs (Decidable (_ = _))

/-- What a register answers to a request after a history. -/
def App.answer (erroneous : Bool) (history : List (UserRequest × UserAnswer)) (q : UserRequest) :
    UserAnswer :=
  if App.Takes erroneous history.length q.resid then
    ⟨controlSuccess, if q.method = .read then List.replicate q.payloadLen (App.stored history)
      else []⟩
  else ⟨controlError, []⟩

/-! ### One command -/

section Step

variable {erroneous : Bool} {history : List (UserRequest × UserAnswer)}

/-- The variables of the task after a history. -/
def App.after (history : List (UserRequest × UserAnswer)) : App :=
  ⟨history.length % 2 ^ 32, App.stored history⟩

/-- **The step.** The task answers as a register, and its variables are those after the longer
history. -/
theorem app_step (q : UserRequest) :
    (commandServer (app erroneous)).step (App.after history) q
      = (App.after (history ++ [(q, App.answer erroneous history q)]),
          App.answer erroneous history q) := by
  have h_count : incr (history.length % 2 ^ 32) = (history.length + 1) % 2 ^ 32 := by
    rw [incr, Nat.mod_add_mod]
  obtain ⟨ifnum, method, resid, cmd, payload, payloadLen⟩ := q
  rw [App.after, App.after, App.stored_concat, List.length_append, List.length_singleton]
  by_cases h_takes : App.Takes erroneous history.length resid
  · have h_for : ¬ App.takenFor erroneous ((history.length + 1) % 2 ^ 32) resid ≠ resourceId :=
      not_not.mpr h_takes
    rw [App.answer, if_pos h_takes]
    cases method with
    | write =>
      dsimp only [commandServer, app]
      rw [h_count, if_neg h_for]
      rfl
    | read =>
      dsimp only [commandServer, app]
      rw [h_count, if_neg h_for]
      rfl
  · -- a command that is not taken is counted, and nothing else
    have h_for : App.takenFor erroneous ((history.length + 1) % 2 ^ 32) resid ≠ resourceId :=
      h_takes
    have h_error : controlError ≠ controlSuccess := by decide
    have h_kept : App.storeStep (App.stored history)
        (⟨ifnum, method, resid, cmd, payload, payloadLen⟩, ⟨controlError, []⟩)
        = App.stored history := if_neg fun h => h_error h.2
    rw [App.answer, if_neg h_takes, h_kept]
    cases method with
    | write =>
      dsimp only [commandServer, app]
      rw [h_count, if_pos h_for]
    | read =>
      dsimp only [commandServer, app]
      rw [h_count, if_pos h_for]
      rfl

/-- **The run.** The variables of the task are those after the history so far. -/
theorem run_app (requests : List UserRequest) :
    (commandServer (app erroneous)).run .initial requests
      = App.after ((commandServer (app erroneous)).trace .initial requests) := by
  refine ((commandServer (app erroneous)).run_history (P := fun h s => s = App.after h) rfl ?_
    requests)
  rintro h s q rfl
  rw [app_step]

/-- Every answer of a run is that of a register after the history before it. -/
theorem trace_app {requests : List UserRequest} {k : ℕ} {q : UserRequest} {a : UserAnswer}
    (h : ((commandServer (app erroneous)).trace .initial requests)[k]? = some (q, a)) :
    a = App.answer erroneous
      (((commandServer (app erroneous)).trace .initial requests).take k) q := by
  obtain ⟨-, rfl⟩ := (commandServer (app erroneous)).getElem?_trace_eq_some.mp h
  rw [run_app, app_step, Transducer.take_trace]

end Step

/-! ### On the device -/

/-- **The register.** In every run of the device from its start, with the callbacks of all
transports in any order, the application answers each command as a register that holds what the last
granted write before it has stored, over whichever transport that came. -/
theorem app_is_register (erroneous : Bool) (answers : List (List ControlResid))
    (cbs : List Callback)
    (h_fit : ∀ p ∈ (controlSystem (app erroneous)).trace (boot answers .initial) cbs,
      ReadsFit p.1.capacity p.2.calls) :
    let history := ((controlSystem (app erroneous)).trace (boot answers .initial) cbs).flatMap
      fun p => p.2.served
    ∀ (k : ℕ) (q : UserRequest) (a : UserAnswer), history[k]? = some (q, a) →
      a = App.answer erroneous (history.take k) q := by
  intro history k q a h_at
  obtain ⟨h_trace, -⟩ := served_in_order (app_regular erroneous) (boot answers .initial) cbs h_fit
  change (commandServer (app erroneous)).trace .initial (history.map Prod.fst) = history at h_trace
  rw [← h_trace] at h_at ⊢
  exact trace_app h_at

/-- A write over I2C and a read over USB, which the erroneous build grants, and a second write over
USB, which it refuses. -/
theorem app_is_register_run :
    let read : Callback := .usbGetRequest 0x12 0x80 1 (Buffer.ofList 9 [] : Buffer UInt8 1)
    let write : Callback := .usbSetRequest 0x12 0 1 (Buffer.ofList 7 [] : Buffer UInt8 1)
    let cbs : List Callback := (writeFrame 0x12 0 1 [42]).map .i2c ++ [read, write, read]
    let history := ((controlSystem (app true)).trace (boot [[0x12]] .initial) cbs).flatMap
      fun p => p.2.served
    history.map (fun p => (p.2.ret, p.2.data))
        = [(controlSuccess, []), (controlSuccess, [42]), (controlError, []),
          (controlSuccess, [42])] ∧
      ∀ (k : ℕ) (q : UserRequest) (a : UserAnswer), history[k]? = some (q, a) →
        a = App.answer true (history.take k) q := by
  intro read write cbs history
  have h_fit : ∀ p ∈ (controlSystem (app true)).trace (boot [[0x12]] .initial) cbs,
      ReadsFit p.1.capacity p.2.calls := by
    unfold ReadsFit
    decide +kernel
  exact ⟨by decide +kernel, app_is_register true [[0x12]] cbs h_fit⟩

end DeviceControl
