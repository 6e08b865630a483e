import DeviceControl.Control.Device

/-!
# The example application

The user task `app` of the examples, which is the same for all transports. It owns one resource. A
write to it stores the first byte of its payload, and a read is filled with the byte stored last.

Built as `ERRONEOUS_DEVICE` it takes every third command for one of the next resource, so that it
refuses it. The counter of the commands is an `unsigned`.
-/

namespace DeviceControl

/-- `RESOURCE_ID`. -/
def resourceId : ControlResid := 0x12

/-- The variables of `app`. -/
structure App where
  numCommands : ℕ
  testValue : UInt8
  deriving DecidableEq, Repr

/-- The variables as the task starts. -/
def App.initial : App := ⟨0, 0⟩

/-- The resource that a command is taken for, once it has been counted. -/
def App.takenFor (erroneous : Bool) (numCommands : ℕ) (resid : ControlResid) : ControlResid :=
  if erroneous = true ∧ numCommands % 3 = 0 then resid + 1 else resid

/-- `app`. -/
def app (erroneous : Bool) : UserTasks App where
  writeCommand s _ resid _ payload payloadLen :=
    let numCommands := incr s.numCommands
    if App.takenFor erroneous numCommands resid ≠ resourceId then
      (controlError, { s with numCommands := numCommands })
    else
      (controlSuccess, ⟨numCommands, if 0 < payloadLen then payload[0]?.getD 0 else 0⟩)
  readCommand s _ resid _ _ payloadLen :=
    let numCommands := incr s.numCommands
    if App.takenFor erroneous numCommands resid ≠ resourceId then
      (controlError, [], { s with numCommands := numCommands })
    else
      -- fill the payload with the last written value
      (controlSuccess, List.replicate payloadLen s.testValue, { s with numCommands := numCommands })

end DeviceControl
