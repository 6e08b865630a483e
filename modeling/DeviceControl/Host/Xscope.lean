import DeviceControl.Control.Adapters
import DeviceControl.Host.Support

/-!
# The xSCOPE host

`control_write_command` and `control_read_command` of `device_access_xscope.c`. A command is
uploaded through the xSCOPE endpoint, and the host then waits until the endpoint has called it back
with a record on the probe of the device.

The endpoint is not part of the library, so it is a parameter: a function on some world `W`, which
accepts an upload or refuses it, and says which records arrive before the host goes on.
`XscopeDelivers` states what it does on an error-free link.
-/

namespace DeviceControl

/-! ### The endpoint -/

/-- A record that the endpoint calls the host back with. -/
structure XscopeRecord where
  id : UInt32
  databytes : List UInt8
  deriving DecidableEq, Repr

/-- What comes of an upload: whether the endpoint accepts it, the records that arrive before the
host goes on, and the world after that. -/
structure XscopeOutcome (W : Type) where
  accepted : Bool
  records : List XscopeRecord
  world : W

/-! ### The host -/

/-- The static data of `device_access_xscope.c`. The response is as long as `last_response_length`,
and `heap` is what the memory behind it holds. -/
structure XscopeHost where
  probeId : UInt32
  probeIdSet : Bool
  recordCount : ℕ
  lastResponse : List UInt8
  heap : ℕ → UInt8

namespace XscopeHost

/-- `record_callback`. -/
def recordCallback (h : XscopeHost) (r : XscopeRecord) : XscopeHost :=
  if h.probeIdSet = true ∧ r.id = h.probeId then
    { h with lastResponse := r.databytes, recordCount := h.recordCount + 1 }
  else h

/-- The loop that waits for a response. Without one it does not end. -/
def awaitResponse (h : XscopeHost) (records : List XscopeRecord) : Option XscopeHost :=
  let h := records.foldl recordCallback h
  if h.recordCount = 0 then none else some h

/-- The byte at an index of `last_response`, or behind it. -/
def responseByte (h : XscopeHost) (i : ℕ) : UInt8 := h.lastResponse[i]?.getD (h.heap i)

/-- `last_response_struct->ret`. -/
def responseRet (h : XscopeHost) : ControlRet := h.responseByte 3

end XscopeHost

/-- `upload_len_exceeds_xscope_limit`. -/
def uploadLenExceedsXscopeLimit (len : ℕ) : Bool := xscopeUploadMaxBytes < len

/-- What `control_write_command` leaves when it returns. -/
structure XscopeWrite (W : Type) where
  ret : ControlRet
  host : XscopeHost
  world : W

/-- What `control_read_command` leaves when it returns, with the indices of `last_response` that it
copies into the payload. -/
structure XscopeRead (W : Type) where
  ret : ControlRet
  payload : List UInt8
  copied : List ℕ
  host : XscopeHost
  world : W

section Commands

variable {W : Type} (requestUpload : W → List UInt8 → XscopeOutcome W)

/-- `control_write_command`, where `b` is what its array holds before. -/
def XscopeHost.controlWriteCommand (h : XscopeHost) (w : W) (b : XscopeBuffer)
    (resid : ControlResid) (cmd : ControlCmd) (payload : List UInt8) : Option (XscopeWrite W) :=
  let built := controlXscopeCreateUploadBuffer b (controlCmdSetWrite cmd) resid (some payload)
    (payload.length % 2 ^ 32)
  if uploadLenExceedsXscopeLimit built.1 then some ⟨controlDataLengthError, h, w⟩
  else
    let h := { h with recordCount := 0 }
    let outcome := requestUpload w (sent built)
    if outcome.accepted then
      -- wait for response on xSCOPE probe
      match h.awaitResponse outcome.records with
      | none => none
      | some h => some ⟨controlSuccess + h.responseRet, h, outcome.world⟩
    else some ⟨controlError, h, outcome.world⟩

/-- `control_read_command`. The length of the payload to be filled is that of the list. -/
def XscopeHost.controlReadCommand (h : XscopeHost) (w : W) (b : XscopeBuffer)
    (resid : ControlResid) (cmd : ControlCmd) (payload : List UInt8) : Option (XscopeRead W) :=
  let built := controlXscopeCreateUploadBuffer b (controlCmdSetRead cmd) resid none
    (payload.length % 2 ^ 32)
  let h := { h with recordCount := 0 }
  let outcome := requestUpload w (sent built)
  if outcome.accepted then
    match h.awaitResponse outcome.records with
    | none => none
    | some h =>
      -- ignore returned payload length, use one supplied in request
      let copied := List.range' sizeofXscopeHeader payload.length
      some ⟨controlSuccess + h.responseRet, copied.map h.responseByte, copied, h, outcome.world⟩
  else some ⟨controlError, payload, [], h, outcome.world⟩

end Commands

/-! ### Waiting for a response -/

section Await

/-- The records on the probe of the device. -/
def XscopeHost.responses (h : XscopeHost) (records : List XscopeRecord) : List XscopeRecord :=
  records.filter fun r => h.probeIdSet = true ∧ r.id = h.probeId

/-- The records on the probe are counted, and the last one is kept. -/
theorem foldl_recordCallback (h : XscopeHost) (records : List XscopeRecord) :
    records.foldl XscopeHost.recordCallback h
      = { h with
          recordCount := h.recordCount + (h.responses records).length
          lastResponse := ((h.responses records).getLast?.map XscopeRecord.databytes).getD
            h.lastResponse } := by
  induction records using List.reverseRecOn with
  | nil => rfl
  | append_singleton records r ih =>
    rw [List.foldl_append, ih, List.foldl_cons, List.foldl_nil, XscopeHost.responses,
      XscopeHost.responses, List.filter_append]
    by_cases h_probe : h.probeIdSet = true ∧ r.id = h.probeId
    · rw [XscopeHost.recordCallback, if_pos h_probe,
        List.filter_cons_of_pos (by simpa using h_probe), List.filter_nil, List.length_append,
        List.getLast?_concat]
      rfl
    · rw [XscopeHost.recordCallback, if_neg h_probe,
        List.filter_cons_of_neg (by simpa using h_probe), List.filter_nil, List.append_nil]

/-- From a count of zero, the host goes on with the last record on the probe, if there is one. -/
theorem awaitResponse_zero (h : XscopeHost) (records : List XscopeRecord) :
    { h with recordCount := 0 }.awaitResponse records
      = (h.responses records).getLast?.map fun r =>
          { h with recordCount := (h.responses records).length, lastResponse := r.databytes } := by
  -- the callback counts the responses and keeps the last one
  have h_fold : records.foldl XscopeHost.recordCallback { h with recordCount := 0 }
      = { h with
          recordCount := (h.responses records).length
          lastResponse := ((h.responses records).getLast?.map XscopeRecord.databytes).getD
            h.lastResponse } := by
    rw [foldl_recordCallback]
    dsimp only
    rw [Nat.zero_add]
    rfl
  dsimp only [XscopeHost.awaitResponse]
  rw [h_fold]
  dsimp only
  cases h_last : (h.responses records).getLast? with
  | none =>
    -- nothing has come, so the host goes on waiting
    have h_nil : h.responses records = [] := List.getLast?_eq_none_iff.mp h_last
    rw [h_nil]
    rfl
  | some r =>
    have h_ne : (h.responses records).length ≠ 0 := by
      intro h_len
      rw [List.length_eq_zero_iff.mp h_len] at h_last
      cases h_last
    rw [if_neg h_ne]
    rfl

end Await

/-! ### An error-free link -/

/-- The endpoint accepts every upload that fits into the buffer of the adapter, brings it to the
device, and brings the answer of the adapter back as the one record on the probe. -/
structure XscopeDelivers {σ W : Type} (tasks : UserTasks σ)
    (requestUpload : W → List UInt8 → XscopeOutcome W) (server : W → XscopeServer σ)
    (h : XscopeHost) : Prop where
  accepted : ∀ w bytes, bytes ≠ [] → bytes.length ≤ xscopeUploadMaxBytes →
    (requestUpload w bytes).accepted = true
  records : ∀ w bytes, bytes ≠ [] → bytes.length ≤ xscopeUploadMaxBytes →
    (h.responses (requestUpload w bytes).records).map XscopeRecord.databytes
      = (xscopeControlClient tasks (server w) bytes).1.toList
  served : ∀ w bytes, bytes ≠ [] → bytes.length ≤ xscopeUploadMaxBytes →
    server (requestUpload w bytes).world = (xscopeControlClient tasks (server w) bytes).2

/-- The bytes that `control_read_command` uploads. -/
def xscopeReadUpload (b : XscopeBuffer) (resid : ControlResid) (cmd : ControlCmd)
    (payloadLen : ℕ) : List UInt8 :=
  sent (controlXscopeCreateUploadBuffer b (controlCmdSetRead cmd) resid none (payloadLen % 2 ^ 32))

section Delivered

variable {σ W : Type} {tasks : UserTasks σ} {requestUpload : W → List UInt8 → XscopeOutcome W}
  {server : W → XscopeServer σ} {h : XscopeHost}

/-- A read returns with this response. -/
structure XscopeRead.Answered (r : XscopeRead W) (h : XscopeHost) (payloadLen : ℕ)
    (out : List UInt8) : Prop where
  response : r.host.lastResponse = out
  heap : r.host.heap = h.heap
  ret : r.ret = r.host.responseRet
  copied : r.copied = List.range' sizeofXscopeHeader payloadLen
  payload : r.payload = r.copied.map r.host.responseByte

/-- Over an error-free link a read returns with the answer of the adapter. -/
theorem XscopeDelivers.answered (h_link : XscopeDelivers tasks requestUpload server h) {w : W}
    {b : XscopeBuffer} {resid : ControlResid} {cmd : ControlCmd} {payload out : List UInt8}
    (h_some : xscopeReadUpload b resid cmd payload.length ≠ [])
    (h_out : (xscopeControlClient tasks (server w)
      (xscopeReadUpload b resid cmd payload.length)).1 = some out) :
    ∃ r, h.controlReadCommand requestUpload w b resid cmd payload = some r ∧
      r.Answered h payload.length out := by
  set bytes := xscopeReadUpload b resid cmd payload.length with h_bytes
  have h_fits : bytes.length ≤ xscopeUploadMaxBytes := by
    rw [h_bytes, xscopeReadUpload, sent, Buffer.length_front]
    exact min_le_right _ _
  -- the answer is the one record on the probe
  have h_records := h_link.records w bytes h_some h_fits
  rw [h_out, Option.toList_some] at h_records
  obtain ⟨record, h_responses, rfl⟩ := List.map_eq_singleton_iff.mp h_records
  have h_accepted := h_link.accepted w bytes h_some h_fits
  dsimp only [XscopeHost.controlReadCommand]
  rw [← xscopeReadUpload, ← h_bytes, h_accepted, awaitResponse_zero, h_responses]
  exact ⟨_, rfl, rfl, rfl, UInt8.zero_add _, rfl, rfl⟩

end Delivered

/-- The link that does just this, for a host that knows the probe. -/
def xscopeLink {σ : Type} (tasks : UserTasks σ) (probeId : UInt32) (server : XscopeServer σ)
    (bytes : List UInt8) : XscopeOutcome (XscopeServer σ) where
  accepted := true
  records := ((xscopeControlClient tasks server bytes).1.toList).map fun out => ⟨probeId, out⟩
  world := (xscopeControlClient tasks server bytes).2

theorem xscopeLink_delivers {σ : Type} (tasks : UserTasks σ) {h : XscopeHost}
    (h_set : h.probeIdSet = true) :
    XscopeDelivers tasks (xscopeLink tasks h.probeId) id h := by
  refine ⟨fun _ _ _ _ => rfl, fun server bytes _ _ => ?_, fun _ _ _ _ => rfl⟩
  dsimp only [xscopeLink, XscopeHost.responses, id]
  cases (xscopeControlClient tasks server bytes).1 with
  | none => rfl
  | some out => simp [h_set]

end DeviceControl
