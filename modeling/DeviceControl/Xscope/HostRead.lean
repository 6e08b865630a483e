import DeviceControl.Host.Xscope
import DeviceControl.Xscope.Upload

/-!
# The response to a read over xSCOPE

The adapter sends the data of a read behind the header of its response, and nothing but the header
if the read has failed. The host does not look at the length of the response: it copies as many
bytes as it has asked for from behind the header, whatever the device has answered.

`xscope_hostRead_iff` says when that stays within the response, for a host and a device with an
error-free link between them.
-/

namespace DeviceControl

variable {σ W : Type} {tasks : UserTasks σ}

/-! ### The answer of the adapter -/

/-- The array of the adapter after an upload has been received into it. -/
def XscopeServer.upload (s : XscopeServer σ) (received : List UInt8) : XscopeBuffer :=
  s.buffer.copy 0 received

/-- The answer to the read in `buf`. It has the data behind its header after success, and nothing
there otherwise; its return value is that of the read if there was one. -/
structure XscopeReadAnswer (tasks : UserTasks σ) (d : Device σ) (buf : XscopeBuffer)
    (out : List UInt8) : Prop where
  succeeds : ReadSucceeds tasks d buf.resid buf.cmd buf.data buf.payloadLen.toNat →
    out.length = min (sizeofXscopeHeader + buf.payloadLen.toNat) xscopeUploadMaxBytes
  fails : ¬ ReadSucceeds tasks d buf.resid buf.cmd buf.data buf.payloadLen.toNat →
    out.length = sizeofXscopeHeader
  ret : ∀ ifnum, resourceTableSearch d.table buf.resid = some ifnum → out[3]? = some
    (readCommand tasks d ifnum buf.resid buf.cmd buf.data buf.payloadLen.toNat).reply.ret
  /-- The path for an unknown resource does not store a return value. -/
  pad : resourceTableSearch d.table buf.resid = none → out[3]? = some buf.pad

/-- A resource that is not found is answered with the header of the request. -/
theorem readAnswer_unknown {d : Device σ} {buf : XscopeBuffer}
    (h_search : resourceTableSearch d.table buf.resid = none) :
    XscopeReadAnswer tasks d buf (buf.toList.take sizeofXscopeHeader) := by
  constructor
  case succeeds =>
    rintro ⟨ifnum, h_some, -⟩
    rw [h_search] at h_some
    cases h_some
  case fails =>
    intro _
    rw [List.length_take, Vector.length_toList]
    rfl
  case ret =>
    intro ifnum h_some
    rw [h_search] at h_some
    cases h_some
  case pad =>
    intro _
    rw [List.getElem?_take_of_lt (by decide), Vector.getElem?_toList,
      Vector.getElem?_eq_getElem (by decide)]
    rfl

/-- What the adapter returns of a read that has been performed. -/
abbrev xscopeReturnSize (ret : ControlRet) (n : ℕ) : ℕ :=
  if ret = controlSuccess then sizeofXscopeHeader + n else sizeofXscopeHeader

theorem lt_xscopeReturnSize (ret : ControlRet) (n : ℕ) : 3 < xscopeReturnSize ret n := by
  obtain ⟨h_header, -⟩ := xscope_sizes
  unfold xscopeReturnSize
  split <;> omega

/-- A resource that is found is answered with the response to its read. -/
theorem readAnswer_found {d : Device σ} {buf : XscopeBuffer} {ifnum : UInt8}
    (h_search : resourceTableSearch d.table buf.resid = some ifnum) :
    let r := readCommand tasks d ifnum buf.resid buf.cmd buf.data buf.payloadLen.toNat
    XscopeReadAnswer tasks d buf (((buf.setData r.payload).setRet r.reply.ret).toList.take
      (xscopeReturnSize r.reply.ret buf.payloadLen.toNat)) := by
  intro r
  set out := (buf.setData r.payload).setRet r.reply.ret
  have h_length (n : ℕ) : (out.toList.take n).length = min n xscopeUploadMaxBytes := by
    rw [List.length_take, Vector.length_toList]
  -- the resource has one owner, so there is one answer to speak of
  have h_iff : ReadSucceeds tasks d buf.resid buf.cmd buf.data buf.payloadLen.toNat ↔
      r.reply.ret = controlSuccess := by
    constructor
    · rintro ⟨ifnum', h_some, h_ret⟩
      obtain rfl := Option.some.inj (h_search.symm.trans h_some)
      exact h_ret
    · exact fun h_ret => ⟨ifnum, h_search, h_ret⟩
  constructor
  case succeeds =>
    intro h_succeeds
    rw [h_length, xscopeReturnSize, if_pos (h_iff.mp h_succeeds)]
  case fails =>
    intro h_fails
    rw [h_length, xscopeReturnSize, if_neg fun h_ret => h_fails (h_iff.mpr h_ret)]
    rfl
  case ret =>
    intro ifnum' h_some
    obtain rfl := Option.some.inj (h_search.symm.trans h_some)
    rw [List.getElem?_take_of_lt (lt_xscopeReturnSize _ _)]
    exact XscopeBuffer.getElem?_setRet ..
  case pad =>
    intro h_none
    rw [h_search] at h_none
    cases h_none

/-- The adapter answers a read. -/
theorem exists_readAnswer (s : XscopeServer σ) (received : List UInt8)
    (h_read : isControlCmdRead (s.upload received).cmd = true) :
    ∃ out, (xscopeControlClient tasks s received).1 = some out ∧
      XscopeReadAnswer tasks s.device (s.upload received) out := by
  set buf := s.upload received with h_buf
  dsimp only [xscopeControlClient]
  rw [← XscopeServer.upload, ← h_buf]
  cases h_search : resourceTableSearch s.device.table buf.resid with
  | none =>
    rw [xscopeUpload_none _ _ h_search]
    exact ⟨_, rfl, readAnswer_unknown h_search⟩
  | some ifnum =>
    rw [xscopeUpload_read _ _ h_search h_read]
    -- there is always something to return
    exact ⟨_, if_pos (Nat.zero_lt_of_lt (lt_xscopeReturnSize _ _)), readAnswer_found h_search⟩

/-! ### What the host copies -/

/-- The host has copied only bytes that the device has sent, and has left the payload as it was if
the device has reported an error. -/
structure HostReadsSent (tasks : UserTasks σ) (s : XscopeServer σ) (uploaded payload : List UInt8)
    (r : XscopeRead W) : Prop where
  below : ∀ i ∈ r.copied, i < r.host.lastResponse.length
  kept : (controlProcessXscopeUpload tasks (s.upload uploaded) xscopeUploadMaxBytes uploaded.length
    s.device).2.ret ≠ controlSuccess → r.payload = payload

section Copied

variable {requestUpload : W → List UInt8 → XscopeOutcome W} {server : W → XscopeServer σ}
  {h : XscopeHost} {w : W} {b : XscopeBuffer} {resid : ControlResid} {cmd : ControlCmd}
  {payload : List UInt8}

/-- The builder accepts the length of a read that is at most 64 after the cast. -/
theorem le_of_built_ne_zero {len : ℕ}
    (h_accepted :
      (controlXscopeCreateUploadBuffer b (controlCmdSetRead cmd) resid none len).1 ≠ 0) :
    len ≤ xscopeUploadMaxWords := by
  by_contra h_long
  apply h_accepted
  rw [controlXscopeCreateUploadBuffer, if_pos (Nat.lt_of_not_le h_long)]

/-- A read is uploaded as its header. -/
theorem readUpload_eq {len : ℕ} (h_len : len % 2 ^ 32 ≤ xscopeUploadMaxWords) :
    xscopeReadUpload b resid cmd len
      = [resid, controlCmdSetRead cmd, UInt8.ofNat (len % 2 ^ 32), b.pad] :=
  sent_xscope_read b (isControlCmdRead_setRead cmd) none h_len

/-- The fields that the device finds in the upload of a read. -/
theorem readUpload_fields (s : XscopeServer σ) {len : ℕ}
    (h_len : len % 2 ^ 32 ≤ xscopeUploadMaxWords) :
    let buf := s.upload (xscopeReadUpload b resid cmd len)
    buf.resid = resid ∧ buf.cmd = controlCmdSetRead cmd ∧
      buf.payloadLen.toNat = len % 2 ^ 32 ∧ buf.pad = b.pad := by
  intro buf
  have h_front : buf.front (sizeofXscopeHeader + ([] : List UInt8).length)
      = [resid, controlCmdSetRead cmd, UInt8.ofNat (len % 2 ^ 32), b.pad] := by
    show (Buffer.copy _ 0 (xscopeReadUpload b resid cmd len)).front _ = _
    rw [readUpload_eq h_len]
    exact Buffer.front_copy_zero _ (by simp)
  obtain ⟨h_resid, h_cmd, h_plen, -⟩ := XscopeBuffer.fields_of_front h_front
  have h_pad : (buf.front 4)[3]? = some b.pad := by
    rw [show buf.front 4 = _ from h_front]
    rfl
  rw [Buffer.getElem?_front _ (by decide), Vector.getElem?_eq_getElem (by decide)] at h_pad
  refine ⟨h_resid, h_cmd, ?_, Option.some.inj h_pad⟩
  rw [h_plen, toNat_ofNat_of_le (h_len.trans (by decide))]

theorem readUpload_ne_nil {len : ℕ} (h_len : len % 2 ^ 32 ≤ xscopeUploadMaxWords) :
    xscopeReadUpload b resid cmd len ≠ [] := by
  rw [readUpload_eq h_len]
  exact List.cons_ne_nil _ _

/-- What is copied from behind a header stays within a response that is long enough. -/
theorem copied_below_iff {n len : ℕ} :
    (∀ i ∈ List.range' sizeofXscopeHeader n, i < len) ↔ n = 0 ∨ sizeofXscopeHeader + n ≤ len := by
  constructor
  · intro h_below
    by_cases h_zero : n = 0
    · exact Or.inl h_zero
    -- the last index
    have h_last : sizeofXscopeHeader + (n - 1) ∈ List.range' sizeofXscopeHeader n :=
      List.mem_range'_1.mpr ⟨by omega, by omega⟩
    have h_lt := h_below _ h_last
    exact Or.inr (by omega)
  · intro h_fits i h_mem
    obtain ⟨h_ge, h_lt⟩ := List.mem_range'_1.mp h_mem
    omega

/-- The device returns success for a read that succeeds. -/
theorem ReadSucceeds.uploadRet {d : Device σ} {buf : XscopeBuffer} (bufSize lengthIn : ℕ)
    (h_read : isControlCmdRead buf.cmd = true)
    (h : ReadSucceeds tasks d buf.resid buf.cmd buf.data buf.payloadLen.toNat) :
    (controlProcessXscopeUpload tasks buf bufSize lengthIn d).2.ret = controlSuccess := by
  obtain ⟨ifnum, h_search, h_ret⟩ := h
  rw [xscopeUpload_read _ _ h_search h_read]
  exact h_ret

/-- **What the host reads.** It reads only what the device has sent exactly if it has asked for
nothing, or if the device has read just as much for it with success. -/
theorem xscope_hostRead_iff (h_link : XscopeDelivers tasks requestUpload server h)
    (h_read : isControlCmdRead cmd = true)
    (h_accepted : (controlXscopeCreateUploadBuffer b (controlCmdSetRead cmd) resid none
      (payload.length % 2 ^ 32)).1 ≠ 0) :
    let uploaded := xscopeReadUpload b resid cmd payload.length
    ∃ r, h.controlReadCommand requestUpload w b resid cmd payload = some r ∧
      (HostReadsSent tasks (server w) uploaded payload r ↔
        payload.length = 0 ∨ payload.length < 2 ^ 32 ∧
          ReadSucceeds tasks (server w).device resid cmd ((server w).upload uploaded).data
            payload.length) := by
  intro uploaded
  have h_len := le_of_built_ne_zero h_accepted
  -- what the device finds in its buffer is what the host has put there
  obtain ⟨h_resid, h_cmd, h_plen, -⟩ :
      ((server w).upload uploaded).resid = resid ∧
        ((server w).upload uploaded).cmd = controlCmdSetRead cmd ∧
        ((server w).upload uploaded).payloadLen.toNat = payload.length % 2 ^ 32 ∧
        ((server w).upload uploaded).pad = b.pad :=
    readUpload_fields (server w) h_len
  rw [controlCmdSetRead_of_read h_read] at h_cmd
  have h_dir : isControlCmdRead ((server w).upload uploaded).cmd = true := by
    rw [h_cmd]
    exact h_read
  obtain ⟨out, h_out, h_answer⟩ := exists_readAnswer (server w) uploaded h_dir
  set buf := (server w).upload uploaded with h_buf
  obtain ⟨r, h_run, h_r⟩ := h_link.answered (readUpload_ne_nil h_len) h_out
  refine ⟨r, h_run, ?_⟩
  -- the host stays inside of the response if that has the header and the payload
  have h_below : (∀ i ∈ r.copied, i < r.host.lastResponse.length) ↔
      payload.length = 0 ∨ sizeofXscopeHeader + payload.length ≤ out.length := by
    rw [h_r.copied, h_r.response]
    exact copied_below_iff
  obtain ⟨h_header, h_words, h_bytes, -⟩ := xscope_sizes
  constructor
  · intro h_sent
    rcases h_below.mp h_sent.below with h_zero | h_le
    · exact Or.inl h_zero
    by_cases h_succ : ReadSucceeds tasks (server w).device buf.resid buf.cmd buf.data
      buf.payloadLen.toNat
    · -- the device has sent as much as the cast has left of the length
      have h_length := h_answer.succeeds h_succ
      have h_lt : payload.length < 2 ^ 32 := by omega
      rw [h_resid, h_cmd, h_plen, Nat.mod_eq_of_lt h_lt] at h_succ
      exact Or.inr ⟨h_lt, h_succ⟩
    · have h_length := h_answer.fails h_succ
      exact Or.inl (by omega)
  · -- conversely a read of nothing copies nothing, and one that succeeds is answered in full
    rintro (h_zero | ⟨h_lt, h_succ⟩)
    · refine ⟨h_below.mpr (Or.inl h_zero), fun _ => ?_⟩
      rw [h_r.payload, h_r.copied, List.length_eq_zero_iff.mp h_zero]
      rfl
    · have h_fields : ReadSucceeds tasks (server w).device buf.resid buf.cmd buf.data
          buf.payloadLen.toNat := by
        rw [h_resid, h_cmd, h_plen, Nat.mod_eq_of_lt h_lt]
        exact h_succ
      have h_length := h_answer.succeeds h_fields
      exact ⟨h_below.mpr (Or.inr (by omega)), fun h_error =>
        absurd (h_fields.uploadRet _ _ h_dir) h_error⟩

end Copied

/-- A read of two bytes that a user task answers with success. -/
theorem xscope_hostRead_success :
    let tasks : UserTasks Unit := .always controlSuccess [7, 8]
    let server : XscopeServer Unit := ⟨boot [[3]] (), Buffer.ofList 0 []⟩
    let host : XscopeHost := ⟨1, true, 0, [], fun _ => 0xaa⟩
    let b : XscopeBuffer := Buffer.ofList 0 []
    ∃ r, host.controlReadCommand (xscopeLink tasks host.probeId) server b 3 0x85 [0, 0] = some r ∧
      HostReadsSent tasks server (xscopeReadUpload b 3 0x85 2) [0, 0] r := by
  intro tasks server host b
  have h_link : XscopeDelivers tasks (xscopeLink tasks host.probeId) id host :=
    xscopeLink_delivers tasks rfl
  have h_read : isControlCmdRead 0x85 = true := by decide
  have h_accepted : (controlXscopeCreateUploadBuffer b (controlCmdSetRead 0x85) 3 none
      (([0, 0] : List UInt8).length % 2 ^ 32)).1 ≠ 0 := by decide +kernel
  have h_succ : ReadSucceeds tasks server.device 3 0x85
      (server.upload (xscopeReadUpload b 3 0x85 2)).data 2 :=
    ⟨0, by decide +kernel, by decide +kernel⟩
  obtain ⟨r, h_run, h_iff⟩ := xscope_hostRead_iff (w := server) h_link h_read h_accepted
  exact ⟨r, h_run, h_iff.mpr (Or.inr ⟨by decide, h_succ⟩)⟩

/-- A read of two bytes that a user task refuses: the host copies two bytes from behind the
response, over a payload that should have been left alone. -/
theorem xscope_hostRead_behind :
    let tasks : UserTasks Unit := .always controlError []
    let server : XscopeServer Unit := ⟨boot [[3]] (), Buffer.ofList 0 []⟩
    let host : XscopeHost := ⟨1, true, 0, [], fun _ => 0xaa⟩
    let b : XscopeBuffer := Buffer.ofList 0 []
    ∃ r, host.controlReadCommand (xscopeLink tasks host.probeId) server b 3 0x85 [0, 0] = some r ∧
      r.ret = controlError ∧ r.host.lastResponse.length = 4 ∧ r.copied = [4, 5] ∧
      r.payload = [0xaa, 0xaa] ∧
      ¬ HostReadsSent tasks server (xscopeReadUpload b 3 0x85 2) [0, 0] r := by
  intro tasks server host b
  have h_link : XscopeDelivers tasks (xscopeLink tasks host.probeId) id host :=
    xscopeLink_delivers tasks rfl
  have h_some : xscopeReadUpload b 3 0x85 ([0, 0] : List UInt8).length ≠ [] := by decide +kernel
  have h_out : (xscopeControlClient tasks server
      (xscopeReadUpload b 3 0x85 ([0, 0] : List UInt8).length)).1
      = some [3, 0x85, 2, controlError] := by decide +kernel
  obtain ⟨r, h_run, h_r⟩ := h_link.answered (w := server) h_some h_out
  have h_copied : r.copied = [4, 5] := h_r.copied
  have h_length : r.host.lastResponse.length = 4 := by
    rw [h_r.response]
    rfl
  refine ⟨r, h_run, ?_, h_length, h_copied, ?_, fun h_sent => ?_⟩
  · rw [h_r.ret, XscopeHost.responseRet, XscopeHost.responseByte, h_r.response]
    rfl
  · rw [h_r.payload, h_copied, List.map_cons, List.map_singleton, XscopeHost.responseByte,
      XscopeHost.responseByte, h_r.response, h_r.heap]
    rfl
  · have h_lt := h_sent.below 4 (by rw [h_copied]; exact List.mem_cons_self ..)
    rw [h_length] at h_lt
    exact absurd h_lt (by decide)

end DeviceControl
