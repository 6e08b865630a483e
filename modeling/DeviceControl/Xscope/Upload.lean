import DeviceControl.Control.Calls

/-!
# The buffer of an xSCOPE upload

The device receives an upload into a buffer of 256 bytes, `control_process_xscope_upload` answers it
in the same buffer, and the adapter sends as many bytes of it back as the function says. Two
questions about that buffer have the length byte of the upload in common.

`xscope_response_iff`: whether the response tells the host what the function returned. The return
value of the response stands where the request has its padding, and the path for an unknown
resource does not store it.

`xscope_staysInside_iff`: whether what is handed to `read_command` or `write_command`, and what is
sent back, lies inside the buffer. The length byte may be up to 255, and 252 bytes follow the
header.
-/

namespace DeviceControl

variable {σ : Type} {tasks : UserTasks σ}

/-! ### The response -/

/-- The reply leaves a response to the request in `buf` that carries the value returned, and has
data behind its header exactly after a read that succeeded. -/
def XscopeResponseExact (buf : XscopeBuffer) (reply : Reply) : Prop :=
  ∃ out lengthOut, reply.output = .xscopeData out lengthOut ∧
    out[3]? = some reply.ret ∧ out.take 3 = buf.front 3 ∧
    lengthOut = if isControlCmdRead buf.cmd = true ∧ reply.ret = controlSuccess
      then sizeofXscopeHeader + buf.payloadLen.toNat else sizeofXscopeHeader

namespace XscopeBuffer

variable (buf : XscopeBuffer) (ret : ControlRet)

theorem getElem?_setRet : (buf.setRet ret).toList[3]? = some ret := by
  rw [setRet, Vector.toList_set, List.getElem?_set_self (by rw [Vector.length_toList]; decide)]

theorem take_setRet : (buf.setRet ret).toList.take 3 = buf.front 3 := by
  rw [setRet, Vector.toList_set, List.take_set_of_le le_rfl, Buffer.front]

/-- A callee that writes behind the header leaves the header alone. -/
theorem front_setData (data : Buffer UInt8 xscopeDataMaxBytes) :
    (buf.setData data).front sizeofXscopeHeader = buf.front sizeofXscopeHeader := by
  refine List.ext_getElem? fun i => ?_
  by_cases h : i < sizeofXscopeHeader
  · have h_i : i < xscopeUploadMaxBytes := h.trans (by decide)
    rw [Buffer.getElem?_front _ h, Buffer.getElem?_front _ h, setData, Vector.getElem?_ofFn,
      dif_pos h_i, dif_pos h, Vector.getElem?_eq_getElem h_i]
    rfl
  · rw [List.getElem?_eq_none (by simp; omega), List.getElem?_eq_none (by simp; omega)]

theorem front_setData_three (data : Buffer UInt8 xscopeDataMaxBytes) :
    (buf.setData data).front 3 = buf.front 3 := by
  have h_take (b : XscopeBuffer) : b.front 3 = (b.front sizeofXscopeHeader).take 3 := by
    rw [Buffer.front, Buffer.front, List.take_take]
    rfl
  rw [h_take, h_take, front_setData]

end XscopeBuffer

section Response

variable {buf : XscopeBuffer} {d : Device σ} (bufSize lengthIn : ℕ)

/-- For a resource that is found the return value is stored, by a read and by a write. -/
theorem responseExact_of_some {ifnum : UInt8}
    (h : resourceTableSearch d.table buf.resid = some ifnum) :
    XscopeResponseExact buf (controlProcessXscopeUpload tasks buf bufSize lengthIn d).2 := by
  cases h_dir : isControlCmdRead buf.cmd with
  | false =>
    rw [xscopeUpload_write bufSize lengthIn h h_dir]
    refine ⟨_, _, rfl, XscopeBuffer.getElem?_setRet .., XscopeBuffer.take_setRet .., ?_⟩
    rw [h_dir, if_neg (by simp)]
  | true =>
    rw [xscopeUpload_read bufSize lengthIn h h_dir]
    refine ⟨_, _, rfl, XscopeBuffer.getElem?_setRet .., ?_, ?_⟩
    · rw [XscopeBuffer.take_setRet, XscopeBuffer.front_setData_three]
    · rw [h_dir]
      simp

/-- For an unknown resource the response is the request, with whatever its padding is. -/
theorem responseExact_iff_of_none (h : resourceTableSearch d.table buf.resid = none) :
    XscopeResponseExact buf (controlProcessXscopeUpload tasks buf bufSize lengthIn d).2 ↔
      buf.pad = controlBadCommand := by
  have h_pad : buf.toList[3]? = some buf.pad := by
    rw [Vector.getElem?_toList, XscopeBuffer.pad, Vector.getElem?_eq_getElem (by decide)]
  rw [xscopeUpload_none bufSize lengthIn h]
  constructor
  · rintro ⟨out, lengthOut, h_out, h_ret, -⟩
    obtain ⟨rfl, rfl⟩ := Output.xscopeData.inj h_out
    exact Option.some.inj (h_pad.symm.trans h_ret)
  · intro h_bad
    refine ⟨_, _, rfl, by rw [h_pad, h_bad], rfl, ?_⟩
    have h_ret : controlBadCommand ≠ controlSuccess := by decide
    exact (if_neg fun h_success => h_ret h_success.2).symm

/-- **The response.** It carries the result of the upload exactly if the resource is found, or the
padding of the request happened to hold `CONTROL_BAD_COMMAND`. -/
theorem xscope_response_iff (buf : XscopeBuffer) (bufSize lengthIn : ℕ) (d : Device σ) :
    XscopeResponseExact buf (controlProcessXscopeUpload tasks buf bufSize lengthIn d).2 ↔
      (resourceTableSearch d.table buf.resid).isSome ∨ buf.pad = controlBadCommand := by
  cases h : resourceTableSearch d.table buf.resid with
  | none => simp [responseExact_iff_of_none bufSize lengthIn h]
  | some ifnum => simp [responseExact_of_some bufSize lengthIn h]

/-- An upload for an unknown resource, with a padding of zero: the function returns
`CONTROL_BAD_COMMAND`, and its response says `CONTROL_SUCCESS`. -/
theorem xscope_response_lies :
    let tasks : UserTasks Unit := .always controlSuccess []
    let buf : XscopeBuffer := Buffer.ofList 0 [9, 5, 0, 0]
    let reply := (controlProcessXscopeUpload tasks buf xscopeUploadMaxBytes 4 (boot [[3]] ())).2
    reply.ret = controlBadCommand ∧
      (∃ out, reply.output = .xscopeData out sizeofXscopeHeader ∧ out[3]? = some controlSuccess) ∧
      ¬ XscopeResponseExact buf reply := by
  intro tasks buf reply
  have h_none : resourceTableSearch (boot [[3]] ()).table buf.resid = none := by decide +kernel
  have h_reply : reply
      = { ret := controlBadCommand, output := .xscopeData buf.toList sizeofXscopeHeader } :=
    congrArg Prod.snd (xscopeUpload_none xscopeUploadMaxBytes 4 h_none)
  refine ⟨by rw [h_reply], ⟨buf.toList, by rw [h_reply], by decide +kernel⟩, fun h => ?_⟩
  exact absurd ((responseExact_iff_of_none xscopeUploadMaxBytes 4 h_none).mp h) (by decide +kernel)

end Response

/-! ### The bounds -/

/-- What `control_process_xscope_upload` hands to `read_command` or `write_command`, if it gets that
far: the offset of the array in its buffer and the length. -/
def xscopeHandover (t : ResourceTable) (buf : XscopeBuffer) : Option (ℕ × ℕ) :=
  (resourceTableSearch t buf.resid).map fun _ => (sizeofXscopeHeader, buf.payloadLen.toNat)

/-- What is handed over is what the function passes on: the array behind the offset and the length
are the arguments of its one call of `read_command` or of `write_command`, which does the rest.
Where nothing is handed over, neither of the two is called. -/
structure HandsOver (tasks : UserTasks σ) (d : Device σ) (buf : XscopeBuffer)
    (result : Device σ × Reply) : Prop where
  read : ∀ offset len, xscopeHandover d.table buf = some (offset, len) →
    isControlCmdRead buf.cmd = true → offset = sizeofXscopeHeader ∧
      ∃ ifnum, resourceTableSearch d.table buf.resid = some ifnum ∧
        let r := readCommand tasks d ifnum buf.resid buf.cmd buf.data len
        result.1 = r.device ∧ result.2.ret = r.reply.ret ∧ result.2.calls = r.reply.calls ∧
          result.2.accesses = r.reply.accesses
  write : ∀ offset len, xscopeHandover d.table buf = some (offset, len) →
    isControlCmdRead buf.cmd = false → offset = sizeofXscopeHeader ∧
      ∃ ifnum, resourceTableSearch d.table buf.resid = some ifnum ∧
        let r := writeCommand tasks d ifnum buf.resid buf.cmd buf.data len
        result.1 = r.1 ∧ result.2.ret = r.2.ret ∧ result.2.calls = r.2.calls ∧
          result.2.accesses = r.2.accesses
  none : xscopeHandover d.table buf = none → result.1 = d ∧ result.2.calls = []

/-- An upload keeps inside its buffer: what is handed over, to the library's own functions and by
them to the user tasks, and what is sent back. -/
structure XscopeStaysInside (t : ResourceTable) (buf : XscopeBuffer) (bufSize : ℕ) (reply : Reply) :
    Prop where
  handover : ∀ offset len, xscopeHandover t buf = some (offset, len) → offset + len ≤ bufSize
  calls : ∀ call ∈ reply.calls, sizeofXscopeHeader + call.request.payloadLen ≤ bufSize
  lengthOut : ∀ out lengthOut, reply.output = .xscopeData out lengthOut → lengthOut ≤ bufSize

section Bounds

variable {buf : XscopeBuffer} {d : Device σ} (bufSize lengthIn : ℕ)

theorem handsOver_xscopeUpload :
    HandsOver tasks d buf (controlProcessXscopeUpload tasks buf bufSize lengthIn d) := by
  constructor
  case read =>
    intro offset len h h_dir
    obtain ⟨ifnum, h_some, h_region⟩ := Option.map_eq_some_iff.mp h
    obtain ⟨rfl, rfl⟩ := Prod.mk.inj h_region
    rw [xscopeUpload_read bufSize lengthIn h_some h_dir]
    exact ⟨rfl, ifnum, h_some, rfl, rfl, rfl, rfl⟩
  case write =>
    intro offset len h h_dir
    obtain ⟨ifnum, h_some, h_region⟩ := Option.map_eq_some_iff.mp h
    obtain ⟨rfl, rfl⟩ := Prod.mk.inj h_region
    rw [xscopeUpload_write bufSize lengthIn h_some h_dir]
    exact ⟨rfl, ifnum, h_some, rfl, rfl, rfl, rfl⟩
  case none =>
    intro h
    rw [xscopeUpload_none bufSize lengthIn (Option.map_eq_none_iff.mp h)]
    exact ⟨rfl, rfl⟩

/-- A user task is handed the whole length of the upload. -/
theorem xscopeUpload_payloadLen {call : UserCall}
    (h_call : call ∈ (controlProcessXscopeUpload tasks buf bufSize lengthIn d).2.calls) :
    call.request.payloadLen = buf.payloadLen.toNat := by
  have h_over : HandsOver tasks d buf (controlProcessXscopeUpload tasks buf bufSize lengthIn d) :=
    handsOver_xscopeUpload bufSize lengthIn
  cases h : xscopeHandover d.table buf with
  | none =>
    rw [(h_over.none h).2] at h_call
    exact absurd h_call List.not_mem_nil
  | some region =>
    obtain ⟨offset, len⟩ := region
    obtain ⟨-, -, h_region⟩ := Option.map_eq_some_iff.mp h
    obtain ⟨-, rfl⟩ := Prod.mk.inj h_region
    cases h_dir : isControlCmdRead buf.cmd with
    | true =>
      obtain ⟨-, ifnum, -, -, -, h_calls, -⟩ := h_over.read offset _ h h_dir
      rw [h_calls] at h_call
      obtain ⟨-, rfl⟩ := mem_calls_readCommand tasks h_call
      rfl
    | false =>
      obtain ⟨-, ifnum, -, -, -, h_calls, -⟩ := h_over.write offset _ h h_dir
      rw [h_calls] at h_call
      obtain ⟨-, rfl⟩ := mem_calls_writeCommand tasks h_call
      rfl

/-- No more is sent back than a header with the length of the upload. -/
theorem xscopeUpload_lengthOut {out : List UInt8} {lengthOut : ℕ}
    (h_out : (controlProcessXscopeUpload tasks buf bufSize lengthIn d).2.output
      = .xscopeData out lengthOut) :
    lengthOut ≤ sizeofXscopeHeader +
      if (resourceTableSearch d.table buf.resid).isSome then buf.payloadLen.toNat else 0 := by
  cases h : resourceTableSearch d.table buf.resid with
  | none =>
    rw [xscopeUpload_none bufSize lengthIn h] at h_out
    rw [← (Output.xscopeData.inj h_out).2]
    exact Nat.le_add_right _ _
  | some ifnum =>
    cases h_dir : isControlCmdRead buf.cmd with
    | false =>
      rw [xscopeUpload_write bufSize lengthIn h h_dir] at h_out
      rw [← (Output.xscopeData.inj h_out).2]
      exact Nat.le_add_right _ _
    | true =>
      rw [xscopeUpload_read bufSize lengthIn h h_dir] at h_out
      rw [← (Output.xscopeData.inj h_out).2, Option.isSome_some, if_pos rfl]
      split
      · exact le_rfl
      · exact Nat.le_add_right _ _

/-- **The bounds.** An upload into the adapter's buffer hands over what `xscopeHandover` says, and
keeps inside the buffer exactly if its resource is unknown or its length byte is at most 252. -/
theorem xscope_staysInside_iff (buf : XscopeBuffer) (lengthIn : ℕ) (d : Device σ) :
    HandsOver tasks d buf (controlProcessXscopeUpload tasks buf xscopeUploadMaxBytes lengthIn d) ∧
    (XscopeStaysInside d.table buf xscopeUploadMaxBytes
        (controlProcessXscopeUpload tasks buf xscopeUploadMaxBytes lengthIn d).2 ↔
      resourceTableSearch d.table buf.resid = none ∨
        buf.payloadLen.toNat ≤ xscopeDataMaxBytes) := by
  obtain ⟨h_header, -, h_bytes, h_max⟩ := xscope_sizes
  refine ⟨handsOver_xscopeUpload _ _, ?_⟩
  constructor
  · intro h_inside
    by_cases h : resourceTableSearch d.table buf.resid = none
    · exact Or.inl h
    · -- the region is handed over for every resource that is found, the special one too
      obtain ⟨ifnum, h_some⟩ := Option.ne_none_iff_exists'.mp h
      have h_le := h_inside.handover sizeofXscopeHeader buf.payloadLen.toNat (by
        rw [xscopeHandover, h_some, Option.map_some])
      exact Or.inr (by omega)
  · -- conversely the three regions are as long as the length byte says
    intro h_or
    have h_le (h_some : (resourceTableSearch d.table buf.resid).isSome) :
        buf.payloadLen.toNat ≤ xscopeDataMaxBytes := by
      rcases h_or with h_none | h_le
      · rw [h_none] at h_some
        exact absurd h_some Bool.false_ne_true
      · exact h_le
    refine ⟨fun offset len h_region => ?_, fun call h_call => ?_, fun out lengthOut h_out => ?_⟩
    · obtain ⟨ifnum, h_some, h_eq⟩ := Option.map_eq_some_iff.mp h_region
      obtain ⟨rfl, rfl⟩ := Prod.mk.inj h_eq
      have h_len := h_le (by rw [h_some]; rfl)
      omega
    · obtain ⟨ifnum, h_some, -⟩ := requestStep_call (xscopeUpload_sound _ _ _ _) h_call
      have h_len := h_le (by rw [h_some]; rfl)
      rw [xscopeUpload_payloadLen _ _ h_call]
      omega
    · have h_out_le := xscopeUpload_lengthOut _ _ h_out
      split at h_out_le
      · next h_some =>
        have h_len := h_le h_some
        omega
      · omega

/-- A read of 255 bytes: three bytes behind the buffer are handed over, and sent back. -/
theorem xscope_upload_overruns :
    let tasks : UserTasks Unit := .always controlSuccess []
    let buf : XscopeBuffer := Buffer.ofList 0 [3, 0x85, 255, 0]
    let reply := (controlProcessXscopeUpload tasks buf xscopeUploadMaxBytes 4 (boot [[3]] ())).2
    (∃ call ∈ reply.calls, call.request = readRequest 0 3 0x85 255) ∧
      (∃ out, reply.output = .xscopeData out 259) ∧
      ¬ XscopeStaysInside (boot [[3]] ()).table buf xscopeUploadMaxBytes reply := by
  intro tasks buf reply
  have h_some : resourceTableSearch (boot [[3]] ()).table buf.resid = some 0 := by decide +kernel
  have h_len : buf.payloadLen.toNat = 255 := by decide +kernel
  have h_read : isControlCmdRead buf.cmd = true := by decide +kernel
  refine ⟨by decide +kernel, ?_, fun h => ?_⟩
  · change ∃ out, (controlProcessXscopeUpload tasks buf _ _ _).2.output = _
    rw [xscopeUpload_read _ _ h_some h_read]
    dsimp only
    rw [h_len, if_pos (by decide +kernel)]
    exact ⟨_, rfl⟩
  · have h_le := h.handover sizeofXscopeHeader 255 (by
      rw [xscopeHandover, h_some, h_len, Option.map_some])
    exact absurd h_le (by decide)

end Bounds

end DeviceControl
