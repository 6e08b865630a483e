import DeviceControl.Control.Device

/-!
# The USB and xSCOPE processing functions

These transports hand over a whole command at a time, so their functions keep no state of their
own. The array of an xSCOPE upload holds the request and the response one over the other:
`control_xscope_packet` and `control_xscope_response` agree in the first three bytes, and the
return value of the response stands where the request has its padding.
-/

namespace DeviceControl

variable {σ : Type} (tasks : UserTasks σ)

/-! ### USB -/

/-- `control_process_usb_set_request`. The interface number is unassigned where the search fails,
and it is not used there. -/
def controlProcessUsbSetRequest (windex wvalue wlength : UInt16) {n : ℕ}
    (requestData : Buffer UInt8 n) (d : Device σ) : Device σ × Reply :=
  let resid := windex.toUInt8
  let cmd := wvalue.toUInt8
  let payloadLen := wlength.toNat
  let r : Device σ × Reply :=
    match resourceTableSearch d.table resid with
    | none => (d, { ret := controlBadCommand })
    | some ifnum =>
      if isControlCmdRead cmd then (d, { ret := controlBadCommand })
      else writeCommand tasks d ifnum resid cmd requestData payloadLen
  ({ r.1 with lastStatus := r.2.ret }, r.2)

/-- `control_process_usb_get_request`. -/
def controlProcessUsbGetRequest (windex wvalue wlength : UInt16) {n : ℕ}
    (requestData : Buffer UInt8 n) (d : Device σ) : Device σ × Reply :=
  let resid := windex.toUInt8
  let cmd := wvalue.toUInt8
  let payloadLen := wlength.toNat
  match resourceTableSearch d.table resid with
  | none => (d, { ret := controlBadCommand, output := .usbData requestData.toList })
  | some ifnum =>
    if isControlCmdRead cmd then
      let r := readCommand tasks d ifnum resid cmd requestData payloadLen
      (r.device, { r.reply with output := .usbData r.payload.toList })
    else (d, { ret := controlBadCommand, output := .usbData requestData.toList })

section Found

variable {tasks} {windex wvalue wlength : UInt16} {n : ℕ} {requestData : Buffer UInt8 n}
  {d : Device σ} {ifnum : UInt8}

/-- A set request for a resource that is found, by the direction of its command code. -/
theorem usbSetRequest_found (h : resourceTableSearch d.table windex.toUInt8 = some ifnum) :
    (controlProcessUsbSetRequest tasks windex wvalue wlength requestData d).2
      = if isControlCmdRead wvalue.toUInt8 then { ret := controlBadCommand }
        else (writeCommand tasks d ifnum windex.toUInt8 wvalue.toUInt8 requestData
          wlength.toNat).2 := by
  dsimp only [controlProcessUsbSetRequest]
  rw [h]
  dsimp only
  by_cases h_read : isControlCmdRead wvalue.toUInt8 = true
  · rw [if_pos h_read, if_pos h_read]
  · rw [if_neg h_read, if_neg h_read]

/-- A get request for a resource that is found. -/
theorem usbGetRequest_found (h : resourceTableSearch d.table windex.toUInt8 = some ifnum) :
    (controlProcessUsbGetRequest tasks windex wvalue wlength requestData d).2
      = if isControlCmdRead wvalue.toUInt8 then
          let r := readCommand tasks d ifnum windex.toUInt8 wvalue.toUInt8 requestData wlength.toNat
          { r.reply with output := .usbData r.payload.toList }
        else { ret := controlBadCommand, output := .usbData requestData.toList } := by
  dsimp only [controlProcessUsbGetRequest]
  rw [h]
  dsimp only
  by_cases h_read : isControlCmdRead wvalue.toUInt8 = true
  · rw [if_pos h_read, if_pos h_read]
  · rw [if_neg h_read, if_neg h_read]

end Found

/-! ### xSCOPE -/

/-- `sizeof(struct control_xscope_packet)`, which is `sizeof(struct control_xscope_response)`. -/
abbrev sizeofXscopeHeader : ℕ := 4

/-- The sizes of the upload buffer in bytes and words. -/
theorem xscope_sizes : sizeofXscopeHeader = 4 ∧ xscopeUploadMaxWords = 64 ∧
    xscopeUploadMaxBytes = 256 ∧ xscopeDataMaxBytes = 252 := ⟨rfl, rfl, rfl, rfl⟩

/-- The array of an upload. -/
abbrev XscopeBuffer := Buffer UInt8 xscopeUploadMaxBytes

namespace XscopeBuffer

variable (buf : XscopeBuffer)

def resid : ControlResid := buf[0]
def cmd : ControlCmd := buf[1]
def payloadLen : UInt8 := buf[2]

/-- The padding of a request, where the response has its return value. -/
def pad : UInt8 := buf[3]

/-- The bytes from `buf + 4` on. -/
def data : Buffer UInt8 xscopeDataMaxBytes :=
  Vector.ofFn fun i =>
    have h_i : sizeofXscopeHeader + i.1 < xscopeUploadMaxBytes := Nat.add_lt_of_lt_sub' i.2
    buf[sizeofXscopeHeader + i.1]

/-- The array after a callee has written through `buf + 4`. -/
def setData (data : Buffer UInt8 xscopeDataMaxBytes) : XscopeBuffer :=
  Vector.ofFn fun i =>
    if h : i.1 < sizeofXscopeHeader then buf[i]
    else
      have h_i : i.1 - sizeofXscopeHeader < xscopeDataMaxBytes :=
        Nat.sub_lt_sub_right (Nat.le_of_not_lt h) i.2
      data[i.1 - sizeofXscopeHeader]

/-- `r->ret = ret`. -/
def setRet (ret : ControlRet) : XscopeBuffer := buf.set 3 ret

end XscopeBuffer

/-- `control_process_xscope_upload`. The function looks at neither of its two lengths. -/
def controlProcessXscopeUpload (buf : XscopeBuffer) (_bufSize _lengthIn : ℕ) (d : Device σ) :
    Device σ × Reply :=
  match resourceTableSearch d.table buf.resid with
  | none =>
    (d, { ret := controlBadCommand, output := .xscopeData buf.toList sizeofXscopeHeader })
  | some ifnum =>
    if isControlCmdRead buf.cmd then
      let r := readCommand tasks d ifnum buf.resid buf.cmd buf.data buf.payloadLen.toNat
      let out := (buf.setData r.payload).setRet r.reply.ret
      -- only return data if user task indicated success
      let lengthOut := if r.reply.ret = controlSuccess
        then sizeofXscopeHeader + buf.payloadLen.toNat else sizeofXscopeHeader
      (r.device, { r.reply with output := .xscopeData out.toList lengthOut })
    else
      let r := writeCommand tasks d ifnum buf.resid buf.cmd buf.data buf.payloadLen.toNat
      (r.1, { r.2 with output := .xscopeData (buf.setRet r.2.ret).toList sizeofXscopeHeader })

section Upload

variable {tasks} {buf : XscopeBuffer} {d : Device σ} {ifnum : UInt8} (bufSize lengthIn : ℕ)

/-- An upload for an unknown resource is answered with its own buffer. -/
theorem xscopeUpload_none (h : resourceTableSearch d.table buf.resid = none) :
    controlProcessXscopeUpload tasks buf bufSize lengthIn d
      = (d, { ret := controlBadCommand, output := .xscopeData buf.toList sizeofXscopeHeader }) := by
  rw [controlProcessXscopeUpload, h]

theorem xscopeUpload_read (h : resourceTableSearch d.table buf.resid = some ifnum)
    (h_read : isControlCmdRead buf.cmd = true) :
    controlProcessXscopeUpload tasks buf bufSize lengthIn d
      = (let r := readCommand tasks d ifnum buf.resid buf.cmd buf.data buf.payloadLen.toNat
        (r.device, { r.reply with
          output := .xscopeData ((buf.setData r.payload).setRet r.reply.ret).toList
            (if r.reply.ret = controlSuccess then sizeofXscopeHeader + buf.payloadLen.toNat
              else sizeofXscopeHeader) })) := by
  rw [controlProcessXscopeUpload, h]
  exact if_pos h_read

theorem xscopeUpload_write (h : resourceTableSearch d.table buf.resid = some ifnum)
    (h_write : isControlCmdRead buf.cmd = false) :
    controlProcessXscopeUpload tasks buf bufSize lengthIn d
      = (let r := writeCommand tasks d ifnum buf.resid buf.cmd buf.data buf.payloadLen.toNat
        (r.1, { r.2 with
          output := .xscopeData (buf.setRet r.2.ret).toList sizeofXscopeHeader })) := by
  rw [controlProcessXscopeUpload, h]
  exact if_neg (by rw [h_write]; exact Bool.false_ne_true)

end Upload

/-! ### Transitions -/

/-- The transitions of the three functions, for the command `cmd` of `resid`. They differ in the
array that holds the payload, in what is handed back to the transport and in whether the result is
recorded. -/
inductive RequestStep (tasks : UserTasks σ) (d : Device σ) (resid : ControlResid)
    (cmd : ControlCmd) : Device σ → Reply → Prop
  /-- The resource is unknown, or the request is of the other direction. -/
  | refused (lastStatus : ControlRet) (output : Output) :
      RequestStep tasks d resid cmd { d with lastStatus }
        { ret := controlBadCommand, output }
  | write {n : ℕ} (payload : Buffer UInt8 n) (payloadLen : ℕ) (ifnum : UInt8)
      (lastStatus : ControlRet) (output : Output)
      (hr : resourceTableSearch d.table resid = some ifnum) (hc : isControlCmdRead cmd = false) :
      RequestStep tasks d resid cmd
        { (writeCommand tasks d ifnum resid cmd payload payloadLen).1 with lastStatus }
        { (writeCommand tasks d ifnum resid cmd payload payloadLen).2 with output }
  | read {n : ℕ} (payload : Buffer UInt8 n) (payloadLen : ℕ) (ifnum : UInt8) (output : Output)
      (hr : resourceTableSearch d.table resid = some ifnum) (hc : isControlCmdRead cmd = true) :
      RequestStep tasks d resid cmd (readCommand tasks d ifnum resid cmd payload payloadLen).device
        { (readCommand tasks d ifnum resid cmd payload payloadLen).reply with output }

section Sound

variable {tasks} {n : ℕ}

theorem usbSetRequest_sound (windex wvalue wlength : UInt16) (requestData : Buffer UInt8 n)
    (d : Device σ) :
    RequestStep tasks d windex.toUInt8 wvalue.toUInt8
      (controlProcessUsbSetRequest tasks windex wvalue wlength requestData d).1
      (controlProcessUsbSetRequest tasks windex wvalue wlength requestData d).2 := by
  dsimp only [controlProcessUsbSetRequest]
  cases hr : resourceTableSearch d.table windex.toUInt8 with
  | none => exact .refused ..
  | some ifnum =>
    dsimp only
    split
    · exact .refused ..
    · next hc => exact .write _ _ _ _ _ hr (Bool.eq_false_iff.mpr hc)

theorem usbGetRequest_sound (windex wvalue wlength : UInt16) (requestData : Buffer UInt8 n)
    (d : Device σ) :
    RequestStep tasks d windex.toUInt8 wvalue.toUInt8
      (controlProcessUsbGetRequest tasks windex wvalue wlength requestData d).1
      (controlProcessUsbGetRequest tasks windex wvalue wlength requestData d).2 := by
  dsimp only [controlProcessUsbGetRequest]
  cases hr : resourceTableSearch d.table windex.toUInt8 with
  | none => exact .refused ..
  | some ifnum =>
    dsimp only
    split
    · next hc => exact .read _ _ _ _ hr hc
    · exact .refused ..

theorem xscopeUpload_sound (buf : XscopeBuffer) (bufSize lengthIn : ℕ) (d : Device σ) :
    RequestStep tasks d buf.resid buf.cmd
      (controlProcessXscopeUpload tasks buf bufSize lengthIn d).1
      (controlProcessXscopeUpload tasks buf bufSize lengthIn d).2 := by
  dsimp only [controlProcessXscopeUpload]
  cases hr : resourceTableSearch d.table buf.resid with
  | none => exact .refused ..
  | some ifnum =>
    dsimp only
    split
    · next hc => exact .read _ _ _ _ hr hc
    · next hc => exact .write _ _ _ _ _ hr (Bool.eq_false_iff.mpr hc)

/-- The stateless transports write none of the table, `i2c` and `spi`. -/
theorem RequestStep.frame {d d' : Device σ} {resid : ControlResid} {cmd : ControlCmd} {r : Reply}
    (h : RequestStep tasks d resid cmd d' r) :
    d'.table = d.table ∧ d'.i2c = d.i2c ∧ d'.spi = d.spi := by
  cases h with
  | refused lastStatus output => exact ⟨rfl, rfl, rfl⟩
  | write payload payloadLen ifnum lastStatus output hr hc =>
    exact ⟨writeCommand_table .., writeCommand_i2c .., writeCommand_spi ..⟩
  | read payload payloadLen ifnum output hr hc =>
    exact ⟨readCommand_table .., readCommand_i2c .., readCommand_spi ..⟩

end Sound

end DeviceControl
