import DeviceControl.I2c.Frame
import DeviceControl.Library.Interleaving
import DeviceControl.Spi.Read

/-!
# What one transport sees of the others

The transports share the resource table, which nobody writes, the user tasks and the recorded
status. So a transport sees of the others what their commands have made the user tasks answer, and
the status that they have recorded. Nothing else passes from one to another: `transport_isolated`
says that the replies to the callbacks of a transport, in whatever interleaving they come with those
of the others, are the replies of a device that gets these callbacks alone, and whose user tasks
give the same answers.

`UserTasks.replay` are user tasks that give the answers of a list of calls, so they stand for the
answers that the real ones have given in the interleaving. The one read that the library answers
from what it has recorded of all transports is `AsksStatus`, and it is left out.
-/

namespace DeviceControl

variable {σ : Type}

/-! ### Replayed answers -/

/-- What comes of a call on a user task: the value returned, and what a read leaves. -/
abbrev Outcome := ControlRet × List UInt8

def UserCall.outcome (call : UserCall) : Outcome := (call.ret, call.produced)

/-- What comes of the calls of a reply. -/
def Reply.outcomes (r : Reply) : List Outcome := r.calls.map UserCall.outcome

/-- User tasks whose calls come to these outcomes, one after the other. -/
def UserTasks.replay : UserTasks (List Outcome) where
  writeCommand outcomes _ _ _ _ _ :=
    match outcomes with
    | [] => (controlError, [])
    | outcome :: rest => (outcome.1, rest)
  readCommand outcomes _ _ _ _ _ :=
    match outcomes with
    | [] => (controlError, [], [])
    | outcome :: rest => (outcome.1, outcome.2, rest)

/-- The read of the recorded status. -/
def IsStatusRead (resid : ControlResid) (cmd : ControlCmd) : Prop :=
  resid = controlSpecialResid ∧ cmd = controlGetLastCommandStatus

section Serve

variable {tasks : UserTasks σ} {n : ℕ} {d : Device σ} {d' : Device (List Outcome)}
  {ifnum resid cmd : UInt8} {payload : Buffer UInt8 n} {payloadLen : ℕ} {rest : List Outcome}

/-- What a callee has left in front of a buffer is all that it has left there. -/
theorem overlay_front_overlay (b : Buffer UInt8 n) (len : ℕ) (out : List UInt8) :
    b.overlay len ((b.overlay len out).front len) = b.overlay len out := by
  refine Vector.ext fun i hi => ?_
  rw [Buffer.overlay, Vector.getElem_ofFn]
  by_cases h_lt : i < len
  · rw [if_pos h_lt, Buffer.getElem?_front _ h_lt, Vector.getElem?_eq_getElem hi, Option.getD_some]
  · rw [if_neg h_lt, Buffer.overlay, Vector.getElem_ofFn, if_neg h_lt]

theorem writeCommand_replay
    (h_users : d'.users
      = (writeCommand tasks d ifnum resid cmd payload payloadLen).2.outcomes ++ rest) :
    (writeCommand .replay d' ifnum resid cmd payload payloadLen).2
        = (writeCommand tasks d ifnum resid cmd payload payloadLen).2 ∧
      (writeCommand .replay d' ifnum resid cmd payload payloadLen).1.users = rest := by
  by_cases h_resid : resid = controlSpecialResid
  · rw [writeCommand, if_pos h_resid] at h_users
    rw [writeCommand, writeCommand, if_pos h_resid, if_pos h_resid]
    exact ⟨rfl, h_users⟩
  · rw [Reply.outcomes, calls_writeCommand tasks h_resid] at h_users
    have h_answer : UserTasks.replay.writeCommand d'.users ifnum resid cmd
        (payload.front payloadLen) payloadLen
        = ((writeCall tasks d ifnum resid cmd payload payloadLen).ret, rest) := by
      rw [h_users]
      rfl
    rw [writeCommand, writeCommand, if_neg h_resid, if_neg h_resid, writeCall, h_answer]
    exact ⟨rfl, rfl⟩

theorem readCommand_replay (h_not : ¬ IsStatusRead resid cmd)
    (h_users : d'.users
      = (readCommand tasks d ifnum resid cmd payload payloadLen).reply.outcomes ++ rest) :
    (readCommand .replay d' ifnum resid cmd payload payloadLen).reply
        = (readCommand tasks d ifnum resid cmd payload payloadLen).reply ∧
      (readCommand .replay d' ifnum resid cmd payload payloadLen).payload
        = (readCommand tasks d ifnum resid cmd payload payloadLen).payload ∧
      (readCommand .replay d' ifnum resid cmd payload payloadLen).device.users = rest := by
  by_cases h_resid : resid = controlSpecialResid
  · rw [readCommand, if_pos h_resid] at h_users
    -- what else there is to read does not depend on what is recorded
    have h_special : specialReadCommand d'.lastStatus cmd payload payloadLen
        = specialReadCommand d.lastStatus cmd payload payloadLen := by
      have h_cmd : cmd ≠ controlGetLastCommandStatus := fun h_eq => h_not ⟨h_resid, h_eq⟩
      rw [specialReadCommand, specialReadCommand, if_neg h_cmd, if_neg h_cmd]
    rw [readCommand, readCommand, if_pos h_resid, if_pos h_resid, h_special]
    exact ⟨rfl, rfl, h_users⟩
  · rw [Reply.outcomes, calls_readCommand tasks h_resid] at h_users
    set call := readCall tasks d ifnum resid cmd payload payloadLen with h_call
    have h_answer : UserTasks.replay.readCommand d'.users ifnum resid cmd
        (payload.front payloadLen) payloadLen = (call.ret, call.produced, rest) := by
      rw [h_users]
      rfl
    -- the array is filled with what it was filled with
    have h_payload : readPayload .replay d' ifnum resid cmd payload payloadLen
        = readPayload tasks d ifnum resid cmd payload payloadLen := by
      rw [readPayload, h_answer]
      exact overlay_front_overlay ..
    have h_same : readCall .replay d' ifnum resid cmd payload payloadLen = call := by
      rw [readCall, h_answer, h_payload]
      rfl
    rw [readCommand, readCommand, if_neg h_resid, if_neg h_resid, h_answer, h_payload, h_same,
      ← h_call]
    exact ⟨rfl, rfl, rfl⟩

end Serve

/-! ### I2C -/

section I2c

variable {tasks : UserTasks σ} {d : Device σ} {d' : Device (List Outcome)}
  {rest : List Outcome}

/-- A callback has gone on a device as on one that replays its calls, of which `rest` are still to
come, and has left the same I2C struct. -/
structure AlikeI2c (rest : List Outcome) (r : Device σ × Reply)
    (r' : Device (List Outcome) × Reply) : Prop where
  reply : r'.2 = r.2
  i2c : r'.1.i2c = r.1.i2c
  users : r'.1.users = rest

theorem i2cWriteCommand_replay (h_i2c : d'.i2c = d.i2c)
    (h_users : d'.users = (i2cWriteCommand tasks d).2.outcomes ++ rest) :
    AlikeI2c rest (i2cWriteCommand tasks d) (i2cWriteCommand .replay d') := by
  rw [i2cWriteCommand] at h_users
  obtain ⟨h_reply, h_rest⟩ := writeCommand_replay h_users
  rw [i2cWriteCommand, i2cWriteCommand, h_i2c]
  exact ⟨h_reply, by rw [writeCommand_i2c, writeCommand_i2c, h_i2c], h_rest⟩

/-- The same where the payload array has been written to before. -/
theorem i2cWriteCommand_touch_replay {k : ℕ} (h_i2c : d'.i2c = d.i2c)
    (h_users : d'.users = ((i2cWriteCommand tasks d).2.touch k).outcomes ++ rest) :
    AlikeI2c rest ((i2cWriteCommand tasks d).1, (i2cWriteCommand tasks d).2.touch k)
      ((i2cWriteCommand .replay d').1, (i2cWriteCommand .replay d').2.touch k) := by
  obtain ⟨h_reply, h_same, h_rest⟩ := i2cWriteCommand_replay h_i2c h_users
  exact ⟨by rw [h_reply], h_same, h_rest⟩

theorem i2cWriteData_replay (b : UInt8) (h_table : d'.table = d.table) (h_i2c : d'.i2c = d.i2c)
    (h_users : d'.users = (i2cWriteData tasks b d).2.outcomes ++ rest) :
    AlikeI2c rest (i2cWriteData tasks b d) (i2cWriteData .replay b d') := by
  unfold i2cWriteData at h_users ⊢
  rw [h_i2c, h_table]
  cases hs : d.i2c.state with
  | writeStart =>
    rw [hs] at h_users
    dsimp only at h_users ⊢
    cases h_search : resourceTableSearch d.table b with
    | none =>
      rw [h_search] at h_users
      exact ⟨rfl, rfl, h_users⟩
    | some ifnum =>
      rw [h_search] at h_users
      exact ⟨rfl, rfl, h_users⟩
  | writeResid =>
    rw [hs] at h_users
    exact ⟨rfl, rfl, h_users⟩
  | writeCmd =>
    rw [hs] at h_users
    dsimp only at h_users ⊢
    split_ifs at h_users ⊢
    · exact ⟨rfl, rfl, h_users⟩
    · exact i2cWriteCommand_replay rfl h_users
    · exact ⟨rfl, rfl, h_users⟩
  | writeSize =>
    rw [hs] at h_users
    dsimp only at h_users ⊢
    split_ifs at h_users ⊢
    · exact ⟨rfl, rfl, h_users⟩
    · exact i2cWriteCommand_touch_replay rfl h_users
    · exact ⟨rfl, rfl, h_users⟩
  | writeData =>
    rw [hs] at h_users
    dsimp only at h_users ⊢
    split_ifs at h_users ⊢
    · exact ⟨rfl, rfl, h_users⟩
    · exact i2cWriteCommand_touch_replay rfl h_users
    · exact ⟨rfl, rfl, h_users⟩
  | writeOverflow =>
    rw [hs] at h_users
    exact ⟨rfl, h_i2c, h_users⟩
  | _ =>
    rw [hs] at h_users
    exact ⟨rfl, rfl, h_users⟩

/-- The read that an I2C callback performs is of the recorded status. -/
def I2c.AsksStatus (i : I2c) (cb : I2cCallback) : Prop :=
  cb = .readStart ∧ i.state = .writeSize ∧ IsStatusRead i.resid i.cmd

theorem i2cReadStart_replay (h_i2c : d'.i2c = d.i2c) (h_not : ¬ d.i2c.AsksStatus .readStart)
    (h_users : d'.users = (controlProcessI2cReadStart tasks d).2.outcomes ++ rest) :
    AlikeI2c rest (controlProcessI2cReadStart tasks d) (controlProcessI2cReadStart .replay d') := by
  unfold controlProcessI2cReadStart at h_users ⊢
  rw [h_i2c]
  by_cases hs : d.i2c.state = .writeSize
  · by_cases hc : isControlCmdRead d.i2c.cmd = true
    · -- the read is performed
      rw [if_neg (not_not.mpr hs), if_pos hc] at h_users ⊢
      rw [if_neg (not_not.mpr hs), if_pos hc]
      have h_calls : d'.users = (i2cReadCommand tasks d).reply.outcomes ++ rest := by
        rw [h_users]
        dsimp only
        split <;> rfl
      rw [i2cReadCommand] at h_calls
      obtain ⟨h_reply, h_payload, h_rest⟩ :=
        readCommand_replay (fun h => h_not ⟨rfl, hs, h⟩) h_calls
      have h_reply' : (i2cReadCommand .replay d').reply = (i2cReadCommand tasks d).reply := by
        rw [i2cReadCommand, i2cReadCommand, h_i2c, h_reply]
      have h_payload' : (i2cReadCommand .replay d').payload = (i2cReadCommand tasks d).payload := by
        rw [i2cReadCommand, i2cReadCommand, h_i2c, h_payload]
      have h_users' : (i2cReadCommand .replay d').device.users = rest := by
        rw [i2cReadCommand, h_i2c, h_rest]
      have h_frame : (i2cReadCommand tasks d).device.i2c = d.i2c := readCommand_i2c ..
      have h_frame' : (i2cReadCommand .replay d').device.i2c = d'.i2c := readCommand_i2c ..
      dsimp only
      rw [h_frame, h_frame', h_i2c, h_reply', h_payload']
      split
      · exact ⟨rfl, rfl, h_users'⟩
      · exact ⟨rfl, rfl, h_users'⟩
    · rw [if_neg (not_not.mpr hs), if_neg hc] at h_users ⊢
      rw [if_neg (not_not.mpr hs), if_neg hc]
      exact ⟨rfl, rfl, h_users⟩
  · rw [if_pos hs] at h_users ⊢
    rw [if_pos hs]
    exact ⟨rfl, rfl, h_users⟩

theorem i2cReadData_replay (h_i2c : d'.i2c = d.i2c)
    (h_users : d'.users = (controlProcessI2cReadData d).2.outcomes ++ rest) :
    AlikeI2c rest (controlProcessI2cReadData d) (controlProcessI2cReadData d') := by
  unfold controlProcessI2cReadData at h_users ⊢
  rw [h_i2c]
  cases hs : d.i2c.state with
  | readData =>
    rw [hs] at h_users
    dsimp only at h_users ⊢
    split_ifs at h_users ⊢
    · exact ⟨rfl, rfl, h_users⟩
    · exact ⟨rfl, rfl, h_users⟩
  | _ =>
    rw [hs] at h_users
    exact ⟨rfl, rfl, h_users⟩

/-- **I2C.** A callback that does not ask for the recorded status goes as it does on a device that
replays its calls. -/
theorem i2cStep_replay (cb : I2cCallback) (h_table : d'.table = d.table) (h_i2c : d'.i2c = d.i2c)
    (h_not : ¬ d.i2c.AsksStatus cb)
    (h_users : d'.users = ((i2cSystem tasks).step d cb).2.outcomes ++ rest) :
    AlikeI2c rest ((i2cSystem tasks).step d cb) ((i2cSystem .replay).step d' cb) := by
  cases cb with
  | writeStart =>
    exact ⟨rfl, congrArg (fun i : I2c => { i with state := .writeStart }) h_i2c, h_users⟩
  | writeData b =>
    obtain ⟨h_reply, h_same, h_rest⟩ := i2cWriteData_replay b h_table h_i2c h_users
    exact ⟨h_reply, h_same, h_rest⟩
  | readStart => exact i2cReadStart_replay h_i2c h_not h_users
  | readData => exact i2cReadData_replay h_i2c h_users
  | stop =>
    refine ⟨?_, congrArg (fun i : I2c => { i with state := .idle }) h_i2c, h_users⟩
    change (⟨i2cStopRet d'.i2c, _, _, _⟩ : Reply) = ⟨i2cStopRet d.i2c, _, _, _⟩
    rw [h_i2c]

end I2c

/-! ### SPI -/

section Spi

variable {tasks : UserTasks σ} {d : Device σ} {d' : Device (List Outcome)}
  {rest : List Outcome}

/-- The same for a callback that leaves the same SPI struct. -/
structure AlikeSpi (rest : List Outcome) (r : Device σ × Reply)
    (r' : Device (List Outcome) × Reply) : Prop where
  reply : r'.2 = r.2
  spi : r'.1.spi = r.1.spi
  users : r'.1.users = rest

/-- The read that an SPI callback performs is of the recorded status. -/
def Spi.AsksStatus (s : Spi) (cb : SpiCallback) : Prop :=
  cb = .masterRequiresData ∧ s.state = .readDataStart ∧ IsStatusRead s.resid s.cmd

theorem spiEnds_replay (h_spi : d'.spi = d.spi)
    (h_users : d'.users = (controlProcessSpiMasterEndsTransaction tasks d).2.outcomes ++ rest) :
    AlikeSpi rest (controlProcessSpiMasterEndsTransaction tasks d)
      (controlProcessSpiMasterEndsTransaction .replay d') := by
  unfold controlProcessSpiMasterEndsTransaction at h_users ⊢
  rw [h_spi]
  cases hs : d.spi.state with
  | writeData =>
    rw [hs] at h_users
    dsimp only at h_users ⊢
    split_ifs at h_users ⊢
    · exact ⟨rfl, rfl, h_users⟩
    · -- a complete frame is dispatched
      dsimp only at h_users
      rw [spiWriteCommand] at h_users
      obtain ⟨h_reply, h_rest⟩ := writeCommand_replay h_users
      rw [spiWriteCommand, spiWriteCommand, h_spi]
      exact ⟨h_reply, rfl, h_rest⟩
  | _ =>
    rw [hs] at h_users
    exact ⟨rfl, rfl, h_users⟩

/-- A byte required where there is none, of a read or beyond its payload, is zero. -/
theorem step_requires_none {d : Device σ} (hs : d.spi.state ≠ .readDataStart)
    (h : ¬ (d.spi.state = .readData ∧ d.spi.payloadLenTransmitted < d.spi.payloadLenFromHeader ∧
      d.spi.payloadLenTransmitted < spiDataMaxBytes)) :
    (spiSystem tasks).step d .masterRequiresData
      = (d, { ret := controlSuccess, output := .spiData 0 }) := by
  by_cases hs' : d.spi.state = .readData
  · change controlProcessSpiMasterRequiresData tasks d = _
    unfold controlProcessSpiMasterRequiresData
    rw [hs']
    exact dif_neg fun h_byte => h ⟨hs', h_byte⟩
  · exact step_requires_quiet tasks hs hs'

theorem spiRequires_replay (h_spi : d'.spi = d.spi)
    (h_not : ¬ d.spi.AsksStatus .masterRequiresData)
    (h_users : d'.users = ((spiSystem tasks).step d .masterRequiresData).2.outcomes ++ rest) :
    AlikeSpi rest ((spiSystem tasks).step d .masterRequiresData)
      ((spiSystem .replay).step d' .masterRequiresData) := by
  by_cases hs : d.spi.state = .readDataStart
  · -- the read is performed
    rw [step_requires_start tasks hs] at h_users ⊢
    rw [step_requires_start .replay (by rw [h_spi, hs])]
    obtain ⟨h_reply, h_payload, h_rest⟩ :=
      readCommand_replay (d := d) (fun h => h_not ⟨rfl, hs, h⟩) h_users
    have h_read : spiReadCommand .replay d' = readCommand .replay d' d.spi.ifnum d.spi.resid
        d.spi.cmd d.spi.payload d.spi.payloadLenFromHeader := by rw [spiReadCommand, h_spi]
    rw [h_read, h_reply, h_payload, h_spi]
    exact ⟨rfl, rfl, h_rest⟩
  · by_cases h_byte : d.spi.state = .readData ∧
        d.spi.payloadLenTransmitted < d.spi.payloadLenFromHeader ∧
          d.spi.payloadLenTransmitted < spiDataMaxBytes
    · obtain ⟨hs', hk, hk'⟩ := h_byte
      rw [step_requires_byte tasks hs' hk hk'] at h_users ⊢
      rw [← h_spi] at hs' hk hk'
      rw [step_requires_byte .replay hs' hk hk', h_spi]
      exact ⟨rfl, rfl, h_users⟩
    · rw [step_requires_none hs h_byte] at h_users ⊢
      rw [← h_spi] at hs h_byte
      rw [step_requires_none hs h_byte]
      exact ⟨rfl, h_spi, h_users⟩

theorem spiSupplied_replay (datum : UInt32) (h_table : d'.table = d.table) (h_spi : d'.spi = d.spi)
    (h_users : d'.users = (spiSuppliedData datum d).2.outcomes ++ rest) :
    AlikeSpi rest (spiSuppliedData datum d) (spiSuppliedData datum d') := by
  unfold spiSuppliedData at h_users ⊢
  rw [h_spi, h_table]
  cases hs : d.spi.state with
  | idle =>
    rw [hs] at h_users
    dsimp only at h_users ⊢
    cases h_search : resourceTableSearch d.table datum.toUInt8 with
    | none =>
      rw [h_search] at h_users
      exact ⟨rfl, rfl, h_users⟩
    | some ifnum =>
      rw [h_search] at h_users
      exact ⟨rfl, rfl, h_users⟩
  | writeData =>
    rw [hs] at h_users
    dsimp only at h_users ⊢
    split_ifs at h_users ⊢
    · exact ⟨rfl, rfl, h_users⟩
    · exact ⟨rfl, rfl, h_users⟩
  | readDataStart =>
    rw [hs] at h_users
    exact ⟨rfl, h_spi, h_users⟩
  | readDataWait =>
    rw [hs] at h_users
    exact ⟨rfl, h_spi, h_users⟩
  | readData =>
    rw [hs] at h_users
    exact ⟨rfl, h_spi, h_users⟩
  | error =>
    rw [hs] at h_users
    exact ⟨rfl, h_spi, h_users⟩
  | _ =>
    rw [hs] at h_users
    exact ⟨rfl, rfl, h_users⟩

/-- **SPI.** -/
theorem spiStep_replay (cb : SpiCallback) (h_table : d'.table = d.table) (h_spi : d'.spi = d.spi)
    (h_not : ¬ d.spi.AsksStatus cb)
    (h_users : d'.users = ((spiSystem tasks).step d cb).2.outcomes ++ rest) :
    AlikeSpi rest ((spiSystem tasks).step d cb) ((spiSystem .replay).step d' cb) := by
  cases cb with
  | masterEndsTransaction => exact spiEnds_replay h_spi h_users
  | masterRequiresData => exact spiRequires_replay h_spi h_not h_users
  | masterSuppliedData datum validBits =>
    change d'.users = (controlProcessSpiMasterSuppliedData datum validBits d).2.outcomes ++ rest
      at h_users
    change AlikeSpi rest (controlProcessSpiMasterSuppliedData datum validBits d)
      (controlProcessSpiMasterSuppliedData datum validBits d')
    unfold controlProcessSpiMasterSuppliedData at h_users ⊢
    by_cases hv : validBits ≠ 8
    · rw [if_pos hv] at h_users ⊢
      rw [if_pos hv]
      exact ⟨rfl, h_spi, h_users⟩
    · rw [if_neg hv] at h_users ⊢
      rw [if_neg hv]
      -- the reset is the same on both
      exact spiSupplied_replay datum h_table (congrArg (spiReset datum) h_spi) h_users

end Spi

/-! ### USB and xSCOPE -/

section Request

variable {tasks : UserTasks σ} {d : Device σ} {d' : Device (List Outcome)}
  {rest : List Outcome}

/-- The same for a callback without a struct. -/
structure AlikeRequest (rest : List Outcome) (r : Device σ × Reply)
    (r' : Device (List Outcome) × Reply) : Prop where
  reply : r'.2 = r.2
  users : r'.1.users = rest

theorem usbSetRequest_replay (windex wvalue wlength : UInt16) {n : ℕ}
    (requestData : Buffer UInt8 n) (h_table : d'.table = d.table)
    (h_users : d'.users
      = (controlProcessUsbSetRequest tasks windex wvalue wlength requestData d).2.outcomes
        ++ rest) :
    AlikeRequest rest (controlProcessUsbSetRequest tasks windex wvalue wlength requestData d)
      (controlProcessUsbSetRequest .replay windex wvalue wlength requestData d') := by
  dsimp only [controlProcessUsbSetRequest] at h_users ⊢
  rw [h_table]
  cases h_search : resourceTableSearch d.table windex.toUInt8 with
  | none =>
    rw [h_search] at h_users
    exact ⟨rfl, h_users⟩
  | some ifnum =>
    rw [h_search] at h_users
    dsimp only at h_users ⊢
    split_ifs at h_users ⊢
    · exact ⟨rfl, h_users⟩
    · obtain ⟨h_reply, h_rest⟩ := writeCommand_replay h_users
      exact ⟨h_reply, h_rest⟩

theorem usbGetRequest_replay (windex wvalue wlength : UInt16) {n : ℕ}
    (requestData : Buffer UInt8 n) (h_table : d'.table = d.table)
    (h_not : ¬ IsStatusRead windex.toUInt8 wvalue.toUInt8)
    (h_users : d'.users
      = (controlProcessUsbGetRequest tasks windex wvalue wlength requestData d).2.outcomes
        ++ rest) :
    AlikeRequest rest (controlProcessUsbGetRequest tasks windex wvalue wlength requestData d)
      (controlProcessUsbGetRequest .replay windex wvalue wlength requestData d') := by
  dsimp only [controlProcessUsbGetRequest] at h_users ⊢
  rw [h_table]
  cases h_search : resourceTableSearch d.table windex.toUInt8 with
  | none =>
    rw [h_search] at h_users
    exact ⟨rfl, h_users⟩
  | some ifnum =>
    rw [h_search] at h_users
    dsimp only at h_users ⊢
    split_ifs at h_users ⊢
    · obtain ⟨h_reply, h_payload, h_rest⟩ := readCommand_replay h_not h_users
      rw [h_reply, h_payload]
      exact ⟨rfl, h_rest⟩
    · exact ⟨rfl, h_users⟩

theorem xscopeUpload_replay (buf : XscopeBuffer) (bufSize lengthIn : ℕ)
    (h_table : d'.table = d.table) (h_not : ¬ IsStatusRead buf.resid buf.cmd)
    (h_users : d'.users
      = (controlProcessXscopeUpload tasks buf bufSize lengthIn d).2.outcomes ++ rest) :
    AlikeRequest rest (controlProcessXscopeUpload tasks buf bufSize lengthIn d)
      (controlProcessXscopeUpload .replay buf bufSize lengthIn d') := by
  unfold controlProcessXscopeUpload at h_users ⊢
  rw [h_table]
  cases h_search : resourceTableSearch d.table buf.resid with
  | none =>
    rw [h_search] at h_users
    exact ⟨rfl, h_users⟩
  | some ifnum =>
    rw [h_search] at h_users
    dsimp only at h_users ⊢
    by_cases h_read : isControlCmdRead buf.cmd = true
    · rw [if_pos h_read] at h_users ⊢
      rw [if_pos h_read]
      obtain ⟨h_reply, h_payload, h_rest⟩ := readCommand_replay h_not h_users
      rw [h_reply, h_payload]
      exact ⟨rfl, h_rest⟩
    · rw [if_neg h_read] at h_users ⊢
      rw [if_neg h_read]
      obtain ⟨h_reply, h_rest⟩ := writeCommand_replay h_users
      rw [h_reply]
      exact ⟨rfl, h_rest⟩

end Request

/-! ### Isolation -/

/-- The callback performs a read of the recorded status. -/
def AsksStatus (d : Device σ) : Callback → Prop
  | .i2c cb => d.i2c.AsksStatus cb
  | .spi cb => d.spi.AsksStatus cb
  | .usbSetRequest .. => False
  | .usbGetRequest windex wvalue _ _ => IsStatusRead windex.toUInt8 wvalue.toUInt8
  | .xscopeUpload buf _ _ => IsStatusRead buf.resid buf.cmd

/-- The callback is one of the transport. -/
def Callback.isOf (t : Transport) (cb : Callback) : Bool := decide (cb.transport = t)

/-- The device with other user tasks. -/
def Device.withUsers {τ : Type} (d : Device σ) (users : τ) : Device τ where
  table := d.table
  lastStatus := d.lastStatus
  i2c := d.i2c
  spi := d.spi
  users := users

/-- A device that the callbacks of one transport cannot tell from another one, if the calls on the
user tasks come to these outcomes. -/
structure StandsFor (t : Transport) (outcomes : List Outcome) (d : Device σ)
    (d' : Device (List Outcome)) : Prop where
  table : d'.table = d.table
  i2c : t = .i2c → d'.i2c = d.i2c
  spi : t = .spi → d'.spi = d.spi
  users : d'.users = outcomes

section Isolated

variable {tasks : UserTasks σ} {t : Transport} {d : Device σ} {d' : Device (List Outcome)}
  {outcomes rest : List Outcome} {cb : Callback}

theorem standsFor_withUsers (t : Transport) (d : Device σ) (outcomes : List Outcome) :
    StandsFor t outcomes d (d.withUsers outcomes) :=
  ⟨rfl, fun _ => rfl, fun _ => rfl, rfl⟩

/-- The callbacks of the others do not show. -/
theorem StandsFor.other (h : StandsFor t outcomes d d') (h_cb : cb.isOf t = false) :
    StandsFor t outcomes ((controlSystem tasks).step d cb).1 d' := by
  have h_ne : cb.transport ≠ t := of_decide_eq_false h_cb
  refine ⟨h.table.trans (step_table d cb).symm, fun h_t => ?_, fun h_t => ?_, h.users⟩
  · rw [h.i2c h_t, step_i2c_of_transport (by rw [← h_t]; exact h_ne)]
  · rw [h.spi h_t, step_spi_of_transport (by rw [← h_t]; exact h_ne)]

/-- A callback of the transport is answered alike, and leaves devices alike. -/
theorem StandsFor.mine (h_cb : cb.isOf t = true) (h_not : ¬ AsksStatus d' cb)
    (h : StandsFor t (((controlSystem tasks).step d cb).2.outcomes ++ rest) d d') :
    ((controlSystem .replay).step d' cb).2 = ((controlSystem tasks).step d cb).2 ∧
      StandsFor t rest ((controlSystem tasks).step d cb).1
        ((controlSystem .replay).step d' cb).1 := by
  obtain rfl : cb.transport = t := of_decide_eq_true h_cb
  have h_table : ((controlSystem .replay).step d' cb).1.table
      = ((controlSystem tasks).step d cb).1.table := by
    rw [step_table, step_table, h.table]
  cases cb with
  | i2c cb =>
    have h_i2c := h.i2c rfl
    have h_ask : ¬ d.i2c.AsksStatus cb := by rwa [← h_i2c]
    obtain ⟨h_reply, h_same, h_rest⟩ := i2cStep_replay cb h.table h_i2c h_ask h.users
    exact ⟨h_reply, h_table, fun _ => h_same, nofun, h_rest⟩
  | spi cb =>
    have h_spi := h.spi rfl
    have h_ask : ¬ d.spi.AsksStatus cb := by rwa [← h_spi]
    obtain ⟨h_reply, h_same, h_rest⟩ := spiStep_replay cb h.table h_spi h_ask h.users
    exact ⟨h_reply, h_table, nofun, fun _ => h_same, h_rest⟩
  | usbSetRequest windex wvalue wlength requestData =>
    obtain ⟨h_reply, h_rest⟩ :=
      usbSetRequest_replay windex wvalue wlength requestData h.table h.users
    exact ⟨h_reply, h_table, nofun, nofun, h_rest⟩
  | usbGetRequest windex wvalue wlength requestData =>
    obtain ⟨h_reply, h_rest⟩ :=
      usbGetRequest_replay windex wvalue wlength requestData h.table h_not h.users
    exact ⟨h_reply, h_table, nofun, nofun, h_rest⟩
  | xscopeUpload buf bufSize lengthIn =>
    obtain ⟨h_reply, h_rest⟩ := xscopeUpload_replay buf bufSize lengthIn h.table h_not h.users
    exact ⟨h_reply, h_table, nofun, nofun, h_rest⟩

/-- Whether a callback asks for the status is the same on both. -/
theorem StandsFor.asksStatus_iff (h : StandsFor t outcomes d d') (h_cb : cb.isOf t = true) :
    AsksStatus d cb ↔ AsksStatus d' cb := by
  obtain rfl : cb.transport = t := of_decide_eq_true h_cb
  cases cb with
  | i2c cb => rw [AsksStatus, AsksStatus, h.i2c rfl]
  | spi cb => rw [AsksStatus, AsksStatus, h.spi rfl]
  | _ => exact Iff.rfl

/-- What the calls of a transport come to in a run. -/
def outcomesOf (tasks : UserTasks σ) (t : Transport) (d : Device σ) (cbs : List Callback) :
    List Outcome :=
  ((controlSystem tasks).traceOf (Callback.isOf t) d cbs).flatMap fun p => p.2.outcomes

/-- No callback of the transport asks for the recorded status. -/
def NeverAsksStatus (tasks : UserTasks σ) (t : Transport) (d : Device σ) (cbs : List Callback) :
    Prop :=
  (controlSystem tasks).EveryStep (fun d cb => cb.isOf t = true → ¬ AsksStatus d cb) d cbs

/-- **Isolation.** The replies to the callbacks of a transport are those of a device that stands for
the real one, and gets these callbacks alone. -/
theorem StandsFor.trace_eq {cbs : List Callback}
    (h : StandsFor t (outcomesOf tasks t d cbs) d d')
    (h_alone : (controlSystem .replay).EveryStep (fun d cb => ¬ AsksStatus d cb) d'
      (cbs.filter (Callback.isOf t))) :
    (controlSystem .replay).trace d' (cbs.filter (Callback.isOf t))
      = (controlSystem tasks).traceOf (Callback.isOf t) d cbs := by
  have h_start : StandsFor t (outcomesOf tasks t d cbs ++ []) d d' := by
    rw [List.append_nil]
    exact h
  exact (Transducer.trace_filter_eq (R := StandsFor t) (fun _ _ _ _ h_cb h_not h_rel =>
    h_rel.mine h_cb h_not) (fun _ _ _ _ h_cb h_rel => h_rel.other h_cb) h_start h_alone).1

theorem StandsFor.neverAsksStatus {cbs : List Callback}
    (h : StandsFor t (outcomesOf tasks t d cbs) d d')
    (h_never : NeverAsksStatus tasks t d cbs) :
    (controlSystem .replay).EveryStep (fun d cb => ¬ AsksStatus d cb) d'
      (cbs.filter (Callback.isOf t)) := by
  have h_start : StandsFor t (outcomesOf tasks t d cbs ++ []) d d' := by
    rw [List.append_nil]
    exact h
  exact Transducer.everyStep_filter (R := StandsFor t) (fun _ _ _ _ h_cb h_not h_rel =>
    h_rel.mine h_cb h_not) (fun _ _ _ _ h_cb h_rel => h_rel.other h_cb)
    (fun _ _ _ _ h_rel h_cb => not_congr (h_rel.asksStatus_iff h_cb)) h_start h_never

/-- **Transports do not see each other.** In two runs, with different user tasks and the callbacks
of the other transports different or in different places, the callbacks of one transport are
answered alike, down to the requests it makes of the user tasks, if its calls on them come to the
same. The recorded status is the one exception, so the callbacks must not ask for it. -/
theorem transports_do_not_interfere {τ : Type} (t : Transport) (tasks₁ : UserTasks σ)
    (tasks₂ : UserTasks τ) {d₁ : Device σ} {d₂ : Device τ} {cbs₁ cbs₂ : List Callback}
    (h_table : d₁.table = d₂.table) (h_i2c : t = .i2c → d₁.i2c = d₂.i2c)
    (h_spi : t = .spi → d₁.spi = d₂.spi)
    (h_mine : cbs₁.filter (Callback.isOf t) = cbs₂.filter (Callback.isOf t))
    (h_outcomes : outcomesOf tasks₁ t d₁ cbs₁ = outcomesOf tasks₂ t d₂ cbs₂)
    (h_never : NeverAsksStatus tasks₁ t d₁ cbs₁) :
    (controlSystem tasks₁).traceOf (Callback.isOf t) d₁ cbs₁
      = (controlSystem tasks₂).traceOf (Callback.isOf t) d₂ cbs₂ := by
  -- the same device, with nothing but the callbacks of the transport, stands for both
  have h₁ : StandsFor t (outcomesOf tasks₁ t d₁ cbs₁) d₁
      (d₁.withUsers (outcomesOf tasks₁ t d₁ cbs₁)) := standsFor_withUsers ..
  have h₂ : StandsFor t (outcomesOf tasks₂ t d₂ cbs₂) d₂
      (d₁.withUsers (outcomesOf tasks₁ t d₁ cbs₁)) := ⟨h_table, h_i2c, h_spi, h_outcomes⟩
  have h_alone := h₁.neverAsksStatus h_never
  have h_trace := h₁.trace_eq h_alone
  rw [h_mine] at h_alone h_trace
  rw [← h_trace, h₂.trace_eq h_alone]

end Isolated

/-- An I2C write frame, alone and with a USB request for another resource in its middle, on devices
whose user tasks answer alike. -/
theorem transports_do_not_interfere_run :
    let header : List Callback := (headerCallbacks 3 5 1).map .i2c
    let usb : Callback := .usbSetRequest 4 6 1 (Buffer.ofList 9 [] : Buffer UInt8 1)
    (controlSystem (.always controlSuccess [])).traceOf (Callback.isOf .i2c) (boot [[3, 4]] ())
        (header ++ [.i2c (.writeData 42)])
      = (controlSystem (.always controlSuccess [7])).traceOf (Callback.isOf .i2c) (boot [[3, 4]] ())
        (header ++ usb :: [.i2c (.writeData 42)]) := by
  intro header usb
  refine transports_do_not_interfere .i2c _ _ rfl (fun _ => rfl) nofun rfl (by decide +kernel) ?_
  -- none of the callbacks starts a read
  simp [NeverAsksStatus, Transducer.EveryStep, AsksStatus, I2c.AsksStatus, header, headerCallbacks]

end DeviceControl
