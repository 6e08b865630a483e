import DeviceControl.Control.App
import DeviceControl.Session.Commands

/-!
# The special resource

A host reads two bytes of the library itself: its version, and the status of the last command. Both
are reads of one byte from the special resource, and no user task is asked for them.

The version is the same for every host at any time, so it is read in between the callbacks of the
other transports as it is alone (`version_query_among`). The status is what the device has recorded
last, over whichever transport. `recorded` says which callbacks record, from what they show, and
`status_query_last_recorded` that the query over SPI, USB and xSCOPE reports the last of them. The
query over I2C records success with every byte of its own header, and reports that.
-/

namespace DeviceControl

variable {σ : Type} (tasks : UserTasks σ)

/-! ### The two queries -/

/-- A read of one byte from the special resource. -/
def specialCommand (cmd : ControlCmd) (x : UInt8) : Command := ⟨controlSpecialResid, cmd, [x]⟩

/-- The special resource knows the command code. -/
def IsSpecialCmd (cmd : ControlCmd) : Prop :=
  cmd = controlGetVersion ∨ cmd = controlGetLastCommandStatus

/-- The byte that the special resource answers with. -/
def specialAnswer (cmd : ControlCmd) (lastStatus : ControlStatus) : UInt8 :=
  if cmd = controlGetVersion then controlVersion else lastStatus

theorem IsSpecialCmd.read {cmd : ControlCmd} (h : IsSpecialCmd cmd) :
    isControlCmdRead cmd = true := by
  rcases h with rfl | rfl
  · decide
  · decide

section Query

variable {tasks} {d : Device σ} {cmd : ControlCmd}

theorem readCommand_special {n : ℕ} (h : IsSpecialCmd cmd) (ifnum : UInt8)
    (payload : Buffer UInt8 n) :
    readCommand tasks d ifnum controlSpecialResid cmd payload 1
      = { device := d
          payload := payload.store 0 (specialAnswer cmd d.lastStatus)
          reply := { ret := controlSuccess, accesses := [0] } } := by
  rcases h with rfl | rfl
  · rfl
  · rfl

theorem front_store_zero {n : ℕ} (payload : Buffer UInt8 n) (h : 1 ≤ n) (b : UInt8) :
    (payload.store 0 b).front 1 = [b] := by
  rw [Buffer.front_store_succ _ _ h, Buffer.front_zero]
  rfl

/-- A query brings the byte to the host. Each of its callbacks returns success, and asks no user
task. -/
structure QueryServed (t : Transport) (b : UInt8) (entries : List (Callback × Reply)) : Prop where
  received : received t 1 entries = [b]
  codes : ∀ e ∈ entries, e.2.ret = controlSuccess
  quiet : ∀ e ∈ entries, e.2.calls = []

/-- A query whose callbacks are quiet. -/
theorem QueryServed.of_quiet {t : Transport} {b : UInt8} {entries : List (Callback × Reply)}
    (h_received : DeviceControl.received t 1 entries = [b]) (h_quiet : ∀ e ∈ entries, e.2.Quiet) :
    QueryServed t b entries :=
  ⟨h_received, fun e he => (h_quiet e he).ret, fun e he => (h_quiet e he).calls⟩

/-! ### Over the transports -/

/-- Over I2C the header of the query has been recorded as a success when the byte is read. -/
theorem query_i2c (h_cmd : IsSpecialCmd cmd) (h_table : d.table.Reserves) (a : HostArrays)
    (x : UInt8) :
    QueryServed .i2c (specialAnswer cmd controlSuccess)
      ((controlSystem tasks).trace d ((specialCommand cmd x).callbacks a .i2c)) := by
  have h_len : (specialCommand cmd x).payload.length ≤ i2cDataMaxBytes := by
    show 1 ≤ i2cDataMaxBytes
    decide
  obtain ⟨h_run, h_quiet⟩ := trace_header tasks d (c := cmd) (n := 1)
    (resourceTableSearch_special h_table) (by decide) (by decide)
  set d₁ := (d.addressed ifnumReserved controlSpecialResid cmd).announced (1 : UInt8).toNat
  have h_await : d₁.i2c.AwaitsRead ifnumReserved controlSpecialResid cmd 1 :=
    ⟨rfl, rfl, rfl, rfl, rfl⟩
  have h_read : i2cReadCommand tasks d₁
      = { device := d₁
          payload := d₁.i2c.payload.store 0 (specialAnswer cmd controlSuccess)
          reply := { ret := controlSuccess, accesses := [0] } } :=
    readCommand_special h_cmd _ _
  have h_start : (i2cSystem tasks).step d₁ .readStart
      = (d₁.granted tasks, { ret := controlSuccess, accesses := [0] }) := by
    rw [h_await.step tasks h_cmd.read, h_read]
    rfl
  have h_trace : (controlSystem tasks).trace d ((specialCommand cmd x).callbacks a .i2c)
      = ((i2cSystem tasks).trace d (headerCallbacks controlSpecialResid cmd 1)).map
          (fun p => (Callback.i2c p.1, p.2))
        ++ (.i2c .readStart, { ret := controlSuccess, accesses := [0] })
          :: ((i2cSystem tasks).trace (d₁.granted tasks)
              (List.replicate 1 .readData ++ [.stop])).map fun p => (Callback.i2c p.1, p.2) := by
    rw [Command.callbacks, trace_i2c, i2cCallbacks_read h_cmd.read h_len]
    change ((i2cSystem tasks).trace d (headerCallbacks controlSpecialResid cmd 1 ++ _)).map _ = _
    rw [Transducer.trace_append, h_run, Transducer.trace_cons, h_start, List.map_append,
      List.map_cons]
    rfl
  rw [h_trace]
  refine .of_quiet ?_ ?_
  · have h_header : (((i2cSystem tasks).trace d (headerCallbacks controlSpecialResid cmd 1)).map
        fun p => (Callback.i2c p.1, p.2)).flatMap hostBytes = [] :=
      hostBytes_i2c tasks (by simp [headerCallbacks])
    have h_data := hostBytes_read tasks (h_await.serves tasks) (by decide)
    rw [h_read, front_store_zero _ (by decide)] at h_data
    change List.take _ (List.flatMap hostBytes _) = _
    rw [List.flatMap_append, List.flatMap_cons, h_header, h_data]
    rfl
  · refine List.forall_mem_append.mpr ⟨?_, List.forall_mem_cons.mpr ⟨⟨rfl, rfl⟩, ?_⟩⟩
    · exact List.forall_mem_map.mpr h_quiet
    · -- the byte, and a stop behind the whole of the read
      exact List.forall_mem_map.mpr (List.forall_mem_cons.mpr
        ⟨⟨rfl, rfl⟩, List.forall_mem_singleton.mpr ⟨rfl, rfl⟩⟩)

/-- Over SPI the byte comes in the second transaction. -/
theorem query_spi (h_cmd : IsSpecialCmd cmd) (h_table : d.table.Reserves)
    (h_zero : d.spi = Spi.zero) (a : HostArrays) (x : UInt8) :
    QueryServed .spi (specialAnswer cmd d.lastStatus)
      ((controlSystem tasks).trace d ((specialCommand cmd x).callbacks a .spi)) := by
  have h_len : (specialCommand cmd x).payload.length ≤ spiDataMaxBytes := by
    show 1 ≤ spiDataMaxBytes
    decide
  obtain ⟨before, after, h_split, h_before, h_first, h_after⟩ :=
    exchange_header a.spiRequiresFirst controlSpecialResid cmd 1 0 [0, 0, 0, 0]
  have h_header : BringsHeader d.table before ifnumReserved controlSpecialResid cmd 1 :=
    ⟨⟨[], h_before⟩, h_first, resourceTableSearch_special h_table, h_cmd.read⟩
  obtain ⟨A, B, h_tx, -, h_quiet, h_run⟩ := spiRead_first tasks h_zero h_header
    (by rw [h_after]; simp)
  rw [← h_split] at h_tx h_run
  have h_read : spiRead tasks d ifnumReserved controlSpecialResid cmd (1 : UInt8).toNat
      = { device := d
          payload := (Buffer.ofList 0 []).store 0 (specialAnswer cmd d.lastStatus)
          reply := { ret := controlSuccess, accesses := [0] } } := readCommand_special h_cmd _ _
  have h_reply : (spiReadReply tasks d ifnumReserved controlSpecialResid cmd
      (1 : UInt8).toNat).Quiet := by
    rw [spiReadReply, h_read]
    exact ⟨rfl, rfl⟩
  set first := exchange a.spiRequiresFirst [controlSpecialResid, cmd, 1, 0, 0, 0, 0, 0]
  set second := exchange a.spiRequiresFirst (List.replicate 1 0)
  set d₁ := (spiSystem tasks).run d (spiTransaction first)
  have h_delivers : d₁.spi.Delivers ((Buffer.ofList 0 []).store 0 (specialAnswer cmd d.lastStatus))
      1 0 := by
    rw [h_run, h_read]
    exact ⟨rfl, rfl, (Nat.zero_min _).symm, rfl⟩
  obtain ⟨h_calls, h_bytes⟩ := trace_second tasks h_delivers (by decide) a.spiRequiresFirst
  have h_trace : (controlSystem tasks).trace d ((specialCommand cmd x).callbacks a .spi)
      = ((spiSystem tasks).trace d (spiTransaction first)).map (fun p => (Callback.spi p.1, p.2))
        ++ ((spiSystem tasks).trace d₁ (spiTransaction second)).map
          fun p => (Callback.spi p.1, p.2) := by
    rw [Command.callbacks, trace_spi, spiCallbacks_read h_cmd.read h_len]
    change ((spiSystem tasks).trace d (spiTransaction first ++ spiTransaction second)).map _ = _
    rw [Transducer.trace_append, List.map_append]
  rw [h_trace]
  refine .of_quiet ?_ ?_
  · rw [front_store_zero _ (by decide)] at h_bytes
    change List.rtake (List.flatMap hostBytes _) _ = _
    rw [List.flatMap_append, h_bytes]
    exact rtake_append_of_length _ rfl
  · refine List.forall_mem_append.mpr ⟨List.forall_mem_map.mpr ?_, List.forall_mem_map.mpr h_calls⟩
    obtain ⟨h_A, h_B⟩ := List.forall_mem_append.mp h_quiet
    rw [h_tx]
    refine List.forall_mem_append.mpr ⟨fun p hp => (h_A p hp).1, ?_⟩
    exact List.forall_mem_cons.mpr ⟨h_reply, fun p hp => (h_B p hp).1⟩

/-- Over USB the byte comes with the request. -/
theorem query_usb (h_cmd : IsSpecialCmd cmd) (h_table : d.table.Reserves) (a : HostArrays)
    (x : UInt8) :
    QueryServed .usb (specialAnswer cmd d.lastStatus)
      ((controlSystem tasks).trace d ((specialCommand cmd x).callbacks a .usb)) := by
  have h_back : cmd.toUInt16.toUInt8 = cmd := UInt8.toUInt8_toUInt16 cmd
  have h_request : (specialCommand cmd x).usbCallback a
      = .usbGetRequest controlSpecialResid.toUInt16 cmd.toUInt16 1 a.usbData := if_pos h_cmd.read
  have h_step : ((controlSystem tasks).step d
        (.usbGetRequest controlSpecialResid.toUInt16 cmd.toUInt16 1 a.usbData)).2
      = { ret := controlSuccess
          accesses := [0]
          output := .usbData (a.usbData.store 0 (specialAnswer cmd d.lastStatus)).toList } := by
    refine (usbGetRequest_found (resourceTableSearch_special h_table)).trans ?_
    rw [h_back, if_pos h_cmd.read]
    change (let r := readCommand tasks d ifnumReserved controlSpecialResid cmd a.usbData 1
      ({ r.reply with output := Output.usbData r.payload.toList } : Reply)) = _
    rw [readCommand_special h_cmd]
  rw [Command.callbacks, h_request, Transducer.trace_cons, Transducer.trace_nil, h_step]
  refine .of_quiet ?_ (List.forall_mem_singleton.mpr ⟨rfl, rfl⟩)
  change List.take 1 (_ ++ []) = _
  rw [List.append_nil]
  exact front_store_zero _ (by decide) _

/-- Over xSCOPE it comes with the response. -/
theorem query_xscope (h_cmd : IsSpecialCmd cmd) (h_table : d.table.Reserves) (a : HostArrays)
    (x : UInt8) :
    QueryServed .xscope (specialAnswer cmd d.lastStatus)
      ((controlSystem tasks).trace d ((specialCommand cmd x).callbacks a .xscope)) := by
  obtain ⟨h_resid, h_code, h_plen, -⟩ := xscopeUpload_fields (c := specialCommand cmd x) (a := a)
    (by show 1 ≤ xscopeUploadMaxWords; decide)
  set buf : XscopeBuffer := a.xscopeUpload.copy 0 ((specialCommand cmd x).xscopeBytes a)
  set out := (buf.setData (buf.data.store 0 (specialAnswer cmd d.lastStatus))).setRet controlSuccess
  have h_step : ((controlSystem tasks).step d ((specialCommand cmd x).xscopeCallback a)).2
      = { ret := controlSuccess
          accesses := [0]
          output := .xscopeData out.toList (sizeofXscopeHeader + 1) } := by
    have h_found : resourceTableSearch d.table buf.resid = some ifnumReserved := by
      rw [h_resid]
      exact resourceTableSearch_special h_table
    have h_special : (readCommand tasks d ifnumReserved controlSpecialResid cmd buf.data 1)
        = { device := d
            payload := buf.data.store 0 (specialAnswer cmd d.lastStatus)
            reply := { ret := controlSuccess, accesses := [0] } } := readCommand_special h_cmd _ _
    change (controlProcessXscopeUpload tasks buf xscopeUploadMaxBytes
      ((specialCommand cmd x).xscopeBytes a).length d).2 = _
    rw [xscopeUpload_read _ _ h_found (by rw [h_code]; exact h_cmd.read), h_resid, h_code, h_plen,
      specialCommand, List.length_singleton, h_special]
    dsimp only
    rw [if_pos rfl]
  rw [Command.callbacks, Transducer.trace_cons, Transducer.trace_nil, h_step]
  refine .of_quiet ?_ (List.forall_mem_singleton.mpr ⟨rfl, rfl⟩)
  dsimp only [received]
  rw [List.flatMap_singleton, Command.xscopeCallback]
  dsimp only [hostBytes, Output.bytes]
  rw [XscopeBuffer.data_of_response _ _ _ (by decide), front_store_zero _ (by decide)]
  rfl

/-- **A query alone** is answered by the special resource. Over I2C it has recorded a success by
then. -/
theorem query_served (tasks : UserTasks σ) (h_cmd : IsSpecialCmd cmd) (h_table : d.table.Reserves)
    {t : Transport} (h_ready : ReadyFor t d) (a : HostArrays) (x : UInt8) :
    QueryServed t (specialAnswer cmd (if t = .i2c then controlSuccess else d.lastStatus))
      ((controlSystem tasks).trace d ((specialCommand cmd x).callbacks a t)) := by
  cases t with
  | i2c => exact query_i2c h_cmd h_table a x
  | spi => exact query_spi h_cmd h_table (h_ready rfl) a x
  | usb => exact query_usb h_cmd h_table a x
  | xscope => exact query_xscope h_cmd h_table a x

end Query

/-! ### The version -/

/-- **The version.** A host that asks for the version gets it from every reachable state, whatever
the other transports bring in between its callbacks, and no user task is asked for it. -/
theorem version_query_among {answers : List (List ControlResid)} {d : Device σ}
    (h_reach : Reachable tasks answers d) (t : Transport) (h_idle : t = .spi → d.spi.state = .idle)
    (a : HostArrays) (x : UInt8) (cbs : List Callback)
    (h_cbs : cbs.filter (Callback.isOf t) = (specialCommand controlGetVersion x).callbacks a t) :
    QueryServed t controlVersion
      ((controlSystem tasks).traceOf (Callback.isOf t) d cbs) := by
  have h_stands := standsFor_withUsers t d (outcomesOf tasks t d cbs)
  set d' := d.withUsers (outcomesOf tasks t d cbs)
  have h_ready : ReadyFor t d' := fun h_spi => h_reach.spi_zero_of_idle (h_idle h_spi)
  have h_len : (specialCommand controlGetVersion x).payload.length ≤ t.limit := by
    show 1 ≤ t.limit
    cases t <;> decide
  have h_not : ¬ IsStatusRead controlSpecialResid controlGetVersion := by
    rintro ⟨-, h_cmd⟩
    exact absurd h_cmd (by decide)
  -- alone, it is answered without a look at the recorded status
  have h_served := query_served .replay (Or.inl rfl) h_reach.reserves h_ready a x
  have h_search : resourceTableSearch d.table (specialCommand controlGetVersion x).resid
      = some ifnumReserved := resourceTableSearch_special h_reach.reserves
  have h_asks := Command.neverAsks .replay h_ready h_search h_len h_not a
  rw [← h_cbs] at h_served h_asks
  rw [h_stands.trace_eq h_asks] at h_served
  exact h_served

/-- A query over SPI, with a write over USB between its two transactions. -/
theorem version_query_among_run :
    let a : HostArrays := ⟨Buffer.ofList 0 [], Buffer.ofList 0 [], true, Buffer.ofList 0 [],
      Buffer.ofList 0 [], Buffer.ofList 0 []⟩
    let write : Callback := .usbSetRequest 0x12 0 1 (Buffer.ofList 7 [] : Buffer UInt8 1)
    let first := spiTransaction (exchange a.spiRequiresFirst
      [controlSpecialResid, controlGetVersion, 1, 0, 0, 0, 0, 0])
    let second := spiTransaction (exchange a.spiRequiresFirst [0])
    QueryServed .spi controlVersion ((controlSystem (app true)).traceOf (Callback.isOf .spi)
      (boot [[resourceId]] .initial) (first.map .spi ++ write :: second.map .spi)) := by
  intro a write first second
  refine version_query_among (app true) (reachable_boot _ _) .spi (fun _ => rfl) a 0 _ ?_
  rw [Command.callbacks, spiCallbacks_read (by decide) (by decide)]
  rfl

/-! ### The recorded status -/

/-- The status that a callback records, from what it shows. A transaction over SPI that ends without
a call records one only for a write to the special resource, which is a bad command. -/
def recorded (table : ResourceTable) (cb : Callback) (r : Reply) : Option ControlStatus :=
  match cb with
  | .i2c (.writeData _) => some r.ret
  | .spi .masterEndsTransaction =>
    if r.calls = [] ∧ r.ret ≠ controlBadCommand then none else some r.ret
  | .usbSetRequest .. => some r.ret
  | .xscopeUpload buf _ _ =>
    if (resourceTableSearch table buf.resid).isSome ∧ isControlCmdRead buf.cmd = false then
      some r.ret
    else none
  | _ => none

/-- The last status that the entries of a trace have recorded over `status`. -/
def lastRecorded (table : ResourceTable) (status : ControlStatus)
    (entries : List (Callback × Reply)) : ControlStatus :=
  entries.foldl (fun status e => (recorded table e.1 e.2).getD status) status

section Record

variable {tasks}

theorem i2cStep_records (d : Device σ) (cb : I2cCallback) :
    ((i2cSystem tasks).step d cb).1.lastStatus
      = (recorded d.table (.i2c cb) ((i2cSystem tasks).step d cb).2).getD d.lastStatus := by
  cases cb with
  | writeStart => rfl
  | writeData b => rfl
  | readStart =>
    change (controlProcessI2cReadStart tasks d).1.lastStatus = d.lastStatus
    unfold controlProcessI2cReadStart
    split
    · rfl
    · split
      · dsimp only
        split
        · exact readCommand_lastStatus ..
        · exact readCommand_lastStatus ..
      · rfl
  | readData =>
    change (controlProcessI2cReadData d).1.lastStatus = d.lastStatus
    unfold controlProcessI2cReadData
    split
    · rfl
    · split <;> rfl
    · rfl
  | stop => rfl

/-- A frame that is dispatched without a call is a bad command. -/
theorem ret_writeCommand_of_calls {n : ℕ} {d : Device σ} {ifnum resid cmd : UInt8}
    {payload : Buffer UInt8 n} {payloadLen : ℕ}
    (h : (writeCommand tasks d ifnum resid cmd payload payloadLen).2.calls = []) :
    (writeCommand tasks d ifnum resid cmd payload payloadLen).2.ret = controlBadCommand := by
  by_cases h_resid : resid = controlSpecialResid
  · rw [writeCommand, if_pos h_resid]
  · rw [writeCommand, if_neg h_resid] at h
    cases h

theorem spiStep_records (d : Device σ) (cb : SpiCallback) :
    ((spiSystem tasks).step d cb).1.lastStatus
      = (recorded d.table (.spi cb) ((spiSystem tasks).step d cb).2).getD d.lastStatus := by
  have h_step : SpiStep tasks d cb _ _ := spiStep_sound d cb
  generalize (spiSystem tasks).step d cb = r at h_step ⊢
  obtain ⟨d', r⟩ := r
  dsimp only at h_step ⊢
  cases h_step with
  | endsDispatch hs hk =>
    have h_some : recorded d.table (.spi .masterEndsTransaction) (spiWriteCommand tasks d).2
        = some (spiWriteCommand tasks d).2.ret :=
      if_neg fun h => h.2 (ret_writeCommand_of_calls h.1)
    rw [h_some]
    exact writeCommand_lastStatus ..
  | requiresDispatch hs => exact readCommand_lastStatus ..
  | _ => rfl

/-- **The step.** A callback leaves the status that it records, or the one that was there. -/
theorem step_records (d : Device σ) (cb : Callback) :
    ((controlSystem tasks).step d cb).1.lastStatus
      = (recorded d.table cb ((controlSystem tasks).step d cb).2).getD d.lastStatus := by
  cases cb with
  | i2c cb => exact i2cStep_records d cb
  | spi cb => exact spiStep_records d cb
  | usbSetRequest windex wvalue wlength requestData => rfl
  | usbGetRequest windex wvalue wlength requestData =>
    change (controlProcessUsbGetRequest tasks windex wvalue wlength requestData d).1.lastStatus
      = d.lastStatus
    dsimp only [controlProcessUsbGetRequest]
    split
    · rfl
    · split
      · exact readCommand_lastStatus ..
      · rfl
  | xscopeUpload buf bufSize lengthIn =>
    change (controlProcessXscopeUpload tasks buf bufSize lengthIn d).1.lastStatus
      = (recorded d.table (.xscopeUpload buf bufSize lengthIn)
          (controlProcessXscopeUpload tasks buf bufSize lengthIn d).2).getD d.lastStatus
    dsimp only [recorded]
    cases h_search : resourceTableSearch d.table buf.resid with
    | none =>
      rw [xscopeUpload_none _ _ h_search, if_neg fun h => Bool.false_ne_true h.1]
      rfl
    | some ifnum =>
      cases h_dir : isControlCmdRead buf.cmd with
      | false =>
        rw [xscopeUpload_write _ _ h_search h_dir, if_pos ⟨rfl, rfl⟩]
        exact writeCommand_lastStatus ..
      | true =>
        rw [xscopeUpload_read _ _ h_search h_dir, if_neg fun h => Bool.false_ne_true h.2.symm]
        exact readCommand_lastStatus ..

/-- **The run.** The status of a device is the last one that has been recorded, over whichever
transport. -/
theorem run_records (d : Device σ) (cbs : List Callback) :
    ((controlSystem tasks).run d cbs).lastStatus
      = lastRecorded d.table d.lastStatus ((controlSystem tasks).trace d cbs) := by
  induction cbs generalizing d with
  | nil => rfl
  | cons cb cbs ih =>
    rw [Transducer.run_cons, Transducer.trace_cons, ih, step_table, step_records]
    rfl

end Record

/-- **The status query.** After every run of the device from its start, with the callbacks of all
transports in any order, the query over SPI, USB or xSCOPE reports the status that has been recorded
last over any of them, 0 if none has. The query over I2C reports success, whatever has been
recorded. -/
theorem status_query_last_recorded (answers : List (List ControlResid)) (users : σ)
    (cbs : List Callback) (t : Transport)
    (h_idle : t = .spi → ((controlSystem tasks).run (boot answers users) cbs).spi.state = .idle)
    (a : HostArrays) (x : UInt8) :
    let history := (controlSystem tasks).trace (boot answers users) cbs
    QueryServed t
      (if t = .i2c then controlSuccess else lastRecorded (registeredTable answers) 0 history)
      ((controlSystem tasks).trace ((controlSystem tasks).run (boot answers users) cbs)
        ((specialCommand controlGetLastCommandStatus x).callbacks a t)) := by
  intro history
  have h_reach : Reachable tasks answers ((controlSystem tasks).run (boot answers users) cbs) :=
    (reachable_boot answers users).run cbs
  have h_ready : ReadyFor t ((controlSystem tasks).run (boot answers users) cbs) :=
    fun h_spi => h_reach.spi_zero_of_idle (h_idle h_spi)
  have h_status : ((controlSystem tasks).run (boot answers users) cbs).lastStatus = _ :=
    run_records (boot answers users) cbs
  have h_served := query_served tasks (Or.inr rfl) h_reach.reserves h_ready a x
  rw [h_status] at h_served
  exact h_served

/-- A write over USB to a resource that nobody has registered is reported over SPI. -/
theorem status_query_last_recorded_run :
    let a : HostArrays := ⟨Buffer.ofList 0 [], Buffer.ofList 0 [], true, Buffer.ofList 0 [],
      Buffer.ofList 0 [], Buffer.ofList 0 []⟩
    let write : Callback := .usbSetRequest 0x13 0 1 (Buffer.ofList 7 [] : Buffer UInt8 1)
    QueryServed .spi controlBadCommand ((controlSystem (app true)).trace
      ((controlSystem (app true)).run (boot [[resourceId]] .initial) [write])
      ((specialCommand controlGetLastCommandStatus 0).callbacks a .spi)) := by
  intro a write
  have h_last : lastRecorded (registeredTable [[resourceId]]) 0
      ((controlSystem (app true)).trace (boot [[resourceId]] .initial) [write])
      = controlBadCommand := by decide +kernel
  rw [← h_last]
  exact status_query_last_recorded (app true) [[resourceId]] .initial [write] .spi (fun _ => rfl)
    a 0

end DeviceControl
