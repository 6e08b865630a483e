import DeviceControl.Host.Transfers
import DeviceControl.Host.WriteStatus
import DeviceControl.I2c.Status
import DeviceControl.Spi.Status
import DeviceControl.Xscope.RoundTrip

/-!
# Writes that are too long

A builder refuses a payload that is too long by returning the length 0. The call should then return
an error, and no user task should see a write.

`refusal_iff` is the exact condition. The USB host compares the length itself and returns at once.
The others hand the 0 on to their library, and a transfer of no bytes is as good as any other: it is
followed by the status query, and the status is that of an earlier command. The adapter of xSCOPE
answers an upload of no bytes from what its buffer holds, which may be an earlier write.
-/

namespace DeviceControl

variable {σ W : Type}

/-! ### On the bus -/

/-- What the device sees of a transfer, with the arrays of its adapters. -/
def BusTransfer.callbacks (a : HostArrays) : BusTransfer → List Callback
  | .i2cWrite bytes stop =>
    (i2cWriteTransfer bytes ++ if stop then [I2cCallback.stop] else []).map .i2c
  | .i2cRead n => (i2cReadTransfer n).map .i2c
  | .i2cRdwr bytes n => (i2cWriteTransfer bytes ++ i2cReadTransfer n).map .i2c
  | .spi bytes => (spiTransaction (exchange a.spiRequiresFirst bytes)).map .spi
  | .usbOut sp payload =>
    [.usbSetRequest sp.wIndex sp.wValue sp.wLength (a.usbData.copy 0 payload)]
  | .usbIn sp => [.usbGetRequest sp.wIndex sp.wValue sp.wLength a.usbData]
  | .xscope bytes =>
    [.xscopeUpload (a.xscopeUpload.copy 0 bytes) xscopeUploadMaxBytes bytes.length]

/-- No write is delivered to a user task. -/
def NoWriteDelivered (tasks : UserTasks σ) (d : Device σ) (cbs : List Callback) : Prop :=
  ∀ p ∈ (controlSystem tasks).trace d cbs, ∀ call ∈ p.2.calls, call.request.method ≠ .write

/-- An upload of no bytes is taken for a write to a user task. -/
structure StaleWrite (d : Device σ) (buf : XscopeBuffer) : Prop where
  registered : ∃ ifnum, resourceTableSearch d.table buf.resid = some ifnum
  user : buf.resid ≠ controlSpecialResid
  write : isControlCmdRead buf.cmd = false

namespace HostImpl

variable (h : HostImpl W) (w : W) (l : HostLocals) (resid : ControlResid) (cmd : ControlCmd)
  (payload : List UInt8)

/-- The payload is longer than what the builder, or the length check, accepts. -/
def Refuses : Prop :=
  match h with
  | rpiI2c .. => i2cDataMaxBytes < payload.length
  | xcoreI2c .. => i2cDataMaxBytes < payload.length
  | rpiSpi .. => spiTransactionMaxBytes < payload.length % 2 ^ 32
  | usb .. => usbDataMaxBytes < payload.length
  | xscope .. => xscopeUploadMaxWords < payload.length % 2 ^ 32

/-- A transfer of no bytes succeeds. -/
def EmptySucceeds : Prop :=
  match h with
  | rpiI2c write _ => ∀ w, (write w []).1 = 0
  | xcoreI2c write _ => ∀ w, (write w [] true).res = .ack ∧ (write w [] true).numBytesSent = 0
  | xscope requestUpload _ => ∀ w, (requestUpload w []).accepted = true
  | _ => True

/-- The write is refused, as the caller and the device `d` see it. -/
structure RefusesWrite (tasks : UserTasks σ) (a : HostArrays) (d : Device σ) : Prop where
  reported : ∃ r, h.controlWriteCommand w l resid cmd payload = some r ∧ r.ret ≠ controlSuccess
  undelivered : ∀ transfers, h.writeLog w l resid cmd payload = some transfers →
    NoWriteDelivered tasks d (transfers.flatMap (BusTransfer.callbacks a))

/-- The condition: what comes back is not mistaken for success, and over xSCOPE the buffer of the
adapter does not hold a write. -/
def RefusalTold (a : HostArrays) (d : Device σ) : Prop :=
  let t := h.writeTransfers w l resid cmd payload
  match h with
  | rpiI2c .. => ¬ (t.queried ∧ t.status = some controlSuccess)
  | xcoreI2c .. => (t.queried → t.status ≠ some controlSuccess) ∧
      (¬ t.queried → l.status ≠ controlSuccess)
  | rpiSpi .. => t.status ≠ some controlSuccess
  | usb .. => True
  | xscope requestUpload host =>
      EmptyUploadFails requestUpload host w ∧ ¬ StaleWrite d a.xscopeUpload

/-- What a refused write puts on the bus before the query. -/
def emptyTransfer : List BusTransfer :=
  match h with
  | rpiI2c .. => [.i2cWrite [] true]
  | xcoreI2c .. => [.i2cWrite [] true]
  | rpiSpi .. => [.spi []]
  | usb .. => []
  | xscope .. => [.xscope []]

variable {h payload} in
/-- A refused write is built as a transfer of no bytes, over USB not at all. -/
theorem built_of_refuses (h_long : h.Refuses payload) :
    h.built l resid cmd payload = h.emptyTransfer := by
  cases h with
  | rpiI2c write rdwr =>
    dsimp only [built]
    rw [buildI2c_refused _ _ h_long]
    rfl
  | xcoreI2c write read =>
    dsimp only [built]
    rw [buildI2c_refused _ _ h_long]
    rfl
  | rpiSpi transfern completes =>
    dsimp only [built]
    rw [buildSpi_refused _ _ h_long]
    rfl
  | usb controlOut controlIn => exact if_pos h_long
  | xscope requestUpload host =>
    dsimp only [built]
    rw [xscope_refused _ _ h_long]
    rfl

end HostImpl

/-! ### At the device -/

section Device

variable {tasks : UserTasks σ} {d : Device σ} {a : HostArrays}

/-- What holds of a run holds of the beginning of it. -/
theorem NoWriteDelivered.mono {cbs cbs' : List Callback} (h : NoWriteDelivered tasks d cbs')
    (h_pre : cbs <+: cbs') : NoWriteDelivered tasks d cbs := by
  obtain ⟨rest, rfl⟩ := h_pre
  rw [NoWriteDelivered, Transducer.trace_append] at h
  exact (List.forall_mem_append.mp h).1

theorem noWriteDelivered_of_quiet {cbs : List Callback}
    (h : ∀ p ∈ (controlSystem tasks).trace d cbs, p.2.calls = []) :
    NoWriteDelivered tasks d cbs := by
  intro p hp call h_call
  rw [h p hp] at h_call
  cases h_call

/-- What has been assigned for a byte that is read, or at a stop, calls nobody. -/
theorem calls_i2cTail {cb : I2cCallback} (h_cb : cb = .readData ∨ cb = .stop) (d : Device σ) :
    ((i2cSystem tasks).step d cb).2.calls = [] := by
  rcases h_cb with rfl | rfl
  · change (controlProcessI2cReadData d).2.calls = []
    unfold controlProcessI2cReadData
    split
    · rfl
    · dsimp only
      split <;> rfl
    · rfl
  · rfl

/-- **I2C.** A write of no bytes and the status query call nobody, from any state. -/
theorem noWrite_i2c (h_table : d.table.Reserves) :
    NoWriteDelivered tasks d
      ((.writeStart :: .stop :: (i2cWriteTransfer statusHeader ++ i2cReadTransfer 1)).map
        Callback.i2c) := by
  apply noWriteDelivered_of_quiet
  rw [trace_i2c, Transducer.trace_cons, Transducer.trace_cons]
  set d₁ := ((i2cSystem tasks).step ((i2cSystem tasks).step d .writeStart).1 .stop).1
  have h_search : resourceTableSearch d₁.table controlSpecialResid = some ifnumReserved :=
    resourceTableSearch_special h_table
  -- the header of the query, the start of the read, and what comes after it
  obtain ⟨h_run, h_quiet⟩ := trace_header tasks d₁ (c := controlGetLastCommandStatus) (n := 1)
    h_search (by decide) (by decide)
  have h_split : i2cWriteTransfer statusHeader ++ i2cReadTransfer 1
      = headerCallbacks controlSpecialResid controlGetLastCommandStatus 1
        ++ [.readStart, .readData, .stop] := rfl
  set d₂ := (d₁.addressed ifnumReserved controlSpecialResid controlGetLastCommandStatus).announced
    (1 : UInt8).toNat
  have h_await : d₂.i2c.AwaitsRead ifnumReserved controlSpecialResid
      controlGetLastCommandStatus 1 :=
    ⟨rfl, rfl, rfl, rfl, rfl⟩
  have h_start : ((i2cSystem tasks).step d₂ .readStart).2.calls = [] := by
    rw [h_await.step tasks (by decide)]
    change (readCommand tasks d₂ ifnumReserved controlSpecialResid d₂.i2c.cmd d₂.i2c.payload
      d₂.i2c.payloadLenFromHeader).reply.calls = []
    exact calls_readCommand_special tasks
  have h_tail : ∀ p ∈ (i2cSystem tasks).trace d₁
      (i2cWriteTransfer statusHeader ++ i2cReadTransfer 1), p.2.calls = [] := by
    rw [h_split, Transducer.trace_append, h_run]
    refine List.forall_mem_append.mpr ⟨fun p hp => (h_quiet p hp).calls, ?_⟩
    rw [Transducer.trace_cons, Transducer.trace_cons, Transducer.trace_cons, Transducer.trace_nil]
    refine List.forall_mem_cons.mpr ⟨h_start, List.forall_mem_cons.mpr ⟨?_, ?_⟩⟩
    · exact calls_i2cTail (Or.inl rfl) _
    · exact List.forall_mem_singleton.mpr rfl
  refine List.forall_mem_map.mpr
    (List.forall_mem_cons.mpr ⟨rfl, List.forall_mem_cons.mpr ⟨rfl, ?_⟩⟩)
  exact h_tail

/-- **SPI.** From rest, neither do the transactions. -/
theorem noWrite_spi (tasks : UserTasks σ) (h_table : d.table.Reserves) (h_rest : d.spi.AtRest)
    (requiresFirst : Bool) :
    NoWriteDelivered tasks d
      ((spiTransaction (exchange requiresFirst [])
        ++ (spiTransaction (exchange requiresFirst spiStatusQuery.1)
          ++ spiTransaction (exchange requiresFirst spiStatusQuery.2))).map Callback.spi) := by
  apply noWriteDelivered_of_quiet
  rw [trace_spi]
  refine List.forall_mem_map.mpr ?_
  -- a transaction without a byte only brings the machine back to its initial state
  have h_ends : (spiSystem tasks).step d .masterEndsTransaction
      = (d.withSpi Spi.zero, { ret := controlSuccess }) := by
    rcases h_rest with h_zero | h_data
    · exact step_ends_reset tasks (by rw [h_zero]; decide) (by rw [h_zero]; decide)
    · exact step_ends_delivering tasks h_data
  have h_empty : spiTransaction (exchange requiresFirst []) = [.masterEndsTransaction] := rfl
  rw [h_empty, List.singleton_append, Transducer.trace_cons, h_ends]
  refine List.forall_mem_cons.mpr ⟨rfl, ?_⟩
  obtain ⟨before, after, h_split, h_before, h_first, h_after⟩ := exchange_header requiresFirst
    controlSpecialResid controlGetLastCommandStatus 1 0 [0, 0, 0, 0]
  have h_header : BringsHeader (d.withSpi Spi.zero).table before ifnumReserved controlSpecialResid
      controlGetLastCommandStatus 1 :=
    ⟨⟨[], h_before⟩, h_first, resourceTableSearch_special h_table, by decide⟩
  obtain ⟨A, B, h_trace, -, h_quiet, h_run⟩ := spiRead_first tasks (d := d.withSpi Spi.zero) rfl
    h_header (by rw [h_after]; simp)
  have h_query : exchange requiresFirst spiStatusQuery.1 = before ++ .requires :: after := h_split
  rw [Transducer.trace_append, h_query, h_trace, h_run]
  refine List.forall_mem_append.mpr ⟨?_, trace_delivering tasks rfl _⟩
  obtain ⟨h_A, h_B⟩ := List.forall_mem_append.mp h_quiet
  refine List.forall_mem_append.mpr ⟨fun p hp => (h_A p hp).1.calls,
    List.forall_mem_cons.mpr ⟨?_, ?_⟩⟩
  · -- the read of the status
    change (readCommand tasks (d.withSpi Spi.zero) ifnumReserved controlSpecialResid
      controlGetLastCommandStatus Spi.zero.payload 1).reply.calls = []
    exact calls_readCommand_special tasks
  · exact fun p hp => (h_B p hp).1.calls

/-- **xSCOPE.** An upload of no bytes delivers the write that the buffer holds. -/
theorem noWrite_xscope_iff (tasks : UserTasks σ) (buf : XscopeBuffer) :
    NoWriteDelivered tasks d [.xscopeUpload (buf.copy 0 []) xscopeUploadMaxBytes 0] ↔
      ¬ StaleWrite d buf := by
  have h_copy : buf.copy 0 [] = buf := rfl
  have h_calls : NoWriteDelivered tasks d [.xscopeUpload (buf.copy 0 []) xscopeUploadMaxBytes 0] ↔
      ∀ call ∈ (controlProcessXscopeUpload tasks buf xscopeUploadMaxBytes 0 d).2.calls,
        call.request.method ≠ .write := by
    rw [h_copy]
    exact List.forall_mem_singleton
  rw [h_calls]
  constructor
  · rintro h_none ⟨⟨ifnum, h_search⟩, h_ne, h_write⟩
    rw [xscopeUpload_write _ _ h_search h_write] at h_none
    set call := writeCall tasks d ifnum buf.resid buf.cmd buf.data buf.payloadLen.toNat with h_call
    -- the adapter takes the rest of its buffer for an upload, and that is a write
    have h_mem : call ∈ (writeCommand tasks d ifnum buf.resid buf.cmd buf.data
        buf.payloadLen.toNat).2.calls := by
      rw [calls_writeCommand tasks h_ne]
      exact List.mem_singleton_self _
    exact h_none call h_mem rfl
  · intro h_stale call h_call h_method
    -- a call that is a write has come from the fields in the buffer
    obtain ⟨ifnum, h_search, ⟨h_ne, -, -, -⟩, ⟨-, h_write⟩ | ⟨h_read, -⟩⟩ :=
      requestStep_call (xscopeUpload_sound buf xscopeUploadMaxBytes 0 d) h_call
    · exact h_stale ⟨⟨ifnum, h_search⟩, h_ne, h_write⟩
    · rw [h_method] at h_read
      cases h_read

end Device

/-! ### All implementations -/

section Refusal

variable {tasks : UserTasks σ} {d : Device σ} {a : HostArrays} {h : HostImpl W} {w : W}
  {l : HostLocals} {resid : ControlResid} {cmd : ControlCmd} {payload : List UInt8}

/-- What a refused write puts on the bus: a transfer of no bytes, and the status query as far as it
goes. -/
theorem writeLog_of_refuses (h_long : h.Refuses payload) {transfers : List BusTransfer}
    (h_log : h.writeLog w l resid cmd payload = some transfers) :
    transfers <+: h.emptyTransfer ++ h.statusQuery := by
  obtain ⟨query, h_query, h_recorded⟩ := recorded_write w [] l resid cmd payload h
  rw [HostImpl.writeLog, h_recorded, Option.map_map, HostImpl.built_of_refuses l resid cmd h_long]
    at h_log
  obtain ⟨r, -, rfl⟩ := Option.map_eq_some_iff.mp h_log
  change h.emptyTransfer ++ query <+: _
  exact (List.prefix_append_right_inj _).mpr h_query

/-- But for xSCOPE, none of it delivers a write. -/
theorem noWrite_refused (h_table : d.table.Reserves)
    (h_rest : h.transport = .spi → d.spi.AtRest) (h_query : h.transport ≠ .xscope)
    (a : HostArrays) : NoWriteDelivered tasks d
      ((h.emptyTransfer ++ h.statusQuery).flatMap (BusTransfer.callbacks a)) := by
  cases h with
  | rpiI2c write rdwr => exact noWrite_i2c h_table
  | xcoreI2c write read => exact noWrite_i2c h_table
  | rpiSpi transfern completes =>
    have h_quiet := noWrite_spi tasks h_table (h_rest rfl) a.spiRequiresFirst
    rw [List.map_append, List.map_append, ← List.append_nil (List.map _ (spiTransaction
      (exchange a.spiRequiresFirst spiStatusQuery.2)))] at h_quiet
    exact h_quiet
  | usb controlOut controlIn =>
    refine List.forall_mem_singleton.mpr fun call h_call => ?_
    -- the query is for the special resource, which no user task has
    obtain ⟨_, _, h_from, _⟩ := requestStep_call (usbGetRequest_sound _ _ _ _ d) h_call
    exact absurd rfl h_from.ne_special
  | xscope requestUpload host => exact absurd rfl h_query

/-- Where no write is delivered, a host with a status query refuses exactly if it does not take what
comes back for success. -/
theorem refusesWrite_iff_of_query (h_table : d.table.Reserves)
    (h_rest : h.transport = .spi → d.spi.AtRest) (h_query : h.transport ≠ .xscope)
    (h_fills : h.Fills) (h_long : h.Refuses payload) :
    h.RefusesWrite w l resid cmd payload tasks a d ↔
      ¬ h.TakesForSuccess l (h.writeTransfers w l resid cmd payload) := by
  obtain ⟨r, h_some, h_ret⟩ := ret_write_eq_success_iff h_query h_fills w l resid cmd payload
  rw [← h_ret]
  constructor
  · rintro ⟨⟨r', h_r', h_error⟩, -⟩
    obtain rfl := Option.some.inj (h_some.symm.trans h_r')
    exact h_error
  · intro h_error
    refine ⟨⟨r, h_some, h_error⟩, fun transfers h_log => ?_⟩
    obtain ⟨rest, h_rest'⟩ := writeLog_of_refuses h_long h_log
    refine (noWrite_refused h_table h_rest h_query a).mono ?_
    rw [← h_rest', List.flatMap_append]
    exact List.prefix_append _ _

/-- Over xSCOPE the write is refused exactly if the upload of no bytes fails, and delivers
nothing. -/
theorem xscope_refusesWrite_iff {requestUpload : W → List UInt8 → XscopeOutcome W}
    {host : XscopeHost} (h_long : xscopeUploadMaxWords < payload.length % 2 ^ 32) :
    (HostImpl.xscope requestUpload host).RefusesWrite w l resid cmd payload tasks a d ↔
      EmptyUploadFails requestUpload host w ∧ ¬ StaleWrite d a.xscopeUpload := by
  set h : HostImpl W := .xscope requestUpload host with h_h
  have h_refuses : h.Refuses payload := h_long
  -- whether the caller is told is a matter of the upload alone
  have h_reported : (∃ r, h.controlWriteCommand w l resid cmd payload = some r ∧
      r.ret ≠ controlSuccess) ↔ EmptyUploadFails requestUpload host w := by
    rw [← writeCommand_refused_iff (b := l.upload) (c := ⟨resid, cmd, payload⟩) h_long]
    constructor
    · rintro ⟨r, h_some, h_ret⟩
      obtain ⟨r', h_some', rfl⟩ := Option.map_eq_some_iff.mp h_some
      exact ⟨r', h_some', h_ret⟩
    · rintro ⟨r, h_some, h_ret⟩
      exact ⟨⟨r.ret, r.world⟩, Option.map_eq_some_iff.mpr ⟨r, h_some, rfl⟩, h_ret⟩
  -- what goes over the link is one upload of no bytes, without a query behind it
  obtain ⟨query, h_query, h_recorded⟩ := recorded_write w [] l resid cmd payload h
  obtain rfl : query = [] := List.prefix_nil.mp h_query
  rw [HostImpl.built_of_refuses l resid cmd h_refuses] at h_recorded
  rw [← h_reported, ← noWrite_xscope_iff tasks]
  constructor
  · rintro ⟨⟨r, h_some, h_ret⟩, h_none⟩
    refine ⟨⟨r, h_some, h_ret⟩, h_none [.xscope []] ?_⟩
    rw [HostImpl.writeLog, h_recorded, h_some]
    rfl
  · rintro ⟨h_error, h_none⟩
    refine ⟨h_error, fun transfers h_log => ?_⟩
    rw [HostImpl.writeLog, h_recorded, Option.map_map] at h_log
    obtain ⟨r, -, rfl⟩ := Option.map_eq_some_iff.mp h_log
    exact h_none

/-- **A write that is too long.** On a bus on which a transfer of no bytes succeeds, a write that
the builder refuses is refused to the caller, and kept from the user tasks, exactly if what comes
back is not mistaken for success, and over xSCOPE the adapter does not hold a write. -/
theorem refusal_iff {answers : List (List ControlResid)} (h_reach : Reachable tasks answers d)
    (h_rest : h.transport = .spi → d.spi.AtRest) (h_fills : h.Fills) (h_empty : h.EmptySucceeds)
    (w : W) (l : HostLocals) (resid : ControlResid) (cmd : ControlCmd)
    (h_long : h.Refuses payload) (a : HostArrays) :
    h.RefusesWrite w l resid cmd payload tasks a d ↔ h.RefusalTold w l resid cmd payload a d := by
  have h_table : d.table.Reserves := h_reach.reserves
  have h_iff (h_query : h.transport ≠ .xscope) : h.RefusesWrite w l resid cmd payload tasks a d ↔
      ¬ h.TakesForSuccess l (h.writeTransfers w l resid cmd payload) :=
    refusesWrite_iff_of_query h_table h_rest h_query h_fills h_long
  cases h with
  | rpiI2c write rdwr =>
    -- the transfer of no bytes is complete
    have h_written :
        ((HostImpl.rpiI2c write rdwr).writeTransfers w l resid cmd payload).written := by
      dsimp only [HostImpl.writeTransfers]
      rw [buildI2c_refused _ _ h_long]
      exact h_empty w
    rw [h_iff nofun]
    exact not_congr (and_iff_right h_written)
  | xcoreI2c write read =>
    have h_written :
        ((HostImpl.xcoreI2c write read).writeTransfers w l resid cmd payload).written := by
      dsimp only [HostImpl.writeTransfers]
      rw [buildI2c_refused _ _ h_long]
      exact h_empty w
    rw [h_iff nofun]
    constructor
    · intro h_not
      exact ⟨fun h_queried h_status => h_not ⟨h_written, Or.inl ⟨h_queried, h_status⟩⟩,
        fun h_lost h_local => h_not ⟨h_written, Or.inr ⟨h_lost, h_local⟩⟩⟩
    · rintro ⟨h_status, h_local⟩ ⟨-, h_taken | h_taken⟩
      · exact h_status h_taken.1 h_taken.2
      · exact h_local h_taken.1 h_taken.2
  | rpiSpi transfern completes => exact h_iff nofun
  | usb controlOut controlIn =>
    -- the length check is in front of the transfer
    rw [h_iff nofun]
    exact iff_of_true (fun h_taken => absurd h_taken.1.1 (Nat.not_le.mpr h_long)) trivial
  | xscope requestUpload host => exact xscope_refusesWrite_iff h_long

end Refusal

/-- A USB host refuses 2049 bytes, whatever the bus does. -/
theorem refusal_usb :
    let tasks : UserTasks Unit := .always controlSuccess []
    let a : HostArrays := ⟨Buffer.ofList 0 [], Buffer.ofList 0 [], true, Buffer.ofList 0 [],
      Buffer.ofList 0 [], Buffer.ofList 0 []⟩
    usbDeafHost.RefusesWrite () (.fill 0) 3 5 (List.replicate 2049 0) tasks a (boot [[3]] ()) := by
  intro tasks a
  have h_reach : Reachable tasks [[3]] (boot [[3]] ()) := reachable_boot [[3]] ()
  have h_long : usbDeafHost.Refuses (List.replicate 2049 0) := by
    change usbDataMaxBytes < (List.replicate 2049 (0 : UInt8)).length
    rw [List.length_replicate]
    decide
  have h_iff := refusal_iff h_reach (fun _ => Or.inl rfl) usbDeafHost_fills trivial () (.fill 0) 3 5
    h_long a
  exact h_iff.mpr trivial

/-- The RPi I2C host on a bus with a device. -/
def rpiI2cOnBus (tasks : UserTasks σ) : HostImpl (Device σ) :=
  .rpiI2c (fun d bytes =>
    (bytes.length, (i2cControlClient tasks).run d (i2cWriteTransfer bytes ++ [.stop])))
    (i2cRdwr tasks)

/-- A payload of 254 bytes over I2C: the status is that of the query itself, and the call returns
success. One of 65 bytes over xSCOPE, after a write of one byte: that write is delivered again, and
its result returned. -/
theorem refusal_missed :
    let tasks : UserTasks Unit := .always controlSuccess []
    let a : HostArrays := ⟨Buffer.ofList 0 [], Buffer.ofList 0 [], true, Buffer.ofList 0 [],
      Buffer.ofList 0 [], Buffer.ofList 0 [3, 5, 1, 0, 42]⟩
    let xscope : HostImpl (XscopeServer Unit) :=
      .xscope (xscopeLink tasks 7) ⟨7, true, 0, [], fun _ => 0⟩
    let server : XscopeServer Unit := ⟨boot [[3]] (), a.xscopeUpload⟩
    ((rpiI2cOnBus tasks).controlWriteCommand (boot [[3]] ()) (.fill 0) 3 5
        (List.replicate 254 0)).map HostWrite.ret = some controlSuccess ∧
      ¬ (rpiI2cOnBus tasks).RefusesWrite (boot [[3]] ()) (.fill 0) 3 5 (List.replicate 254 0) tasks
        a (boot [[3]] ()) ∧
      (xscope.controlWriteCommand server (.fill 0) 3 5 (List.replicate 65 0)).map HostWrite.ret
        = some controlSuccess ∧
      (∃ p ∈ (controlSystem tasks).trace (boot [[3]] ()) ((BusTransfer.xscope []).callbacks a),
        ∃ call ∈ p.2.calls, call.request = writeRequest 0 3 5 [42]) := by
  intro tasks a xscope server
  have h_success : ((rpiI2cOnBus tasks).controlWriteCommand (boot [[3]] ()) (.fill 0) 3 5
      (List.replicate 254 0)).map HostWrite.ret = some controlSuccess := by decide +kernel
  refine ⟨h_success, ?_, by decide +kernel, by decide +kernel⟩
  rintro ⟨⟨r, h_some, h_ret⟩, -⟩
  rw [h_some, Option.map_some] at h_success
  exact h_ret (Option.some.inj h_success)

end DeviceControl
