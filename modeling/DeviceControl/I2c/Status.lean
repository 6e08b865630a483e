import DeviceControl.Host.Support
import DeviceControl.I2c.Frame

/-!
# The status query over I2C

After a write the host asks the device for the status of its last command, and returns the answer
as the result of the write. Over I2C the answer is always success. The three bytes of the query are
themselves served by `control_process_i2c_write_data`, which records what it returns, so the status
of the write is overwritten before it is read.

`i2c_status_query_iff` is the exact condition: the query reports the code that the user task
returned exactly if that code is success.
-/

namespace DeviceControl

variable {σ : Type} (tasks : UserTasks σ)

/-! ### The query -/

/-- The callbacks of a read command of `n` bytes, as the host's I2C master makes them. -/
def i2cReadCallbacks (header : List UInt8) (n : ℕ) : List I2cCallback :=
  .writeStart :: header.map .writeData ++ .readStart :: List.replicate n .readData

/-- The callbacks of the status query. `readHdr` is the array in which the host builds the
header. -/
def i2cStatusQuery (readHdr : Buffer UInt8 i2cTransactionMaxBytes) : List I2cCallback :=
  i2cReadCallbacks
    (sent (controlBuildI2cData readHdr controlSpecialResid controlGetLastCommandStatus (some [])
      sizeofControlStatus)) sizeofControlStatus

theorem i2cStatusQuery_eq (readHdr : Buffer UInt8 i2cTransactionMaxBytes) :
    i2cStatusQuery readHdr
      = headerCallbacks controlSpecialResid controlGetLastCommandStatus 1
          ++ [.readStart, .readData] := by
  rw [i2cStatusQuery, sent_buildI2c_read _ (by decide) _ (by decide) (by decide)]
  rfl

/-- All callbacks of the query return success and the byte delivered is `s`. -/
def I2cStatusReported (replies : List (I2cCallback × Reply)) (s : ControlStatus) : Prop :=
  (∀ p ∈ replies, p.2.ret = controlSuccess) ∧
    replies.getLast?.map (fun p => p.2.output) = some (.i2cData (some s))

instance (replies : List (I2cCallback × Reply)) (s : ControlStatus) :
    Decidable (I2cStatusReported replies s) :=
  inferInstanceAs (Decidable (_ ∧ _))

/-- **The query answers with success**, from any state of a device with a registered table. -/
theorem i2cStatusReported_success {d : Device σ} (h_table : d.table.Reserves)
    (readHdr : Buffer UInt8 i2cTransactionMaxBytes) :
    I2cStatusReported ((i2cSystem tasks).trace d (i2cStatusQuery readHdr)) controlSuccess := by
  obtain ⟨h_run, h_quiet⟩ := trace_header tasks d (c := controlGetLastCommandStatus) (n := 1)
    (resourceTableSearch_special h_table) (by decide) (by decide)
  rw [i2cStatusQuery_eq, Transducer.trace_append, h_run]
  set d₁ := (d.addressed ifnumReserved controlSpecialResid controlGetLastCommandStatus).announced
    (1 : UInt8).toNat
  have h_await : d₁.i2c.AwaitsRead ifnumReserved controlSpecialResid
      controlGetLastCommandStatus 1 :=
    ⟨rfl, rfl, rfl, rfl, rfl⟩
  -- the header has been recorded as a success by the time the status is read
  have h_read : i2cReadCommand tasks d₁
      = { device := d₁
          payload := d₁.i2c.payload.store 0 controlSuccess
          reply := { ret := controlSuccess, accesses := [0] } } :=
    readCommand_lastCommandStatus ..
  have h_start : (i2cSystem tasks).step d₁ .readStart
      = (d₁.granted tasks, { ret := controlSuccess, accesses := [0] }) := by
    rw [h_await.step tasks (by decide), h_read]
    rfl
  have h_data := ((h_await.serves tasks).step tasks (by decide) (by decide)).2
  rw [h_read, Buffer.getElem?_store_self _ _ (by decide)] at h_data
  rw [Transducer.trace_cons, h_start, Transducer.trace_cons, h_data, Transducer.trace_nil]
  refine ⟨?_, by simp⟩
  refine List.forall_mem_append.mpr ⟨fun p hp => (h_quiet p hp).ret, ?_⟩
  simp

/-! ### A write and the query after it -/

/-- Two codes cannot both be reported. -/
theorem I2cStatusReported.eq {replies : List (I2cCallback × Reply)} {s s' : ControlStatus}
    (h : I2cStatusReported replies s) (h' : I2cStatusReported replies s') : s = s' := by
  have h_eq := h.2.symm.trans h'.2
  simpa using h_eq

/-- **The status query over I2C.** After any run, a write frame for a user task and a stop or none,
the query reports the code `s` that the user task returned exactly if `s` is success. -/
theorem i2c_status_query_iff (answers : List (List ControlResid)) (users : σ)
    (history : List I2cCallback) (stop : Bool) (readHdr : Buffer UInt8 i2cTransactionMaxBytes)
    {r ifnum c n : UInt8} {ps : List UInt8}
    (h_reg : resourceTableSearch (registeredTable answers) r = some ifnum)
    (h_ne : r ≠ controlSpecialResid) (h_write : isControlCmdRead c = false)
    (h_len : n.toNat = ps.length) (h_le : ps.length ≤ i2cDataMaxBytes) :
    let d := (i2cSystem tasks).run (boot answers users) history
    let s := (d.writeAnswer tasks ifnum r c ps).1
    let d' := (i2cSystem tasks).run d (writeFrame r c n ps ++ if stop then [.stop] else [])
    (∃ entries last, (i2cSystem tasks).trace d (writeFrame r c n ps) = entries ++ [last] ∧
        last.2.calls = [⟨writeRequest ifnum r c ps, s, []⟩]) ∧
      (I2cStatusReported ((i2cSystem tasks).trace d' (i2cStatusQuery readHdr)) s ↔
        s = controlSuccess) := by
  intro d s d'
  have h_reach : Reachable tasks answers d := (reachable_boot answers users).run_i2c history
  constructor
  · obtain ⟨entries, last, h_trace, -, h_del⟩ := trace_writeFrame tasks d
      (by rw [h_reach.table]; exact h_reg) h_ne h_write h_len h_le
    exact ⟨entries, last, h_trace, h_del.calls⟩
  · -- the query says success in any case, so the code reported is right for success only
    have h_success : I2cStatusReported ((i2cSystem tasks).trace d' _) controlSuccess :=
      i2cStatusReported_success tasks (h_reach.run_i2c _).reserves readHdr
    constructor
    · exact fun h => h.eq h_success
    · intro h_s
      rw [h_s]
      exact h_success

/-- A write to a task that answers with success, and the query after it. -/
theorem i2c_status_query_iff_run :
    let tasks : UserTasks Unit := .always controlSuccess []
    let d := (i2cSystem tasks).run (boot [[3]] ()) []
    let d' := (i2cSystem tasks).run d (writeFrame 3 5 1 [42] ++ [.stop])
    I2cStatusReported ((i2cSystem tasks).trace d' (i2cStatusQuery (Buffer.ofList 0 [])))
      controlSuccess := by
  have h_reg : resourceTableSearch (registeredTable [[3]]) 3 = some 0 := by decide +kernel
  have h_len : (1 : UInt8).toNat = [(42 : UInt8)].length := rfl
  have h_iff := i2c_status_query_iff (.always controlSuccess []) [[3]] () [] true
    (Buffer.ofList 0 []) h_reg (c := 5) (by decide) (by decide) h_len (by decide)
  exact h_iff.2.mpr rfl

/-- A user task that answers a write with an error has its answer reported as success. -/
theorem i2c_status_query_masks_error :
    let tasks : UserTasks Unit := .always controlError []
    let frame := writeFrame 3 5 1 [42]
    let d := (i2cSystem tasks).run (boot [[3]] ()) (frame ++ [.stop])
    let query := (i2cSystem tasks).trace d (i2cStatusQuery (Buffer.ofList 0 []))
    (∃ p ∈ (i2cSystem tasks).trace (boot [[3]] ()) frame, ∃ call ∈ p.2.calls,
        call.request = writeRequest 0 3 5 [42] ∧ call.ret = controlError) ∧
      I2cStatusReported query controlSuccess ∧ ¬ I2cStatusReported query controlError := by
  decide +kernel

end DeviceControl
