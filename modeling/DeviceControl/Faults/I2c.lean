import DeviceControl.Faults.Link
import DeviceControl.Link.I2c

/-!
# The I2C links on a bus that may fail

The device asks a user task at one callback of a transfer, the last byte of a write or the start of
a read. So a transfer that is cut off before it has got lost, and from there on it has been served.
The host takes either for an error.
-/

namespace DeviceControl

variable {σ W : Type} {tasks : UserTasks σ}

/-! ### Transfers that are cut off -/

section I2c

variable {d d' : Device σ} {resid cmd ifnum : UInt8}

theorem I2cCut.table {cbs : List I2cCallback} (h : I2cCut tasks d cbs d') : d'.table = d.table := by
  obtain ⟨sent, stops, -, -, rfl⟩ := h
  exact run_i2c_table d _

/-- A transfer is cut off in its first part or behind it. -/
theorem I2cCut.of_append {cbs cbs' : List I2cCallback} (h : I2cCut tasks d (cbs ++ cbs') d') :
    I2cCut tasks d cbs d' ∨ I2cCut tasks ((i2cSystem tasks).run d cbs) cbs' d' := by
  obtain ⟨sent, stops, h_prefix, h_stops, h_run⟩ := h
  rcases List.prefix_or_prefix_of_prefix h_prefix (List.prefix_append cbs cbs') with h_in | h_over
  · exact Or.inl ⟨sent, stops, h_in, h_stops, h_run⟩
  · obtain ⟨rest, rfl⟩ := h_over
    refine Or.inr ⟨rest, stops, (List.prefix_append_right_inj cbs).mp h_prefix, h_stops, ?_⟩
    rw [h_run, List.append_assoc, Transducer.run_append]

theorem run_stops_users (d : Device σ) {stops : List I2cCallback} (h : ∀ cb ∈ stops, cb = .stop) :
    ((i2cSystem tasks).run d stops).users = d.users :=
  run_readData_stop_users d fun cb h_cb => Or.inr (h cb h_cb)

/-- A part of a transfer without calls that is cut off. -/
theorem I2cCut.quiet {cbs : List I2cCallback} (h : I2cCut tasks d cbs d')
    (h_quiet : ∀ p ∈ (i2cSystem tasks).trace d cbs, p.2.Quiet) : d'.users = d.users := by
  obtain ⟨sent, stops, ⟨rest, rfl⟩, h_stops, rfl⟩ := h
  rw [Transducer.trace_append, List.forall_mem_append] at h_quiet
  rw [Transducer.run_append, run_stops_users _ h_stops,
    run_i2c_users fun p hp => (h_quiet.1 p hp).calls]

/-- A write frame that is cut off has been served if its last byte has come through, and no user
task knows of it otherwise. -/
theorem I2cCut.write {payload : List UInt8}
    (h : I2cCut tasks d
      (i2cWriteTransfer (resid :: cmd :: UInt8.ofNat payload.length :: payload)) d')
    (h_search : resourceTableSearch d.table resid = some ifnum)
    (h_ne : resid ≠ controlSpecialResid) (h_write : isControlCmdRead cmd = false)
    (h_len : payload.length ≤ i2cDataMaxBytes) :
    d'.users = d.users ∨ d'.users = (d.writeAnswer tasks ifnum resid cmd payload).2 := by
  obtain ⟨entries, last, h_trace, h_quiet, h_del⟩ := trace_writeFrame tasks d h_search h_ne h_write
    (toNat_ofNat_of_le h_len) h_len
  obtain ⟨h_frame, h_entries, -⟩ := (i2cSystem tasks).trace_eq_append h_trace
  have h_cut : I2cCut tasks d (entries.map Prod.fst ++ [last.1]) d' := by
    rw [← List.map_singleton, ← h_frame]
    exact h
  rw [← h_entries] at h_quiet
  rcases h_cut.of_append with h_before | ⟨sent, stops, h_prefix, h_stops, h_run⟩
  · exact Or.inl (h_before.quiet h_quiet)
  · rcases List.prefix_cons_iff.mp h_prefix with rfl | ⟨rest, rfl, h_rest⟩
    · left
      rw [h_run, List.nil_append, run_stops_users _ h_stops,
        run_i2c_users fun p hp => (h_quiet p hp).calls]
    · right
      obtain rfl := List.prefix_nil.mp h_rest
      rw [h_run, Transducer.run_append, run_stops_users _ h_stops, ← Transducer.run_append,
        ← List.map_singleton, ← h_frame, h_del.users]

/-- A read that is cut off has been performed if its start has come through. -/
theorem I2cCut.reads {k : ℕ} (h : I2cCut tasks d (i2cReads k) d')
    (h_await : d.i2c.AwaitsRead ifnum resid cmd k) (h_read : isControlCmdRead cmd = true) :
    d'.users = d.users ∨ d'.users = (i2cReadCommand tasks d).device.users := by
  obtain ⟨sent, stops, h_prefix, h_stops, h_run⟩ := h
  cases sent with
  | nil =>
    left
    rw [h_run, List.nil_append, run_stops_users _ h_stops]
  | cons cb sent =>
    right
    obtain ⟨rfl, h_rest⟩ := List.cons_prefix_cons.mp h_prefix
    -- the bytes read and the stop behind the start
    have h_quiet : ∀ cb ∈ sent ++ stops, cb = .readData ∨ cb = .stop := by
      intro cb h_cb
      rcases List.mem_append.mp h_cb with h_data | h_stop
      · exact Or.inl (List.eq_of_mem_replicate (h_rest.subset h_data))
      · exact Or.inr (h_stops cb h_stop)
    rw [h_run, List.cons_append, Transducer.run_cons, run_readData_stop_users _ h_quiet,
      h_await.step tasks h_read]
    dsimp only
    split
    · rfl
    · rfl

/-- A read with its header. -/
theorem I2cCut.headerReads {k : ℕ}
    (h : I2cCut tasks d (i2cWriteTransfer [resid, cmd, UInt8.ofNat k] ++ i2cReads k) d')
    (h_search : resourceTableSearch d.table resid = some ifnum)
    (h_read : isControlCmdRead cmd = true) (h_pos : 1 ≤ k) (h_len : k ≤ i2cDataMaxBytes) :
    d'.users = d.users ∨ d'.users
      = (i2cReadCommand tasks ((d.addressed ifnum resid cmd).announced k)).device.users := by
  obtain ⟨h_quiet, h_run⟩ := i2c_header tasks (c := cmd) h_search h_pos h_len
  rcases h.of_append with h_before | h_behind
  · exact Or.inl (h_before.quiet h_quiet)
  · rw [h_run] at h_behind
    exact h_behind.reads ⟨rfl, rfl, rfl, rfl, rfl⟩ h_read

/-- A read that has come to its end has succeeded. -/
theorem I2cCompleted.reads {k : ℕ} (h : I2cCompleted tasks d (i2cReads k) [.stop] d')
    (h_await : d.i2c.AwaitsRead ifnum resid cmd k) (h_read : isControlCmdRead cmd = true)
    (h_len : k ≤ i2cDataMaxBytes) :
    (i2cReadCommand tasks d).reply.ret = controlSuccess ∧
      i2cBytesRead tasks d (i2cReads k) = (i2cReadCommand tasks d).payload.front k ∧
      d'.users = (i2cReadCommand tasks d).device.users := by
  have h_done := h_await.transferred tasks h_read h_len
  have h_ret := h_done.acked.mp h.acked
  have h_users := h_done.users
  rw [i2cSent_of_acked h.acked, ← h.device] at h_users
  exact ⟨h_ret, h_done.bytes h_ret, h_users⟩

/-- A write that has come to its end has been granted. -/
theorem I2cCompleted.write {payload : List UInt8}
    (h : I2cCompleted tasks d
      (i2cWriteTransfer (resid :: cmd :: UInt8.ofNat payload.length :: payload)) [.stop] d')
    (h_search : resourceTableSearch d.table resid = some ifnum)
    (h_ne : resid ≠ controlSpecialResid) (h_write : isControlCmdRead cmd = false)
    (h_len : payload.length ≤ i2cDataMaxBytes) :
    (d.writeAnswer tasks ifnum resid cmd payload).1 = controlSuccess ∧
      d'.users = (d.writeAnswer tasks ifnum resid cmd payload).2 := by
  obtain ⟨h_acked, h_users, -⟩ := i2cWrite_device tasks h_search h_ne h_write h_len
  rw [i2cSent_of_acked h.acked, ← h.device] at h_users
  exact ⟨h_acked.mp h.acked, h_users⟩

/-! ### The I2C hosts -/

section RpiI2c

variable {write : W → List UInt8 → ℤ × W} {rdwr : W → List UInt8 → ℕ → HostTransfer W}
  {device : W → Device σ} (h : RpiI2cMayFail tasks write rdwr device)

include h

theorem RpiI2cMayFail.readTried (w : W) (payload : List UInt8)
    (h_search : resourceTableSearch (device w).table resid = some ifnum)
    (h_read : isControlCmdRead cmd = true) (h_pos : 1 ≤ payload.length)
    (h_len : payload.length ≤ i2cDataMaxBytes) (hdr : Buffer UInt8 i2cTransactionMaxBytes) :
    let r := rpiI2cControlReadCommand w resid cmd payload rdwr hdr
    ReadTried tasks (device w) (device r.world) ifnum resid cmd payload.length
      ⟨r.ret, r.payload⟩ := by
  intro r
  set k := payload.length
  set d₁ := ((device w).addressed ifnum resid cmd).announced k
  have h_await : d₁.i2c.AwaitsRead ifnum resid cmd k := ⟨rfl, rfl, rfl, rfl, rfl⟩
  have h_cut := h.rdwr_cut w [resid, cmd, UInt8.ofNat k] k
  have h_result : r = _ := rpiI2c_read_eq w rdwr hdr resid h_read h_len
  set transfer := rdwr w [resid, cmd, UInt8.ofNat k] k
  by_cases h_neg : transfer.ret < 0
  · have h_error : r = ⟨controlError, transfer.bytes, transfer.world⟩ :=
      h_result.trans (if_pos h_neg)
    rw [h_error]
    refine readTried_error d₁ d₁.i2c.payload h_len ?_ ?_ h_cut.table transfer.bytes
    · rfl
    · exact h_cut.headerReads h_search h_read h_pos h_len
  · have h_success : r = ⟨controlSuccess, transfer.bytes, transfer.world⟩ :=
      h_result.trans (if_neg h_neg)
    rw [h_success]
    refine ⟨⟨d₁, i2cDataMaxBytes, d₁.i2c.payload, h_len, rfl, Or.inr ?_⟩, h_cut.table⟩
    -- the transfer has come to its end, and goes on behind the header as it would from there
    obtain ⟨h_completed, h_bytes⟩ :=
      h.rdwr_told w [resid, cmd, UInt8.ofNat k] k (Int.not_lt.mp h_neg)
    obtain ⟨h_both, h_data⟩ := i2c_headerReads tasks cmd h_search h_pos h_len
    obtain ⟨-, h_run⟩ := i2c_header tasks (c := cmd) h_search h_pos h_len
    have h_behind : I2cCompleted tasks d₁ (i2cReads k) [.stop] (device transfer.world) := by
      refine ⟨h_both.mp h_completed.acked, ?_⟩
      rw [h_completed.device, List.append_assoc, Transducer.run_append, h_run]
    obtain ⟨h_ret, h_front, h_users⟩ := h_behind.reads h_await h_read h_len
    exact ⟨h_users, fun _ => ⟨h_ret, (h_bytes.trans h_data).trans h_front⟩⟩

theorem RpiI2cMayFail.writeTried {payload : List UInt8} {s : HostState W}
    (h_table : (device s.world).table.Reserves)
    (h_search : resourceTableSearch (device s.world).table resid = some ifnum)
    (h_ne : resid ≠ controlSpecialResid) (h_write : isControlCmdRead cmd = false)
    (h_len : payload.length ≤ i2cDataMaxBytes) (l : HostLocals) :
    let r := rpiI2cControlWriteCommand s.world resid cmd payload write rdwr l.buffer l.queryData
      l.status
    HostTried tasks (.rpiI2c write rdwr device) s (writeRequest ifnum resid cmd payload)
      ⟨r.ret, payload⟩ { s with world := r.world } := by
  intro r
  set bytes := resid :: cmd :: UInt8.ofNat payload.length :: payload
  have h_cut := h.write_cut s.world bytes
  have h_result : r = if (write s.world bytes).1 ≠ bytes.length then _ else _ :=
    rpiI2c_write_eq s.world write rdwr l resid h_write h_len
  set w₁ := (write s.world bytes).2
  by_cases h_count : (write s.world bytes).1 = bytes.length
  · -- all of it has been acknowledged, and the query changes nothing
    obtain ⟨h_answer, h_users⟩ :=
      (h.write_told s.world bytes h_count).write h_search h_ne h_write h_len
    have h_special : resourceTableSearch (device w₁).table controlSpecialResid
        = some ifnumReserved := resourceTableSearch_special (by rw [h_cut.table]; exact h_table)
    have h_query := h.readTried w₁ [l.status] h_special
      (IsSpecialCmd.read (Or.inr rfl)) le_rfl one_le_i2cDataMaxBytes l.queryData
    have h_kept := h_query.special (Or.inr rfl)
    have h_same := h_query.table
    set query := rpiI2cControlReadCommand w₁ controlSpecialResid controlGetLastCommandStatus
      [l.status] rdwr l.queryData
    have h_world : r.world = query.world := by
      rw [h_result, if_neg (not_not.mpr h_count)]
      dsimp only
      split
      · rfl
      · rfl
    rw [← h_world] at h_kept h_same
    exact hostTried_write (Or.inr ⟨h_kept.trans h_users, fun _ => h_answer⟩)
      (h_same.trans h_cut.table)
  · have h_error : r = ⟨controlError, w₁⟩ := h_result.trans (if_pos h_count)
    rw [h_error]
    refine hostTried_error ?_ ?_ payload
    · exact h_cut.write h_search h_ne h_write h_len
    · exact h_cut.table

end RpiI2c

section XcoreI2c

variable {write : W → List UInt8 → Bool → I2cMasterWrite W} {read : W → ℕ → I2cMasterRead W}
  {device : W → Device σ} (h : XcoreI2cMayFail tasks write read device)

include h

theorem XcoreI2cMayFail.readTried (w : W) (payload : List UInt8)
    (h_search : resourceTableSearch (device w).table resid = some ifnum)
    (h_read : isControlCmdRead cmd = true) (h_pos : 1 ≤ payload.length)
    (h_len : payload.length ≤ i2cDataMaxBytes) (data : Buffer UInt8 i2cTransactionMaxBytes) :
    let r := xcoreI2cControlReadCommand w resid cmd payload (fun w bytes => write w bytes false)
      read data
    ReadTried tasks (device w) (device r.world) ifnum resid cmd payload.length
      ⟨r.ret, r.payload⟩ := by
  intro r
  set k := payload.length
  set d₁ := ((device w).addressed ifnum resid cmd).announced k
  have h_await : d₁.i2c.AwaitsRead ifnum resid cmd k := ⟨rfl, rfl, rfl, rfl, rfl⟩
  obtain ⟨h_quiet, h_run⟩ := i2c_header tasks (c := cmd) h_search h_pos h_len
  have h_result : r = _ :=
    xcoreI2c_read_eq w (fun w bytes => write w bytes false) read data resid h_read h_len
  set written := write w [resid, cmd, UInt8.ofNat k] false
  have h_cut : I2cCut tasks (device w) _ (device written.world) := h.write_cut w _ false
  by_cases h_through : written.res = .ack ∧ written.numBytesSent = 3
  · obtain ⟨h_res, h_count⟩ := h_through
    have h_device : device written.world = d₁ := by
      refine (h.write_told w _ false h_res h_count).device.trans (Eq.trans ?_ h_run)
      exact congrArg _ (List.append_nil _)
    have h_reads := h.read_cut written.world k
    have h_told := h.read_told written.world k
    rw [h_device] at h_reads h_told
    dsimp only at h_result
    rw [if_neg (not_not.mpr h_res), if_neg (not_not.mpr h_count)] at h_result
    set received := read written.world k
    by_cases h_ack : received.res = .ack
    · have h_success : r = ⟨controlSuccess, received.bytes, received.world⟩ :=
        h_result.trans (if_neg (not_not.mpr h_ack))
      rw [h_success]
      obtain ⟨h_completed, h_bytes⟩ := h_told h_ack
      obtain ⟨h_granted, h_front, h_users⟩ := h_completed.reads h_await h_read h_len
      refine ⟨⟨d₁, i2cDataMaxBytes, d₁.i2c.payload, h_len, rfl, Or.inr ?_⟩, h_reads.table⟩
      exact ⟨h_users, fun _ => ⟨h_granted, h_bytes.trans h_front⟩⟩
    · have h_error : r = ⟨controlError, payload, received.world⟩ := h_result.trans (if_pos h_ack)
      rw [h_error]
      refine readTried_error d₁ d₁.i2c.payload h_len ?_ ?_ ?_ payload
      · rfl
      · exact h_reads.reads h_await h_read
      · exact h_reads.table
  · -- the header has not come through
    have h_error : r = ⟨controlError, payload, written.world⟩ := by
      rw [h_result]
      rcases not_and_or.mp h_through with h_res | h_count
      · exact if_pos h_res
      · exact ite_eq_left_iff.mpr fun _ => if_pos h_count
    rw [h_error]
    refine readTried_error d₁ d₁.i2c.payload h_len ?_ (Or.inl ?_) h_cut.table payload
    · rfl
    · exact h_cut.quiet h_quiet

theorem XcoreI2cMayFail.writeTried {payload : List UInt8} {s : HostState W}
    (h_table : (device s.world).table.Reserves)
    (h_search : resourceTableSearch (device s.world).table resid = some ifnum)
    (h_ne : resid ≠ controlSpecialResid) (h_write : isControlCmdRead cmd = false)
    (h_len : payload.length ≤ i2cDataMaxBytes) (l : HostLocals) :
    let r := xcoreI2cControlWriteCommand s.world resid cmd payload write read l.data l.queryData
      l.status
    HostTried tasks (.xcoreI2c write read device) s (writeRequest ifnum resid cmd payload)
      ⟨r.ret, payload⟩ { s with world := r.world } := by
  intro r
  set bytes := resid :: cmd :: UInt8.ofNat payload.length :: payload
  have h_result : r = _ := xcoreI2c_write_eq s.world write read l resid h_write h_len
  set written := write s.world bytes true
  have h_cut : I2cCut tasks (device s.world) _ (device written.world) :=
    h.write_cut s.world bytes true
  by_cases h_through : written.res = .ack ∧ written.numBytesSent = bytes.length
  · obtain ⟨h_res, h_count⟩ := h_through
    obtain ⟨h_answer, h_users⟩ :=
      (h.write_told s.world bytes true h_res h_count).write h_search h_ne h_write h_len
    have h_special : resourceTableSearch (device written.world).table controlSpecialResid
        = some ifnumReserved := resourceTableSearch_special (by rw [h_cut.table]; exact h_table)
    have h_query := h.readTried written.world [l.status] h_special
      (IsSpecialCmd.read (Or.inr rfl)) le_rfl one_le_i2cDataMaxBytes l.queryData
    have h_kept := h_query.special (Or.inr rfl)
    have h_same := h_query.table
    rw [if_neg (not_not.mpr h_res), if_neg (not_not.mpr h_count)] at h_result
    rw [h_result]
    -- a query that fails leaves the status as it was, but the write has been granted
    exact hostTried_write (Or.inr ⟨h_kept.trans h_users, fun _ => h_answer⟩)
      (h_same.trans h_cut.table)
  · have h_error : r = ⟨controlError, written.world⟩ := by
      rw [h_result]
      rcases not_and_or.mp h_through with h_res | h_count
      · exact if_pos h_res
      · exact ite_eq_left_iff.mpr fun _ => if_pos h_count
    rw [h_error]
    refine hostTried_error ?_ ?_ payload
    · exact h_cut.write h_search h_ne h_write h_len
    · exact h_cut.table

end XcoreI2c

end I2c

end DeviceControl
