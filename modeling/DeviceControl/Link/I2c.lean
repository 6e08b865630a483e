import DeviceControl.Link.Host

/-!
# The I2C links

Both I2C hosts bring a frame to the device and give up where the slave answers with a NACK. A write
is answered so at its last byte or not at all, and a read at its start or not at all: that is where
the user task is asked. So a refusal comes to the host as an error, and the device has served the
command by then.
-/

namespace DeviceControl

variable {σ W : Type} {tasks : UserTasks σ}

/-! ### Transfers -/

section Transfer

variable {d : Device σ} {r c n ifnum : UInt8} {ps : List UInt8}

/-- The slave answers with a NACK for what fails, but for reads of a byte and the stop. -/
theorem i2cControlClient_nack_iff (d : Device σ) (cb : I2cCallback) :
    ((i2cControlClient tasks).step d cb).2 = .nack ↔
      cb ≠ .readData ∧ cb ≠ .stop ∧ ((i2cSystem tasks).step d cb).2.ret ≠ controlSuccess := by
  -- where the return value decides
  have h_ack (h_data : cb ≠ .readData) (h_stop : cb ≠ .stop) :
      i2cAck ((i2cSystem tasks).step d cb).2.ret = .nack ↔
        cb ≠ .readData ∧ cb ≠ .stop ∧ ((i2cSystem tasks).step d cb).2.ret ≠ controlSuccess := by
    rw [and_iff_right h_data, and_iff_right h_stop, i2cAck, ite_eq_right_iff]
    exact ⟨fun h h_ret => absurd (h h_ret) (by decide), fun h h_ret => absurd h_ret h⟩
  cases cb with
  | writeStart => exact h_ack nofun nofun
  | writeData b => exact h_ack nofun nofun
  | readStart => exact h_ack nofun nofun
  | readData =>
    refine iff_of_false (fun h => ?_) fun h => h.1 rfl
    dsimp only [i2cControlClient] at h
    split at h
    · cases h
    · cases h
  | stop => exact iff_of_false nofun fun h => h.2.1 rfl

/-- A transfer is acknowledged if what the processing functions return for it is success, where that
decides. -/
theorem i2cAcked_iff {cbs : List I2cCallback} :
    I2cAcked tasks d cbs ↔ ∀ p ∈ (i2cSystem tasks).trace d cbs,
      p.1 = .readData ∨ p.1 = .stop ∨ p.2.ret = controlSuccess := by
  induction cbs generalizing d with
  | nil => exact iff_of_true (List.forall_mem_nil _) (List.forall_mem_nil _)
  | cons cb cbs ih =>
    have h_head : ((i2cControlClient tasks).step d cb).2 ≠ .nack ↔
        cb = .readData ∨ cb = .stop ∨ ((i2cSystem tasks).step d cb).2.ret = controlSuccess := by
      rw [Ne, i2cControlClient_nack_iff, not_and_or, not_and_or, not_not, not_not, not_not]
    rw [I2cAcked, Transducer.trace_cons, List.forall_mem_cons, Transducer.trace_cons,
      List.forall_mem_cons, h_head, i2cControlClient_fst]
    exact and_congr_right fun _ => ih

/-- Quiet entries are acknowledged. -/
theorem i2cAcked_of_quiet {cbs : List I2cCallback}
    (h : ∀ p ∈ (i2cSystem tasks).trace d cbs, p.2.Quiet) : I2cAcked tasks d cbs :=
  i2cAcked_iff.mpr fun p hp => Or.inr (Or.inr (h p hp).ret)

theorem i2cSent_of_acked {cbs : List I2cCallback} (h : I2cAcked tasks d cbs) :
    i2cSent tasks d cbs = cbs :=
  Transducer.upTo_eq_self h

theorem i2cSent_append {cbs : List I2cCallback} (h : I2cAcked tasks d cbs)
    (cbs' : List I2cCallback) : i2cSent tasks d (cbs ++ cbs')
      = cbs ++ i2cSent tasks ((i2cSystem tasks).run d cbs) cbs' := by
  rw [← run_i2cControlClient]
  exact Transducer.upTo_append h

/-- **Write transfers.** All of a frame is sent, and it is acknowledged exactly if the user task
answers with success. -/
theorem i2cSent_writeFrame (tasks : UserTasks σ)
    (hr : resourceTableSearch d.table r = some ifnum)
    (h_ne : r ≠ controlSpecialResid) (h_write : isControlCmdRead c = false)
    (h_len : n.toNat = ps.length) (h_le : ps.length ≤ i2cDataMaxBytes) :
    i2cSent tasks d (writeFrame r c n ps) = writeFrame r c n ps ∧
      (I2cAcked tasks d (writeFrame r c n ps) ↔
        (d.writeAnswer tasks ifnum r c ps).1 = controlSuccess) := by
  obtain ⟨entries, last, h_trace, h_quiet, h_del⟩ :=
    trace_writeFrame tasks d hr h_ne h_write h_len h_le
  obtain ⟨h_frame, h_entries, h_last⟩ := (i2cSystem tasks).trace_eq_append h_trace
  -- all but the last callback are acknowledged
  have h_acked : I2cAcked tasks d (entries.map Prod.fst) := by
    refine i2cAcked_of_quiet ?_
    rwa [h_entries]
  have h_mem : last.1 ∈ writeFrame r c n ps := by
    rw [h_frame]
    exact List.mem_append_right _ (List.mem_singleton_self _)
  constructor
  · rw [h_frame]
    exact Transducer.upTo_concat h_acked
  · rw [i2cAcked_iff, h_trace, List.forall_mem_append, List.forall_mem_singleton, ← h_del.ret]
    constructor
    · rintro ⟨-, h | h | h⟩
      · rw [h] at h_mem
        simp [writeFrame, headerCallbacks] at h_mem
      · rw [h] at h_mem
        simp [writeFrame, headerCallbacks] at h_mem
      · exact h
    · exact fun h => ⟨fun p hp => Or.inr (Or.inr (h_quiet p hp).ret), Or.inr (Or.inr h)⟩

theorem run_i2c_table (d : Device σ) (cbs : List I2cCallback) :
    ((i2cSystem tasks).run d cbs).table = d.table := by
  rw [← run_i2c]
  exact run_table tasks d _

/-- Reads of a byte and a stop leave the user tasks alone. -/
theorem run_readData_stop_users (d : Device σ) {cbs : List I2cCallback}
    (h : ∀ cb ∈ cbs, cb = .readData ∨ cb = .stop) :
    ((i2cSystem tasks).run d cbs).users = d.users := by
  refine (i2cSystem tasks).run_guarded (P := fun d' => d'.users = d.users)
    (G := fun _ cb => cb = .readData ∨ cb = .stop) ?_ rfl
    (Transducer.everyStep_of_forall fun cb h_cb _ => h cb h_cb)
  rintro d' cb h_users (rfl | rfl)
  · change (controlProcessI2cReadData d').1.users = d.users
    unfold controlProcessI2cReadData
    split
    · exact h_users
    · split
      · exact h_users
      · exact h_users
    · exact h_users
  · exact h_users

/-- The stop behind a transfer. -/
theorem forall_mem_stop : ∀ cb ∈ [I2cCallback.stop], cb = .stop := fun _ => List.mem_singleton.mp

/-- What a read leaves on the device and brings to the master. -/
structure I2cReadTransferred (tasks : UserTasks σ) (d : Device σ) (n : ℕ)
    (r : ReadResult σ i2cDataMaxBytes) : Prop where
  acked : I2cAcked tasks d (i2cReads n) ↔ r.reply.ret = controlSuccess
  bytes : r.reply.ret = controlSuccess → i2cBytesRead tasks d (i2cReads n) = r.payload.front n
  users : ((i2cSystem tasks).run d (i2cSent tasks d (i2cReads n) ++ [.stop])).users = r.device.users

/-- **Read transfers.** A read is acknowledged exactly if it succeeds, and it is performed once in
any case. -/
theorem I2c.AwaitsRead.transferred (tasks : UserTasks σ) {k : ℕ}
    (h : d.i2c.AwaitsRead ifnum r c k)
    (h_read : isControlCmdRead c = true) (h_le : k ≤ i2cDataMaxBytes) :
    I2cReadTransferred tasks d k (i2cReadCommand tasks d) := by
  have h_step := h.step tasks h_read
  have h_start : ((i2cControlClient tasks).step d .readStart).2
      = i2cAck (i2cReadCommand tasks d).reply.ret := by
    show i2cAck ((i2cSystem tasks).step d .readStart).2.ret = _
    rw [h_step]
  have h_replicate : ∀ cb ∈ List.replicate k I2cCallback.readData ++ [.stop],
      cb = .readData ∨ cb = .stop := by
    intro cb h_cb
    rcases List.mem_append.mp h_cb with h_data | h_stop
    · exact Or.inl (List.eq_of_mem_replicate h_data)
    · exact Or.inr (List.mem_singleton.mp h_stop)
  by_cases h_ret : (i2cReadCommand tasks d).reply.ret = controlSuccess
  · -- granted: the bytes are read behind the start
    rw [if_pos h_ret] at h_step
    have h_acked : I2cAcked tasks d (i2cReads k) := by
      rw [i2cAcked_iff, i2cReads, Transducer.trace_cons]
      refine List.forall_mem_cons.mpr ⟨Or.inr (Or.inr (by rw [h_step]; exact h_ret)), ?_⟩
      intro p hp
      have h_mem := List.mem_map_of_mem (f := Prod.fst) hp
      rw [Transducer.map_fst_trace] at h_mem
      exact Or.inl (List.eq_of_mem_replicate h_mem)
    refine ⟨iff_of_true h_acked h_ret, fun _ => ?_, ?_⟩
    · rw [i2cBytesRead, i2cReads, Transducer.trace_cons, List.map_cons, List.flatMap_cons, h_step,
        hostBytes_serves tasks (h.serves tasks) h_le le_rfl]
      rfl
    · rw [i2cSent_of_acked h_acked, i2cReads, List.cons_append, Transducer.run_cons, h_step,
        run_readData_stop_users _ h_replicate]
      rfl
  · -- refused: the master gives up behind the start
    rw [if_neg h_ret] at h_step
    have h_nack : ((i2cControlClient tasks).step d .readStart).2 = .nack := by
      rw [h_start]
      exact if_neg h_ret
    have h_not : ¬ I2cAcked tasks d (i2cReads k) := fun h_acked =>
      (List.forall_mem_cons.mp h_acked).1 h_nack
    refine ⟨iff_of_false h_not h_ret, fun h_success => absurd h_success h_ret, ?_⟩
    have h_sent : i2cSent tasks d (i2cReads k) = [.readStart] :=
      Transducer.upTo_cons_of_failure h_nack
    rw [h_sent, List.singleton_append, Transducer.run_cons, h_step,
      run_readData_stop_users _ (List.forall_mem_singleton.mpr (Or.inr rfl))]
    rfl

/-- The header of a read is quiet, and the machine waits for the start behind it. -/
theorem i2c_header (tasks : UserTasks σ)
    (hr : resourceTableSearch d.table r = some ifnum) {k : ℕ} (h_pos : 1 ≤ k)
    (h_le : k ≤ i2cDataMaxBytes) :
    (∀ p ∈ (i2cSystem tasks).trace d (i2cWriteTransfer [r, c, UInt8.ofNat k]), p.2.Quiet) ∧
      (i2cSystem tasks).run d (i2cWriteTransfer [r, c, UInt8.ofNat k])
        = (d.addressed ifnum r c).announced k := by
  have h_nat := toNat_ofNat_of_le h_le
  obtain ⟨h_run, h_quiet⟩ := trace_header tasks d (c := c) hr (h_nat.trans_le h_le)
    (by rw [h_nat]; exact Nat.one_le_iff_ne_zero.mp h_pos)
  rw [h_nat] at h_run
  exact ⟨h_quiet, h_run⟩

/-- A transfer goes on behind the header of a read as it would from there. -/
theorem i2c_headerReads (tasks : UserTasks σ) (c : UInt8)
    (hr : resourceTableSearch d.table r = some ifnum) {k : ℕ} (h_pos : 1 ≤ k)
    (h_le : k ≤ i2cDataMaxBytes) :
    let cbs := i2cWriteTransfer [r, c, UInt8.ofNat k] ++ i2cReads k
    let d₁ := (d.addressed ifnum r c).announced k
    (I2cAcked tasks d cbs ↔ I2cAcked tasks d₁ (i2cReads k)) ∧
      i2cBytesRead tasks d cbs = i2cBytesRead tasks d₁ (i2cReads k) := by
  intro cbs d₁
  obtain ⟨h_quiet, h_run⟩ := i2c_header tasks (c := c) hr h_pos h_le
  constructor
  · rw [I2cAcked, Transducer.trace_append, List.forall_mem_append, run_i2cControlClient, h_run]
    exact and_iff_right (i2cAcked_of_quiet h_quiet)
  · have h_none : i2cBytesRead tasks d (i2cWriteTransfer [r, c, UInt8.ofNat k]) = [] :=
      hostBytes_i2c tasks (by simp [i2cWriteTransfer])
    rw [i2cBytesRead, Transducer.trace_append, List.map_append, List.flatMap_append, h_run]
    exact congrArg (· ++ _) h_none

end Transfer

/-! ### The messages of the hosts -/

section Messages

variable {resid cmd : UInt8} {payload : List UInt8} (w : W)

theorem rpiI2c_read_eq (rdwr : W → List UInt8 → ℕ → HostTransfer W)
    (hdr : Buffer UInt8 i2cTransactionMaxBytes) (resid : ControlResid)
    (h_read : isControlCmdRead cmd = true) (h_len : payload.length ≤ i2cDataMaxBytes) :
    rpiI2cControlReadCommand w resid cmd payload rdwr hdr
      = (let transfer := rdwr w [resid, cmd, UInt8.ofNat payload.length] payload.length
        if transfer.ret < 0 then ⟨controlError, transfer.bytes, transfer.world⟩
        else ⟨controlSuccess, transfer.bytes, transfer.world⟩) := by
  -- the length of the message has sixteen bits
  have h_mod : payload.length % 2 ^ 16 = payload.length :=
    Nat.mod_eq_of_lt (h_len.trans_lt (by decide))
  unfold rpiI2cControlReadCommand
  dsimp only
  rw [if_neg (not_not.mpr (buildI2c_read_size hdr h_read _ h_len)), h_mod,
    sent_buildI2c_read hdr h_read _ h_len (by decide)]

theorem xcoreI2c_read_eq (write : W → List UInt8 → I2cMasterWrite W)
    (read : W → ℕ → I2cMasterRead W) (data : Buffer UInt8 i2cTransactionMaxBytes)
    (resid : ControlResid) (h_read : isControlCmdRead cmd = true)
    (h_len : payload.length ≤ i2cDataMaxBytes) :
    xcoreI2cControlReadCommand w resid cmd payload write read data
      = (let written := write w [resid, cmd, UInt8.ofNat payload.length]
        if written.res ≠ .ack then ⟨controlError, payload, written.world⟩
        else if written.numBytesSent ≠ 3 then ⟨controlError, payload, written.world⟩
        else
          let received := read written.world payload.length
          if received.res ≠ .ack then ⟨controlError, payload, received.world⟩
          else ⟨controlSuccess, received.bytes, received.world⟩) := by
  unfold xcoreI2cControlReadCommand
  dsimp only
  rw [controlCmdSetRead_of_read h_read, sent_buildI2c_read data h_read _ h_len (by decide),
    buildI2c_read_size data h_read _ h_len]

/-- As many bytes are sent as the builder says. -/
theorem buildI2c_write_size {n : ℕ} (data : Buffer UInt8 n) (resid : ControlResid)
    (h_write : isControlCmdRead cmd = false) (h_len : payload.length ≤ i2cDataMaxBytes) :
    (controlBuildI2cData data resid cmd (some payload) payload.length).1
      = (resid :: cmd :: UInt8.ofNat payload.length :: payload).length := by
  rw [controlBuildI2cData, if_neg (Nat.not_lt.mpr h_len), h_write]
  exact Nat.add_comm 3 payload.length

theorem rpiI2c_write_eq (write : W → List UInt8 → ℤ × W)
    (rdwr : W → List UInt8 → ℕ → HostTransfer W) (l : HostLocals) (resid : ControlResid)
    (h_write : isControlCmdRead cmd = false)
    (h_len : payload.length ≤ i2cDataMaxBytes) :
    let bytes := resid :: cmd :: UInt8.ofNat payload.length :: payload
    rpiI2cControlWriteCommand w resid cmd payload write rdwr l.buffer l.queryData l.status
      = if (write w bytes).1 ≠ bytes.length then ⟨controlError, (write w bytes).2⟩
        else
          let query := rpiI2cControlReadCommand (write w bytes).2 controlSpecialResid
            controlGetLastCommandStatus [l.status] rdwr l.queryData
          if query.ret ≠ controlSuccess then ⟨controlError, query.world⟩
          else ⟨query.payload.headD l.status, query.world⟩ := by
  intro bytes
  have h_fits : 3 + payload.length ≤ i2cTransactionMaxBytes :=
    Nat.add_le_of_le_sub' (by decide) h_len
  unfold rpiI2cControlWriteCommand
  dsimp only
  rw [sent_buildI2c_write _ h_write h_len (h_fits.trans (Nat.le_add_right _ 3)),
    buildI2c_write_size l.buffer resid h_write h_len]

theorem xcoreI2c_write_eq (write : W → List UInt8 → Bool → I2cMasterWrite W)
    (read : W → ℕ → I2cMasterRead W) (l : HostLocals) (resid : ControlResid)
    (h_write : isControlCmdRead cmd = false) (h_len : payload.length ≤ i2cDataMaxBytes) :
    let bytes := resid :: cmd :: UInt8.ofNat payload.length :: payload
    let written := write w bytes true
    xcoreI2cControlWriteCommand w resid cmd payload write read l.data l.queryData l.status
      = if written.res ≠ .ack then ⟨controlError, written.world⟩
        else if written.numBytesSent ≠ bytes.length then ⟨controlError, written.world⟩
        else
          let query := xcoreI2cControlReadCommand written.world controlSpecialResid
            controlGetLastCommandStatus [l.status] (fun w bytes => write w bytes false) read
            l.queryData
          ⟨query.payload.headD l.status, query.world⟩ := by
  intro bytes written
  have h_fits : 3 + payload.length ≤ i2cTransactionMaxBytes :=
    Nat.add_le_of_le_sub' (by decide) h_len
  unfold xcoreI2cControlWriteCommand
  dsimp only
  rw [controlCmdSetWrite_of_write h_write, sent_buildI2c_write _ h_write h_len h_fits,
    buildI2c_write_size l.data resid h_write h_len]

end Messages

/-! ### The reads of the hosts -/

section Read

variable {resid cmd ifnum : UInt8}

/-- **A read from a Raspberry Pi.** The header and the read are one transfer. -/
theorem rpiI2c_readDone {write : W → List UInt8 → ℤ × W}
    {rdwr : W → List UInt8 → ℕ → HostTransfer W} {device : W → Device σ}
    (h_works : RpiI2cWorks tasks write rdwr device) (s : HostState W) (payload : List UInt8)
    (h_search : resourceTableSearch (device s.world).table resid = some ifnum)
    (h_read : isControlCmdRead cmd = true) (h_pos : 1 ≤ payload.length)
    (h_len : payload.length ≤ i2cDataMaxBytes) (hdr : Buffer UInt8 i2cTransactionMaxBytes) :
    ReadDone tasks (.rpiI2c write rdwr device) s controlSuccess ifnum resid cmd payload.length
      ⟨(rpiI2cControlReadCommand s.world resid cmd payload rdwr hdr).ret,
        (rpiI2cControlReadCommand s.world resid cmd payload rdwr hdr).payload⟩
      { s with world := (rpiI2cControlReadCommand s.world resid cmd payload rdwr hdr).world } := by
  set k := payload.length
  set header := i2cWriteTransfer [resid, cmd, UInt8.ofNat k] with h_header
  obtain ⟨h_quiet, h_run⟩ := i2c_header tasks (c := cmd) h_search h_pos h_len
  obtain ⟨h_both, h_bytes⟩ := i2c_headerReads tasks cmd h_search h_pos h_len
  rw [← h_header] at h_quiet h_run h_both h_bytes
  set d₁ := ((device s.world).addressed ifnum resid cmd).announced k
  have h_await : d₁.i2c.AwaitsRead ifnum resid cmd k := ⟨rfl, rfl, rfl, rfl, rfl⟩
  have h_done := h_await.transferred tasks h_read h_len
  have h_sent : i2cSent tasks (device s.world) (header ++ i2cReads k)
      = header ++ i2cSent tasks d₁ (i2cReads k) := by
    rw [i2cSent_append (i2cAcked_of_quiet h_quiet), h_run]
  have h_device := h_works.rdwr_device s.world [resid, cmd, UInt8.ofNat k] k
  rw [← h_header, h_sent, List.append_assoc, Transducer.run_append, h_run] at h_device
  have h_result : rpiI2cControlReadCommand s.world resid cmd payload rdwr hdr = _ :=
    rpiI2c_read_eq s.world rdwr hdr resid h_read h_len
  have h_world : (rpiI2cControlReadCommand s.world resid cmd payload rdwr hdr).world
      = (rdwr s.world [resid, cmd, UInt8.ofNat k] k).world := by
    rw [h_result]
    dsimp only
    split
    · rfl
    · rfl
  have h_next : device (rpiI2cControlReadCommand s.world resid cmd payload rdwr hdr).world
      = (i2cSystem tasks).run d₁ (i2cSent tasks d₁ (i2cReads k) ++ [.stop]) := by
    rw [h_world, h_device]
  constructor
  case read =>
    refine ⟨d₁, i2cDataMaxBytes, d₁.i2c.payload, h_len, rfl, rfl, ?_, ?_, ?_⟩
    · show (device _).users = _
      rw [h_next, h_done.users]
      rfl
    · show _ = if (i2cReadCommand tasks d₁).reply.ret = controlSuccess then controlSuccess
        else controlError
      rw [h_result]
      by_cases h_ret : (i2cReadCommand tasks d₁).reply.ret = controlSuccess
      · have h_nonneg := (h_works.rdwr_acked s.world _ k (h_both.mpr (h_done.acked.mpr h_ret))).1
        dsimp only
        rw [if_pos h_ret, if_neg (Int.not_lt.mpr h_nonneg)]
      · have h_neg := h_works.rdwr_nacked s.world _ k
          fun h => h_ret (h_done.acked.mp (h_both.mp h))
        dsimp only
        rw [if_neg h_ret, if_pos h_neg]
    · intro h_ret
      obtain ⟨h_nonneg, h_data⟩ :=
        h_works.rdwr_acked s.world _ k (h_both.mpr (h_done.acked.mpr h_ret))
      show (rpiI2cControlReadCommand s.world resid cmd payload rdwr hdr).payload = _
      rw [h_result]
      dsimp only
      rw [if_neg (Int.not_lt.mpr h_nonneg), h_data, ← h_header, h_bytes, h_done.bytes h_ret]
      rfl
  case length =>
    intro h_spi
    cases h_spi
  case table =>
    show (device _).table = (device s.world).table
    rw [h_next, run_i2c_table]
    rfl
  case ready => exact trivial

/-- **A read from an xCORE.** The header and the read are two transfers, without a stop between
them. -/
theorem xcoreI2c_readDone {write : W → List UInt8 → Bool → I2cMasterWrite W}
    {read : W → ℕ → I2cMasterRead W} {device : W → Device σ}
    (h_works : XcoreI2cWorks tasks write read device) (s : HostState W) (payload : List UInt8)
    (h_search : resourceTableSearch (device s.world).table resid = some ifnum)
    (h_read : isControlCmdRead cmd = true) (h_pos : 1 ≤ payload.length)
    (h_len : payload.length ≤ i2cDataMaxBytes) (data : Buffer UInt8 i2cTransactionMaxBytes) :
    let r := xcoreI2cControlReadCommand s.world resid cmd payload
      (fun w bytes => write w bytes false) read data
    ReadDone tasks (.xcoreI2c write read device) s controlSuccess ifnum resid cmd payload.length
      ⟨r.ret, r.payload⟩ { s with world := r.world } := by
  intro r
  set k := payload.length
  set header := i2cWriteTransfer [resid, cmd, UInt8.ofNat k] with h_header
  obtain ⟨h_quiet, h_run⟩ := i2c_header tasks (c := cmd) h_search h_pos h_len
  rw [← h_header] at h_quiet h_run
  have h_acked := i2cAcked_of_quiet h_quiet
  set d₁ := ((device s.world).addressed ifnum resid cmd).announced k
  have h_await : d₁.i2c.AwaitsRead ifnum resid cmd k := ⟨rfl, rfl, rfl, rfl, rfl⟩
  have h_done := h_await.transferred tasks h_read h_len
  set w₁ := (write s.world [resid, cmd, UInt8.ofNat k] false).world with h_w₁
  have h_device : device w₁ = d₁ := by
    rw [h_w₁, h_works.write_device, ← h_header, i2cSent_of_acked h_acked, ← h_run]
    exact congrArg _ (List.append_nil header)
  obtain ⟨h_res, h_count⟩ := h_works.write_acked s.world [resid, cmd, UInt8.ofNat k] false h_acked
  have h_three : (write s.world [resid, cmd, UInt8.ofNat k] false).numBytesSent = 3 := h_count
  -- the header is through, so what is left is the read
  have h_result : r = (let received := read w₁ k
      if received.res ≠ .ack then ⟨controlError, payload, received.world⟩
      else ⟨controlSuccess, received.bytes, received.world⟩) := by
    change xcoreI2cControlReadCommand s.world resid cmd payload
      (fun w bytes => write w bytes false) read data = _
    rw [xcoreI2c_read_eq s.world _ read data resid h_read h_len]
    dsimp only
    rw [if_neg (not_not.mpr h_res), if_neg (not_not.mpr h_three)]
  have h_world : r.world = (read w₁ k).world := by
    rw [h_result]
    dsimp only
    split
    · rfl
    · rfl
  have h_next : device r.world
      = (i2cSystem tasks).run d₁ (i2cSent tasks d₁ (i2cReads k) ++ [.stop]) := by
    rw [h_world, h_works.read_device, h_device]
  constructor
  case read =>
    refine ⟨d₁, i2cDataMaxBytes, d₁.i2c.payload, h_len, rfl, rfl, ?_, ?_, ?_⟩
    · show (device _).users = _
      rw [h_next, h_done.users]
      rfl
    · show r.ret = if (i2cReadCommand tasks d₁).reply.ret = controlSuccess then controlSuccess
        else controlError
      rw [h_result]
      by_cases h_ret : (i2cReadCommand tasks d₁).reply.ret = controlSuccess
      · have h_ack := (h_works.read_acked w₁ k (by rw [h_device]; exact h_done.acked.mpr h_ret)).1
        dsimp only
        rw [if_pos h_ret, if_neg (not_not.mpr h_ack)]
      · have h_nack := h_works.read_nacked w₁ k
          (by rw [h_device]; exact fun h => h_ret (h_done.acked.mp h))
        dsimp only
        rw [if_neg h_ret, if_pos (by rw [h_nack]; decide)]
    · intro h_ret
      obtain ⟨h_ack, h_data⟩ := h_works.read_acked w₁ k
        (by rw [h_device]; exact h_done.acked.mpr h_ret)
      show r.payload = _
      rw [h_result]
      dsimp only
      rw [if_neg (not_not.mpr h_ack), h_data, h_device, h_done.bytes h_ret]
      rfl
  case length =>
    intro h_spi
    cases h_spi
  case table =>
    show (device r.world).table = (device s.world).table
    rw [h_next, run_i2c_table]
    rfl
  case ready => exact trivial

end Read

/-! ### The writes of the hosts -/

section Write

variable {resid cmd ifnum : UInt8} {payload : List UInt8} {s : HostState W}

theorem one_le_i2cDataMaxBytes : 1 ≤ i2cDataMaxBytes := by decide

/-- What a write frame leaves on the device. -/
theorem i2cWrite_device (tasks : UserTasks σ) {d : Device σ}
    (h_search : resourceTableSearch d.table resid = some ifnum)
    (h_ne : resid ≠ controlSpecialResid) (h_write : isControlCmdRead cmd = false)
    (h_len : payload.length ≤ i2cDataMaxBytes) :
    let cbs := i2cWriteTransfer (resid :: cmd :: UInt8.ofNat payload.length :: payload)
    let d' := (i2cSystem tasks).run d (i2cSent tasks d cbs ++ [.stop])
    (I2cAcked tasks d cbs ↔ (d.writeAnswer tasks ifnum resid cmd payload).1 = controlSuccess) ∧
      d'.users = (d.writeAnswer tasks ifnum resid cmd payload).2 ∧ d'.table = d.table := by
  intro cbs d'
  have h_nat := toNat_ofNat_of_le h_len
  obtain ⟨h_sent, h_acked⟩ := i2cSent_writeFrame tasks h_search h_ne h_write h_nat h_len
  obtain ⟨_, _, -, -, h_del⟩ := trace_writeFrame tasks d h_search h_ne h_write h_nat h_len
  refine ⟨h_acked, ?_, run_i2c_table d _⟩
  -- the stop leaves the user tasks alone
  show ((i2cSystem tasks).run d (i2cSent tasks d (writeFrame _ _ _ _) ++ [.stop])).users = _
  rw [h_sent, Transducer.run_append,
    run_readData_stop_users _ (List.forall_mem_singleton.mpr (Or.inr rfl)), h_del.users]

/-- **A write from a Raspberry Pi.** -/
theorem rpiI2c_writeServed {write : W → List UInt8 → ℤ × W}
    {rdwr : W → List UInt8 → ℕ → HostTransfer W} {device : W → Device σ}
    (h_works : RpiI2cWorks tasks write rdwr device) (h_table : (device s.world).table.Reserves)
    (h_search : resourceTableSearch (device s.world).table resid = some ifnum)
    (h_ne : resid ≠ controlSpecialResid) (h_write : isControlCmdRead cmd = false)
    (h_len : payload.length ≤ i2cDataMaxBytes) (l : HostLocals) :
    let r := rpiI2cControlWriteCommand s.world resid cmd payload write rdwr l.buffer l.queryData
      l.status
    HostServed tasks (.rpiI2c write rdwr device) s (writeRequest ifnum resid cmd payload)
      ⟨r.ret, payload⟩ { s with world := r.world } := by
  intro r
  set bytes := resid :: cmd :: UInt8.ofNat payload.length :: payload with h_bytes
  obtain ⟨h_acked, h_users, h_same⟩ := i2cWrite_device tasks h_search h_ne h_write h_len
  rw [← h_bytes] at h_acked h_users h_same
  rw [← h_works.write_device] at h_users h_same
  set w₁ := (write s.world bytes).2 with h_w₁
  have h_result : r = if (write s.world bytes).1 ≠ bytes.length then ⟨controlError, w₁⟩
      else
        let query := rpiI2cControlReadCommand w₁ controlSpecialResid controlGetLastCommandStatus
          [l.status] rdwr l.queryData
        if query.ret ≠ controlSuccess then ⟨controlError, query.world⟩
        else ⟨query.payload.headD l.status, query.world⟩ :=
    rpiI2c_write_eq s.world write rdwr l resid h_write h_len
  have h_special : resourceTableSearch (device w₁).table controlSpecialResid = some ifnumReserved :=
    resourceTableSearch_special (by rw [h_same]; exact h_table)
  have h_read : isControlCmdRead controlGetLastCommandStatus = true := by decide
  by_cases h_answer :
      ((device s.world).writeAnswer tasks ifnum resid cmd payload).1 = controlSuccess
  · -- acknowledged: the query says success
    have h_written := h_works.write_acked s.world bytes (h_acked.mpr h_answer)
    have h_query := rpiI2c_readDone h_works ⟨w₁, s.xscope⟩ [l.status] h_special h_read le_rfl
      one_le_i2cDataMaxBytes l.queryData
    obtain ⟨h_told, h_kept⟩ := h_query.special (Or.inr rfl)
    set query := rpiI2cControlReadCommand w₁ controlSpecialResid controlGetLastCommandStatus
      [l.status] rdwr l.queryData
    obtain ⟨h_ret, h_payload⟩ := HostAnswer.mk.inj h_told
    have h_done : r = ⟨controlSuccess, query.world⟩ := by
      rw [h_result, if_neg (not_not.mpr h_written)]
      dsimp only
      rw [if_neg (not_not.mpr h_ret), h_payload]
      rfl
    rw [h_done]
    refine hostServed_write ?_ (h_kept.trans h_users) (h_query.table.trans h_same) trivial
    exact (if_pos h_answer).symm
  · -- a NACK at the last byte
    have h_written := h_works.write_nacked s.world bytes fun h => h_answer (h_acked.mp h)
    have h_done : r = ⟨controlError, w₁⟩ := by
      rw [h_result]
      exact if_pos (by omega)
    rw [h_done]
    refine hostServed_write ?_ h_users h_same trivial
    exact (if_neg h_answer).symm

/-- **A write from an xCORE.** -/
theorem xcoreI2c_writeServed {write : W → List UInt8 → Bool → I2cMasterWrite W}
    {read : W → ℕ → I2cMasterRead W} {device : W → Device σ}
    (h_works : XcoreI2cWorks tasks write read device) (h_table : (device s.world).table.Reserves)
    (h_search : resourceTableSearch (device s.world).table resid = some ifnum)
    (h_ne : resid ≠ controlSpecialResid) (h_write : isControlCmdRead cmd = false)
    (h_len : payload.length ≤ i2cDataMaxBytes) (l : HostLocals) :
    let r := xcoreI2cControlWriteCommand s.world resid cmd payload write read l.data l.queryData
      l.status
    HostServed tasks (.xcoreI2c write read device) s (writeRequest ifnum resid cmd payload)
      ⟨r.ret, payload⟩ { s with world := r.world } := by
  intro r
  set bytes := resid :: cmd :: UInt8.ofNat payload.length :: payload with h_bytes
  obtain ⟨h_acked, h_users, h_same⟩ := i2cWrite_device tasks h_search h_ne h_write h_len
  rw [← h_bytes] at h_acked h_users h_same
  set w₁ := (write s.world bytes true).world with h_w₁
  have h_device : device w₁ = (i2cSystem tasks).run (device s.world)
      (i2cSent tasks (device s.world) (i2cWriteTransfer bytes) ++ [.stop]) :=
    h_works.write_device s.world bytes true
  rw [← h_device] at h_users h_same
  have h_result : r = if (write s.world bytes true).res ≠ .ack then ⟨controlError, w₁⟩
      else if (write s.world bytes true).numBytesSent ≠ bytes.length then ⟨controlError, w₁⟩
      else
        let query := xcoreI2cControlReadCommand w₁ controlSpecialResid controlGetLastCommandStatus
          [l.status] (fun w bytes => write w bytes false) read l.queryData
        ⟨query.payload.headD l.status, query.world⟩ :=
    xcoreI2c_write_eq s.world write read l resid h_write h_len
  have h_special : resourceTableSearch (device w₁).table controlSpecialResid = some ifnumReserved :=
    resourceTableSearch_special (by rw [h_same]; exact h_table)
  have h_read : isControlCmdRead controlGetLastCommandStatus = true := by decide
  by_cases h_answer :
      ((device s.world).writeAnswer tasks ifnum resid cmd payload).1 = controlSuccess
  · obtain ⟨h_res, h_count⟩ := h_works.write_acked s.world bytes true (h_acked.mpr h_answer)
    have h_query := xcoreI2c_readDone h_works ⟨w₁, s.xscope⟩ [l.status] h_special h_read le_rfl
      one_le_i2cDataMaxBytes l.queryData
    obtain ⟨h_told, h_kept⟩ := h_query.special (Or.inr rfl)
    dsimp only at h_query h_told h_kept
    set query := xcoreI2cControlReadCommand w₁ controlSpecialResid controlGetLastCommandStatus
      [l.status] (fun w bytes => write w bytes false) read l.queryData
    obtain ⟨-, h_payload⟩ := HostAnswer.mk.inj h_told
    have h_done : r = ⟨controlSuccess, query.world⟩ := by
      rw [h_result, if_neg (not_not.mpr h_res), if_neg (not_not.mpr h_count)]
      dsimp only
      rw [h_payload]
      rfl
    rw [h_done]
    refine hostServed_write ?_ (h_kept.trans h_users) (h_query.table.trans h_same) trivial
    exact (if_pos h_answer).symm
  · have h_nack := h_works.write_nacked s.world bytes true fun h => h_answer (h_acked.mp h)
    have h_done : r = ⟨controlError, w₁⟩ := by
      rw [h_result]
      exact if_pos (by rw [h_nack]; decide)
    rw [h_done]
    refine hostServed_write ?_ h_users h_same trivial
    exact (if_neg h_answer).symm

end Write

end DeviceControl
