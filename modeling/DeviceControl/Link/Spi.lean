import DeviceControl.Link.Host

/-!
# The SPI link

A read is two transactions of the master, and a write is three: its frame, and the read of the
status that it has left. Each of them is followed from a machine in its initial state, which is
where the next one ends.

The second transaction of a read requires more bytes than the read has asked for if that were less
than eight. The device has zeroes for them, and the host leaves them out.
-/

namespace DeviceControl

variable {σ W : Type} {tasks : UserTasks σ}

/-! ### Transfers -/

section Transfer

variable {d : Device σ} {requiresFirst : Bool} {ifnum resid cmd : UInt8} {n : ℕ}

/-- What the client hands to the master for a callback. -/
theorem spiControlClient_bytes (d : Device σ) (cb : SpiCallback) :
    (((spiControlClient tasks).step d cb).2.map UInt32.toUInt8).toList
      = hostBytes (.spi cb, ((spiSystem tasks).step d cb).2) := by
  cases cb with
  | masterEndsTransaction => rfl
  | masterSuppliedData datum validBits => rfl
  | masterRequiresData =>
    -- there is a byte in every state
    have h_output : ∃ data,
        (controlProcessSpiMasterRequiresData tasks d).2.output = .spiData data := by
      unfold controlProcessSpiMasterRequiresData
      split
      · exact ⟨0, rfl⟩
      · dsimp only
        split
        · exact ⟨_, rfl⟩
        · exact ⟨0, rfl⟩
      · exact ⟨0, rfl⟩
    obtain ⟨data, h_data⟩ := h_output
    show (((spiControlClient tasks).step d .masterRequiresData).2.map UInt32.toUInt8).toList
      = (controlProcessSpiMasterRequiresData tasks d).2.output.bytes
    rw [h_data]
    dsimp only [spiControlClient, spiSystem]
    rw [h_data]
    rfl

/-- The bytes that a run of the client hands to the master. -/
theorem spiControlClient_trace (d : Device σ) (cbs : List SpiCallback) :
    ((spiControlClient tasks).trace d cbs).filterMap (fun p => p.2.map UInt32.toUInt8)
      = (((spiSystem tasks).trace d cbs).map
          fun p => (Callback.spi p.1, p.2)).flatMap hostBytes := by
  rw [List.filterMap_eq_flatMap_toList]
  induction cbs generalizing d with
  | nil => rfl
  | cons cb cbs ih =>
    have h_fst : ((spiControlClient tasks).step d cb).1 = ((spiSystem tasks).step d cb).1 :=
      run_spiControlClient d [cb]
    rw [Transducer.trace_cons, Transducer.trace_cons, List.flatMap_cons, List.map_cons,
      List.flatMap_cons, ← spiControlClient_bytes, h_fst, ih]

/-- A transaction as callbacks of the device. -/
theorem spiTransfer_eq (tasks : UserTasks σ) (requiresFirst : Bool) (d : Device σ)
    (bytes : List UInt8) :
    spiTransfer tasks requiresFirst d bytes
      = ((((spiSystem tasks).trace d (spiTransaction (exchange requiresFirst bytes))).map
          fun p => (Callback.spi p.1, p.2)).flatMap hostBytes,
        (spiSystem tasks).run d (spiTransaction (exchange requiresFirst bytes))) :=
  Prod.ext (spiControlClient_trace d _) (run_spiControlClient d _)

theorem spiTransfer_table (tasks : UserTasks σ) (requiresFirst : Bool) (d : Device σ)
    (bytes : List UInt8) : (spiTransfer tasks requiresFirst d bytes).2.table = d.table := by
  rw [spiTransfer_eq, ← run_spi]
  exact run_table tasks d _

/-- **The transaction of a write.** The frame is served, its status recorded and the machine
reset. -/
theorem spiTransfer_write (tasks : UserTasks σ) (requiresFirst : Bool) (h_zero : d.spi = Spi.zero)
    {payload : List UInt8} (h_search : resourceTableSearch d.table resid = some ifnum)
    (h_ne : resid ≠ controlSpecialResid) (h_write : isControlCmdRead cmd = false)
    (h_len : payload.length ≤ spiDataMaxBytes) :
    let d' := (spiTransfer tasks requiresFirst d
      (resid :: cmd :: UInt8.ofNat payload.length :: payload)).2
    d'.spi = Spi.zero ∧ d'.users = (d.writeAnswer tasks ifnum resid cmd payload).2 ∧
      d'.lastStatus = (d.writeAnswer tasks ifnum resid cmd payload).1 := by
  intro d'
  set items := exchange requiresFirst (resid :: cmd :: UInt8.ofNat payload.length :: payload)
    with h_items
  have h_bytes : suppliedBytes items
      = resid :: cmd :: UInt8.ofNat payload.length :: payload := by
    rw [h_items, suppliedBytes_exchange]
  have h_frame : CompleteFrame d.table (suppliedBytes items) ifnum resid cmd payload :=
    ⟨⟨_, toNat_ofNat_of_le h_len, h_bytes⟩, h_len, h_search, h_write⟩
  obtain ⟨reply, -, h_del⟩ :=
    spiTransaction_complete tasks h_zero h_frame.noReadPerformed h_frame h_ne
  have h_run : d' = (spiSystem tasks).run d (spiTransaction items) :=
    congrArg Prod.snd (spiTransfer_eq tasks requiresFirst d _)
  rw [h_run]
  exact ⟨spi_zero_of_transaction tasks h_zero h_frame.noReadPerformed, h_del.users,
    h_del.lastStatus⟩

/-- **The first transaction of a read.** It performs the read, and leaves its data to be
delivered. -/
theorem spiTransfer_header (tasks : UserTasks σ) (requiresFirst : Bool) (h_zero : d.spi = Spi.zero)
    (h_search : resourceTableSearch d.table resid = some ifnum)
    (h_read : isControlCmdRead cmd = true) (h_len : n ≤ spiDataMaxBytes) :
    let d' := (spiTransfer tasks requiresFirst d [resid, cmd, UInt8.ofNat n, 0, 0, 0, 0, 0]).2
    d'.spi.Delivers (spiRead tasks d ifnum resid cmd n).payload n 0 ∧
      d'.users = (spiRead tasks d ifnum resid cmd n).device.users := by
  intro d'
  obtain ⟨before, after, h_split, h_before, h_first, h_after⟩ :=
    exchange_header requiresFirst resid cmd (UInt8.ofNat n) 0 [0, 0, 0, 0]
  have h_header : BringsHeader d.table before ifnum resid cmd (UInt8.ofNat n) :=
    ⟨⟨[], h_before⟩, h_first, h_search, h_read⟩
  have h_zeroes : ∀ b ∈ suppliedBytes after, b = 0 := by
    rw [h_after]
    simp
  obtain ⟨-, -, -, -, -, h_run⟩ := spiRead_first tasks h_zero h_header h_zeroes
  rw [← h_split, toNat_ofNat_of_le h_len] at h_run
  have h_device : d' = _ := (congrArg Prod.snd (spiTransfer_eq tasks requiresFirst d _)).trans h_run
  rw [h_device]
  exact ⟨⟨rfl, rfl, (Nat.zero_min _).symm, rfl⟩, rfl⟩

/-- **The second transaction of a read.** The master has the data, with zeroes behind it if it
requires more, and the machine is reset. -/
theorem spiTransfer_data (tasks : UserTasks σ) (requiresFirst : Bool)
    {payload : Buffer UInt8 spiDataMaxBytes} (h : d.spi.Delivers payload n 0)
    (h_len : n ≤ spiDataMaxBytes) {m : ℕ} (h_le : n ≤ m) :
    let transfer := spiTransfer tasks requiresFirst d (List.replicate m 0)
    transfer.1.take n = payload.front n ∧ transfer.2.users = d.users ∧
      transfer.2.spi = Spi.zero := by
  intro transfer
  set items := exchange requiresFirst (List.replicate m (0 : UInt8)) with h_items
  have h_open : .masterEndsTransaction ∉ items.map SpiItem.callback := by
    intro h_mem
    obtain ⟨x, -, h_x⟩ := List.mem_map.mp h_mem
    cases x <;> cases h_x
  obtain ⟨h_end, h_users, -⟩ := h.run tasks h_len h_open
  have h_reset := step_ends_delivering tasks h_end.state
  have h_transfer : transfer = _ := spiTransfer_eq tasks requiresFirst d _
  rw [spiTransaction, Transducer.trace_concat, Transducer.run_concat, h_reset] at h_transfer
  refine ⟨?_, ?_, ?_⟩
  · have h_bytes := hostBytes_delivers tasks h h_len items
    rw [h_items, count_requires_exchange, List.length_replicate, ← h_items] at h_bytes
    calc transfer.1.take n
        = ((List.range' 0 m).map (deliveredByte payload n)).take n := by
          rw [h_transfer, List.map_append, List.flatMap_append, h_bytes]
          exact congrArg (List.take n) (List.append_nil _)
      _ = (List.range' 0 n).map (deliveredByte payload n) := by
          rw [← List.map_take, List.take_range'_of_length_ge h_le]
      _ = payload.front n := map_deliveredByte payload h_len
  · rw [h_transfer]
    exact h_users
  · rw [h_transfer]
    rfl

end Transfer

/-! ### The commands of the host -/

section Commands

variable {transfern : W → List UInt8 → List UInt8 × W} {requiresFirst : Bool}
  {device : W → Device σ} {resid cmd ifnum : UInt8} {payload : List UInt8}

/-- **A read from a Raspberry Pi over SPI.** -/
theorem rpiSpi_readDone
    (h_works : (HostLink.rpiSpi transfern requiresFirst device).Works tasks) (s : HostState W)
    (h_zero : (device s.world).spi = Spi.zero) (payload : List UInt8)
    (h_search : resourceTableSearch (device s.world).table resid = some ifnum)
    (h_read : isControlCmdRead cmd = true) (h_len : payload.length ≤ spiDataMaxBytes) :
    let r := rpiSpiControlReadCommand s.world resid cmd payload transfern
    ReadDone tasks (.rpiSpi transfern requiresFirst device) s (device s.world).lastStatus ifnum
      resid cmd payload.length ⟨r.ret, r.payload⟩ { s with world := r.world } := by
  intro r
  set n := payload.length
  have h_mod : n % 2 ^ 32 = n := Nat.mod_eq_of_lt (h_len.trans_lt (by decide))
  set m := if n < 8 then 8 else n % 2 ^ 32 with h_m
  have h_le : n ≤ m := by
    rw [h_m]
    split
    · omega
    · exact h_mod.ge
  set header := [resid, cmd, UInt8.ofNat n, 0, 0, 0, 0, 0]
  set first := transfern s.world header with h_first
  set second := transfern first.2 (List.replicate m 0) with h_second
  have h_sent : sent (controlBuildSpiData (Buffer.ofList 0 []) resid cmd (some payload)
      (n % 2 ^ 32)) = header := by
    rw [h_mod, sent_buildSpi_read _ h_read _ h_len]
  have h_result : r = ⟨controlSuccess, second.1.take n, second.2⟩ := by
    change rpiSpiControlReadCommand s.world resid cmd payload transfern = _
    unfold rpiSpiControlReadCommand
    dsimp only
    rw [h_sent]
  -- what both transactions leave on the device
  obtain ⟨h_delivers, h_users⟩ :=
    spiTransfer_header tasks requiresFirst h_zero h_search h_read h_len
  have h_same := spiTransfer_table tasks requiresFirst (device s.world) header
  rw [← h_works s.world header] at h_delivers h_users h_same
  obtain ⟨h_data, h_kept, h_reset⟩ := spiTransfer_data tasks requiresFirst h_delivers h_len h_le
  have h_table := spiTransfer_table tasks requiresFirst (device first.2) (List.replicate m 0)
  rw [← h_works first.2 _] at h_data h_kept h_reset h_table
  rw [h_result]
  constructor
  case read =>
    exact ⟨device s.world, spiDataMaxBytes, Buffer.ofList 0 [], h_len, rfl, rfl,
      h_kept.trans h_users, rfl, fun _ => h_data⟩
  case length =>
    intro _
    show (second.1.take n).length = n
    rw [h_data, Buffer.length_front, Nat.min_eq_left h_len]
  case table => exact h_table.trans h_same
  case ready => exact h_reset

theorem one_le_spiDataMaxBytes : 1 ≤ spiDataMaxBytes := by decide

/-- **A write from a Raspberry Pi over SPI.** It returns the status that the device has recorded. -/
theorem rpiSpi_writeServed
    (h_works : (HostLink.rpiSpi transfern requiresFirst device).Works tasks) (s : HostState W)
    (h_zero : (device s.world).spi = Spi.zero) (h_table : (device s.world).table.Reserves)
    (h_search : resourceTableSearch (device s.world).table resid = some ifnum)
    (h_ne : resid ≠ controlSpecialResid) (h_write : isControlCmdRead cmd = false)
    (h_len : payload.length ≤ spiDataMaxBytes) (l : HostLocals) :
    let r := rpiSpiControlWriteCommand s.world resid cmd payload transfern l.data l.status
    HostServed tasks (.rpiSpi transfern requiresFirst device) s
      (writeRequest ifnum resid cmd payload) ⟨r.ret, payload⟩ { s with world := r.world } := by
  intro r
  set frame := resid :: cmd :: UInt8.ofNat payload.length :: payload
  set w₁ := (transfern s.world frame).2
  set query := rpiSpiControlReadCommand w₁ controlSpecialResid controlGetLastCommandStatus
    [l.status] transfern with h_query
  have h_mod : payload.length % 2 ^ 32 = payload.length :=
    Nat.mod_eq_of_lt (h_len.trans_lt (by decide))
  have h_sent : sent (controlBuildSpiData l.data resid cmd (some payload) (payload.length % 2 ^ 32))
      = frame := by
    rw [h_mod, sent_buildSpi_write _ h_write h_len]
  have h_result : r = if query.ret ≠ controlSuccess then ⟨controlError, query.world⟩
      else ⟨query.payload.headD l.status, query.world⟩ := by
    change rpiSpiControlWriteCommand s.world resid cmd payload transfern l.data l.status = _
    unfold rpiSpiControlWriteCommand
    dsimp only
    rw [h_sent]
  obtain ⟨h_reset, h_users, h_recorded⟩ :=
    spiTransfer_write tasks requiresFirst h_zero h_search h_ne h_write h_len
  have h_same := spiTransfer_table tasks requiresFirst (device s.world) frame
  rw [← h_works s.world frame] at h_reset h_users h_recorded h_same
  -- the query reads what the write has recorded
  have h_special : resourceTableSearch (device w₁).table controlSpecialResid = some ifnumReserved :=
    resourceTableSearch_special (by rw [h_same]; exact h_table)
  have h_done := rpiSpi_readDone h_works ⟨w₁, s.xscope⟩ h_reset [l.status] h_special
    (IsSpecialCmd.read (Or.inr rfl)) one_le_spiDataMaxBytes
  obtain ⟨h_told, h_kept⟩ := h_done.special (Or.inr rfl)
  obtain ⟨h_ret, h_payload⟩ := HostAnswer.mk.inj h_told
  rw [h_result, if_neg (not_not.mpr h_ret), h_payload]
  exact hostServed_write h_recorded (h_kept.trans h_users) (h_done.table.trans h_same) h_done.ready

end Commands

end DeviceControl
