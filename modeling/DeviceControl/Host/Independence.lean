import DeviceControl.Host.Command
import DeviceControl.I2c.Frame
import DeviceControl.Spi.Read
import DeviceControl.Spi.Write

/-!
# Transport independence

Each of the four transports carries every command that is not too long for it (`carries`): what the
host builder encodes and the transport brings to the device makes one call on a user task, for the
request that the command is. So which transport a host is connected by makes no difference to the
resource (`transport_independent`).

The proof goes transport by transport. For I2C and SPI it follows the callbacks of the command with
the run lemmas of their modules; for USB and xSCOPE it is a computation. In each case the lemmas of
`Host.Support` say what the builder has put on the wire.
-/

namespace DeviceControl

variable {σ : Type} (tasks : UserTasks σ)

/-! ### I2C -/

section I2c

variable {a : HostArrays} {c : Command}

theorem i2cCallbacks_write (h_write : isControlCmdRead c.cmd = false)
    (h_len : c.payload.length ≤ i2cDataMaxBytes) :
    c.i2cCallbacks a
      = writeFrame c.resid c.cmd (UInt8.ofNat c.payload.length) c.payload ++ [.stop] := by
  rw [Command.i2cCallbacks, Command.i2cBytes,
    sent_buildI2c_write _ h_write h_len (Nat.add_le_of_le_sub' (by decide) h_len), h_write,
    if_neg Bool.false_ne_true, List.append_nil]
  rfl

theorem i2cCallbacks_read (h_read : isControlCmdRead c.cmd = true)
    (h_len : c.payload.length ≤ i2cDataMaxBytes) :
    c.i2cCallbacks a
      = headerCallbacks c.resid c.cmd (UInt8.ofNat c.payload.length)
          ++ .readStart :: (List.replicate c.payload.length .readData ++ [.stop]) := by
  rw [Command.i2cCallbacks, Command.i2cBytes, sent_buildI2c_read _ h_read _ h_len (by decide),
    if_pos h_read, List.append_assoc, List.cons_append]
  -- the header as callbacks, by their definition
  rfl

/-- Neither reads of a byte nor a stop call a user task. -/
theorem calls_readData_stop (d : Device σ) (k : ℕ) :
    ∀ p ∈ (i2cSystem tasks).trace d (List.replicate k .readData ++ [.stop]), p.2.calls = [] := by
  intro p hp
  obtain ⟨pre, post, h_eq, h_reply⟩ := (i2cSystem tasks).mem_trace.mp hp
  have h_mem : p.1 ∈ List.replicate k I2cCallback.readData ++ [.stop] := by
    rw [h_eq]
    simp
  rw [h_reply]
  rcases List.mem_append.mp h_mem with h_data | h_stop
  · rw [List.eq_of_mem_replicate h_data]
    change (controlProcessI2cReadData _).2.calls = []
    unfold controlProcessI2cReadData
    split
    · rfl
    · split <;> rfl
    · rfl
  · rw [List.mem_singleton.mp h_stop]
    rfl

/-- Only reads of a byte bring bytes to the host. -/
theorem hostBytes_i2c {d : Device σ} {cbs : List I2cCallback} (h : .readData ∉ cbs) :
    (((i2cSystem tasks).trace d cbs).map fun p => (Callback.i2c p.1, p.2)).flatMap hostBytes
      = [] := by
  rw [List.flatMap_eq_nil_iff]
  intro q hq
  obtain ⟨⟨cb, reply⟩, hp, rfl⟩ := List.mem_map.mp hq
  have h_mem : cb ∈ cbs := by
    rw [← (i2cSystem tasks).map_fst_trace d cbs]
    exact List.mem_map_of_mem hp
  cases cb with
  | readData => exact absurd h_mem h
  | _ => rfl

section Serve

variable {d : Device σ} {payload : Buffer UInt8 i2cDataMaxBytes} {n : ℕ}

/-- The bytes that up to `n` reads of a byte bring to the host, after a granted read. -/
theorem hostBytes_serves (h : d.i2c.Serves payload n 0) (h_le : n ≤ i2cDataMaxBytes) {m : ℕ}
    (h_m : m ≤ n) :
    (((i2cSystem tasks).trace d (List.replicate m .readData)).map
      fun p => (Callback.i2c p.1, p.2)).flatMap hostBytes = payload.front m := by
  induction m with
  | zero => rfl
  | succ m ih =>
    have h_step := ((h.run tasks h_le (Nat.le_of_succ_le h_m)).step tasks h_m h_le).2
    -- the byte read last comes behind the others
    calc (((i2cSystem tasks).trace d (List.replicate (m + 1) .readData)).map
          fun p => (Callback.i2c p.1, p.2)).flatMap hostBytes
        = payload.front m ++ hostBytes (.i2c .readData, ((i2cSystem tasks).step
            ((i2cSystem tasks).run d (List.replicate m .readData)) .readData).2) := by
          rw [List.replicate_succ', Transducer.trace_concat, List.map_append, List.flatMap_append,
            ih (Nat.le_of_succ_le h_m), List.map_singleton, List.flatMap_singleton]
      _ = payload.front m ++ payload[m]?.toList := by
          rw [h_step]
          rfl
      _ = payload.front (m + 1) := (Buffer.front_succ payload m).symm

/-- All bytes of a granted read, up to the stop. -/
theorem hostBytes_read (h : d.i2c.Serves payload n 0) (h_le : n ≤ i2cDataMaxBytes) :
    (((i2cSystem tasks).trace d (List.replicate n .readData ++ [.stop])).map
      fun p => (Callback.i2c p.1, p.2)).flatMap hostBytes = payload.front n := by
  rw [Transducer.trace_concat, List.map_append, List.flatMap_append,
    hostBytes_serves tasks h h_le le_rfl]
  exact List.append_nil _

end Serve

/-- A write is carried by the callback that brings its last byte. -/
theorem carries_i2c_write {d : Device σ} {ifnum : UInt8}
    (h_search : resourceTableSearch d.table c.resid = some ifnum)
    (h_ne : c.resid ≠ controlSpecialResid) (h_len : c.payload.length ≤ i2cDataMaxBytes)
    (h_write : isControlCmdRead c.cmd = false) : ∃ call, Carries tasks .i2c a c d ifnum call := by
  obtain ⟨entries, last, h_frame, h_quiet, h_del⟩ := trace_writeFrame tasks d h_search h_ne h_write
    (toNat_ofNat_of_le h_len) h_len
  set frame := writeFrame c.resid c.cmd (UInt8.ofNat c.payload.length) c.payload
  have h_trace : (controlSystem tasks).trace d (c.callbacks a .i2c)
      = entries.map (fun p => (.i2c p.1, p.2)) ++ (.i2c last.1, last.2)
        :: [(.i2c .stop, ((i2cSystem tasks).step ((i2cSystem tasks).run d frame) .stop).2)] := by
    rw [Command.callbacks, trace_i2c, i2cCallbacks_write h_write h_len, Transducer.trace_concat,
      h_frame, List.map_append, List.map_append, List.append_assoc]
    rfl
  refine carries_of_deliversWrite h_write h_trace h_del (List.forall_mem_append.mpr ⟨?_, ?_⟩)
  · exact List.forall_mem_map.mpr fun p hp => (h_quiet p hp).calls
  · exact List.forall_mem_singleton.mpr rfl

/-- A read is carried by the read start, and its bytes by the reads of a byte that follow. -/
theorem carries_i2c_read {d : Device σ} {ifnum : UInt8}
    (h_search : resourceTableSearch d.table c.resid = some ifnum)
    (h_ne : c.resid ≠ controlSpecialResid) (h_len : c.payload.length ≤ i2cDataMaxBytes)
    (h_read : isControlCmdRead c.cmd = true) (h_some : c.payload ≠ []) :
    ∃ call, Carries tasks .i2c a c d ifnum call := by
  have h_nat := toNat_ofNat_of_le h_len
  have h_pos : (UInt8.ofNat c.payload.length).toNat ≠ 0 := by
    rw [h_nat]
    exact fun h_zero => h_some (List.length_eq_zero_iff.mp h_zero)
  obtain ⟨h_run, h_quiet⟩ := trace_header tasks d (c := c.cmd) h_search (h_nat.trans_le h_len) h_pos
  rw [h_nat] at h_run
  set d₁ := (d.addressed ifnum c.resid c.cmd).announced c.payload.length
  have h_await : d₁.i2c.AwaitsRead ifnum c.resid c.cmd c.payload.length := ⟨rfl, rfl, rfl, rfl, rfl⟩
  have h_step := h_await.step tasks h_read
  set d₂ := if (i2cReadCommand tasks d₁).reply.ret = controlSuccess then d₁.granted tasks
    else d₁.refused tasks
  have h_del : DeliversRead tasks d ifnum c.resid c.cmd c.payload.length d₁.i2c.payload
      (i2cReadCommand tasks d₁).payload (i2cReadCommand tasks d₁).device
      (i2cReadCommand tasks d₁).reply :=
    deliversRead_readCommand h_ne rfl
  -- what the read start is followed by
  set rest : List I2cCallback := List.replicate c.payload.length .readData ++ [.stop]
  have h_trace : (controlSystem tasks).trace d (c.callbacks a .i2c)
      = ((i2cSystem tasks).trace d (headerCallbacks c.resid c.cmd
            (UInt8.ofNat c.payload.length))).map (fun p => (.i2c p.1, p.2))
        ++ (.i2c .readStart, (i2cReadCommand tasks d₁).reply)
          :: ((i2cSystem tasks).trace d₂ rest).map fun p => (.i2c p.1, p.2) := by
    calc (controlSystem tasks).trace d (c.callbacks a .i2c)
        = ((i2cSystem tasks).trace d (headerCallbacks c.resid c.cmd
            (UInt8.ofNat c.payload.length) ++ .readStart :: rest)).map
              fun p => (.i2c p.1, p.2) := by
          rw [Command.callbacks, trace_i2c, i2cCallbacks_read h_read h_len]
      _ = _ := by
          rw [Transducer.trace_append, h_run, Transducer.trace_cons, h_step, List.map_append,
            List.map_cons]
  refine carries_of_deliversRead h_read h_len h_trace h_del ?_ fun h_ret => ?_
  · refine List.forall_mem_append.mpr ⟨?_, ?_⟩
    · exact List.forall_mem_map.mpr fun p hp => (h_quiet p hp).calls
    · exact List.forall_mem_map.mpr (calls_readData_stop tasks d₂ _)
  · have h_serves : d₂.i2c.Serves (i2cReadCommand tasks d₁).payload c.payload.length 0 := by
      have h_granted : d₂ = d₁.granted tasks := if_pos h_ret
      rw [h_granted]
      exact h_await.serves tasks
    have h_header : (((i2cSystem tasks).trace d (headerCallbacks c.resid c.cmd
        (UInt8.ofNat c.payload.length))).map fun p => (Callback.i2c p.1, p.2)).flatMap hostBytes
        = [] := hostBytes_i2c tasks (by simp [headerCallbacks])
    change List.take _ (List.flatMap hostBytes _) = _
    rw [List.flatMap_append, List.flatMap_cons, h_header, hostBytes_read tasks h_serves h_len]
    -- the read start itself brings none
    exact List.take_of_length_le (by simp [hostBytes])

end I2c

/-- The last elements of a list that ends with as many. -/
theorem rtake_append_of_length {α : Type} {n : ℕ} (l : List α) {l' : List α}
    (h : l'.length = n) : (l ++ l').rtake n = l' := by
  rw [List.rtake, List.length_append, h, Nat.add_sub_cancel, List.drop_left]

/-! ### SPI -/

section Spi

variable {a : HostArrays} {c : Command}

theorem count_requires_exchange (requiresFirst : Bool) (bs : List UInt8) :
    (exchange requiresFirst bs).count .requires = bs.length := by
  induction bs with
  | nil => rfl
  | cons b bs ih =>
    rw [exchange, List.flatMap_cons, List.count_append, ← exchange, ih, List.length_cons]
    cases requiresFirst <;> simp [Nat.add_comm]

/-- The bytes that a second transaction brings to the host. -/
theorem hostBytes_delivers {d : Device σ} {payload : Buffer UInt8 spiDataMaxBytes} {n i : ℕ}
    (h : d.spi.Delivers payload n i) (h_le : n ≤ spiDataMaxBytes) (items : List SpiItem) :
    (((spiSystem tasks).trace d (items.map SpiItem.callback)).map
        fun p => (Callback.spi p.1, p.2)).flatMap hostBytes
      = (List.range' i (items.count .requires)).map (deliveredByte payload n) := by
  induction items generalizing d i with
  | nil => rfl
  | cons x items ih =>
    have h_cb : x.callback ≠ .masterEndsTransaction := by cases x <;> exact nofun
    obtain ⟨d', reply, h_step, h_next, -, -, h_output⟩ := h.callback tasks h_le h_cb
    have h_rest := ih h_next
    rw [List.map_cons, Transducer.trace_cons, h_step, List.map_cons, List.flatMap_cons, h_rest]
    cases x with
    | supplied b => rfl
    | requires =>
      have h_bytes : reply.output.bytes = [deliveredByte payload n i] := by
        rw [h_output rfl, Output.bytes, UInt8.toUInt8_toUInt32]
      change reply.output.bytes ++ _ = _
      rw [h_bytes, List.count_cons_self, List.range'_succ]
      rfl

theorem map_deliveredByte (payload : Buffer UInt8 spiDataMaxBytes) {n : ℕ}
    (h_le : n ≤ spiDataMaxBytes) :
    (List.range' 0 n).map (deliveredByte payload n) = payload.front n := by
  refine List.ext_getElem? fun i => ?_
  by_cases h_lt : i < n
  · rw [Buffer.getElem?_front _ h_lt, List.getElem?_map, List.getElem?_range' h_lt, Option.map_some,
      deliveredByte]
    simp [h_lt, Vector.getElem?_eq_getElem (h_lt.trans_le h_le)]
  · rw [List.getElem?_eq_none (by simp; omega), List.getElem?_eq_none (by simp; omega)]

/-- A byte exchanged while data is delivered succeeds. -/
theorem ret_delivering {d : Device σ} {payload : Buffer UInt8 spiDataMaxBytes} {n i : ℕ}
    (h : d.spi.Delivers payload n i) (h_le : n ≤ spiDataMaxBytes) (x : SpiItem) :
    ((spiSystem tasks).step d x.callback).2.ret = controlSuccess := by
  cases x with
  | supplied b =>
    obtain ⟨ret, h_step, h_ret⟩ := step_supplied_ignored tasks h.state b.toUInt32 8
    rw [SpiItem.callback, h_step, h_ret rfl]
  | requires =>
    obtain ⟨d', accesses, h_step, -⟩ := h.step tasks h_le
    rw [SpiItem.callback, h_step]

/-- **The second transaction.** It succeeds, calls nobody, and brings the payload to the host. -/
theorem trace_second {d : Device σ} {payload : Buffer UInt8 spiDataMaxBytes} {n : ℕ}
    (h : d.spi.Delivers payload n 0) (h_le : n ≤ spiDataMaxBytes) (requiresFirst : Bool) :
    let replies := (spiSystem tasks).trace d
      (spiTransaction (exchange requiresFirst (List.replicate n 0)))
    (∀ p ∈ replies, p.2.Quiet) ∧
      (replies.map fun p => (Callback.spi p.1, p.2)).flatMap hostBytes = payload.front n := by
  intro replies
  set items := exchange requiresFirst (List.replicate n 0) with h_items
  -- bytes supplied and required do not end the transaction
  have h_open (items : List SpiItem) : .masterEndsTransaction ∉ items.map SpiItem.callback := by
    intro h_mem
    obtain ⟨x, -, h_x⟩ := List.mem_map.mp h_mem
    cases x <;> cases h_x
  obtain ⟨h_end, -, h_data⟩ := h.run tasks h_le (h_open items)
  have h_reset : (spiSystem tasks).step ((spiSystem tasks).run d (items.map SpiItem.callback))
      .masterEndsTransaction = _ :=
    step_ends_reset tasks (by rw [h_end.state]; decide) (by rw [h_end.state]; decide)
  -- the bytes of the payload, and the end that resets the machine
  have h_trace : replies = (spiSystem tasks).trace d (items.map SpiItem.callback)
      ++ [(.masterEndsTransaction, { ret := controlSuccess })] := by
    change (spiSystem tasks).trace d (spiTransaction items) = _
    rw [spiTransaction, Transducer.trace_concat, h_reset]
  rw [h_trace]
  constructor
  · refine List.forall_mem_append.mpr ⟨fun p hp => ⟨?_, ?_⟩,
      List.forall_mem_singleton.mpr ⟨rfl, rfl⟩⟩
    · obtain ⟨pre', post', h_map, h_reply⟩ := (spiSystem tasks).mem_trace.mp hp
      obtain ⟨pre, rest, -, rfl, h_rest⟩ := List.map_eq_append_iff.mp h_map
      obtain ⟨x, post, -, h_x, -⟩ := List.map_eq_cons_iff.mp h_rest
      rw [h_reply, ← h_x]
      exact ret_delivering tasks (h.run tasks h_le (h_open pre)).1 h_le x
    · obtain ⟨k, h_at⟩ := List.mem_iff_getElem?.mp hp
      exact (h_data k p.1 p.2 h_at).1
  · have h_bytes := hostBytes_delivers tasks h h_le items
    rw [h_items, count_requires_exchange, List.length_replicate, map_deliveredByte _ h_le,
      ← h_items] at h_bytes
    rw [List.map_append, List.flatMap_append, h_bytes]
    exact List.append_nil _

theorem spiCallbacks_write (h_write : isControlCmdRead c.cmd = false)
    (h_len : c.payload.length ≤ spiDataMaxBytes) :
    c.spiCallbacks a = spiTransaction (exchange a.spiRequiresFirst
      (c.resid :: c.cmd :: UInt8.ofNat c.payload.length :: c.payload)) := by
  rw [Command.spiCallbacks, Command.spiBytes, sent_buildSpi_write _ h_write h_len, h_write,
    if_neg Bool.false_ne_true, List.append_nil]

theorem spiCallbacks_read (h_read : isControlCmdRead c.cmd = true)
    (h_len : c.payload.length ≤ spiDataMaxBytes) :
    c.spiCallbacks a = spiTransaction (exchange a.spiRequiresFirst
        [c.resid, c.cmd, UInt8.ofNat c.payload.length, 0, 0, 0, 0, 0])
      ++ spiTransaction (exchange a.spiRequiresFirst (List.replicate c.payload.length 0)) := by
  rw [Command.spiCallbacks, Command.spiBytes, sent_buildSpi_read _ h_read _ h_len, if_pos h_read]

/-- A write is carried by the end of its transaction. -/
theorem carries_spi_write {d : Device σ} (h_zero : d.spi = Spi.zero) {ifnum : UInt8}
    (h_search : resourceTableSearch d.table c.resid = some ifnum)
    (h_ne : c.resid ≠ controlSpecialResid) (h_len : c.payload.length ≤ spiDataMaxBytes)
    (h_write : isControlCmdRead c.cmd = false) : ∃ call, Carries tasks .spi a c d ifnum call := by
  set items := exchange a.spiRequiresFirst
    (c.resid :: c.cmd :: UInt8.ofNat c.payload.length :: c.payload) with h_items
  have h_bytes : suppliedBytes items
      = c.resid :: c.cmd :: UInt8.ofNat c.payload.length :: c.payload := by
    rw [h_items, suppliedBytes_exchange]
  have h_frame : CompleteFrame d.table (suppliedBytes items) ifnum c.resid c.cmd c.payload :=
    ⟨⟨_, toNat_ofNat_of_le h_len, h_bytes⟩, h_len, h_search, h_write⟩
  -- a write is no read command, so nothing is handed out before the end
  have h_body := h_frame.noReadPerformed
  obtain ⟨reply, h_tx, h_del⟩ := spiTransaction_complete tasks h_zero h_body h_frame h_ne
  have h_trace : (controlSystem tasks).trace d (c.callbacks a .spi)
      = ((spiSystem tasks).trace d (items.map SpiItem.callback)).map (fun p => (.spi p.1, p.2))
        ++ (.spi .masterEndsTransaction, reply) :: [] := by
    rw [Command.callbacks, trace_spi, spiCallbacks_write h_write h_len, h_tx, List.map_append]
    rfl
  refine carries_of_deliversWrite h_write h_trace h_del ?_
  rw [List.append_nil]
  exact List.forall_mem_map.mpr fun p hp => (quiet_received tasks h_zero h_body p hp).1

/-- A read is carried by the first byte required after its header, and its bytes by those required
in the second transaction. -/
theorem carries_spi_read {d : Device σ} (h_zero : d.spi = Spi.zero) {ifnum : UInt8}
    (h_search : resourceTableSearch d.table c.resid = some ifnum)
    (h_ne : c.resid ≠ controlSpecialResid) (h_len : c.payload.length ≤ spiDataMaxBytes)
    (h_read : isControlCmdRead c.cmd = true) : ∃ call, Carries tasks .spi a c d ifnum call := by
  have h_nat := toNat_ofNat_of_le h_len
  obtain ⟨before, after, h_split, h_before, h_first, h_after⟩ :=
    exchange_header a.spiRequiresFirst c.resid c.cmd (UInt8.ofNat c.payload.length) 0 [0, 0, 0, 0]
  have h_header : BringsHeader d.table before ifnum c.resid c.cmd
      (UInt8.ofNat c.payload.length) := ⟨⟨[], h_before⟩, h_first, h_search, h_read⟩
  -- the user task is called by the first byte required behind the header
  obtain ⟨A, B, h_tx, -, h_quiet, h_run⟩ := spiRead_first tasks h_zero h_header
    (by rw [h_after]; simp)
  rw [h_nat] at h_tx h_run
  rw [← h_split] at h_tx h_run
  set items := exchange a.spiRequiresFirst
    [c.resid, c.cmd, UInt8.ofNat c.payload.length, 0, 0, 0, 0, 0]
  set d₁ := (spiSystem tasks).run d (spiTransaction items)
  set read := spiRead tasks d ifnum c.resid c.cmd c.payload.length
  -- between the two transactions the machine waits with the payload
  have h_start : d₁.spi.Delivers read.payload c.payload.length 0 := by
    rw [h_run]
    exact ⟨rfl, rfl, (Nat.zero_min _).symm, rfl⟩
  obtain ⟨h_calls, h_bytes⟩ := trace_second tasks h_start h_len a.spiRequiresFirst
  set second := exchange a.spiRequiresFirst (List.replicate c.payload.length 0)
  -- the trace of both transactions, split at that byte
  have h_trace : (controlSystem tasks).trace d (c.callbacks a .spi)
      = A.map (fun p => (.spi p.1, p.2)) ++ (.spi .masterRequiresData,
          spiReadReply tasks d ifnum c.resid c.cmd c.payload.length)
        :: (B.map (fun p => (.spi p.1, p.2))
          ++ ((spiSystem tasks).trace d₁ (spiTransaction second)).map
            fun p => (.spi p.1, p.2)) := by
    calc (controlSystem tasks).trace d (c.callbacks a .spi)
        = ((spiSystem tasks).trace d (spiTransaction items ++ spiTransaction second)).map
            fun p => (.spi p.1, p.2) := by
          rw [Command.callbacks, trace_spi, spiCallbacks_read h_read h_len]
      _ = (A ++ (.masterRequiresData,
              spiReadReply tasks d ifnum c.resid c.cmd c.payload.length) :: B
            ++ (spiSystem tasks).trace d₁ (spiTransaction second)).map
            fun p => (.spi p.1, p.2) := by rw [Transducer.trace_append, h_tx]
      _ = _ := by
          rw [List.map_append, List.map_append, List.map_cons, List.append_assoc, List.cons_append]
  have h_del : DeliversRead tasks d ifnum c.resid c.cmd c.payload.length (Buffer.ofList 0 [])
      read.payload read.device read.reply :=
    deliversRead_readCommand h_ne rfl
  refine carries_of_deliversRead h_read h_len h_trace (h_del.withOutput _) ?_ fun _ => ?_
  · rw [← List.append_assoc, ← List.map_append]
    refine List.forall_mem_append.mpr ⟨?_, List.forall_mem_map.mpr fun p hp => (h_calls p hp).calls⟩
    exact List.forall_mem_map.mpr fun p hp => (h_quiet p hp).1.calls
  · -- the host keeps the bytes of the second transaction
    change List.rtake (List.flatMap hostBytes _) _ = _
    rw [List.flatMap_append, List.flatMap_cons, List.flatMap_append, h_bytes, ← List.append_assoc,
      ← List.append_assoc]
    refine rtake_append_of_length _ ?_
    rw [Buffer.length_front, Nat.min_eq_left h_len]

end Spi

/-! ### USB and xSCOPE -/

section Request

variable {a : HostArrays} {c : Command} {d : Device σ} {ifnum : UInt8}

/-- **USB carries every command.** -/
theorem carries_usb (h_search : resourceTableSearch d.table c.resid = some ifnum)
    (h_ne : c.resid ≠ controlSpecialResid) (h_len : c.payload.length ≤ usbDataMaxBytes) :
    ∃ call, Carries tasks .usb a c d ifnum call := by
  -- the fields of the setup packet, as the device reads them back
  have h_nat := toNat_ofNat16 h_len
  have h_resid := UInt8.toUInt8_toUInt16 c.resid
  have h_cmd := UInt8.toUInt8_toUInt16 c.cmd
  have h_found : resourceTableSearch d.table c.resid.toUInt16.toUInt8 = some ifnum := by
    rw [h_resid, h_search]
  cases h_dir : isControlCmdRead c.cmd with
  | false =>
    have h_del : DeliversWrite tasks d ifnum c.resid c.cmd c.payload
        (writeCommand tasks d ifnum c.resid c.cmd (a.usbData.copy 0 c.payload) c.payload.length).1
        (writeCommand tasks d ifnum c.resid c.cmd (a.usbData.copy 0 c.payload)
          c.payload.length).2 :=
      deliversWrite_writeCommand h_ne rfl rfl rfl (Buffer.front_copy_zero _ h_len)
    have h_not : ¬ isControlCmdRead c.cmd.toUInt16.toUInt8 = true := by
      rw [h_cmd, h_dir]
      exact Bool.false_ne_true
    have h_step : ((controlSystem tasks).step d (c.usbCallback a)).2
        = (writeCommand tasks d ifnum c.resid c.cmd (a.usbData.copy 0 c.payload)
            c.payload.length).2 := by
      rw [Command.usbCallback, h_dir, if_neg Bool.false_ne_true]
      dsimp only [controlUsbFillHeader]
      refine (usbSetRequest_found h_found).trans ?_
      rw [if_neg h_not, h_resid, h_cmd, h_nat]
    have h_trace : (controlSystem tasks).trace d (c.callbacks a .usb)
        = [] ++ (c.usbCallback a, (writeCommand tasks d ifnum c.resid c.cmd
            (a.usbData.copy 0 c.payload) c.payload.length).2) :: [] := by
      rw [Command.callbacks, Transducer.trace_cons, Transducer.trace_nil, h_step]
      rfl
    exact carries_of_deliversWrite h_dir h_trace h_del (List.forall_mem_nil _)
  | true =>
    set read := readCommand tasks d ifnum c.resid c.cmd a.usbData c.payload.length with h_eq
    have h_del : DeliversRead tasks d ifnum c.resid c.cmd c.payload.length a.usbData read.payload
        read.device read.reply :=
      deliversRead_readCommand h_ne rfl
    have h_step : ((controlSystem tasks).step d (c.usbCallback a)).2
        = { read.reply with output := .usbData read.payload.toList } := by
      rw [Command.usbCallback, if_pos h_dir]
      dsimp only [controlUsbFillHeader]
      refine (usbGetRequest_found h_found).trans ?_
      rw [h_cmd, if_pos h_dir, h_resid, h_nat]
    have h_trace : (controlSystem tasks).trace d (c.callbacks a .usb)
        = [] ++ (c.usbCallback a, { read.reply with output := .usbData read.payload.toList })
          :: [] := by
      rw [Command.callbacks, Transducer.trace_cons, Transducer.trace_nil, h_step]
      rfl
    refine carries_of_deliversRead h_dir h_len h_trace (h_del.withOutput _)
      (List.forall_mem_nil _) fun _ => ?_
    rw [Command.usbCallback, if_pos h_dir]
    change List.take _ (read.payload.toList ++ []) = _
    rw [List.append_nil]
    rfl

/-- The fields that the device finds in an upload, with the payload of a write behind them. -/
theorem xscopeUpload_fields (h_len : c.payload.length ≤ xscopeUploadMaxWords) :
    let buf : XscopeBuffer := a.xscopeUpload.copy 0 (c.xscopeBytes a)
    buf.resid = c.resid ∧ buf.cmd = c.cmd ∧ buf.payloadLen.toNat = c.payload.length ∧
      (isControlCmdRead c.cmd = false → buf.data.front c.payload.length = c.payload) := by
  intro buf
  have h_fits : (c.xscopeBytes a).length ≤ xscopeUploadMaxBytes := by
    rw [Command.xscopeBytes, sent, Buffer.length_front]
    exact min_le_right _ _
  exact XscopeBuffer.fields_of_sent h_len (fun _ => rfl) (Buffer.front_copy_zero _ h_fits)

/-- **xSCOPE carries every command.** -/
theorem carries_xscope (h_search : resourceTableSearch d.table c.resid = some ifnum)
    (h_ne : c.resid ≠ controlSpecialResid) (h_len : c.payload.length ≤ xscopeUploadMaxWords) :
    ∃ call, Carries tasks .xscope a c d ifnum call := by
  obtain ⟨h_resid, h_cmd, h_plen, h_data⟩ := xscopeUpload_fields (a := a) h_len
  set buf : XscopeBuffer := a.xscopeUpload.copy 0 (c.xscopeBytes a)
  have h_max : c.payload.length ≤ xscopeDataMaxBytes := h_len.trans (by decide)
  have h_found : resourceTableSearch d.table buf.resid = some ifnum := by rw [h_resid, h_search]
  have h_step : (controlSystem tasks).step d (c.xscopeCallback a)
      = controlProcessXscopeUpload tasks buf xscopeUploadMaxBytes (c.xscopeBytes a).length d := rfl
  cases h_dir : isControlCmdRead c.cmd with
  | false =>
    set write := writeCommand tasks d ifnum c.resid c.cmd buf.data c.payload.length with h_eq
    have h_del : DeliversWrite tasks d ifnum c.resid c.cmd c.payload write.1 write.2 :=
      deliversWrite_writeCommand h_ne rfl rfl rfl (h_data h_dir)
    have h_trace : (controlSystem tasks).trace d (c.callbacks a .xscope)
        = [] ++ (c.xscopeCallback a,
            { write.2 with
              output := .xscopeData (buf.setRet write.2.ret).toList sizeofXscopeHeader })
          :: [] := by
      rw [Command.callbacks, Transducer.trace_cons, Transducer.trace_nil, h_step,
        xscopeUpload_write _ _ h_found (by rw [h_cmd, h_dir]), h_resid, h_cmd, h_plen]
      rfl
    exact carries_of_deliversWrite h_dir h_trace (h_del.withOutput _) (List.forall_mem_nil _)
  | true =>
    set read := readCommand tasks d ifnum c.resid c.cmd buf.data c.payload.length with h_eq
    have h_del : DeliversRead tasks d ifnum c.resid c.cmd c.payload.length buf.data read.payload
        read.device read.reply :=
      deliversRead_readCommand h_ne rfl
    set out := (buf.setData read.payload).setRet read.reply.ret
    set lengthOut := if read.reply.ret = controlSuccess
      then sizeofXscopeHeader + c.payload.length else sizeofXscopeHeader with h_out
    have h_trace : (controlSystem tasks).trace d (c.callbacks a .xscope)
        = [] ++ (c.xscopeCallback a,
            { read.reply with output := .xscopeData out.toList lengthOut }) :: [] := by
      rw [Command.callbacks, Transducer.trace_cons, Transducer.trace_nil, h_step,
        xscopeUpload_read _ _ h_found (by rw [h_cmd, h_dir]), h_resid, h_cmd, h_plen]
      rfl
    refine carries_of_deliversRead h_dir h_max h_trace (h_del.withOutput _)
      (List.forall_mem_nil _) fun h_ret => ?_
    -- the response carries data only where the user task answered with success
    have h_length : lengthOut = sizeofXscopeHeader + c.payload.length := if_pos h_ret
    change List.take _ ((_ : List UInt8) ++ []) = _
    rw [List.append_nil, Command.xscopeCallback]
    change List.take _ (List.drop _ (List.take lengthOut _)) = _
    rw [h_length, XscopeBuffer.data_of_response _ _ _ h_max]
    exact List.take_of_length_le (by simp)

end Request

/-! ### All transports -/

/-- Neither of the machines that keep state is in the middle of a command. -/
structure Device.Idle (d : Device σ) : Prop where
  i2c : d.i2c.state = .idle
  spi : d.spi.state = .idle

/-- The user tasks fill the array of a read of `n` bytes, and do not look at what it holds. -/
def UserTasks.FillReads (tasks : UserTasks σ) (n : ℕ) : Prop :=
  ∀ (s : σ) (ifnum r c : UInt8) (array array' : List UInt8),
    tasks.readCommand s ifnum r c array n = tasks.readCommand s ifnum r c array' n ∧
      (tasks.readCommand s ifnum r c array n).2.1.length = n

/-- **Every transport carries every command** that is not too long for it. -/
theorem carries {answers : List (List ControlResid)} {d : Device σ}
    (h_reach : Reachable tasks answers d) (h_idle : d.Idle) (t : Transport) (a : HostArrays)
    {c : Command} {ifnum : UInt8} (h_search : resourceTableSearch d.table c.resid = some ifnum)
    (h_ne : c.resid ≠ controlSpecialResid) (h_len : c.payload.length ≤ t.limit)
    (h_some : isControlCmdRead c.cmd = true → c.payload ≠ []) :
    ∃ call, Carries tasks t a c d ifnum call := by
  cases t with
  | i2c =>
    cases h_dir : isControlCmdRead c.cmd with
    | false => exact carries_i2c_write tasks h_search h_ne h_len h_dir
    | true => exact carries_i2c_read tasks h_search h_ne h_len h_dir (h_some h_dir)
  | spi =>
    have h_zero := h_reach.spi_zero_of_idle h_idle.spi
    cases h_dir : isControlCmdRead c.cmd with
    | false => exact carries_spi_write tasks h_zero h_search h_ne h_len h_dir
    | true => exact carries_spi_read tasks h_zero h_search h_ne h_len h_dir
  | usb => exact carries_usb tasks h_search h_ne h_len
  | xscope => exact carries_xscope tasks h_search h_ne h_len

variable {tasks}

/-- Two transports that carry a command, to user tasks in the same state, do it by the same call,
up to what a user task makes of an array it does not fill. -/
theorem Carries.call_eq {t₁ t₂ : Transport} {a₁ a₂ : HostArrays} {c : Command} {d₁ d₂ : Device σ}
    {ifnum : UInt8} {call₁ call₂ : UserCall} (h₁ : Carries tasks t₁ a₁ c d₁ ifnum call₁)
    (h₂ : Carries tasks t₂ a₂ c d₂ ifnum call₂) (h_users : d₁.users = d₂.users)
    (h : isControlCmdRead c.cmd = false ∨ tasks.FillReads c.payload.length) : call₁ = call₂ := by
  have h_request : call₁.request = call₂.request := h₁.request.trans h₂.request.symm
  -- the requests agree by construction, so the answers are left
  suffices h_answer : call₁.ret = call₂.ret ∧ call₁.produced = call₂.produced by
    obtain ⟨request₁, ret₁, produced₁⟩ := call₁
    obtain ⟨request₂, ret₂, produced₂⟩ := call₂
    obtain ⟨rfl, rfl⟩ := h_answer
    dsimp only at h_request
    rw [h_request]
  cases h_dir : isControlCmdRead c.cmd with
  | false =>
    obtain ⟨h_ret₁, h_produced₁⟩ := h₁.write h_dir
    obtain ⟨h_ret₂, h_produced₂⟩ := h₂.write h_dir
    rw [h_ret₁, h_ret₂, h_produced₁, h_produced₂, Device.writeAnswer, Device.writeAnswer, h_users]
    exact ⟨rfl, rfl⟩
  | true =>
    have h_fill : tasks.FillReads c.payload.length := h.resolve_left (by rw [h_dir]; decide)
    obtain ⟨array₁, h_ret₁, h_produced₁⟩ := h₁.read h_dir
    obtain ⟨array₂, h_ret₂, h_produced₂⟩ := h₂.read h_dir
    -- the two arrays differ, but a task that fills its array does not see that
    have h_same := (h_fill d₂.users ifnum c.resid c.cmd array₁ array₂).1
    rw [h_users] at h_ret₁ h_produced₁
    rw [h_ret₁, h_ret₂, h_produced₁ (h_fill _ _ _ _ _ array₁).2,
      h_produced₂ (h_fill _ _ _ _ _ array₂).2, h_same]
    exact ⟨rfl, rfl⟩

/-- **Transport independence.** From two reachable states with idle machines, the same table and
the same state of the user tasks, a command for a user task that is not too long for either of two
transports is carried by both, with the same request. Both return what the user task returned, and
hand the host what it produced. The answers to a write agree, and those to a read do where the user
tasks fill the array of the read. -/
theorem transport_independent (t₁ t₂ : Transport) (a₁ a₂ : HostArrays)
    {answers₁ answers₂ : List (List ControlResid)} {d₁ d₂ : Device σ}
    (h_reach₁ : Reachable tasks answers₁ d₁) (h_reach₂ : Reachable tasks answers₂ d₂)
    (h_idle₁ : d₁.Idle) (h_idle₂ : d₂.Idle) (h_table : d₁.table = d₂.table)
    (h_users : d₁.users = d₂.users) (c : Command) {ifnum : UInt8}
    (h_search : resourceTableSearch d₁.table c.resid = some ifnum)
    (h_ne : c.resid ≠ controlSpecialResid) (h_len₁ : c.payload.length ≤ t₁.limit)
    (h_len₂ : c.payload.length ≤ t₂.limit)
    (h_some : isControlCmdRead c.cmd = true → c.payload ≠ []) :
    ∃ call₁ call₂, Carries tasks t₁ a₁ c d₁ ifnum call₁ ∧ Carries tasks t₂ a₂ c d₂ ifnum call₂ ∧
      call₁.request = call₂.request ∧
      (isControlCmdRead c.cmd = false ∨ tasks.FillReads c.payload.length → call₁ = call₂) := by
  obtain ⟨call₁, h₁⟩ := carries tasks h_reach₁ h_idle₁ t₁ a₁ h_search h_ne h_len₁ h_some
  rw [h_table] at h_search
  obtain ⟨call₂, h₂⟩ := carries tasks h_reach₂ h_idle₂ t₂ a₂ h_search h_ne h_len₂ h_some
  exact ⟨call₁, call₂, h₁, h₂, h₁.request.trans h₂.request.symm, h₁.call_eq h₂ h_users⟩

/-- A read of two bytes, over I2C and over SPI. -/
theorem transport_independent_run :
    let tasks : UserTasks Unit := .always controlSuccess [8, 9]
    let a : HostArrays := ⟨Buffer.ofList 0 [], Buffer.ofList 0 [], true, Buffer.ofList 0 [],
      Buffer.ofList 0 [], Buffer.ofList 0 []⟩
    let c : Command := ⟨3, 0x85, [0, 0]⟩
    ∃ call, Carries tasks .i2c a c (boot [[3]] ()) 0 call ∧
      Carries tasks .spi a c (boot [[3]] ()) 0 call := by
  intro tasks a c
  have h_reach : Reachable tasks [[3]] (boot [[3]] ()) := reachable_boot [[3]] ()
  have h_idle : (boot [[3]] ()).Idle := ⟨rfl, rfl⟩
  have h_search : resourceTableSearch (boot [[3]] ()).table c.resid = some 0 := by decide +kernel
  have h_fill : tasks.FillReads c.payload.length := fun _ _ _ _ _ _ => ⟨rfl, rfl⟩
  obtain ⟨call₁, call₂, h₁, h₂, -, h_eq⟩ := transport_independent .i2c .spi a a h_reach h_reach
    h_idle h_idle rfl rfl c h_search (by decide) (by decide) (by decide) fun _ => by decide
  obtain rfl := h_eq (Or.inr h_fill)
  exact ⟨call₁, h₁, h₂⟩

end DeviceControl
