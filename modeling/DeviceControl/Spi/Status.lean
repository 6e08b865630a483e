import DeviceControl.Host.Support
import DeviceControl.Spi.Read
import DeviceControl.Spi.Write

/-!
# The status query over SPI

After a write the host reads the status of the last command, and returns it as the result of the
write. Over SPI a status is recorded only where a frame is dispatched. A write transaction that
fails before that, because its resource is unknown, or its payload too short, too long or over the
limit, leaves the status of an earlier command in place, and the query reports that.

`spi_status_query_iff` is the exact condition for the query not to report a success that did not
happen: the frame is complete and its resource is in the table, or the status recorded before the
write was not success.
-/

namespace DeviceControl

variable {σ : Type} (tasks : UserTasks σ)

/-! ### The query -/

/-- The status query as the host runs it: `before`, a byte required, `after` and the end make up the
transaction of its header, with at least one byte required after the length, and `second` is the
transaction in which the status is read. -/
structure SpiStatusQuery (before after : List SpiItem) (second : List SpiCallback) : Prop where
  bytes : ∃ data p, suppliedBytes (before ++ .requires :: after)
    = sent (controlBuildSpiData data controlSpecialResid controlGetLastCommandStatus (some p)
        sizeofControlStatus)
  header : 3 ≤ (suppliedBytes before).length
  first : NoReadPerformed before
  second_open : .masterEndsTransaction ∉ second
  second_reads : .masterRequiresData ∈ second

/-- The query, run from `d`, reads the byte `s`: the first one required in its second
transaction. -/
def SpiStatusRead (d : Device σ) (before after : List SpiItem) (second : List SpiCallback)
    (s : ControlStatus) : Prop :=
  ∃ (k : ℕ) (reply : Reply),
    ((spiSystem tasks).trace ((spiSystem tasks).run d
        (spiTransaction (before ++ .requires :: after))) second)[k]?
      = some (.masterRequiresData, reply) ∧
    (second.take k).count .masterRequiresData = 0 ∧ reply.output = .spiData s.toUInt32

/-- The bytes of the query: the header of a read of the status, and zeroes. -/
theorem SpiStatusQuery.bringsHeader {before after : List SpiItem} {second : List SpiCallback}
    (h : SpiStatusQuery before after second) {t : ResourceTable} (h_table : t.Reserves) :
    BringsHeader t before ifnumReserved controlSpecialResid controlGetLastCommandStatus 1 ∧
      ∀ b ∈ suppliedBytes after, b = 0 := by
  obtain ⟨data, p, h_bytes⟩ := h.bytes
  rw [sent_buildSpi_read data (by decide) _ (by decide), suppliedBytes_append,
    suppliedBytes_cons_requires] at h_bytes
  have h_search := resourceTableSearch_special h_table
  have h_len := h.header
  -- the header is within `before`, so what follows there and in `after` are the zeroes
  match h_before : suppliedBytes before with
  | [] => simp [h_before] at h_len
  | [_] => simp [h_before] at h_len
  | [_, _] => simp [h_before] at h_len
  | r :: c :: n :: zs =>
    rw [h_before] at h_bytes
    obtain ⟨rfl, rfl, rfl, h_zeroes⟩ := by simpa using h_bytes
    refine ⟨⟨⟨zs, h_before⟩, h.first, h_search, by decide⟩, fun b hb => ?_⟩
    have h_mem : b ∈ zs ++ suppliedBytes after := List.mem_append_right _ hb
    rw [h_zeroes] at h_mem
    simpa using h_mem

/-- **The query reads the recorded status.** -/
theorem spiStatusRead_iff {answers : List (List ControlResid)} {d : Device σ}
    (h_reach : Reachable tasks answers d) (h_idle : d.spi.state = .idle)
    {before after : List SpiItem} {second : List SpiCallback}
    (h : SpiStatusQuery before after second) (s : ControlStatus) :
    SpiStatusRead tasks d before after second s ↔ s = d.lastStatus := by
  obtain ⟨h_header, h_after⟩ := h.bringsHeader h_reach.reserves
  have h_exact := spi_read_exact tasks h_reach h_idle before after second _ _ _ _ h_header
    (by decide) h_after h.second_open
  -- the one byte of the read is the recorded status
  have h_byte : deliveredByte (spiRead tasks d ifnumReserved controlSpecialResid
      controlGetLastCommandStatus (1 : UInt8).toNat).payload (1 : UInt8).toNat 0
      = d.lastStatus := by
    change deliveredByte ((Buffer.ofList 0 []).store 0 d.lastStatus) 1 0 = _
    rw [deliveredByte, if_pos Nat.one_pos, Buffer.getElem?_store_self _ _ (by decide),
      Option.getD_some]
  constructor
  · rintro ⟨k, reply, h_at, h_count, h_output⟩
    rw [h_exact.data k reply h_at, h_count, h_byte, Output.spiData.injEq] at h_output
    rw [← UInt8.toUInt8_toUInt32 s, ← h_output, UInt8.toUInt8_toUInt32]
  · rintro rfl
    -- the first byte required in the second transaction
    obtain ⟨pre, post, rfl, h_not⟩ := List.eq_append_cons_of_mem h.second_reads
    have h_get : (pre ++ SpiCallback.masterRequiresData :: post)[pre.length]?
        = some .masterRequiresData := by simp
    have h_count : ((pre ++ SpiCallback.masterRequiresData :: post).take pre.length).count
        .masterRequiresData = 0 := by
      rw [List.take_left' rfl]
      exact List.count_eq_zero.mpr h_not
    have h_at := (spiSystem tasks).getElem?_trace_eq_some (s := (spiSystem tasks).run d
      (spiTransaction (before ++ .requires :: after))) |>.mpr ⟨h_get, rfl⟩
    have h_output := h_exact.data pre.length _ h_at
    rw [h_count, h_byte] at h_output
    exact ⟨pre.length, _, h_at, h_count, h_output⟩

/-! ### A write and the query after it -/

/-- A user task was called for a write in the transaction, and answered with success. -/
def WriteSucceeded (d : Device σ) (items : List SpiItem) : Prop :=
  ∃ p ∈ (spiSystem tasks).trace d (spiTransaction items), ∃ call ∈ p.2.calls,
    call.request.method = .write ∧ call.ret = controlSuccess

/-- A complete frame is recorded with the answer of its user task, or as a bad command if its
resource is the special one. -/
theorem lastStatus_of_complete {d : Device σ} (h_zero : d.spi = Spi.zero) {items : List SpiItem}
    (h : NoReadPerformed items) {ifnum r c : UInt8} {ps : List UInt8}
    (h_frame : CompleteFrame d.table (suppliedBytes items) ifnum r c ps)
    (h_status : ((spiSystem tasks).run d (spiTransaction items)).lastStatus = controlSuccess) :
    WriteSucceeded tasks d items := by
  obtain ⟨h_trace, h_run⟩ := trace_spiTransaction tasks h_zero h
  rw [step_ends_complete tasks h_frame] at h_run
  by_cases h_ne : r = controlSpecialResid
  · -- a write to the special resource is recorded as a bad command
    subst h_ne
    rw [h_run] at h_status
    cases h_status
  · obtain ⟨reply, h_trace, h_del⟩ := spiTransaction_complete tasks h_zero h h_frame h_ne
    rw [h_del.lastStatus] at h_status
    refine ⟨(.masterEndsTransaction, reply), by rw [h_trace]; simp,
      ⟨writeRequest ifnum r c ps, (d.writeAnswer tasks ifnum r c ps).1, []⟩, ?_, rfl, h_status⟩
    rw [h_del.calls]
    exact List.mem_singleton_self _

/-- Every other write transaction leaves the recorded status alone. -/
theorem lastStatus_of_incomplete {d : Device σ} (h_zero : d.spi = Spi.zero) {items : List SpiItem}
    (h : NoReadPerformed items)
    (h_frame : ∀ ifnum r c ps, ¬ CompleteFrame d.table (suppliedBytes items) ifnum r c ps) :
    ((spiSystem tasks).run d (spiTransaction items)).lastStatus = d.lastStatus := by
  obtain ⟨reply, h_step, -⟩ := step_ends_incomplete tasks h_frame
  rw [(trace_spiTransaction tasks h_zero h).2, h_step]
  rfl

/-- **The status query over SPI.** From every reachable state in which SPI is idle, after every
write transaction, the query reports success only for a write that succeeded, exactly if the frame
is complete with a resource of the table, or the recorded status was not success to begin with. -/
theorem spi_status_query_iff {answers : List (List ControlResid)} {d : Device σ}
    (h_reach : Reachable tasks answers d) (h_idle : d.spi.state = .idle) (items : List SpiItem)
    (h : NotRead (suppliedBytes items)) {before after : List SpiItem} {second : List SpiCallback}
    (h_query : SpiStatusQuery before after second) :
    (SpiStatusRead tasks ((spiSystem tasks).run d (spiTransaction items)) before after second
        controlSuccess → WriteSucceeded tasks d items) ↔
      (∃ ifnum r c ps, CompleteFrame d.table (suppliedBytes items) ifnum r c ps) ∨
        d.lastStatus ≠ controlSuccess := by
  have h_zero := h_reach.spi_zero_of_idle h_idle
  have h_body := h.noReadPerformed
  have h_idle' : ((spiSystem tasks).run d (spiTransaction items)).spi.state = .idle := by
    rw [spi_zero_of_transaction tasks h_zero h_body]
    rfl
  rw [spiStatusRead_iff tasks (h_reach.run_spi _) h_idle' h_query]
  by_cases h_frame : ∃ ifnum r c ps, CompleteFrame d.table (suppliedBytes items) ifnum r c ps
  · -- a complete frame: the recorded status is the answer of the user task
    refine iff_of_true (fun h_status => ?_) (Or.inl h_frame)
    obtain ⟨ifnum, r, c, ps, h_frame⟩ := h_frame
    exact lastStatus_of_complete tasks h_zero h_body h_frame h_status.symm
  · rw [or_iff_right h_frame]
    push Not at h_frame
    rw [lastStatus_of_incomplete tasks h_zero h_body h_frame]
    -- any other frame: nobody is called, and the status is the one from before
    have h_no : ¬ WriteSucceeded tasks d items := by
      rintro ⟨p, hp, call, h_call, -⟩
      obtain ⟨-, -, ifnum, r, c, ps, h_complete, -⟩ :=
        call_of_transaction tasks h_zero h_body hp h_call
      exact h_frame ifnum r c ps h_complete
    exact ⟨fun h_imp h_eq => h_no (h_imp h_eq.symm), fun h_ne h_eq => absurd h_eq.symm h_ne⟩

/-- The query as a full-duplex master transfers it, with `k` bytes in its second transaction. -/
theorem spiStatusQuery_exchange {k : ℕ} (h_k : k ≠ 0) :
    SpiStatusQuery (exchange false [0, 0x81] ++ [.supplied 1]) (exchange false [0, 0, 0, 0, 0])
      ((exchange false (List.replicate k 0)).map SpiItem.callback) where
  bytes := by
    refine ⟨Buffer.ofList 0 [], [], ?_⟩
    rw [sent_buildSpi_read _ (by decide) _ (by decide)]
    rfl
  header := by decide
  first := noReadPerformed_of_short (by simp) (by simp)
  second_open := by
    simp only [List.mem_map, not_exists, not_and]
    intro x _
    cases x <;> exact nofun
  second_reads := by
    obtain ⟨k, rfl⟩ := Nat.exists_eq_succ_of_ne_zero h_k
    exact List.mem_cons_of_mem _ List.mem_cons_self

/-- A write to a task that answers with success, and the query after it. -/
theorem spi_status_query_iff_run :
    let tasks : UserTasks Unit := .always controlSuccess []
    SpiStatusRead tasks
        ((spiSystem tasks).run (boot [[3]] ()) (spiTransaction (exchange false [3, 5, 1, 42])))
        (exchange false [0, 0x81] ++ [.supplied 1]) (exchange false [0, 0, 0, 0, 0])
        ((exchange false (List.replicate 8 0)).map SpiItem.callback) controlSuccess →
      WriteSucceeded tasks (boot [[3]] ()) (exchange false [3, 5, 1, 42]) := by
  intro tasks
  have h_write : NotRead (suppliedBytes (exchange false [3, 5, 1, 42])) := by
    intro c hc
    obtain rfl : (5 : UInt8) = c := Option.some.inj hc
    decide
  have h_frame : CompleteFrame (boot [[3]] ()).table (suppliedBytes (exchange false [3, 5, 1, 42]))
      0 3 5 [42] :=
    ⟨⟨1, rfl, rfl⟩, by decide, by decide +kernel, by decide⟩
  exact (spi_status_query_iff tasks (reachable_boot [[3]] ()) rfl _ h_write
    (spiStatusQuery_exchange (by decide))).mpr (Or.inl ⟨_, _, _, _, h_frame⟩)

/-- A write to a resource that is not registered is reported as a success. -/
theorem spi_status_query_stale :
    let tasks : UserTasks Unit := .always controlError []
    let items := exchange false [9, 5, 1, 42]
    let before : List SpiItem := exchange false [0, 0x81] ++ [.supplied 1]
    let after : List SpiItem := exchange false [0, 0, 0, 0, 0]
    let second := (exchange false (List.replicate 8 0)).map SpiItem.callback
    (boot [[3]] ()).spi.state = .idle ∧ NotRead (suppliedBytes items) ∧
      SpiStatusQuery before after second ∧
      SpiStatusRead tasks ((spiSystem tasks).run (boot [[3]] ()) (spiTransaction items)) before
        after second controlSuccess ∧
      ¬ WriteSucceeded tasks (boot [[3]] ()) items := by
  intro tasks items before after second
  have h_write : NotRead (suppliedBytes items) := by
    intro c hc
    obtain rfl : (5 : UInt8) = c := Option.some.inj hc
    decide
  have h_reach : Reachable tasks [[3]] (boot [[3]] ()) := reachable_boot [[3]] ()
  have h_query : SpiStatusQuery before after second := spiStatusQuery_exchange (by decide)
  refine ⟨rfl, h_write, h_query, ?_, ?_⟩
  · refine (spiStatusRead_iff tasks (h_reach.run_spi _) ?_ h_query _).mpr ?_
    · decide +kernel
    · decide +kernel
  · rintro ⟨p, hp, call, h_call, -⟩
    obtain ⟨-, -, ifnum, r, c, ps, h_frame, -⟩ :=
      call_of_transaction tasks rfl h_write.noReadPerformed hp h_call
    obtain ⟨n, -, h_bytes⟩ := h_frame.bytes
    obtain ⟨rfl, -⟩ := List.cons.inj h_bytes
    have h_none : resourceTableSearch (boot [[3]] ()).table 9 = none := by decide +kernel
    exact absurd (h_none.symm.trans h_frame.registered) nofun

end DeviceControl
