import DeviceControl.Spi.Frame

/-!
# SPI writes are parsed exactly

In an SPI transaction that is not a read, a user task is called exactly if the bytes supplied are a
complete write frame, and then once, at the end of the transaction (`spi_write_exact`). The machine
is back in its initial state afterwards, whatever was supplied.

`run_received` gives the struct at the end of the transaction as a function of the bytes, so the
end itself is all that is left to look at: it dispatches a frame that is complete and gives up every
other one.
-/

namespace DeviceControl

variable {σ : Type} (tasks : UserTasks σ)

/-! ### The end of a write transaction -/

/-- The bytes are a complete write frame for a resource of the table, with the payload `ps`. -/
structure CompleteFrame (t : ResourceTable) (bs : List UInt8) (ifnum r c : UInt8)
    (ps : List UInt8) : Prop where
  bytes : ∃ n : UInt8, n.toNat = ps.length ∧ bs = r :: c :: n :: ps
  limit : ps.length ≤ spiDataMaxBytes
  registered : resourceTableSearch t r = some ifnum
  write : isControlCmdRead c = false

/-- The second byte is no read command code. -/
def NotRead (bs : List UInt8) : Prop := ∀ c, bs[1]? = some c → isControlCmdRead c = false

theorem NotRead.noReadPerformed {items : List SpiItem} (h : NotRead (suppliedBytes items)) :
    NoReadPerformed items := by
  rintro pre post rfl ⟨r, c, n, ps, h_bytes, hc⟩
  rw [h c (by rw [suppliedBytes_append, h_bytes]; rfl)] at hc
  cases hc

/-- A transaction that supplies a write command code performs no read. -/
theorem noReadPerformed_of_write {items : List SpiItem} {r c : UInt8} {bs : List UInt8}
    (h_bytes : suppliedBytes items = r :: c :: bs) (h_write : isControlCmdRead c = false) :
    NoReadPerformed items := by
  refine NotRead.noReadPerformed fun c' h_c => ?_
  rw [h_bytes] at h_c
  rw [← Option.some.inj h_c]
  exact h_write

theorem CompleteFrame.noReadPerformed {t : ResourceTable} {items : List SpiItem}
    {ifnum r c : UInt8} {ps : List UInt8} (h : CompleteFrame t (suppliedBytes items) ifnum r c ps) :
    NoReadPerformed items := by
  obtain ⟨n, -, h_bytes⟩ := h.bytes
  exact noReadPerformed_of_write h_bytes h.write

theorem Spi.received_write {t : ResourceTable} {r ifnum c : UInt8}
    (hr : resourceTableSearch t r = some ifnum) (hc : isControlCmdRead c = false) (n : UInt8)
    (ps : List UInt8) :
    Spi.received t (r :: c :: n :: ps)
      = Spi.filled { Spi.zero with resid := r, ifnum := ifnum, cmd := c } n ps := by
  rw [Spi.received, hr]
  dsimp only [Spi.addressed]
  rw [hc, if_neg Bool.false_ne_true]

/-- Only a write frame that is not too long gets the machine ready for a dispatch. -/
theorem Spi.received_writeData {t : ResourceTable} {bs : List UInt8}
    (hs : (Spi.received t bs).state = .writeData) :
    ∃ r c n ps ifnum, bs = r :: c :: n :: ps ∧ resourceTableSearch t r = some ifnum ∧
      isControlCmdRead c = false ∧ ps.length ≤ spiRoom n := by
  unfold Spi.received at hs
  split at hs
  · cases hs
  · next r bs =>
    split at hs
    · cases hs
    · next ifnum hr =>
      unfold Spi.addressed at hs
      split at hs
      · cases hs
      · dsimp only at hs
        split at hs <;> cases hs
      · next c n ps =>
        dsimp only at hs
        split at hs
        · cases hs
        · next hc =>
          refine ⟨r, c, n, ps, ifnum, rfl, hr, Bool.eq_false_iff.mpr hc, ?_⟩
          -- a frame that is too long has left the state
          by_contra h_over
          rw [Spi.filled_of_lt (Nat.lt_of_not_le h_over)] at hs
          cases hs

theorem step_ends_writeData {d : Device σ} (hs : d.spi.state = .writeData) :
    (spiSystem tasks).step d .masterEndsTransaction
      = if d.spi.payloadLenTransmitted < d.spi.payloadLenFromHeader then
          (d.withSpi Spi.zero, { ret := controlError })
        else ((spiWriteCommand tasks d).1.withSpi Spi.zero, (spiWriteCommand tasks d).2) := by
  change controlProcessSpiMasterEndsTransaction tasks d = _
  unfold controlProcessSpiMasterEndsTransaction
  rw [hs]
  rfl

/-- Serving a write leaves the SPI struct alone, and does not look at it. -/
theorem writeCommand_withSpi (d : Device σ) (s : Spi) (ifnum r c : UInt8) {n : ℕ}
    (payload : Buffer UInt8 n) (k : ℕ) :
    writeCommand tasks (d.withSpi s) ifnum r c payload k
      = ((writeCommand tasks d ifnum r c payload k).1.withSpi s,
          (writeCommand tasks d ifnum r c payload k).2) := by
  unfold writeCommand
  split <;> rfl

/-- **The dispatch.** The end of a transaction that has supplied a complete frame serves it. -/
theorem step_ends_complete {d : Device σ} {bs : List UInt8} {ifnum r c : UInt8} {ps : List UInt8}
    (h : CompleteFrame d.table bs ifnum r c ps) :
    (spiSystem tasks).step (d.withSpi (Spi.received d.table bs)) .masterEndsTransaction
      = ((writeCommand tasks d ifnum r c (Buffer.ofList 0 ps : Buffer UInt8 spiDataMaxBytes)
            ps.length).1.withSpi Spi.zero,
          (writeCommand tasks d ifnum r c (Buffer.ofList 0 ps : Buffer UInt8 spiDataMaxBytes)
            ps.length).2) := by
  obtain ⟨n, h_len, rfl⟩ := h.bytes
  have h_room : ps.length ≤ spiRoom n := le_min h_len.ge h.limit
  rw [Spi.received_write h.registered h.write, Spi.filled_of_le h_room,
    step_ends_writeData tasks rfl]
  refine (if_neg (Nat.not_lt.mpr h_len.le)).trans ?_
  change ((writeCommand tasks (d.withSpi _) ifnum r c _ ps.length).1.withSpi _,
    (writeCommand tasks (d.withSpi _) ifnum r c _ ps.length).2) = _
  rw [writeCommand_withSpi]
  rfl

/-- The end of any other transaction that performed no read calls nobody. A write frame that is cut
short is reported. -/
theorem step_ends_incomplete {d : Device σ} {bs : List UInt8}
    (h : ∀ ifnum r c ps, ¬ CompleteFrame d.table bs ifnum r c ps) :
    ∃ reply : Reply, (spiSystem tasks).step (d.withSpi (Spi.received d.table bs))
          .masterEndsTransaction = (d.withSpi Spi.zero, reply) ∧ reply.calls = [] ∧
      ((Spi.received d.table bs).state = .writeData → reply.ret = controlError) := by
  by_cases hs : (Spi.received d.table bs).state = .writeData
  · obtain ⟨r, c, n, ps, ifnum, rfl, hr, hc, h_room⟩ := Spi.received_writeData hs
    -- ready for a dispatch and not complete: the payload is short
    have h_short : ps.length < n.toNat := by
      refine Nat.lt_of_le_of_ne (h_room.trans (Nat.min_le_left _ _)) fun h_len => ?_
      exact h ifnum r c ps ⟨⟨n, h_len.symm, rfl⟩, h_room.trans (Nat.min_le_right _ _), hr, hc⟩
    rw [Spi.received_write hr hc, Spi.filled_of_le h_room] at hs ⊢
    refine ⟨{ ret := controlError }, ?_, rfl, fun _ => rfl⟩
    rw [step_ends_writeData tasks rfl]
    exact if_pos h_short
  · -- not ready for one
    refine ⟨_, step_ends_reset tasks hs (Spi.received_state d.table bs).1, rfl, ?_⟩
    exact fun h_eq => absurd h_eq hs

/-! ### The whole transaction -/

/-- A transaction is its body and its end. -/
theorem trace_spiTransaction {d : Device σ} (h_zero : d.spi = Spi.zero) {items : List SpiItem}
    (h : NoReadPerformed items) :
    (spiSystem tasks).trace d (spiTransaction items)
        = (spiSystem tasks).trace d (items.map SpiItem.callback)
          ++ [(.masterEndsTransaction, ((spiSystem tasks).step
            (d.withSpi (Spi.received d.table (suppliedBytes items))) .masterEndsTransaction).2)] ∧
      (spiSystem tasks).run d (spiTransaction items)
        = ((spiSystem tasks).step
            (d.withSpi (Spi.received d.table (suppliedBytes items))) .masterEndsTransaction).1 := by
  rw [spiTransaction, Transducer.trace_concat, Transducer.run_concat, run_received tasks h_zero h]
  exact ⟨rfl, rfl⟩

/-- A complete frame for a user task is delivered at the end of its transaction. -/
theorem spiTransaction_complete {d : Device σ} (h_zero : d.spi = Spi.zero) {items : List SpiItem}
    (h : NoReadPerformed items) {ifnum r c : UInt8} {ps : List UInt8}
    (h_frame : CompleteFrame d.table (suppliedBytes items) ifnum r c ps)
    (h_ne : r ≠ controlSpecialResid) :
    ∃ reply, (spiSystem tasks).trace d (spiTransaction items)
        = (spiSystem tasks).trace d (items.map SpiItem.callback)
          ++ [(.masterEndsTransaction, reply)] ∧
      DeliversWrite tasks d ifnum r c ps ((spiSystem tasks).run d (spiTransaction items))
        reply := by
  obtain ⟨h_trace, h_run⟩ := trace_spiTransaction tasks h_zero h
  have h_del : DeliversWrite tasks d ifnum r c ps
      (writeCommand tasks d ifnum r c (Buffer.ofList 0 ps : Buffer UInt8 spiDataMaxBytes) _).1
      (writeCommand tasks d ifnum r c (Buffer.ofList 0 ps : Buffer UInt8 spiDataMaxBytes) _).2 :=
    deliversWrite_writeCommand h_ne rfl rfl rfl (Buffer.front_ofList 0 h_frame.limit)
  rw [step_ends_complete tasks h_frame] at h_trace h_run
  rw [h_run]
  exact ⟨_, h_trace, h_del.calls, h_del.ret, h_del.table, h_del.lastStatus, h_del.users⟩

/-- A complete frame is the one thing that the user tasks are asked for in its transaction, and in
one that performed no read and has no complete frame they are asked for nothing. -/
theorem userRequests_complete {d : Device σ} (h_zero : d.spi = Spi.zero) {items : List SpiItem}
    {ifnum r c : UInt8} {ps : List UInt8}
    (h_frame : CompleteFrame d.table (suppliedBytes items) ifnum r c ps)
    (h_ne : r ≠ controlSpecialResid) :
    userRequests ((spiSystem tasks).trace d (spiTransaction items))
      = [writeRequest ifnum r c ps] := by
  have h_body := h_frame.noReadPerformed
  obtain ⟨reply, h_trace, h_del⟩ := spiTransaction_complete tasks h_zero h_body h_frame h_ne
  have h_quiet := quiet_received tasks h_zero h_body
  rw [h_trace, userRequests_concat fun p hp => (h_quiet p hp).1, h_del.calls]
  rfl

theorem userRequests_incomplete {d : Device σ} (h_zero : d.spi = Spi.zero) {items : List SpiItem}
    (h : NoReadPerformed items)
    (h_frame : ∀ ifnum r c ps, ¬ CompleteFrame d.table (suppliedBytes items) ifnum r c ps) :
    userRequests ((spiSystem tasks).trace d (spiTransaction items)) = [] := by
  obtain ⟨reply, h_step, h_calls, -⟩ := step_ends_incomplete tasks h_frame
  have h_quiet := quiet_received tasks h_zero h
  rw [(trace_spiTransaction tasks h_zero h).1,
    userRequests_concat fun p hp => (h_quiet p hp).1, h_step, h_calls]
  rfl

/-- The machine is in its initial state after a transaction that performed no read. -/
theorem spi_zero_of_transaction {d : Device σ} (h_zero : d.spi = Spi.zero) {items : List SpiItem}
    (h : NoReadPerformed items) :
    ((spiSystem tasks).run d (spiTransaction items)).spi = Spi.zero := by
  rw [(trace_spiTransaction tasks h_zero h).2]
  by_cases h_frame : ∃ ifnum r c ps, CompleteFrame d.table (suppliedBytes items) ifnum r c ps
  · obtain ⟨ifnum, r, c, ps, h_frame⟩ := h_frame
    rw [step_ends_complete tasks h_frame]
    rfl
  · push Not at h_frame
    obtain ⟨reply, h_step, -⟩ := step_ends_incomplete tasks h_frame
    rw [h_step]
    rfl

/-- What an exact parser of write transactions does with one. -/
structure SpiWriteExact (tasks : UserTasks σ) (d : Device σ) (items : List SpiItem) : Prop where
  /-- A user task is called for a write exactly for a complete frame of a resource of its own. -/
  dispatch_iff :
    (∃ p ∈ (spiSystem tasks).trace d (spiTransaction items), ∃ call ∈ p.2.calls,
        call.request.method = .write) ↔
      ∃ ifnum r c ps, CompleteFrame d.table (suppliedBytes items) ifnum r c ps ∧
        r ≠ controlSpecialResid
  /-- It is called once then, at the end, with what the frame says, and its answer is returned,
  recorded and kept. -/
  dispatch : ∀ ifnum r c ps, CompleteFrame d.table (suppliedBytes items) ifnum r c ps →
    r ≠ controlSpecialResid → ∃ body reply,
      (spiSystem tasks).trace d (spiTransaction items) = body ++ [(.masterEndsTransaction, reply)] ∧
      (∀ p ∈ body, p.2.calls = []) ∧
      DeliversWrite tasks d ifnum r c ps ((spiSystem tasks).run d (spiTransaction items)) reply
  /-- No user task is called for a read. -/
  no_read : ∀ p ∈ (spiSystem tasks).trace d (spiTransaction items), ∀ call ∈ p.2.calls,
    call.request.method ≠ .read
  /-- The master receives zeroes. -/
  zeroes : ∀ p ∈ (spiSystem tasks).trace d (spiTransaction items),
    p.1 = .masterRequiresData → p.2.output = .spiData 0
  /-- The machine is back in its initial state. -/
  final : ((spiSystem tasks).run d (spiTransaction items)).spi = Spi.zero
  /-- A frame for a user task that got as far as its length, and is not dispatched, is reported. -/
  reported : ∀ r bs, suppliedBytes items = r :: bs → (resourceTableSearch d.table r).isSome →
    r ≠ controlSpecialResid → 3 ≤ (suppliedBytes items).length →
    (∀ p ∈ (spiSystem tasks).trace d (spiTransaction items), p.2.calls = []) →
    ∃ p ∈ (spiSystem tasks).trace d (spiTransaction items), p.2.ret = controlError

/-- A frame that is not dispatched is reported, where it ends or where it overflows. -/
theorem exists_error_of_not_dispatched {d : Device σ} (h_zero : d.spi = Spi.zero)
    {items : List SpiItem} (h : NotRead (suppliedBytes items)) {r : UInt8} {bs : List UInt8}
    (h_bytes : suppliedBytes items = r :: bs) (hr : (resourceTableSearch d.table r).isSome)
    (h_ne : r ≠ controlSpecialResid) (h_len : 3 ≤ (suppliedBytes items).length)
    (h_calls : ∀ p ∈ (spiSystem tasks).trace d (spiTransaction items), p.2.calls = []) :
    ∃ p ∈ (spiSystem tasks).trace d (spiTransaction items), p.2.ret = controlError := by
  have h_body := h.noReadPerformed
  obtain ⟨h_trace, -⟩ := trace_spiTransaction tasks h_zero h_body
  obtain ⟨ifnum, hr'⟩ := Option.isSome_iff_exists.mp hr
  rw [h_bytes] at h_len
  match bs with
  | [] => simp at h_len
  | [c] => simp at h_len
  | c :: n :: ps =>
    have hc : isControlCmdRead c = false := h c (by rw [h_bytes]; rfl)
    -- too long is reported inside the transaction, too short at its end
    rcases Nat.lt_or_ge (spiRoom n) ps.length with h_long | h_room
    · obtain ⟨p, hp, h_ret⟩ := exists_error_of_long tasks h_zero h_body h_bytes hr hc h_long
      exact ⟨p, by rw [h_trace]; exact List.mem_append_left _ hp, h_ret⟩
    · -- not too long and not complete: the frame is too short
      have h_not : ∀ ifnum r c ps, ¬ CompleteFrame d.table (suppliedBytes items) ifnum r c ps := by
        intro ifnum' r' c' ps' h_frame
        have h_r : r' ≠ controlSpecialResid := by
          obtain ⟨n', -, h_eq⟩ := h_frame.bytes
          rw [h_bytes] at h_eq
          rwa [← (List.cons.inj h_eq).1]
        obtain ⟨reply, h_eq, h_del⟩ := spiTransaction_complete tasks h_zero h_body h_frame h_r
        have h_nil := h_calls (.masterEndsTransaction, reply) (by rw [h_eq]; simp)
        rw [h_del.calls] at h_nil
        cases h_nil
      obtain ⟨reply, h_step, -, h_ret⟩ := step_ends_incomplete tasks h_not
      rw [h_step] at h_trace
      refine ⟨(.masterEndsTransaction, reply), by rw [h_trace]; simp, h_ret ?_⟩
      rw [h_bytes, Spi.received_write hr' hc, Spi.filled_of_le h_room]

/-- The calls of a transaction are made at its end, for a complete frame. -/
theorem call_of_transaction {d : Device σ} (h_zero : d.spi = Spi.zero) {items : List SpiItem}
    (h : NoReadPerformed items) {p : SpiCallback × Reply}
    (hp : p ∈ (spiSystem tasks).trace d (spiTransaction items)) {call : UserCall}
    (h_call : call ∈ p.2.calls) :
    p.1 = .masterEndsTransaction ∧ call.request.method = .write ∧
      ∃ ifnum r c ps, CompleteFrame d.table (suppliedBytes items) ifnum r c ps ∧
        r ≠ controlSpecialResid := by
  rw [(trace_spiTransaction tasks h_zero h).1] at hp
  rcases List.mem_append.mp hp with h_mem | h_mem
  · -- the bytes call nobody
    rw [(quiet_received tasks h_zero h p h_mem).1] at h_call
    cases h_call
  · -- the end of the transaction
    obtain rfl := List.mem_singleton.mp h_mem
    by_cases h_frame : ∃ ifnum r c ps, CompleteFrame d.table (suppliedBytes items) ifnum r c ps
    · obtain ⟨ifnum, r, c, ps, h_frame⟩ := h_frame
      rw [step_ends_complete tasks h_frame] at h_call
      obtain ⟨⟨h_ne, -, -, -⟩, h_write⟩ := callFrom_writeCommand h_call
      exact ⟨rfl, h_write, ifnum, r, c, ps, h_frame, h_ne⟩
    · push Not at h_frame
      obtain ⟨reply, h_step, h_calls, -⟩ := step_ends_incomplete tasks h_frame
      rw [h_step] at h_call
      dsimp only at h_call
      rw [h_calls] at h_call
      cases h_call

/-- **SPI write parsing is exact**, from every reachable state in which SPI is idle, for every
transaction whose second byte, if there is one, is no read command code. -/
theorem spi_write_exact {answers : List (List ControlResid)} {d : Device σ}
    (h_reach : Reachable tasks answers d) (h_idle : d.spi.state = .idle) (items : List SpiItem)
    (h : NotRead (suppliedBytes items)) : SpiWriteExact tasks d items := by
  have h_zero := h_reach.spi_zero_of_idle h_idle
  have h_body := h.noReadPerformed
  have h_quiet := quiet_received tasks h_zero h_body
  constructor
  case dispatch_iff =>
    constructor
    · -- a call comes from a complete frame, and a complete frame makes one
      rintro ⟨p, hp, call, h_call, -⟩
      exact (call_of_transaction tasks h_zero h_body hp h_call).2.2
    · rintro ⟨ifnum, r, c, ps, h_frame, h_ne⟩
      obtain ⟨reply, h_trace, h_del⟩ := spiTransaction_complete tasks h_zero h_body h_frame h_ne
      refine ⟨(.masterEndsTransaction, reply), by rw [h_trace]; simp,
        ⟨writeRequest ifnum r c ps, (d.writeAnswer tasks ifnum r c ps).1, []⟩, ?_, rfl⟩
      rw [h_del.calls]
      exact List.mem_singleton_self _
  case dispatch =>
    intro ifnum r c ps h_frame h_ne
    obtain ⟨reply, h_trace, h_del⟩ := spiTransaction_complete tasks h_zero h_body h_frame h_ne
    exact ⟨_, reply, h_trace, fun p hp => (h_quiet p hp).1, h_del⟩
  case no_read =>
    intro p hp call h_call
    rw [(call_of_transaction tasks h_zero h_body hp h_call).2.1]
    exact nofun
  case zeroes =>
    intro p hp h_requires
    rw [(trace_spiTransaction tasks h_zero h_body).1] at hp
    -- a byte is required within the transaction, not by its end
    rcases List.mem_append.mp hp with h_mem | h_mem
    · exact (h_quiet p h_mem).2 h_requires
    · obtain rfl := List.mem_singleton.mp h_mem
      cases h_requires
  case final => exact spi_zero_of_transaction tasks h_zero h_body
  case reported =>
    intro r bs h_bytes hr h_ne h_len h_calls
    exact exists_error_of_not_dispatched tasks h_zero h h_bytes hr h_ne h_len h_calls

/-- A write of one byte, with bytes required before and between. -/
theorem spi_write_exact_run :
    let items : List SpiItem :=
      [.requires, .supplied 3, .supplied 5, .requires, .supplied 1, .supplied 42, .requires]
    suppliedBytes items = [3, 5, 1, 42] ∧
      SpiWriteExact (.always 7 []) (boot [[3]] ()) items := by
  intro items
  refine ⟨rfl, spi_write_exact (.always 7 []) (reachable_boot [[3]] ()) rfl items ?_⟩
  intro c hc
  obtain rfl : (5 : UInt8) = c := Option.some.inj hc
  decide

end DeviceControl
