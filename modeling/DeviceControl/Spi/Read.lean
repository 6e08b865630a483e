import DeviceControl.Spi.Frame

/-!
# SPI reads are faithful

A read over SPI takes two transactions: the first one supplies the header and performs the read at
the first byte required after it, the second one delivers the data. `spi_read_exact` follows both
from an idle machine, with the two full-duplex callbacks interleaved in any way.

The payload array starts out all zero, because an idle machine is in its initial state. So what the
second transaction delivers is a zeroed array as updated by the one read, and nothing of an earlier
command can show through.
-/

namespace DeviceControl

variable {σ : Type} (tasks : UserTasks σ)

/-! ### Performing the read -/

/-- The struct after the header of a read. -/
def Spi.readHeader (ifnum r c : UInt8) (n : ℕ) : Spi :=
  { Spi.zero with
    state := .readDataStart, resid := r, ifnum := ifnum, cmd := c, payloadLenFromHeader := n }

/-- The struct after a read that has left `payload`, once its first transaction has ended and `k`
bytes of the second one have been delivered. -/
def Spi.reading (ifnum r c : UInt8) (n : ℕ) (payload : Buffer UInt8 spiDataMaxBytes)
    (state : SpiState) (k : ℕ) : Spi :=
  { Spi.readHeader ifnum r c n with
    payload := payload, state := state, payloadLenTransmitted := k }

theorem Spi.received_read {t : ResourceTable} {r ifnum c : UInt8}
    (hr : resourceTableSearch t r = some ifnum) (hc : isControlCmdRead c = true) (n : UInt8)
    (zs : List UInt8) :
    Spi.received t (r :: c :: n :: zs) = Spi.readHeader ifnum r c n.toNat := by
  rw [Spi.received, hr]
  dsimp only [Spi.addressed]
  rw [if_pos hc]
  rfl

/-- The read of an idle machine: the array handed over is all zero. -/
def spiRead (d : Device σ) (ifnum r c : UInt8) (n : ℕ) : ReadResult σ spiDataMaxBytes :=
  readCommand tasks d ifnum r c (Buffer.ofList 0 []) n

/-- Serving a read does not look at the SPI struct. -/
theorem readCommand_withSpi (d : Device σ) (s : Spi) (ifnum r c : UInt8) {n : ℕ}
    (payload : Buffer UInt8 n) (k : ℕ) :
    readCommand tasks (d.withSpi s) ifnum r c payload k
      = { readCommand tasks d ifnum r c payload k with
          device := (readCommand tasks d ifnum r c payload k).device.withSpi s } := by
  unfold readCommand
  split <;> rfl

theorem step_requires_start {d : Device σ} (hs : d.spi.state = .readDataStart) :
    (spiSystem tasks).step d .masterRequiresData
      = ((spiReadCommand tasks d).device.withSpi
            { d.spi with payload := (spiReadCommand tasks d).payload, state := .readDataWait },
          { (spiReadCommand tasks d).reply with output := .spiData 0 }) := by
  have h_spi : (spiReadCommand tasks d).device.spi = d.spi := readCommand_spi ..
  change controlProcessSpiMasterRequiresData tasks d = _
  unfold controlProcessSpiMasterRequiresData
  rw [hs]
  dsimp only
  rw [h_spi]
  rfl

/-- The first byte required after the header performs the read. -/
theorem step_requires_read (d : Device σ) (ifnum r c : UInt8) (n : ℕ) :
    (spiSystem tasks).step (d.withSpi (Spi.readHeader ifnum r c n)) .masterRequiresData
      = ((spiRead tasks d ifnum r c n).device.withSpi
            (Spi.reading ifnum r c n (spiRead tasks d ifnum r c n).payload .readDataWait 0),
          { (spiRead tasks d ifnum r c n).reply with output := .spiData 0 }) := by
  have h_read : spiReadCommand tasks (d.withSpi (Spi.readHeader ifnum r c n))
      = { spiRead tasks d ifnum r c n with
          device := (spiRead tasks d ifnum r c n).device.withSpi (Spi.readHeader ifnum r c n) } :=
    readCommand_withSpi ..
  rw [step_requires_start tasks rfl, h_read]
  rfl

/-! ### The rest of the first transaction -/

/-- After the read the first transaction goes on, with zeroes, and nothing happens. -/
theorem trace_wait {d : Device σ} (hs : d.spi.state = .readDataWait) {items : List SpiItem}
    (h_zero : ∀ b ∈ suppliedBytes items, b = 0) :
    (spiSystem tasks).run d (items.map SpiItem.callback) = d ∧
      ∀ p ∈ (spiSystem tasks).trace d (items.map SpiItem.callback),
        p.2.Quiet ∧ (p.1 = .masterRequiresData → p.2.output = .spiData 0) := by
  induction items with
  | nil => exact ⟨rfl, List.forall_mem_nil _⟩
  | cons x items ih =>
    -- neither item does anything: a byte required in `SPI_READ_DATA_WAIT` is zero
    have h_step : ∃ reply : Reply, (spiSystem tasks).step d x.callback = (d, reply) ∧
        reply.Quiet ∧ (x.callback = .masterRequiresData → reply.output = .spiData 0) := by
      cases x with
      | supplied b =>
        obtain rfl : b = 0 := h_zero b List.mem_cons_self
        refine ⟨{ ret := controlSuccess }, ?_, ⟨rfl, rfl⟩, nofun⟩
        change controlProcessSpiMasterSuppliedData 0 8 d = _
        -- a zero does not abandon the read
        rw [controlProcessSpiMasterSuppliedData, if_neg (not_not.mpr rfl), spiReset,
          if_neg fun h => h.2 rfl, spiSuppliedData, hs]
      | requires =>
        exact ⟨_, step_requires_quiet tasks (by rw [hs]; decide) (by rw [hs]; decide), ⟨rfl, rfl⟩,
          fun _ => rfl⟩
    obtain ⟨reply, h_eq, h_reply⟩ := h_step
    have h_rest : ∀ b ∈ suppliedBytes items, b = 0 := by
      intro b hb
      refine h_zero b ?_
      cases x with
      | supplied b' => exact List.mem_cons_of_mem _ hb
      | requires => exact hb
    rw [List.map_cons, Transducer.run_cons, Transducer.trace_cons, h_eq]
    exact ⟨(ih h_rest).1, List.forall_mem_cons.mpr ⟨h_reply, (ih h_rest).2⟩⟩

/-- The end of the first transaction makes the data of the read available. -/
theorem step_ends_wait {d : Device σ} (hs : d.spi.state = .readDataWait) :
    (spiSystem tasks).step d .masterEndsTransaction
      = (d.withSpi { d.spi with state := .readData }, { ret := controlSuccess }) := by
  change controlProcessSpiMasterEndsTransaction tasks d = _
  unfold controlProcessSpiMasterEndsTransaction
  rw [hs]
  rfl

/-! ### The second transaction -/

/-- What the second transaction delivers for the `i`-th byte required. -/
def deliveredByte (payload : Buffer UInt8 spiDataMaxBytes) (n i : ℕ) : UInt8 :=
  if i < n then payload[i]?.getD 0 else 0

/-- A read of `n` bytes is available, and `i` bytes have been required since. The counter stops at
the length. -/
structure Spi.Delivers (s : Spi) (payload : Buffer UInt8 spiDataMaxBytes) (n i : ℕ) : Prop where
  state : s.state = .readData
  header : s.payloadLenFromHeader = n
  counter : s.payloadLenTransmitted = min i n
  payload : s.payload = payload

theorem step_requires_byte {d : Device σ} (hs : d.spi.state = .readData)
    (hk : d.spi.payloadLenTransmitted < d.spi.payloadLenFromHeader)
    (hk' : d.spi.payloadLenTransmitted < spiDataMaxBytes) :
    (spiSystem tasks).step d .masterRequiresData
      = (d.withSpi
            { d.spi with payloadLenTransmitted := incr d.spi.payloadLenTransmitted },
          { ret := controlSuccess
            output := .spiData (d.spi.payload[d.spi.payloadLenTransmitted]?.getD 0).toUInt32
            accesses := [d.spi.payloadLenTransmitted] }) := by
  change controlProcessSpiMasterRequiresData tasks d = _
  unfold controlProcessSpiMasterRequiresData
  rw [hs]
  dsimp only
  rw [dif_pos ⟨hk, hk'⟩, Vector.getElem?_eq_getElem hk', Option.getD_some, hs]
  rfl

theorem step_requires_end {d : Device σ} (hs : d.spi.state = .readData)
    (hk : d.spi.payloadLenFromHeader ≤ d.spi.payloadLenTransmitted) :
    (spiSystem tasks).step d .masterRequiresData
      = (d, { ret := controlSuccess, output := .spiData 0 }) := by
  change controlProcessSpiMasterRequiresData tasks d = _
  unfold controlProcessSpiMasterRequiresData
  rw [hs]
  exact dif_neg fun h => Nat.not_lt.mpr hk h.1

/-- A byte supplied while data is delivered is ignored, whatever it is. Only a wrong number of bits
is an error. -/
theorem step_supplied_ignored {d : Device σ} (hs : d.spi.state = .readData)
    (datum validBits : UInt32) :
    ∃ ret, (spiSystem tasks).step d (.masterSuppliedData datum validBits) = (d, { ret := ret }) ∧
      (validBits = 8 → ret = controlSuccess) := by
  change ∃ ret, controlProcessSpiMasterSuppliedData datum validBits d = _ ∧ _
  rw [controlProcessSpiMasterSuppliedData]
  split
  · next h_bits => exact ⟨_, rfl, fun h_eight => absurd h_eight h_bits⟩
  · refine ⟨controlSuccess, ?_, fun _ => rfl⟩
    -- only `SPI_READ_DATA_WAIT` looks at the byte before the state
    have h_ne : ¬ (d.spi.state = .readDataWait ∧ datum ≠ 0) := by
      rw [hs]
      exact fun h => absurd h.1 (by decide)
    rw [spiReset, if_neg h_ne, spiSuppliedData, hs]

section Deliver

variable {d : Device σ} {payload : Buffer UInt8 spiDataMaxBytes} {n i : ℕ}

/-- A byte required is the next one of the payload, or zero after the last one. -/
theorem Spi.Delivers.step (h : d.spi.Delivers payload n i) (h_le : n ≤ spiDataMaxBytes) :
    ∃ d' accesses, (spiSystem tasks).step d .masterRequiresData
        = (d', { ret := controlSuccess, output := .spiData (deliveredByte payload n i).toUInt32
                 accesses := accesses }) ∧
      d'.spi.Delivers payload n (i + 1) ∧ d'.users = d.users := by
  rcases Nat.lt_or_ge i n with h_lt | h_ge
  · have h_counter : d.spi.payloadLenTransmitted = i := by
      rw [h.counter, Nat.min_eq_left h_lt.le]
    have h_incr : incr i = i + 1 := incr_of_lt (succ_lt_wrap h_lt h_le)
    have h_header := h.header
    rw [step_requires_byte tasks h.state (by rw [h_counter, h_header]; exact h_lt)
      (by rw [h_counter]; exact h_lt.trans_le h_le), h_counter, h_incr, h.payload, deliveredByte,
      if_pos h_lt]
    exact ⟨_, _, rfl, ⟨h.state, h_header, (Nat.min_eq_left h_lt).symm, h.payload⟩, rfl⟩
  · -- after the last byte the counter stays
    have h_counter : d.spi.payloadLenTransmitted = n := by
      rw [h.counter, Nat.min_eq_right h_ge]
    rw [step_requires_end tasks h.state (by rw [h_counter, h.header]), deliveredByte,
      if_neg (Nat.not_lt.mpr h_ge)]
    refine ⟨d, [], rfl, ⟨h.state, h.header, ?_, h.payload⟩, rfl⟩
    rw [h_counter, Nat.min_eq_right (Nat.le_succ_of_le h_ge)]

/-- One callback of the second transaction, before it ends. -/
theorem Spi.Delivers.callback (h : d.spi.Delivers payload n i) (h_le : n ≤ spiDataMaxBytes)
    {cb : SpiCallback} (h_cb : cb ≠ .masterEndsTransaction) :
    ∃ d' reply, (spiSystem tasks).step d cb = (d', reply) ∧
      d'.spi.Delivers payload n (i + [cb].count .masterRequiresData) ∧ d'.users = d.users ∧
      reply.calls = [] ∧
      (cb = .masterRequiresData →
        reply.output = .spiData (deliveredByte payload n i).toUInt32) := by
  cases cb with
  | masterEndsTransaction => exact absurd rfl h_cb
  | masterRequiresData =>
    obtain ⟨d', accesses, h_step, h_next, h_users⟩ := h.step tasks h_le
    exact ⟨d', _, h_step, h_next, h_users, rfl, fun _ => rfl⟩
  | masterSuppliedData datum validBits =>
    obtain ⟨ret, h_step, -⟩ := step_supplied_ignored tasks h.state datum validBits
    exact ⟨d, _, h_step, h, rfl, rfl, nofun⟩

/-- **The data run.** Whatever is supplied in the second transaction, the bytes required get the
payload in order, and zeroes after its end. -/
theorem Spi.Delivers.run (h : d.spi.Delivers payload n i) (h_le : n ≤ spiDataMaxBytes)
    {second : List SpiCallback} (h_second : .masterEndsTransaction ∉ second) :
    ((spiSystem tasks).run d second).spi.Delivers payload n
        (i + second.count .masterRequiresData) ∧
      ((spiSystem tasks).run d second).users = d.users ∧
      ∀ (k : ℕ) (cb : SpiCallback) (reply : Reply),
        ((spiSystem tasks).trace d second)[k]? = some (cb, reply) → reply.calls = [] ∧
          (cb = .masterRequiresData → reply.output = .spiData (deliveredByte payload n
            (i + (second.take k).count .masterRequiresData)).toUInt32) := by
  -- on the callbacks to come, counting the bytes required so far
  induction second generalizing d i with
  | nil => exact ⟨h, rfl, nofun⟩
  | cons cb second ih =>
    rw [List.mem_cons, not_or] at h_second
    obtain ⟨d', reply, h_step, h_next, h_users, h_calls, h_output⟩ :=
      h.callback tasks h_le (Ne.symm h_second.1)
    obtain ⟨h_run, h_run_users, h_trace⟩ := ih h_next h_second.2
    have h_count (l : List SpiCallback) : (cb :: l).count .masterRequiresData
        = [cb].count .masterRequiresData + l.count .masterRequiresData := by
      rw [← List.singleton_append, List.count_append]
    rw [Transducer.run_cons, Transducer.trace_cons, h_step, h_count, ← Nat.add_assoc]
    refine ⟨h_run, h_run_users.trans h_users, ?_⟩
    rintro (_ | k) cb' reply' h_at
    · obtain ⟨rfl, rfl⟩ := Prod.mk.inj (Option.some.inj h_at)
      exact ⟨h_calls, h_output⟩
    · rw [List.take_succ_cons, h_count, ← Nat.add_assoc]
      exact h_trace k cb' reply' h_at

end Deliver

/-! ### Both transactions -/

/-- The reply to the callback that performs a read. -/
def spiReadReply (d : Device σ) (ifnum r c : UInt8) (n : ℕ) : Reply :=
  { (spiRead tasks d ifnum r c n).reply with output := .spiData 0 }

/-- The items `before` bring the header of a read, and no byte is required after it yet. -/
structure BringsHeader (t : ResourceTable) (before : List SpiItem) (ifnum r c n : UInt8) :
    Prop where
  bytes : ∃ zs, suppliedBytes before = r :: c :: n :: zs
  first : NoReadPerformed before
  registered : resourceTableSearch t r = some ifnum
  read : isControlCmdRead c = true

/-- The header of a read is taken into the struct. -/
theorem BringsHeader.run {d : Device σ} (h_zero : d.spi = Spi.zero) {before : List SpiItem}
    {ifnum r c n : UInt8} (h : BringsHeader d.table before ifnum r c n) :
    (spiSystem tasks).run d (before.map SpiItem.callback)
      = d.withSpi (Spi.readHeader ifnum r c n.toNat) := by
  obtain ⟨zs, h_bytes⟩ := h.bytes
  rw [run_received tasks h_zero h.first, h_bytes, Spi.received_read h.registered h.read]

/-- In the states between the resource and the performing of a read a byte always succeeds. -/
theorem ret_supplied_of_state {d : Device σ} (datum : UInt32)
    (h : d.spi.state = .resRecvd ∨ d.spi.state = .readCmdRecvd ∨ d.spi.state = .readDataStart) :
    (spiSuppliedData datum d).2.ret = controlSuccess := by
  unfold spiSuppliedData
  rcases h with h | h | h
  · rw [h]
  · rw [h]
  · rw [h]

/-- A byte of the header succeeds, and so does one behind it. -/
theorem ret_supplied_header {d : Device σ} {ifnum r c n b : UInt8} {bs rest zs : List UInt8}
    (hr : resourceTableSearch d.table r = some ifnum) (hc : isControlCmdRead c = true)
    (h : bs ++ b :: rest = r :: c :: n :: zs) :
    (spiSuppliedData b.toUInt32 (d.withSpi (Spi.received d.table bs))).2.ret = controlSuccess := by
  match bs with
  | [] =>
    -- the resource, which has to be in the table
    obtain rfl : b = r := (List.cons.inj h).1
    have h_idle : (Spi.received d.table []).state = .idle := rfl
    unfold spiSuppliedData Device.withSpi
    rw [h_idle, UInt8.toUInt8_toUInt32]
    dsimp only
    rw [hr]
  | [r'] =>
    obtain rfl : r' = r := (List.cons.inj h).1
    refine ret_supplied_of_state _ (Or.inl ?_)
    change (Spi.received d.table [r']).state = .resRecvd
    rw [Spi.received, hr]
    rfl
  | [r', c'] =>
    obtain ⟨rfl, h_tail⟩ := List.cons.inj h
    obtain rfl : c' = c := (List.cons.inj h_tail).1
    refine ret_supplied_of_state _ (Or.inr (Or.inl ?_))
    change (Spi.received d.table [r', c']).state = .readCmdRecvd
    rw [Spi.received, hr]
    dsimp only [Spi.addressed]
    rw [if_pos hc]
  | r' :: c' :: n' :: ps =>
    obtain ⟨rfl, h_tail⟩ := List.cons.inj h
    obtain rfl : c' = c := (List.cons.inj h_tail).1
    refine ret_supplied_of_state _ (Or.inr (Or.inr ?_))
    change (Spi.received d.table (r' :: c' :: n' :: ps)).state = .readDataStart
    rw [Spi.received_read hr hc]
    rfl

/-- What brings the header succeeds, calls nobody and hands out zeroes. -/
theorem BringsHeader.quiet {d : Device σ} (h_zero : d.spi = Spi.zero) {before : List SpiItem}
    {ifnum r c n : UInt8} (h : BringsHeader d.table before ifnum r c n) :
    ∀ p ∈ (spiSystem tasks).trace d (before.map SpiItem.callback),
      p.2.Quiet ∧ (p.1 = .masterRequiresData → p.2.output = .spiData 0) := by
  intro p hp
  obtain ⟨h_calls, h_output⟩ := quiet_received tasks h_zero h.first p hp
  refine ⟨⟨?_, h_calls⟩, h_output⟩
  -- the entry is a step from what was supplied before it
  obtain ⟨pre', post', h_map, h_reply⟩ := (spiSystem tasks).mem_trace.mp hp
  obtain ⟨pre, rest, rfl, rfl, h_rest⟩ := List.map_eq_append_iff.mp h_map
  obtain ⟨x, post, rfl, h_x, rfl⟩ := List.map_eq_cons_iff.mp h_rest
  rw [run_received tasks h_zero h.first.of_append, ← h_x] at h_reply
  obtain ⟨h_wait, h_data, h_start⟩ := Spi.received_state d.table (suppliedBytes pre)
  rw [h_reply]
  cases x with
  | requires =>
    have h_step : (spiSystem tasks).step (d.withSpi (Spi.received d.table (suppliedBytes pre)))
        SpiItem.requires.callback = _ :=
      step_requires_quiet tasks (fun hs => h.first pre post rfl (h_start hs)) h_data
    rw [h_step]
  | supplied b =>
    obtain ⟨zs, h_bytes⟩ := h.bytes
    rw [suppliedBytes_append, suppliedBytes_cons_supplied] at h_bytes
    rw [step_supplied tasks h_wait]
    exact ret_supplied_header h.registered h.read h_bytes

/-- A transaction, split at a byte that is required. -/
theorem spiTransaction_split (before after : List SpiItem) :
    spiTransaction (before ++ .requires :: after)
      = before.map SpiItem.callback
        ++ .masterRequiresData :: (after.map SpiItem.callback ++ [.masterEndsTransaction]) := by
  rw [spiTransaction, List.map_append, List.map_cons, List.append_assoc]
  rfl

/-- **The first transaction.** It performs the read at the first byte required after the header,
and answers everything else with zeroes. -/
theorem spiRead_first {d : Device σ} (h_zero : d.spi = Spi.zero) {before after : List SpiItem}
    {ifnum r c n : UInt8} (h : BringsHeader d.table before ifnum r c n)
    (h_after : ∀ b ∈ suppliedBytes after, b = 0) :
    ∃ A B, (spiSystem tasks).trace d (spiTransaction (before ++ .requires :: after))
        = A ++ (.masterRequiresData, spiReadReply tasks d ifnum r c n.toNat) :: B ∧
      A.length = before.length ∧
      (∀ p ∈ A ++ B, p.2.Quiet ∧ (p.1 = .masterRequiresData → p.2.output = .spiData 0)) ∧
      (spiSystem tasks).run d (spiTransaction (before ++ .requires :: after))
        = (spiRead tasks d ifnum r c n.toNat).device.withSpi (Spi.reading ifnum r c n.toNat
            (spiRead tasks d ifnum r c n.toNat).payload .readData 0) := by
  have h_before := h.run tasks h_zero
  obtain ⟨h_wait, h_quiet⟩ := trace_wait tasks
    (d := (spiRead tasks d ifnum r c n.toNat).device.withSpi (Spi.reading ifnum r c n.toNat
      (spiRead tasks d ifnum r c n.toNat).payload .readDataWait 0)) rfl h_after
  rw [spiTransaction_split, Transducer.trace_append, Transducer.run_append, h_before,
    Transducer.trace_cons, Transducer.run_cons, step_requires_read, Transducer.trace_concat,
    Transducer.run_concat, h_wait, step_ends_wait tasks rfl]
  refine ⟨_, _, rfl, by simp, ?_, rfl⟩
  refine List.forall_mem_append.mpr ⟨h.quiet tasks h_zero, ?_⟩
  exact List.forall_mem_append.mpr ⟨h_quiet, List.forall_mem_singleton.mpr ⟨⟨rfl, rfl⟩, nofun⟩⟩

/-- What a faithful read does over its two transactions, `before`, a byte required, `after` and the
end, and then `second` and the end. -/
structure SpiReadExact (tasks : UserTasks σ) (d : Device σ) (before after : List SpiItem)
    (second : List SpiCallback) (ifnum r c n : UInt8) : Prop where
  /-- The read is performed once, by the first byte required after the header. -/
  performed : ∃ A B,
    (spiSystem tasks).trace d (spiTransaction (before ++ .requires :: after)
        ++ (second ++ [.masterEndsTransaction]))
      = A ++ (.masterRequiresData, spiReadReply tasks d ifnum r c n.toNat) :: B ∧
    A.length = before.length ∧ ∀ p ∈ A ++ B, p.2.calls = []
  /-- A user task is asked in the state it has in `d`, for a zeroed array, and its answer is
  returned, left in the array and kept. -/
  answered : r ≠ controlSpecialResid → DeliversRead tasks d ifnum r c n.toNat (Buffer.ofList 0 [])
    (spiRead tasks d ifnum r c n.toNat).payload
    ((spiSystem tasks).run d (spiTransaction (before ++ .requires :: after)
      ++ (second ++ [.masterEndsTransaction])))
    (spiReadReply tasks d ifnum r c n.toNat)
  /-- The bytes required in the first transaction are zeroes. -/
  zeroes : ∀ p ∈ (spiSystem tasks).trace d (spiTransaction (before ++ .requires :: after)),
    p.1 = .masterRequiresData → p.2.output = .spiData 0
  /-- The bytes required in the second transaction are those that the read left in a zeroed
  array. -/
  data : ∀ (k : ℕ) (reply : Reply),
    ((spiSystem tasks).trace ((spiSystem tasks).run d
        (spiTransaction (before ++ .requires :: after))) second)[k]?
      = some (.masterRequiresData, reply) →
    reply.output = .spiData (deliveredByte (spiRead tasks d ifnum r c n.toNat).payload n.toNat
      ((second.take k).count .masterRequiresData)).toUInt32
  /-- The machine is back in its initial state, and the user tasks in the one the read left. -/
  final : ((spiSystem tasks).run d (spiTransaction (before ++ .requires :: after)
      ++ (second ++ [.masterEndsTransaction]))).spi = Spi.zero
  users : ((spiSystem tasks).run d (spiTransaction (before ++ .requires :: after)
      ++ (second ++ [.masterEndsTransaction]))).users
    = (spiRead tasks d ifnum r c n.toNat).device.users

/-- **SPI reads are faithful**, from every reachable state in which SPI is idle, for every resource
of the table, the special one included, and every length up to the limit. -/
theorem spi_read_exact {answers : List (List ControlResid)} {d : Device σ}
    (h_reach : Reachable tasks answers d) (h_idle : d.spi.state = .idle)
    (before after : List SpiItem) (second : List SpiCallback) (ifnum r c n : UInt8)
    (h : BringsHeader d.table before ifnum r c n) (h_n : n.toNat ≤ spiDataMaxBytes)
    (h_after : ∀ b ∈ suppliedBytes after, b = 0) (h_second : .masterEndsTransaction ∉ second) :
    SpiReadExact tasks d before after second ifnum r c n := by
  have h_zero := h_reach.spi_zero_of_idle h_idle
  obtain ⟨A, B, h_trace, h_len, h_quiet, h_run⟩ := spiRead_first tasks h_zero h h_after
  set d₁ := (spiSystem tasks).run d (spiTransaction (before ++ .requires :: after))
  -- the first transaction leaves the data of the read available
  have h_deliver : d₁.spi.Delivers (spiRead tasks d ifnum r c n.toNat).payload n.toNat 0 := by
    rw [h_run]
    exact ⟨rfl, rfl, (Nat.zero_min _).symm, rfl⟩
  obtain ⟨h_end, h_users, h_data⟩ := h_deliver.run tasks h_n h_second
  have h_reset : (spiSystem tasks).step ((spiSystem tasks).run d₁ second) .masterEndsTransaction
      = _ := step_ends_reset tasks (by rw [h_end.state]; decide) (by rw [h_end.state]; decide)
  have h_left : ((spiSystem tasks).run d (spiTransaction (before ++ .requires :: after)
        ++ (second ++ [.masterEndsTransaction]))).users
      = (spiRead tasks d ifnum r c n.toNat).device.users := by
    rw [Transducer.run_append, Transducer.run_concat, h_reset]
    exact h_users.trans (by rw [h_run]; rfl)
  constructor
  case performed =>
    rw [Transducer.trace_append, h_trace, Transducer.trace_concat, h_reset, List.append_assoc]
    refine ⟨A, B ++ _, rfl, h_len, ?_⟩
    rw [← List.append_assoc]
    refine List.forall_mem_append.mpr ⟨fun p hp => (h_quiet p hp).1.calls, ?_⟩
    refine List.forall_mem_append.mpr ⟨?_, List.forall_mem_singleton.mpr rfl⟩
    rintro ⟨cb, reply⟩ hp
    obtain ⟨k, h_at⟩ := List.mem_iff_getElem?.mp hp
    exact (h_data k cb reply h_at).1
  case answered =>
    intro h_ne
    have h_del : DeliversRead tasks d ifnum r c n.toNat
        (Buffer.ofList 0 [] : Buffer UInt8 spiDataMaxBytes) _ _ _ :=
      deliversRead_readCommand h_ne rfl
    exact ⟨h_del.calls, h_del.ret, h_del.payload, h_left.trans h_del.users⟩
  case zeroes =>
    intro p hp
    rw [h_trace, List.mem_append, List.mem_cons] at hp
    rcases hp with hp | rfl | hp
    · exact (h_quiet p (List.mem_append_left _ hp)).2
    · exact fun _ => rfl
    · exact (h_quiet p (List.mem_append_right _ hp)).2
  case data =>
    intro k reply h_at
    have h_output := (h_data k _ reply h_at).2 rfl
    rwa [Nat.zero_add] at h_output
  case final =>
    rw [Transducer.run_append, Transducer.run_concat, h_reset]
    rfl
  case users => exact h_left

/-- A read of two bytes whose second transaction requires three. -/
theorem spi_read_exact_run :
    SpiReadExact (.always controlSuccess [8, 9]) (boot [[3]] ())
      ([.supplied 3, .requires, .supplied 0x85] ++ [.supplied 2]) [.supplied 0, .requires]
      [.masterRequiresData, .masterSuppliedData 7 8, .masterRequiresData, .masterRequiresData]
      0 3 0x85 2 := by
  have h_header : BringsHeader (boot [[3]] ()).table
      ([.supplied 3, .requires, .supplied 0x85] ++ [.supplied 2]) 0 3 0x85 2 :=
    ⟨⟨[], rfl⟩, noReadPerformed_of_short (by decide) (by decide), by decide +kernel, by decide⟩
  exact spi_read_exact _ (reachable_boot [[3]] ()) rfl _ _ _ 0 3 0x85 2 h_header (by decide)
    (by simp) (by decide)

end DeviceControl
