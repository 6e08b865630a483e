import DeviceControl.Control.Calls

/-!
# SPI transactions

What one SPI transaction leaves in the struct, from an idle machine. Supplied and required bytes
interleave freely in a transaction, but up to the read of a user task only the supplied ones count:
`Spi.received` is the struct as a function of the bytes supplied so far, and `run_received` says
that the device is otherwise untouched.

The function covers every way a transaction can go: an unknown resource, a frame that is cut short,
complete, too long or over the limit, and the header of a read.
-/

namespace DeviceControl

variable {σ : Type} (tasks : UserTasks σ)

/-! ### Transactions -/

/-- What happens in a transaction before it ends: the master supplies a byte, or requires one. -/
inductive SpiItem where
  | supplied (b : UInt8)
  | requires
  deriving DecidableEq, Repr

def SpiItem.callback : SpiItem → SpiCallback
  | .supplied b => .masterSuppliedData b.toUInt32 8
  | .requires => .masterRequiresData

/-- The byte that an item supplies. -/
def SpiItem.byte? : SpiItem → Option UInt8
  | .supplied b => some b
  | .requires => none

/-- The bytes that a transaction supplies. -/
def suppliedBytes (items : List SpiItem) : List UInt8 := items.filterMap SpiItem.byte?

@[simp] theorem suppliedBytes_nil : suppliedBytes [] = [] := rfl

@[simp] theorem suppliedBytes_cons_supplied (b : UInt8) (items : List SpiItem) :
    suppliedBytes (.supplied b :: items) = b :: suppliedBytes items := rfl

@[simp] theorem suppliedBytes_cons_requires (items : List SpiItem) :
    suppliedBytes (.requires :: items) = suppliedBytes items := rfl

@[simp] theorem suppliedBytes_append (items items' : List SpiItem) :
    suppliedBytes (items ++ items') = suppliedBytes items ++ suppliedBytes items' :=
  List.filterMap_append

/-- Bytes as a full-duplex master transfers them: with each one it supplies it requires one, before
it or after it. -/
def exchange (requiresFirst : Bool) (bs : List UInt8) : List SpiItem :=
  bs.flatMap fun b => if requiresFirst then [.requires, .supplied b] else [.supplied b, .requires]

@[simp] theorem suppliedBytes_exchange (requiresFirst : Bool) (bs : List UInt8) :
    suppliedBytes (exchange requiresFirst bs) = bs := by
  induction bs with
  | nil => rfl
  | cons b bs ih =>
    rw [exchange, List.flatMap_cons, suppliedBytes_append, ← exchange, ih]
    cases requiresFirst <;> rfl

/-- The callbacks of a whole transaction. -/
def spiTransaction (items : List SpiItem) : List SpiCallback :=
  items.map SpiItem.callback ++ [.masterEndsTransaction]

/-! ### The struct after some bytes -/

/-- The payload bytes of a write that there is room for. -/
abbrev spiRoom (n : UInt8) : ℕ := min n.toNat spiDataMaxBytes

/-- The struct after the header of a write and the bytes `ps` that followed it. -/
def Spi.filled (s : Spi) (n : UInt8) (ps : List UInt8) : Spi :=
  { s with
    state := if ps.length ≤ spiRoom n then .writeData else .payloadError
    payloadLenFromHeader := n.toNat
    payloadLenTransmitted := ps.length % 2 ^ 32
    payload := Buffer.ofList 0 (ps.take (spiRoom n)) }

/-- The struct after a resource that is found and the bytes that followed it. -/
def Spi.addressed (ifnum r : UInt8) : List UInt8 → Spi
  | [] => { Spi.zero with resid := r, ifnum := ifnum, state := .resRecvd }
  | [c] =>
    { Spi.zero with
      resid := r
      ifnum := ifnum
      cmd := c
      state := if isControlCmdRead c then .readCmdRecvd else .writeCmdRecvd }
  | c :: n :: ps =>
    let s : Spi := { Spi.zero with resid := r, ifnum := ifnum, cmd := c }
    if isControlCmdRead c then { s with state := .readDataStart, payloadLenFromHeader := n.toNat }
    else s.filled n ps

/-- The struct after a transaction has supplied some bytes to an idle machine. -/
def Spi.received (t : ResourceTable) : List UInt8 → Spi
  | [] => Spi.zero
  | r :: bs =>
    match resourceTableSearch t r with
    -- an unknown resource: everything up to the end is ignored
    | none => { Spi.zero with state := .error }
    | some ifnum => Spi.addressed ifnum r bs

/-- The bytes are the header of a read, with its length. -/
def IsReadHeader (bs : List UInt8) : Prop :=
  ∃ r c n ps, bs = r :: c :: n :: ps ∧ isControlCmdRead c = true

theorem Spi.filled_state (s : Spi) (n : UInt8) (ps : List UInt8) :
    (s.filled n ps).state = .writeData ∨ (s.filled n ps).state = .payloadError := by
  change (if ps.length ≤ spiRoom n then SpiState.writeData else .payloadError) = _ ∨ _
  split
  · exact Or.inl rfl
  · next h => exact Or.inr (if_neg h)

/-- A machine that has only been supplied bytes has performed no read, and is about to perform one
only after the header of a read. -/
theorem Spi.received_state (t : ResourceTable) (bs : List UInt8) :
    (Spi.received t bs).state ≠ .readDataWait ∧ (Spi.received t bs).state ≠ .readData ∧
      ((Spi.received t bs).state = .readDataStart → IsReadHeader bs) := by
  unfold Spi.received
  split
  · exact ⟨nofun, nofun, nofun⟩
  · next r bs =>
    split
    · exact ⟨nofun, nofun, nofun⟩
    · next ifnum _ =>
      unfold Spi.addressed
      split
      · exact ⟨nofun, nofun, nofun⟩
      · dsimp only
        split <;> exact ⟨nofun, nofun, nofun⟩
      · next c n ps =>
        dsimp only
        split
        · next hc => exact ⟨nofun, nofun, fun _ => ⟨r, c, n, ps, rfl, hc⟩⟩
        · rcases Spi.filled_state { Spi.zero with resid := r, ifnum := ifnum, cmd := c } n ps
            with h | h
          · rw [h]; exact ⟨nofun, nofun, nofun⟩
          · rw [h]; exact ⟨nofun, nofun, nofun⟩

/-! ### A supplied byte -/

/-- The device with another SPI struct. -/
def Device.withSpi (d : Device σ) (s : Spi) : Device σ := { d with spi := s }

/-- A byte supplied to a machine that has performed no read. -/
theorem step_supplied {d : Device σ} (hs : d.spi.state ≠ .readDataWait) (b : UInt8) :
    (spiSystem tasks).step d (SpiItem.supplied b).callback = spiSuppliedData b.toUInt32 d := by
  change controlProcessSpiMasterSuppliedData b.toUInt32 8 d = _
  rw [controlProcessSpiMasterSuppliedData, if_neg (not_not.mpr rfl), spiReset,
    if_neg fun h => hs h.1]

section Filled

variable {s : Spi} {n : UInt8} {ps : List UInt8}

theorem Spi.filled_of_le (h : ps.length ≤ spiRoom n) :
    s.filled n ps = { s with
      state := .writeData
      payloadLenFromHeader := n.toNat
      payloadLenTransmitted := ps.length
      payload := Buffer.ofList 0 ps } := by
  have h_small : ps.length < 2 ^ 32 :=
    Nat.lt_of_le_of_lt (h.trans (Nat.min_le_right _ _)) (by decide)
  rw [Spi.filled, if_pos h, Nat.mod_eq_of_lt h_small, List.take_of_length_le h]

theorem Spi.filled_of_lt (h : spiRoom n < ps.length) :
    s.filled n ps = { s with
      state := .payloadError
      payloadLenFromHeader := n.toNat
      payloadLenTransmitted := ps.length % 2 ^ 32
      payload := Buffer.ofList 0 (ps.take (spiRoom n)) } := by
  rw [Spi.filled, if_neg (Nat.not_le.mpr h)]

/-- A payload byte that there is room for is stored. -/
theorem supplied_filled_room (d : Device σ) (h : ps.length < spiRoom n) (b : UInt8) :
    spiSuppliedData b.toUInt32 (d.withSpi (s.filled n ps))
      = (d.withSpi (s.filled n (ps ++ [b])),
        { ret := controlSuccess, accesses := [ps.length] }) := by
  have h_len : (ps ++ [b]).length = ps.length + 1 := by simp
  have h_small : ps.length + 1 < 2 ^ 32 := succ_lt_wrap h (Nat.min_le_right _ _)
  rw [Spi.filled_of_le h.le, Spi.filled_of_le (by rw [h_len]; exact h), h_len]
  dsimp only [spiSuppliedData, Device.withSpi]
  rw [if_pos ⟨h.trans_le (Nat.min_le_left _ _), h.trans_le (Nat.min_le_right _ _)⟩,
    incr_of_lt h_small, UInt8.toUInt8_toUInt32, Buffer.store_ofList]

/-- The first payload byte that there is no room for makes the frame fail. -/
theorem supplied_filled_full (d : Device σ) (h : ps.length = spiRoom n) (b : UInt8) :
    spiSuppliedData b.toUInt32 (d.withSpi (s.filled n ps))
      = (d.withSpi (s.filled n (ps ++ [b])), { ret := controlError }) := by
  have h_len : (ps ++ [b]).length = ps.length + 1 := by simp
  have h_take : (ps ++ [b]).take (spiRoom n) = ps := by
    rw [← h, List.take_left' rfl]
  rw [Spi.filled_of_le h.le, Spi.filled_of_lt (by rw [h_len]; omega), h_take, h_len]
  dsimp only [spiSuppliedData, Device.withSpi]
  have h_full : ¬ (ps.length < n.toNat ∧ ps.length < spiDataMaxBytes) := by
    rw [h, ← lt_min_iff]
    exact lt_irrefl _
  rw [if_neg h_full, incr]

/-- The payload bytes after that are counted and dropped. -/
theorem supplied_filled_over (d : Device σ) (h : spiRoom n < ps.length) (b : UInt8) :
    spiSuppliedData b.toUInt32 (d.withSpi (s.filled n ps))
      = (d.withSpi (s.filled n (ps ++ [b])), { ret := controlSuccess }) := by
  have h_len : (ps ++ [b]).length = ps.length + 1 := by simp
  have h_take : (ps ++ [b]).take (spiRoom n) = ps.take (spiRoom n) :=
    List.take_append_of_le_length h.le
  rw [Spi.filled_of_lt h, Spi.filled_of_lt (by rw [h_len]; omega), h_take, h_len]
  dsimp only [spiSuppliedData, Device.withSpi]
  rw [incr, Nat.mod_add_mod]

end Filled

/-- The next byte is the first one of a write frame that there is no room for. -/
def FirstExcess (t : ResourceTable) (bs : List UInt8) : Prop :=
  ∃ r c n ps, bs = r :: c :: n :: ps ∧ (resourceTableSearch t r).isSome ∧
    isControlCmdRead c = false ∧ ps.length = spiRoom n

/-- A byte that follows a resource of the table. -/
private theorem supplied_addressed (d : Device σ) (ifnum r : UInt8) (bs : List UInt8) (b : UInt8) :
    ∃ reply : Reply,
      spiSuppliedData b.toUInt32 (d.withSpi (Spi.addressed ifnum r bs))
          = (d.withSpi (Spi.addressed ifnum r (bs ++ [b])), reply) ∧ reply.calls = [] ∧
        ∀ c n ps, bs = c :: n :: ps → isControlCmdRead c = false → ps.length = spiRoom n →
          reply.ret = controlError := by
  match bs with
  | [] =>
    refine ⟨{ ret := controlSuccess }, ?_, rfl, nofun⟩
    dsimp only [spiSuppliedData, Device.withSpi, Spi.addressed, List.nil_append]
    rw [isControlCmdRead32_eq, UInt8.toUInt8_toUInt32]
  | [c] =>
    refine ⟨{ ret := controlSuccess }, ?_, rfl, nofun⟩
    dsimp only [Spi.addressed, List.singleton_append]
    -- the length: the payload array is not touched
    by_cases hc : isControlCmdRead c = true
    · rw [if_pos hc, if_pos hc]
      dsimp only [spiSuppliedData, Device.withSpi]
      rw [UInt8.toNat_toUInt32]
    · rw [if_neg hc, if_neg hc, Spi.filled_of_le (Nat.zero_le _)]
      dsimp only [spiSuppliedData, Device.withSpi]
      rw [UInt8.toNat_toUInt32]
      rfl
  | c :: n :: ps =>
    dsimp only [Spi.addressed, List.cons_append]
    by_cases hc : isControlCmdRead c = true
    · rw [if_pos hc, if_pos hc]
      refine ⟨{ ret := controlSuccess }, rfl, rfl, ?_⟩
      rintro c' n' ps' h_eq h_write -
      obtain ⟨rfl, -⟩ := List.cons.inj h_eq
      rw [hc] at h_write
      cases h_write
    · rw [if_neg hc, if_neg hc]
      -- a payload byte: there is room, there just is none left, or there has been none
      rcases lt_trichotomy ps.length (spiRoom n) with h | h | h
      · refine ⟨_, supplied_filled_room d h b, rfl, ?_⟩
        rintro c' n' ps' h_eq - h_full
        obtain ⟨rfl, rfl, rfl⟩ := by simpa using h_eq
        exact absurd h_full h.ne
      · exact ⟨_, supplied_filled_full d h b, rfl, fun _ _ _ _ _ _ => rfl⟩
      · refine ⟨_, supplied_filled_over d h b, rfl, ?_⟩
        rintro c' n' ps' h_eq - h_full
        obtain ⟨rfl, rfl, rfl⟩ := by simpa using h_eq
        exact absurd h_full h.ne'

/-- **The supplied byte.** The struct is what was received, with one byte more. -/
theorem supplied_received (d : Device σ) (bs : List UInt8) (b : UInt8) :
    ∃ reply : Reply,
      spiSuppliedData b.toUInt32 (d.withSpi (Spi.received d.table bs))
          = (d.withSpi (Spi.received d.table (bs ++ [b])), reply) ∧ reply.calls = [] ∧
        (FirstExcess d.table bs → reply.ret = controlError) := by
  match bs with
  | [] =>
    -- the first byte is a resource
    dsimp only [spiSuppliedData, Device.withSpi, Spi.received, List.nil_append, Spi.zero]
    rw [UInt8.toUInt8_toUInt32]
    cases resourceTableSearch d.table b with
    | none => exact ⟨_, rfl, rfl, nofun⟩
    | some ifnum => exact ⟨_, rfl, rfl, nofun⟩
  | r :: bs =>
    cases hr : resourceTableSearch d.table r with
    | none =>
      -- an unknown resource: all bytes behind it are ignored
      have h_none (bs : List UInt8) : Spi.received d.table (r :: bs)
          = { Spi.zero with state := .error } := by rw [Spi.received, hr]
      rw [List.cons_append, h_none, h_none]
      refine ⟨{ ret := controlSuccess }, rfl, rfl, ?_⟩
      rintro ⟨r', c, n, ps, h_eq, h_some, -⟩
      obtain ⟨rfl, -⟩ := List.cons.inj h_eq
      rw [hr] at h_some
      cases h_some
    | some ifnum =>
      -- a known resource: the lemma about an addressed struct
      have h_some (bs : List UInt8) : Spi.received d.table (r :: bs)
          = Spi.addressed ifnum r bs := by rw [Spi.received, hr]
      obtain ⟨reply, h_step, h_calls, h_ret⟩ := supplied_addressed d ifnum r bs b
      rw [List.cons_append, h_some, h_some]
      refine ⟨reply, h_step, h_calls, ?_⟩
      rintro ⟨r', c, n, ps, h_eq, -, h_write, h_full⟩
      exact h_ret c n ps (List.cons.inj h_eq).2 h_write h_full

/-! ### The body of a transaction -/

/-- A byte required from a machine that is in no state to deliver one. -/
theorem step_requires_quiet {d : Device σ} (hs : d.spi.state ≠ .readDataStart)
    (hs' : d.spi.state ≠ .readData) :
    (spiSystem tasks).step d .masterRequiresData
      = (d, { ret := controlSuccess, output := .spiData 0 }) := by
  change controlProcessSpiMasterRequiresData tasks d = _
  unfold controlProcessSpiMasterRequiresData
  split
  · next h => exact absurd h hs
  · next h => exact absurd h hs'
  · rfl

/-- The end of a transaction resets a machine that has nothing to dispatch and no read waiting. -/
theorem step_ends_reset {d : Device σ} (hs : d.spi.state ≠ .writeData)
    (hs' : d.spi.state ≠ .readDataWait) :
    (spiSystem tasks).step d .masterEndsTransaction
      = (d.withSpi Spi.zero, { ret := controlSuccess }) := by
  change controlProcessSpiMasterEndsTransaction tasks d = _
  unfold controlProcessSpiMasterEndsTransaction
  split
  · next h => exact absurd h hs
  · next h => exact absurd h hs'
  · rfl

/-- What an item of a transaction answers as long as no read is performed. -/
structure BodyReply (t : ResourceTable) (bs : List UInt8) (x : SpiItem) (reply : Reply) : Prop where
  calls : reply.calls = []
  requires : x = .requires → reply.output = .spiData 0
  excess : x ≠ .requires → FirstExcess t bs → reply.ret = controlError

/-- **The body step.** An item leaves the device alone but for the byte it supplies, unless it
requires a byte after the header of a read. -/
theorem step_received (d : Device σ) (bs : List UInt8) (x : SpiItem)
    (h : x = .requires → ¬ IsReadHeader bs) :
    ∃ reply, (spiSystem tasks).step (d.withSpi (Spi.received d.table bs)) x.callback
        = (d.withSpi (Spi.received d.table (bs ++ x.byte?.toList)), reply) ∧
      BodyReply d.table bs x reply := by
  obtain ⟨h_wait, h_data, h_start⟩ := Spi.received_state d.table bs
  cases x with
  | supplied b =>
    obtain ⟨reply, h_step, h_calls, h_ret⟩ := supplied_received d bs b
    refine ⟨reply, ?_, h_calls, nofun, fun _ => h_ret⟩
    rw [step_supplied tasks h_wait]
    exact h_step
  | requires =>
    refine ⟨{ ret := controlSuccess, output := .spiData 0 }, ?_, rfl, fun _ => rfl,
      fun h_ne => absurd rfl h_ne⟩
    have h_quiet : (spiSystem tasks).step (d.withSpi (Spi.received d.table bs))
        .masterRequiresData = _ :=
      step_requires_quiet tasks (fun hs => h rfl (h_start hs)) h_data
    rw [SpiItem.callback, h_quiet, SpiItem.byte?, Option.toList_none, List.append_nil]

/-- No byte is required after the header of a read. -/
def NoReadPerformed (items : List SpiItem) : Prop :=
  ∀ pre post, items = pre ++ .requires :: post → ¬ IsReadHeader (suppliedBytes pre)

theorem NoReadPerformed.of_append {items items' : List SpiItem}
    (h : NoReadPerformed (items ++ items')) : NoReadPerformed items := by
  rintro pre post rfl
  exact h pre (post ++ items') (by rw [List.append_assoc, List.cons_append])

/-- Up to the length of a header bytes may be required freely, and after it none. -/
theorem noReadPerformed_of_short {head tail : List SpiItem}
    (h_head : (suppliedBytes head).length ≤ 2) (h_tail : .requires ∉ tail) :
    NoReadPerformed (head ++ tail) := by
  rintro pre post h_eq ⟨r, c, n, ps, h_bytes, -⟩
  rcases List.append_eq_append_iff.mp h_eq with ⟨mid, rfl, h_mid⟩ | ⟨mid, rfl, h_mid⟩
  · -- the byte is required in the tail
    exact h_tail (by rw [h_mid]; simp)
  · rw [suppliedBytes_append, h_bytes] at h_head
    simp at h_head

/-- A read header with a byte behind it is transferred up to the first byte required after it, and
on from there. -/
theorem exchange_header (requiresFirst : Bool) (r c n z : UInt8) (zs : List UInt8) :
    ∃ before after,
      exchange requiresFirst (r :: c :: n :: z :: zs) = before ++ .requires :: after ∧
        suppliedBytes before = [r, c, n] ∧ NoReadPerformed before ∧
        suppliedBytes after = z :: zs := by
  cases requiresFirst with
  | true =>
    refine ⟨[.requires, .supplied r, .requires, .supplied c, .requires] ++ [.supplied n],
      .supplied z :: exchange true zs, rfl, rfl, ?_, by simp⟩
    exact noReadPerformed_of_short (by simp) (by simp)
  | false =>
    refine ⟨[.supplied r, .requires, .supplied c, .requires] ++ [.supplied n],
      .supplied z :: .requires :: exchange false zs, rfl, rfl, ?_, by simp⟩
    exact noReadPerformed_of_short (by simp) (by simp)

/-- **The body run.** A transaction that performs no read leaves what it has supplied in the
struct, and nothing else. -/
theorem run_received {d : Device σ} (h_zero : d.spi = Spi.zero) {items : List SpiItem}
    (h : NoReadPerformed items) :
    (spiSystem tasks).run d (items.map SpiItem.callback)
      = d.withSpi (Spi.received d.table (suppliedBytes items)) := by
  -- on the end of the body, as `received` is about what came before
  induction items using List.reverseRecOn with
  | nil =>
    rw [List.map_nil, Transducer.run_nil, suppliedBytes_nil, Spi.received, Device.withSpi, ← h_zero]
  | append_singleton items x ih =>
    obtain ⟨reply, h_step, -⟩ := step_received tasks d (suppliedBytes items) x
      (by rintro rfl; exact h items [] rfl)
    calc (spiSystem tasks).run d ((items ++ [x]).map SpiItem.callback)
        = ((spiSystem tasks).step ((spiSystem tasks).run d (items.map SpiItem.callback))
            x.callback).1 := by
          rw [List.map_append, List.map_singleton, Transducer.run_concat]
      _ = d.withSpi (Spi.received d.table (suppliedBytes items ++ x.byte?.toList)) := by
          rw [ih h.of_append, h_step]
      _ = d.withSpi (Spi.received d.table (suppliedBytes (items ++ [x]))) := by
          rw [suppliedBytes_append]
          cases x with
          | supplied b => rfl
          | requires => rfl

/-- A body calls nobody, and the master receives zeroes. -/
theorem quiet_received {d : Device σ} (h_zero : d.spi = Spi.zero) {items : List SpiItem}
    (h : NoReadPerformed items) :
    ∀ p ∈ (spiSystem tasks).trace d (items.map SpiItem.callback),
      p.2.calls = [] ∧ (p.1 = .masterRequiresData → p.2.output = .spiData 0) := by
  intro p hp
  -- the entry is a step from what was supplied before it
  obtain ⟨pre', post', h_map, h_reply⟩ := (spiSystem tasks).mem_trace.mp hp
  obtain ⟨pre, rest, rfl, rfl, h_rest⟩ := List.map_eq_append_iff.mp h_map
  obtain ⟨x, post, rfl, h_x, rfl⟩ := List.map_eq_cons_iff.mp h_rest
  rw [run_received tasks h_zero h.of_append, ← h_x] at h_reply
  obtain ⟨reply, h_step, h_body⟩ := step_received tasks d (suppliedBytes pre) x
    (by rintro rfl; exact h pre post rfl)
  rw [h_step] at h_reply
  rw [h_reply]
  refine ⟨h_body.calls, fun h_requires => h_body.requires ?_⟩
  rw [h_requires] at h_x
  cases x with
  | supplied b => cases h_x
  | requires => rfl

/-- Every item of a body has its entry. -/
theorem exists_entry_received {d : Device σ} (h_zero : d.spi = Spi.zero) {pre post : List SpiItem}
    {x : SpiItem} (h : NoReadPerformed (pre ++ x :: post)) :
    ∃ reply, (x.callback, reply) ∈
        (spiSystem tasks).trace d ((pre ++ x :: post).map SpiItem.callback) ∧
      BodyReply d.table (suppliedBytes pre) x reply := by
  obtain ⟨reply, h_step, h_body⟩ := step_received tasks d (suppliedBytes pre) x
    (by rintro rfl; exact h pre post rfl)
  refine ⟨reply, (spiSystem tasks).mem_trace.mpr
    ⟨pre.map SpiItem.callback, post.map SpiItem.callback, by simp, ?_⟩, h_body⟩
  rw [run_received tasks h_zero h.of_append, h_step]

/-- A byte that a transaction supplies is supplied by one of its items. -/
theorem exists_item_of_bytes {items : List SpiItem} {l l' : List UInt8} {b : UInt8}
    (h : suppliedBytes items = l ++ b :: l') :
    ∃ pre post, items = pre ++ .supplied b :: post ∧ suppliedBytes pre = l := by
  obtain ⟨before, rest, rfl, rfl, h_rest⟩ := List.filterMap_eq_append_iff.mp h
  obtain ⟨quiet, x, post, rfl, h_quiet, h_x, -⟩ := List.filterMap_eq_cons_iff.mp h_rest
  have h_item : x = .supplied b := by
    cases x with
    | supplied b' => exact congrArg _ (Option.some.inj h_x)
    | requires => cases h_x
  refine ⟨before ++ quiet, post, by rw [h_item, List.append_assoc], ?_⟩
  have h_none : suppliedBytes quiet = [] := List.filterMap_eq_nil_iff.mpr h_quiet
  rw [suppliedBytes_append, h_none, List.append_nil]
  rfl

/-- A write frame that is too long is reported at the first byte there is no room for. -/
theorem exists_error_of_long {d : Device σ} (h_zero : d.spi = Spi.zero) {items : List SpiItem}
    (h : NoReadPerformed items) {r c n : UInt8} {ps : List UInt8}
    (h_bytes : suppliedBytes items = r :: c :: n :: ps)
    (hr : (resourceTableSearch d.table r).isSome) (hc : isControlCmdRead c = false)
    (h_long : spiRoom n < ps.length) :
    ∃ p ∈ (spiSystem tasks).trace d (items.map SpiItem.callback), p.2.ret = controlError := by
  -- the byte at position `spiRoom n` of the payload
  have h_split : suppliedBytes items
      = (r :: c :: n :: ps.take (spiRoom n)) ++ ps[spiRoom n] :: ps.drop (spiRoom n + 1) := by
    rw [h_bytes, List.cons_append, List.cons_append, List.cons_append, ← List.drop_eq_getElem_cons,
      List.take_append_drop]
  obtain ⟨pre, post, rfl, h_pre⟩ := exists_item_of_bytes h_split
  obtain ⟨reply, h_mem, h_body⟩ := exists_entry_received tasks h_zero h
  refine ⟨_, h_mem, h_body.excess nofun ?_⟩
  rw [h_pre]
  exact ⟨r, c, n, _, rfl, hr, hc, List.length_take_of_le h_long.le⟩

end DeviceControl
