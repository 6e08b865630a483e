import DeviceControl.I2c.Frame

/-!
# I2C frames, backwards

What the state of the I2C machine says about the callbacks so far. `I2cHistory` is a clause for
each state: in `I2C_WRITE_DATA`, for example, the callbacks end with a header and the payload bytes
that the struct counts. `I2cHistory.step` carries it through a callback, and `run_i2cHistory` to
the end of every run.

The struct itself supplies the resource and the command code of the header, so no clause has to
guess them; what the struct forgets, such as the reads that were refused since the header, is
quantified in the clause.

A header that declares length 0 is the one from which the machine does not stop counting. Its
counter then runs on and wraps, so the payload clause speaks of it modulo `2 ^ 32`.
-/

namespace DeviceControl

variable {σ : Type} {tasks : UserTasks σ}

/-! ### The clauses -/

/-- In `I2C_WRITE_SIZE` the callbacks end with a header and the reads of it that were refused. -/
structure SizeHistory (h : List (I2cCallback × Reply)) (i : I2c) (n : UInt8)
    (before refused : List (I2cCallback × Reply)) : Prop where
  split : h = before ++ refused
  header : headerCallbacks i.resid i.cmd n <:+ before.map Prod.fst
  length : i.payloadLenFromHeader = n.toNat
  limit : n.toNat ≤ i2cDataMaxBytes
  /-- A write is given up by a read start. -/
  write : isControlCmdRead i.cmd = false → refused = []
  read : i.resid ≠ controlSpecialResid → ∀ p ∈ refused, RefusedRead p

/-- In `I2C_WRITE_DATA` the callbacks end with the header of a write and payload bytes, and the
payload array starts with them as long as they fit. -/
structure DataHistory (h : List (I2cCallback × Reply)) (i : I2c) (n : UInt8) (ps : List UInt8) :
    Prop where
  frame : writeFrame i.resid i.cmd n ps <:+ h.map Prod.fst
  write : isControlCmdRead i.cmd = false
  length : i.payloadLenFromHeader = n.toNat
  limit : n.toNat ≤ i2cDataMaxBytes
  counter : i.payloadLenTransmitted = ps.length % 2 ^ 32
  le : n ≠ 0 → ps.length ≤ n.toNat
  payload : ps.length ≤ i2cDataMaxBytes → i.payload.front ps.length = ps

/-- What the state of the machine says about the callbacks so far. -/
def I2cHistory (t : ResourceTable) (h : List (I2cCallback × Reply)) (i : I2c) : Prop :=
  match i.state with
  | .writeStart => [.writeStart] <:+ h.map Prod.fst
  | .writeResid =>
    resourceTableSearch t i.resid = some i.ifnum ∧
      [.writeStart, .writeData i.resid] <:+ h.map Prod.fst
  | .writeCmd =>
    resourceTableSearch t i.resid = some i.ifnum ∧
      [.writeStart, .writeData i.resid, .writeData i.cmd] <:+ h.map Prod.fst
  | .writeSize =>
    resourceTableSearch t i.resid = some i.ifnum ∧
      ∃ n before refused, SizeHistory h i n before refused
  | .writeData =>
    resourceTableSearch t i.resid = some i.ifnum ∧ ∃ n ps, DataHistory h i n ps
  | _ => True

/-! ### One callback -/

/-- What the callbacks end with grows by the callback. -/
theorem suffix_concat {l : List I2cCallback} {h : List (I2cCallback × Reply)}
    (hl : l <:+ h.map Prod.fst) (p : I2cCallback × Reply) :
    l ++ [p.1] <:+ (h ++ [p]).map Prod.fst := by
  obtain ⟨pre, h_pre⟩ := hl
  exact ⟨pre, by rw [List.map_append, ← h_pre, List.append_assoc]; rfl⟩

/-- A header has arrived. -/
theorem SizeHistory.start {h : List (I2cCallback × Reply)} {i : I2c} {n : UInt8}
    (h_suffix : headerCallbacks i.resid i.cmd n <:+ h.map Prod.fst)
    (h_length : i.payloadLenFromHeader = n.toNat) (h_limit : n.toNat ≤ i2cDataMaxBytes) :
    SizeHistory h i n h [] :=
  ⟨(List.append_nil h).symm, h_suffix, h_length, h_limit, fun _ => rfl, by simp⟩

/-- The header of a write command has been the last thing to arrive. -/
theorem SizeHistory.frame {h : List (I2cCallback × Reply)} {i : I2c} {n : UInt8}
    {before refused : List (I2cCallback × Reply)} (hh : SizeHistory h i n before refused)
    (h_write : isControlCmdRead i.cmd = false) :
    writeFrame i.resid i.cmd n [] <:+ h.map Prod.fst := by
  rw [writeFrame_nil, hh.split, hh.write h_write, List.append_nil]
  exact hh.header

/-- A read of the header has been refused. -/
theorem SizeHistory.refuse {h : List (I2cCallback × Reply)} {d : Device σ} {i' : I2c} {n : UInt8}
    {before refused : List (I2cCallback × Reply)} (hh : SizeHistory h d.i2c n before refused)
    (h_read : isControlCmdRead d.i2c.cmd = true)
    (h_no : (i2cReadCommand tasks d).reply.ret ≠ controlSuccess)
    (h_i' : i' = { d.i2c with payload := (i2cReadCommand tasks d).payload }) :
    SizeHistory (h ++ [(.readStart, (i2cReadCommand tasks d).reply)]) i' n before
      (refused ++ [(.readStart, (i2cReadCommand tasks d).reply)]) := by
  subst h_i'
  refine ⟨by rw [hh.split, List.append_assoc], hh.header, hh.length, hh.limit, ?_, ?_⟩
  · -- a refused read is of a read command, so the clause about writes has nothing to say
    intro h_write
    rw [h_read] at h_write
    cases h_write
  · intro h_ne
    refine List.forall_mem_append.mpr ⟨hh.read h_ne, List.forall_mem_singleton.mpr ⟨rfl, ?_⟩⟩
    rw [i2cReadCommand, ret_readCommand tasks h_ne] at h_no
    dsimp only
    rw [i2cReadCommand, calls_readCommand tasks h_ne]
    exact ⟨_, List.mem_singleton_self _, rfl, h_no⟩

/-- The first payload byte of a write. -/
theorem DataHistory.first {h : List (I2cCallback × Reply)} {i i' : I2c} {n : UInt8}
    {before refused : List (I2cCallback × Reply)} (hh : SizeHistory h i n before refused)
    (h_write : isControlCmdRead i.cmd = false) (b : UInt8) (r : Reply)
    (h_i' : i' = { i with
      payload := i.payload.store 0 b, payloadLenTransmitted := 1, state := .writeData }) :
    DataHistory (h ++ [(.writeData b, r)]) i' n [b] := by
  subst h_i'
  refine ⟨?_, h_write, hh.length, hh.limit, rfl, ?_, ?_⟩
  · exact suffix_concat (hh.frame h_write) (.writeData b, r)
  · intro h_ne
    have h_pos : n.toNat ≠ 0 := fun h_eq => h_ne (UInt8.toNat.inj h_eq)
    exact Nat.one_le_iff_ne_zero.mpr h_pos
  · intro _
    change (i.payload.store 0 b).front (0 + 1) = [b]
    rw [Buffer.front_store_succ _ _ (by decide), Buffer.front_zero, List.nil_append]

/-- Another payload byte of a write. -/
theorem DataHistory.next {h : List (I2cCallback × Reply)} {i i' : I2c} {n : UInt8}
    {ps : List UInt8} (hh : DataHistory h i n ps)
    (h_ne : i.payloadLenTransmitted ≠ i.payloadLenFromHeader) (b : UInt8) (r : Reply)
    (h_i' : i' = { i with
      payload := i.payload.store i.payloadLenTransmitted b
      payloadLenTransmitted := incr i.payloadLenTransmitted }) :
    DataHistory (h ++ [(.writeData b, r)]) i' n (ps ++ [b]) := by
  subst h_i'
  have h_len : (ps ++ [b]).length = ps.length + 1 := by simp
  refine ⟨?_, hh.write, hh.length, hh.limit, ?_, ?_, ?_⟩
  · rw [writeFrame_concat]
    exact suffix_concat hh.frame (.writeData b, r)
  · -- the counter wraps as the number of bytes does
    dsimp only
    rw [h_len, hh.counter, incr, Nat.mod_add_mod]
  · -- short of a header that is not zero, the counter has not wrapped
    intro h_pos
    have h_le := hh.le h_pos
    rw [hh.counter, hh.length] at h_ne
    have h_mod : ps.length % 2 ^ 32 = ps.length :=
      Nat.mod_eq_of_lt (Nat.lt_of_le_of_lt (h_le.trans hh.limit) (by decide))
    omega
  · -- the byte is stored behind those that are there, while there is room
    intro h_fits
    rw [h_len] at h_fits
    have h_mod : ps.length % 2 ^ 32 = ps.length :=
      Nat.mod_eq_of_lt (Nat.lt_of_lt_of_le h_fits (by decide))
    rw [h_len, hh.counter, h_mod, Buffer.front_store_succ _ _ h_fits,
      hh.payload (Nat.le_of_succ_le h_fits)]

/-- **History preservation.** Every callback carries the clauses over. -/
theorem I2cHistory.step {h : List (I2cCallback × Reply)} {d d' : Device σ} {cb : I2cCallback}
    {r : Reply} (hh : I2cHistory d.table h d.i2c) (h_step : I2cStep tasks d cb d' r) :
    I2cHistory d.table (h ++ [(cb, r)]) d'.i2c := by
  unfold I2cHistory at hh
  cases h_step with
  | start => exact suffix_concat List.nil_suffix (.writeStart, _)
  | reject => trivial
  | resid r ifnum hs hr =>
    rw [hs] at hh
    exact ⟨hr, suffix_concat hh (.writeData r, _)⟩
  | cmd c hs =>
    rw [hs] at hh
    exact ⟨hh.1, suffix_concat hh.2 (.writeData c, _)⟩
  | lengthZero d₁ hs h₁ =>
    -- the dispatch leaves the struct as the callback has set it
    rw [hs] at hh
    rw [i2cWriteCommand, writeCommand_i2c, h₁]
    exact ⟨hh.1, 0, _, [], .start (suffix_concat hh.2 (.writeData 0, _)) rfl (Nat.zero_le _)⟩
  | length n hs hn h0 =>
    rw [hs] at hh
    exact ⟨hh.1, n, _, [], .start (suffix_concat hh.2 (.writeData n, _)) rfl hn⟩
  | onlyByte b d₁ hs hc h1 h₁ =>
    -- the first payload byte, dispatched or not
    rw [hs] at hh
    obtain ⟨h_search, n, before, refused, h_size⟩ := hh
    rw [i2cWriteCommand, writeCommand_i2c, h₁]
    exact ⟨h_search, n, [b], .first h_size hc b _ rfl⟩
  | firstByte b hs hc h1 =>
    rw [hs] at hh
    obtain ⟨h_search, n, before, refused, h_size⟩ := hh
    exact ⟨h_search, n, [b], .first h_size hc b _ rfl⟩
  | overflow => trivial
  | lastByte b d₁ hs hne he h₁ =>
    -- a further payload byte, dispatched or not
    rw [hs] at hh
    obtain ⟨h_search, n, ps, h_data⟩ := hh
    rw [i2cWriteCommand, writeCommand_i2c, h₁, I2cHistory, hs]
    exact ⟨h_search, n, ps ++ [b], h_data.next hne b _ rfl⟩
  | nextByte b hs hne hne' =>
    rw [hs] at hh
    obtain ⟨h_search, n, ps, h_data⟩ := hh
    rw [I2cHistory, hs]
    exact ⟨h_search, n, ps ++ [b], h_data.next hne b _ rfl⟩
  | discard b hs =>
    rw [I2cHistory, hs]
    trivial
  | readOk => trivial
  | readRefused hs hc ho =>
    -- the state stays, and one more refused read stands behind the header
    rw [hs] at hh
    obtain ⟨h_search, n, before, refused, h_size⟩ := hh
    rw [I2cHistory, hs]
    exact ⟨h_search, n, before, _, h_size.refuse hc ho rfl⟩
  | readFirst => trivial
  | readOver => trivial
  | readNext hs hne =>
    rw [I2cHistory, hs]
    trivial
  | stop => trivial

/-- **The history invariant of runs.** From the initial state, the state of the machine says what
the callbacks have been. -/
theorem run_i2cHistory (tasks : UserTasks σ) (answers : List (List ControlResid)) (users : σ)
    (cbs : List I2cCallback) :
    I2cHistory (registeredTable answers)
      ((i2cSystem tasks).trace (boot answers users) cbs)
      ((i2cSystem tasks).run (boot answers users) cbs).i2c := by
  have h_run := (i2cSystem tasks).run_history
    (P := fun h d => d.table = registeredTable answers ∧ I2cHistory d.table h d.i2c)
    (s := boot answers users) ⟨rfl, trivial⟩ ?_ cbs
  · rw [← h_run.1]
    exact h_run.2
  · -- the table of the clauses is that of the device, which no callback writes
    rintro h d cb ⟨h_table, hh⟩
    have h_step : I2cStep tasks d cb _ _ := i2cStep_sound d cb
    have h_eq := i2cStep_table h_step
    refine ⟨h_eq.trans h_table, ?_⟩
    rw [h_eq]
    exact hh.step h_step

end DeviceControl
