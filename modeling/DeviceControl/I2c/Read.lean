import DeviceControl.I2c.History

/-!
# I2C reads are dispatched exactly and answered faithfully

Over every run of the I2C callbacks in any order, a user task is called for a read exactly by a
read start that follows the header of a read command, with nothing in between but read starts that
the user task has refused (`i2c_read_exact`). The bytes handed out after a granted read are those
that the user task produced.

Nothing is asked about zero-length headers here: the bytes that overrun the payload array of a
write are no part of a read.
-/

namespace DeviceControl

variable {σ : Type} {tasks : UserTasks σ}

/-! ### The end of a read header -/

/-- The callbacks since the last write start are exactly those of the header of a read command for
a user task, and read starts at which the user task has refused it. -/
structure EndsWithReadHeader (t : ResourceTable) (h : List (I2cCallback × Reply))
    (ifnum r c n : UInt8) : Prop where
  header : ∃ before refused, h = before ++ refused ∧
    headerCallbacks r c n <:+ before.map Prod.fst ∧ ∀ p ∈ refused, RefusedRead p
  limit : n.toNat ≤ i2cDataMaxBytes
  registered : resourceTableSearch t r = some ifnum
  ne_special : r ≠ controlSpecialResid
  read : isControlCmdRead c = true

/-- **Nothing spurious.** A callback that calls a user task for a read is a read start after the
header of a read. -/
theorem I2cHistory.endsWithReadHeader {h : List (I2cCallback × Reply)} {d d' : Device σ}
    {cb : I2cCallback} {r : Reply} (hh : I2cHistory d.table h d.i2c)
    (h_step : I2cStep tasks d cb d' r) {call : UserCall} (h_call : call ∈ r.calls)
    (h_method : call.request.method = .read) :
    cb = .readStart ∧ ∃ ifnum r₀ c n, EndsWithReadHeader d.table h ifnum r₀ c n := by
  -- in `I2C_WRITE_SIZE` the history ends with the header that the struct holds
  have h_size (hs : d.i2c.state = .writeSize) (hc : isControlCmdRead d.i2c.cmd = true)
      (h_ne : d.i2c.resid ≠ controlSpecialResid) :
      ∃ ifnum r₀ c n, EndsWithReadHeader d.table h ifnum r₀ c n := by
    rw [I2cHistory, hs] at hh
    obtain ⟨h_search, n, before, refused, h_size⟩ := hh
    exact ⟨_, _, _, n, ⟨before, refused, h_size.split, h_size.header, h_size.read h_ne⟩,
      h_size.limit, h_search, h_ne, hc⟩
  -- three steps call for a write, and two for a read
  cases h_step with
  | lengthZero d₁ hs h₁ =>
    obtain ⟨-, h_write⟩ := callFrom_writeCommand h_call
    rw [h_write] at h_method
    cases h_method
  | onlyByte b d₁ hs hc h1 h₁ =>
    obtain ⟨-, h_write⟩ := callFrom_writeCommand h_call
    rw [h_write] at h_method
    cases h_method
  | lastByte b d₁ hs hne he h₁ =>
    obtain ⟨-, h_write⟩ := callFrom_writeCommand h_call
    rw [h_write] at h_method
    cases h_method
  | readOk hs hc ho =>
    obtain ⟨⟨h_ne, -, -, -⟩, -⟩ := callFrom_readCommand h_call
    exact ⟨rfl, h_size hs hc h_ne⟩
  | readRefused hs hc ho =>
    obtain ⟨⟨h_ne, -, -, -⟩, -⟩ := callFrom_readCommand h_call
    exact ⟨rfl, h_size hs hc h_ne⟩
  | _ => exact absurd h_call List.not_mem_nil

/-- **Nothing lost.** After the header of a read the struct holds it, whatever was refused since. -/
theorem EndsWithReadHeader.awaitsRead {answers : List (List ControlResid)} {users : σ}
    {cbs : List I2cCallback} {ifnum r c n : UInt8}
    (h_ends : EndsWithReadHeader (registeredTable answers)
      ((i2cSystem tasks).trace (boot answers users) cbs) ifnum r c n) :
    ((i2cSystem tasks).run (boot answers users) cbs).i2c.AwaitsRead ifnum r c n.toNat := by
  obtain ⟨before, refused, h_trace, ⟨pre, h_pre⟩, h_refused⟩ := h_ends.header
  obtain ⟨h_cbs, -, h_rest⟩ := (i2cSystem tasks).trace_eq_append h_trace
  have h_table : ((i2cSystem tasks).run (boot answers users) pre).table = registeredTable answers :=
    ((reachable_boot answers users).run_i2c pre).table
  have h_header : ((i2cSystem tasks).run (boot answers users) (before.map Prod.fst)).i2c.AwaitsRead
      ifnum r c n.toNat := by
    rw [← h_pre, Transducer.run_append,
      run_header_i2c tasks _ (by rw [h_table]; exact h_ends.registered) h_ends.limit]
    exact ⟨rfl, rfl, rfl, rfl, rfl⟩
  rw [h_cbs, Transducer.run_append]
  exact h_header.run tasks h_ends.read (by rw [h_rest]; exact h_refused)

/-! ### The bytes of a read -/

/-- Reads of a byte that follow a granted read in a run get the bytes of its payload. -/
theorem I2c.Serves.data {d : Device σ} {payload : Buffer UInt8 i2cDataMaxBytes} {n : ℕ}
    (h : d.i2c.Serves payload n 0) (h_le : n ≤ i2cDataMaxBytes) {j : ℕ} (h_lt : j < n) :
    ((i2cSystem tasks).step ((i2cSystem tasks).run d (List.replicate j .readData)) .readData).2
      = { ret := controlSuccess, output := .i2cData payload[j]?, accesses := [j] } :=
  ((h.run tasks h_le h_lt.le).step tasks h_lt h_le).2

/-- Callbacks that are all the same at `j` positions in a row. -/
theorem take_add_of_replicate {cbs : List I2cCallback} {k j : ℕ} {cb : I2cCallback}
    (h : ∀ i < j, cbs[k + i]? = some cb) :
    cbs.take (k + j) = cbs.take k ++ List.replicate j cb := by
  induction j with
  | zero => simp
  | succ j ih =>
    calc cbs.take (k + (j + 1))
        = cbs.take (k + j) ++ cbs[k + j]?.toList := by rw [← Nat.add_assoc, List.take_add_one]
      _ = cbs.take k ++ List.replicate j cb ++ [cb] := by
          rw [ih fun i h_i => h i (Nat.lt_succ_of_lt h_i), h j (Nat.lt_succ_self j),
            Option.toList_some]
      _ = cbs.take k ++ List.replicate (j + 1) cb := by
          rw [List.replicate_succ', List.append_assoc]

/-- **I2C reads are exact.** In every run from the initial state, a callback calls a user task for
a read exactly if it is a read start after the header of a read command that the user task has not
granted yet. It makes one call then, with the resource, the command code and the length of the
header. What the user task answers, in the state it has before the callback, is returned, left in
the payload array and kept. If it is success, as many of the `n` bytes that the user task left in
the array as are read next are handed out in order. -/
theorem i2c_read_exact (answers : List (List ControlResid)) (users : σ) (cbs : List I2cCallback)
    (k : ℕ) (cb : I2cCallback) (reply : Reply)
    (h_at : ((i2cSystem tasks).trace (boot answers users) cbs)[k]? = some (cb, reply)) :
    ((∃ call ∈ reply.calls, call.request.method = .read) ↔
      cb = .readStart ∧ ∃ ifnum r c n, EndsWithReadHeader (registeredTable answers)
        ((i2cSystem tasks).trace (boot answers users) (cbs.take k)) ifnum r c n) ∧
    ∀ ifnum r c n, cb = .readStart →
      EndsWithReadHeader (registeredTable answers)
        ((i2cSystem tasks).trace (boot answers users) (cbs.take k)) ifnum r c n →
      let d := (i2cSystem tasks).run (boot answers users) (cbs.take k)
      let d' := (i2cSystem tasks).run (boot answers users) (cbs.take (k + 1))
      DeliversRead tasks d ifnum r c n.toNat d.i2c.payload d'.i2c.payload d' reply ∧
      ∃ produced : List UInt8, produced.length = n.toNat ∧
        reply.calls = [⟨readRequest ifnum r c n.toNat, reply.ret, produced⟩] ∧
        (reply.ret = controlSuccess → ∀ m ≤ n.toNat,
          (∀ j < m, cbs[k + 1 + j]? = some .readData) → ∀ j < m, ∃ reply',
            ((i2cSystem tasks).trace (boot answers users) cbs)[k + 1 + j]?
              = some (.readData, reply') ∧
            reply'.ret = controlSuccess ∧ reply'.output = .i2cData produced[j]?) := by
  obtain ⟨h_cb, rfl⟩ := (i2cSystem tasks).getElem?_trace_eq_some.mp h_at
  refine ⟨⟨?_, ?_⟩, ?_⟩
  · rintro ⟨call, h_call, h_method⟩
    have h_table : ((i2cSystem tasks).run (boot answers users) (cbs.take k)).table
        = registeredTable answers := ((reachable_boot answers users).run_i2c _).table
    have h_hist := run_i2cHistory tasks answers users (cbs.take k)
    rw [← h_table] at h_hist ⊢
    exact h_hist.endsWithReadHeader (i2cStep_sound _ cb) h_call h_method
  · rintro ⟨rfl, ifnum, r, c, n, h_ends⟩
    rw [(h_ends.awaitsRead.delivers tasks h_ends.read h_ends.ne_special).calls]
    exact ⟨_, List.mem_singleton_self _, rfl⟩
  · rintro ifnum r c n rfl h_ends d d'
    have h_await : d.i2c.AwaitsRead ifnum r c n.toNat := h_ends.awaitsRead
    have h_run : d' = ((i2cSystem tasks).step d .readStart).1 := by
      change (i2cSystem tasks).run _ (cbs.take (k + 1)) = _
      rw [List.take_add_one, h_cb, Option.toList_some, Transducer.run_concat]
    have h_del : DeliversRead tasks d ifnum r c n.toNat d.i2c.payload d'.i2c.payload d'
        ((i2cSystem tasks).step d .readStart).2 := by
      rw [h_run]
      exact h_await.delivers tasks h_ends.read h_ends.ne_special
    refine ⟨h_del, d'.i2c.payload.front n.toNat, ?_, by rw [h_del.calls, h_del.ret], ?_⟩
    · rw [Buffer.length_front, Nat.min_eq_left h_ends.limit]
    intro h_ok m h_m h_next j h_j
    have h_j' : j < n.toNat := h_j.trans_le h_m
    -- a read that is granted is served from the array it leaves
    have h_serves : d'.i2c.Serves d'.i2c.payload n.toNat 0 := by
      rw [h_await.step tasks h_ends.read] at h_run h_ok
      rw [h_run, if_pos h_ok]
      exact h_await.serves tasks
    -- the state in which the `j`-th byte is read
    have h_take : cbs.take (k + 1 + j) = cbs.take (k + 1) ++ List.replicate j .readData :=
      take_add_of_replicate fun i h_i => h_next i (h_i.trans h_j)
    refine ⟨_, (i2cSystem tasks).getElem?_trace_eq_some.mpr ⟨h_next j h_j, rfl⟩, ?_⟩
    rw [h_take, Transducer.run_append, h_serves.data h_ends.limit h_j',
      Buffer.getElem?_front _ h_j']
    exact ⟨rfl, rfl⟩

/-- A read of two bytes. -/
theorem i2c_read_exact_run :
    let cbs : List I2cCallback := [.writeStart, .writeData 3, .writeData 0x85, .writeData 2,
      .readStart, .readData, .readData]
    let reply : Reply :=
      { ret := 0, calls := [⟨readRequest 0 3 0x85 2, 0, [8, 9]⟩], accesses := [0, 1] }
    ((i2cSystem (.always controlSuccess [8, 9])).trace (boot [[3]] ()) cbs)[4]?
        = some (.readStart, reply) ∧
      ∃ ifnum r c n, EndsWithReadHeader (registeredTable [[3]])
        ((i2cSystem (.always controlSuccess [8, 9])).trace (boot [[3]] ()) (cbs.take 4))
        ifnum r c n := by
  intro cbs reply
  have h_at : ((i2cSystem (.always controlSuccess [8, 9])).trace (boot [[3]] ()) cbs)[4]?
      = some (.readStart, reply) := by decide +kernel
  have h_exact := i2c_read_exact [[3]] () cbs 4 _ _ h_at
  exact ⟨h_at, (h_exact.1.mp ⟨_, List.mem_singleton_self _, rfl⟩).2⟩

end DeviceControl
