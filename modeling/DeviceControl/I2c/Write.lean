import DeviceControl.I2c.History

/-!
# I2C writes are parsed exactly

Over every run of the I2C callbacks in any order, a user task is called for a write exactly at the
last byte of a write frame that follows a write start directly (`i2c_write_exact`). Nothing is lost:
`trace_writeFrame` runs the frame forwards from whatever state it meets. Nothing is spurious: the
history invariant reads the frame off the state in which a dispatch happens.

After a header that declares length 0 the machine keeps storing bytes, past the end of the payload
array and on until its counter wraps to 0 and it dispatches again. `ZeroLengthOverrun` describes
the runs that get past the end.
-/

namespace DeviceControl

variable {σ : Type} {tasks : UserTasks σ}

/-! ### The runs that leave the payload array -/

/-- A byte is written or read. -/
def I2cCallback.isByte : I2cCallback → Bool
  | .writeData _ => true
  | .readData => true
  | _ => false

/-- After a header declaring length 0, more than `I2C_DATA_MAX_BYTES` further bytes are written or
read before the next write start. -/
def ZeroLengthOverrun (cbs : List I2cCallback) : Prop :=
  ∃ pre r c mid post, cbs = pre ++ headerCallbacks r c 0 ++ mid ++ post ∧
    .writeStart ∉ mid ∧ i2cDataMaxBytes < mid.countP I2cCallback.isByte

theorem ZeroLengthOverrun.append {cbs : List I2cCallback} (h : ZeroLengthOverrun cbs)
    (cbs' : List I2cCallback) : ZeroLengthOverrun (cbs ++ cbs') := by
  obtain ⟨pre, r, c, mid, post, rfl, h_start, h_count⟩ := h
  exact ⟨pre, r, c, mid, post ++ cbs', List.append_assoc .., h_start, h_count⟩

/-- A short run does not leave the array. -/
theorem not_zeroLengthOverrun {cbs : List I2cCallback} (h : cbs.length ≤ i2cDataMaxBytes) :
    ¬ ZeroLengthOverrun cbs := by
  rintro ⟨pre, r, c, mid, post, rfl, -, h_count⟩
  have h_mid := List.countP_le_length (p := I2cCallback.isByte) (l := mid)
  simp only [List.length_append] at h
  omega

/-- A payload of a zero-length header that is longer than the array is an overrun. -/
theorem zeroLengthOverrun_of_frame {cbs : List I2cCallback} {r c : UInt8} {ps : List UInt8}
    (h_frame : writeFrame r c 0 ps <:+ cbs) (h_len : i2cDataMaxBytes < ps.length) :
    ZeroLengthOverrun cbs := by
  obtain ⟨pre, h_pre⟩ := h_frame
  refine ⟨pre, r, c, ps.map .writeData, [], ?_, by simp, ?_⟩
  · rw [List.append_nil, List.append_assoc, ← h_pre, writeFrame]
  · have h_all : (ps.map I2cCallback.writeData).countP I2cCallback.isByte = ps.length := by
      rw [List.countP_map]
      exact List.countP_eq_length.mpr fun _ _ => rfl
    rwa [h_all]

/-! ### The end of a write frame -/

/-- The callbacks since the last write start are exactly those of a write command for a user task,
with the payload `ps`. -/
structure EndsWithWrite (t : ResourceTable) (cbs : List I2cCallback) (ifnum r c : UInt8)
    (ps : List UInt8) : Prop where
  frame : ∃ n : UInt8, n.toNat = ps.length ∧ writeFrame r c n ps <:+ cbs
  limit : ps.length ≤ i2cDataMaxBytes
  registered : resourceTableSearch t r = some ifnum
  ne_special : r ≠ controlSpecialResid
  write : isControlCmdRead c = false

/-- Where the counter meets the header, the payload is complete. -/
theorem DataHistory.complete {h : List (I2cCallback × Reply)} {i : I2c} {n : UInt8}
    {ps : List UInt8} (hh : DataHistory h i n ps) (h_ps : ps ≠ [])
    (h_eq : i.payloadLenTransmitted = i.payloadLenFromHeader)
    (h_ok : ¬ ZeroLengthOverrun (h.map Prod.fst)) : n.toNat = ps.length := by
  rw [hh.counter, hh.length] at h_eq
  by_cases h_zero : n = 0
  · -- the counter has wrapped, long after the end of the array
    subst h_zero
    have h_pos : 0 < ps.length := List.length_pos_iff.mpr h_ps
    have h_mod : ps.length % 2 ^ 32 = 0 := h_eq
    refine absurd (zeroLengthOverrun_of_frame hh.frame ?_) h_ok
    change 253 < ps.length
    omega
  · rw [← h_eq]
    exact Nat.mod_eq_of_lt
      (Nat.lt_of_le_of_lt ((hh.le h_zero).trans hh.limit) (by decide))

/-- **Nothing spurious.** A callback that calls a user task for a write ends a write frame. -/
theorem I2cHistory.endsWithWrite {h : List (I2cCallback × Reply)} {d d' : Device σ}
    {cb : I2cCallback} {r : Reply} (hh : I2cHistory d.table h d.i2c)
    (h_step : I2cStep tasks d cb d' r) {call : UserCall} (h_call : call ∈ r.calls)
    (h_method : call.request.method = .write) (h_cmd : isControlCmdRead call.request.cmd = false)
    (h_ok : ¬ ZeroLengthOverrun ((h ++ [(cb, r)]).map Prod.fst)) :
    ∃ ifnum r₀ c ps, EndsWithWrite d.table ((h ++ [(cb, r)]).map Prod.fst) ifnum r₀ c ps := by
  unfold I2cHistory at hh
  cases h_step with
  | lengthZero d₁ hs h₁ =>
    -- the length byte 0 ends the frame, if the code is one of a write
    rw [hs] at hh
    obtain ⟨⟨h_ne, -, -, h_from⟩, -⟩ := callFrom_writeCommand h_call
    rw [h_from] at h_cmd
    subst h₁
    exact ⟨_, _, _, [], ⟨0, rfl, suffix_concat hh.2 (.writeData 0, _)⟩, Nat.zero_le _, hh.1, h_ne,
      h_cmd⟩
  | onlyByte b d₁ hs hc h1 h₁ =>
    rw [hs] at hh
    obtain ⟨h_search, n, before, refused, h_size⟩ := hh
    obtain ⟨⟨h_ne, -, -, -⟩, -⟩ := callFrom_writeCommand h_call
    have h_first : DataHistory (h ++ [(.writeData b, (i2cWriteCommand tasks d₁).2.touch 0)])
        d₁.i2c n [b] := .first h_size hc b _ (by rw [h₁])
    subst h₁
    exact ⟨_, _, _, [b], ⟨n, h_size.length.symm.trans h1, h_first.frame⟩,
      show 1 ≤ i2cDataMaxBytes by decide, h_search, h_ne, hc⟩
  | lastByte b d₁ hs hne he h₁ =>
    -- the counter has met the header, so the bytes behind the header are the payload
    rw [hs] at hh
    obtain ⟨h_search, n, ps, h_data⟩ := hh
    obtain ⟨⟨h_ne, -, -, -⟩, -⟩ := callFrom_writeCommand h_call
    have h_next : DataHistory (h ++ [(.writeData b,
        (i2cWriteCommand tasks d₁).2.touch d.i2c.payloadLenTransmitted)]) d₁.i2c n (ps ++ [b]) :=
      h_data.next hne b _ (by rw [h₁])
    subst h₁
    have h_len := h_next.complete (List.append_ne_nil_of_right_ne_nil _ (List.cons_ne_nil b [])) he
      h_ok
    exact ⟨_, _, _, ps ++ [b], ⟨n, h_len, h_next.frame⟩, h_len ▸ h_data.limit, h_search, h_ne,
      h_data.write⟩
  | readOk hs hc ho =>
    -- a read start calls for a read
    obtain ⟨-, h_read⟩ := callFrom_readCommand h_call
    rw [h_read] at h_method
    cases h_method
  | readRefused hs hc ho =>
    obtain ⟨-, h_read⟩ := callFrom_readCommand h_call
    rw [h_read] at h_method
    cases h_method
  | _ => exact absurd h_call List.not_mem_nil

/-- **Nothing lost.** The last callback of a write frame delivers the payload, to the user tasks as
the callback finds them. -/
theorem EndsWithWrite.delivered {answers : List (List ControlResid)} {users : σ}
    {cbs : List I2cCallback} {k : ℕ} {p : I2cCallback × Reply}
    (h_at : ((i2cSystem tasks).trace (boot answers users) cbs)[k]? = some p)
    {ifnum r c : UInt8} {ps : List UInt8}
    (h_ends : EndsWithWrite (registeredTable answers) (cbs.take (k + 1)) ifnum r c ps) :
    DeliversWrite tasks ((i2cSystem tasks).run (boot answers users) (cbs.take k)) ifnum r c ps
      ((i2cSystem tasks).run (boot answers users) (cbs.take (k + 1))) p.2 := by
  obtain ⟨n, h_len, pre, h_pre⟩ := h_ends.frame
  have h_table (cbs : List I2cCallback) : ((i2cSystem tasks).run (boot answers users) cbs).table
      = registeredTable answers := ((reachable_boot answers users).run_i2c cbs).table
  obtain ⟨entries, last, h_trace, h_quiet, h_del⟩ :=
    trace_writeFrame tasks ((i2cSystem tasks).run (boot answers users) pre)
      (by rw [h_table]; exact h_ends.registered) h_ends.ne_special h_ends.write h_len h_ends.limit
  -- the entry at `k` is the last one of the frame
  have h_last := (i2cSystem tasks).trace_take_succ h_at
  rw [← h_pre, Transducer.trace_append, h_trace, ← List.append_assoc] at h_last
  obtain ⟨h_before, h_entry⟩ := List.append_inj' h_last rfl
  obtain rfl : last = p := List.singleton_injective h_entry
  -- those of the frame before it leave the user tasks alone
  obtain ⟨h_take, -, h_entries⟩ := (i2cSystem tasks).trace_eq_append h_before.symm
  rw [Transducer.map_fst_trace] at h_take h_entries
  have h_users : ((i2cSystem tasks).run (boot answers users) (cbs.take k)).users
      = ((i2cSystem tasks).run (boot answers users) pre).users := by
    rw [h_take, Transducer.run_append]
    refine run_i2c_users ?_
    rw [h_entries]
    exact fun p hp => (h_quiet p hp).calls
  rw [← h_pre, Transducer.run_append]
  exact h_del.congr (by rw [h_table, h_table]) h_users

/-- **I2C write parsing is exact.** In every run from the initial state that does not leave the
payload array after a zero-length header, a callback calls a user task for a write, with a write
command code, exactly if the callbacks since the last write start are those of a write frame. It
makes no other call then, and hands over the resource, the command code and the payload of the
frame. What the user task answers, in the state it has before the callback, is returned, recorded
and kept. -/
theorem i2c_write_exact (answers : List (List ControlResid)) (users : σ) (cbs : List I2cCallback)
    (h_ok : ¬ ZeroLengthOverrun cbs) (k : ℕ) (cb : I2cCallback) (reply : Reply)
    (h_at : ((i2cSystem tasks).trace (boot answers users) cbs)[k]? = some (cb, reply)) :
    ((∃ call ∈ reply.calls,
        call.request.method = .write ∧ isControlCmdRead call.request.cmd = false) ↔
      ∃ ifnum r c ps, EndsWithWrite (registeredTable answers) (cbs.take (k + 1)) ifnum r c ps) ∧
    ∀ ifnum r c ps, EndsWithWrite (registeredTable answers) (cbs.take (k + 1)) ifnum r c ps →
      DeliversWrite tasks ((i2cSystem tasks).run (boot answers users) (cbs.take k)) ifnum r c ps
        ((i2cSystem tasks).run (boot answers users) (cbs.take (k + 1))) reply := by
  refine ⟨⟨?_, ?_⟩, fun _ _ _ _ h_ends => h_ends.delivered h_at⟩
  · rintro ⟨call, h_call, h_method, h_cmd⟩
    obtain ⟨-, rfl⟩ := (i2cSystem tasks).getElem?_trace_eq_some.mp h_at
    have h_table : ((i2cSystem tasks).run (boot answers users) (cbs.take k)).table
        = registeredTable answers := ((reachable_boot answers users).run_i2c _).table
    -- the history before the callback, and the callback on top of it
    have h_hist := run_i2cHistory tasks answers users (cbs.take k)
    rw [← h_table] at h_hist ⊢
    have h_take : cbs.take (k + 1)
        = ((i2cSystem tasks).trace (boot answers users) (cbs.take k)
            ++ [(cb, ((i2cSystem tasks).step
              ((i2cSystem tasks).run (boot answers users) (cbs.take k)) cb).2)]).map Prod.fst := by
      rw [← (i2cSystem tasks).trace_take_succ h_at, Transducer.map_fst_trace]
    rw [h_take]
    refine h_hist.endsWithWrite (i2cStep_sound _ cb) h_call h_method h_cmd ?_
    rw [← h_take]
    -- an overrun up to here would be one of the whole run
    intro h_over
    have h_all := h_over.append (cbs.drop (k + 1))
    rw [List.take_append_drop] at h_all
    exact h_ok h_all
  · rintro ⟨ifnum, r, c, ps, h_ends⟩
    rw [(h_ends.delivered h_at).calls]
    exact ⟨_, List.mem_singleton_self _, rfl, h_ends.write⟩

/-- A write of one byte after a header that was broken off, to a task that answers 7. -/
theorem i2c_write_exact_run :
    let cbs : List I2cCallback := [.writeStart, .writeData 3, .writeStart, .writeData 3,
      .writeData 5, .writeData 1, .writeData 42]
    let reply : Reply :=
      { ret := 7, calls := [⟨writeRequest 0 3 5 [42], 7, []⟩], accesses := [0, 0] }
    ((i2cSystem (.always 7 [])).trace (boot [[3]] ()) cbs)[6]? = some (.writeData 42, reply) ∧
      ∃ ifnum r c ps, EndsWithWrite (registeredTable [[3]]) (cbs.take 7) ifnum r c ps := by
  intro cbs reply
  have h_at : ((i2cSystem (.always 7 [])).trace (boot [[3]] ()) cbs)[6]?
      = some (.writeData 42, reply) := by decide +kernel
  have h_exact := i2c_write_exact [[3]] () cbs (not_zeroLengthOverrun (by decide)) 6 _ _ h_at
  exact ⟨h_at, h_exact.1.mp ⟨_, List.mem_singleton_self _, rfl, by decide⟩⟩

end DeviceControl
