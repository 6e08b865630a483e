import DeviceControl.I2c.Payload

/-!
# The length discipline of I2C writes

A write transaction declares a length in its header and brings some number of payload bytes. The
three ways in which the two numbers compare end in three different states of the machine:
`I2C_WRITE_SIZE` or `I2C_WRITE_DATA` with bytes missing, `I2C_WRITE_DATA` with the counter at the
header, and `I2C_WRITE_OVERFLOW`. `LengthDiscipline` says what the callbacks have to return in each
of them.

`i2c_length_discipline_iff` is the exact condition. A declared length of 0 is the exception: the
machine waits for a read start in `I2C_WRITE_SIZE` then, and a payload byte that arrives there is
taken for the first one of a longer payload.
-/

namespace DeviceControl

variable {σ : Type} (tasks : UserTasks σ)

/-- The callbacks of a write transaction that declares `n` bytes and brings the bytes `ps`. -/
def writeTransaction (r c n : UInt8) (ps : List UInt8) : List I2cCallback :=
  writeFrame r c n ps ++ [.stop]

/-- The callbacks of a write transaction with `n` bytes declared and `m` bytes brought report the
difference. The header is the first four entries of the trace. -/
structure LengthDiscipline (entries : List (I2cCallback × Reply)) (n m : ℕ) : Prop where
  reports : (∃ p ∈ entries, p.2.ret = controlDataLengthError) ↔ m ≠ n
  /-- With bytes missing, the stop reports it. -/
  short : m < n → ∀ p ∈ entries, (p.2.ret = controlDataLengthError ↔ p.1 = .stop)
  /-- With bytes in excess, the first of them reports it. -/
  long : n < m → ∀ k p, entries[k]? = some p → (p.2.ret = controlDataLengthError ↔ k = 4 + n)
  /-- No callback after that one returns an error, calls anybody or touches the payload. -/
  discarded : n < m → ∀ p ∈ entries.drop (4 + n + 1), p.2 = { ret := controlSuccess }

/-! ### The three verdicts -/

section Verdicts

variable {entries before after : List (I2cCallback × Reply)} {first last : I2cCallback × Reply}
  {n m : ℕ}

theorem controlSuccess_ne_lengthError : controlSuccess ≠ controlDataLengthError := by decide

/-- A trace without an error keeps the discipline of a payload of the declared length. -/
theorem lengthDiscipline_exact (h : ∀ p ∈ entries, p.2.ret = controlSuccess) :
    LengthDiscipline entries n n where
  reports := by
    refine iff_of_false ?_ (not_not_intro rfl)
    rintro ⟨p, hp, h_ret⟩
    exact controlSuccess_ne_lengthError ((h p hp).symm.trans h_ret)
  short := fun h_lt => absurd h_lt (lt_irrefl n)
  long := fun h_lt => absurd h_lt (lt_irrefl n)
  discarded := fun h_lt => absurd h_lt (lt_irrefl n)

/-- A trace whose only error is that of a stop at its end keeps the discipline of a payload with
bytes missing. -/
theorem lengthDiscipline_short (h_lt : m < n)
    (h : ∀ p ∈ before, p.2.ret = controlSuccess ∧ p.1 ≠ .stop) (h_stop : last.1 = .stop)
    (h_ret : last.2.ret = controlDataLengthError) : LengthDiscipline (before ++ [last]) n m where
  reports := iff_of_true ⟨last, by simp, h_ret⟩ h_lt.ne
  short := by
    intro _ p hp
    rcases List.mem_append.mp hp with hp | hp
    · obtain ⟨h_success, h_ne⟩ := h p hp
      rw [h_success]
      exact iff_of_false controlSuccess_ne_lengthError h_ne
    · rw [List.mem_singleton.mp hp]
      exact iff_of_true h_ret h_stop
  long := fun h_gt => absurd h_gt h_lt.not_gt
  discarded := fun h_gt => absurd h_gt h_lt.not_gt

/-- A trace whose only error is that of the first byte in excess, and that is quiet from there on,
keeps the discipline of a payload with bytes in excess. -/
theorem lengthDiscipline_long (h_lt : n < m) (h_len : before.length = 4 + n)
    (h_before : ∀ p ∈ before, p.2.ret = controlSuccess)
    (h_ret : first.2.ret = controlDataLengthError)
    (h_after : ∀ p ∈ after, p.2 = { ret := controlSuccess }) :
    LengthDiscipline (before ++ first :: after) n m where
  reports := iff_of_true ⟨first, by simp, h_ret⟩ h_lt.ne'
  short := fun h_gt => absurd h_gt h_lt.not_gt
  long := by
    intro _ k p h_get
    rcases lt_trichotomy k (4 + n) with h_k | h_k | h_k
    · -- a position in front of the first byte in excess
      rw [List.getElem?_append_left (h_len ▸ h_k)] at h_get
      rw [h_before p (List.mem_of_getElem? h_get)]
      exact iff_of_false controlSuccess_ne_lengthError h_k.ne
    · -- that byte
      have h_first : (before ++ first :: after)[before.length]? = some first := by simp
      rw [h_k, ← h_len, h_first] at h_get
      rw [← Option.some.inj h_get]
      exact iff_of_true h_ret h_k
    · -- the position lies in the quiet part
      obtain ⟨j, rfl⟩ := Nat.exists_eq_add_of_lt h_k
      rw [← h_len, List.getElem?_append_right (by omega), add_assoc, Nat.add_sub_cancel_left,
        List.getElem?_cons_succ] at h_get
      rw [h_after p (List.mem_of_getElem? h_get)]
      exact iff_of_false controlSuccess_ne_lengthError h_k.ne'
  discarded := by
    intro _
    have h_drop : (before ++ first :: after).drop (4 + n + 1) = after := by
      rw [← h_len, List.drop_append, List.drop_of_length_le (Nat.le_succ _)]
      simp
    rw [h_drop]
    exact h_after

end Verdicts

/-! ### Bytes missing -/

theorem i2cStopRet_writeSize {i : I2c} (hs : i.state = .writeSize) :
    i2cStopRet i
      = if i.payloadLenFromHeader ≠ 0 then controlDataLengthError else controlSuccess := by
  rw [i2cStopRet, hs]

theorem i2cStopRet_writeData {i : I2c} (hs : i.state = .writeData) :
    i2cStopRet i
      = if i.payloadLenTransmitted < i.payloadLenFromHeader then controlDataLengthError
        else controlSuccess := by
  rw [i2cStopRet, hs]

/-- A stop in the middle of a payload reports it, before the first byte as well as behind it. -/
theorem Receiving.stopRet {d₀ d : Device σ} {ifnum r c : UInt8} {n : ℕ} {ps : List UInt8}
    (h : Receiving d₀ ifnum r c n ps d) (h_lt : ps.length < n) :
    i2cStopRet d.i2c = controlDataLengthError := by
  have h_state := h.state
  by_cases h_ps : ps = []
  · rw [if_pos h_ps] at h_state
    rw [i2cStopRet_writeSize h_state, h.header, if_pos (Nat.ne_zero_of_lt h_lt)]
  · rw [if_neg h_ps] at h_state
    rw [i2cStopRet_writeData h_state, h.counter, h.header, if_pos h_lt]

theorem quiet_ret_ne_stop {d : Device σ} {cbs : List I2cCallback} (h_cbs : .stop ∉ cbs)
    (h_quiet : ∀ p ∈ (i2cSystem tasks).trace d cbs, p.2.Quiet) :
    ∀ p ∈ (i2cSystem tasks).trace d cbs, p.2.ret = controlSuccess ∧ p.1 ≠ .stop := by
  intro p hp
  refine ⟨(h_quiet p hp).ret, fun h_eq => h_cbs ?_⟩
  have h_mem := List.mem_map_of_mem (f := Prod.fst) hp
  rwa [Transducer.map_fst_trace, h_eq] at h_mem

theorem stop_notMem_writeFrame (r c n : UInt8) (ps : List UInt8) : .stop ∉ writeFrame r c n ps := by
  simp [writeFrame, headerCallbacks]

/-! ### Bytes in excess -/

/-- All the bytes of a payload that is not empty have arrived. -/
structure I2c.Complete (i : I2c) : Prop where
  state : i.state = .writeData
  counter : i.payloadLenTransmitted = i.payloadLenFromHeader

theorem I2c.Complete.stopRet {i : I2c} (h : i.Complete) : i2cStopRet i = controlSuccess := by
  rw [i2cStopRet_writeData h.state, h.counter, if_neg (lt_irrefl _)]

/-- The next byte is given back with an error, and what follows is not looked at. -/
theorem I2c.Complete.step {d : Device σ} (h : d.i2c.Complete) (b : UInt8) :
    (i2cSystem tasks).step d (.writeData b)
      = ({ d with
          lastStatus := controlDataLengthError
          i2c := { d.i2c with state := .writeOverflow } },
        { ret := controlDataLengthError }) := by
  have h_data : i2cWriteData tasks b d
      = ({ d with i2c := { d.i2c with state := .writeOverflow } },
        { ret := controlDataLengthError }) := by
    unfold i2cWriteData
    rw [h.state]
    dsimp only
    rw [if_pos h.counter]
  change controlProcessI2cWriteData tasks b d = _
  rw [controlProcessI2cWriteData, h_data]

/-- **The overflow run.** In `I2C_WRITE_OVERFLOW` all bytes up to the stop are discarded. -/
theorem trace_overflow {d : Device σ} (hs : d.i2c.state = .writeOverflow) (bs : List UInt8) :
    ∀ p ∈ (i2cSystem tasks).trace d (bs.map .writeData ++ [.stop]),
      p.2 = { ret := controlSuccess } := by
  induction bs generalizing d with
  | nil =>
    intro p hp
    rw [List.mem_singleton.mp hp]
    change ({ ret := i2cStopRet d.i2c } : Reply) = _
    rw [i2cStopRet, hs]
  | cons b bs ih =>
    have h_step : (i2cSystem tasks).step d (.writeData b)
        = ({ d with lastStatus := controlSuccess }, { ret := controlSuccess }) := by
      change controlProcessI2cWriteData tasks b d = _
      rw [controlProcessI2cWriteData, i2cWriteData, hs]
    rw [List.map_cons, List.cons_append, Transducer.trace_cons, h_step]
    refine List.forall_mem_cons.mpr ⟨rfl, ih ?_⟩
    exact hs

section Frame

variable {d : Device σ} {r ifnum c n : UInt8} {ps : List UInt8}
  (hr : resourceTableSearch d.table r = some ifnum) (h_write : isControlCmdRead c = false)
  (h_le : n.toNat ≤ i2cDataMaxBytes)

include hr h_write h_le

/-- The header and a part of the payload. -/
theorem receiving_writeFrame (h_lt : ps.length < n.toNat) :
    Receiving d ifnum r c n.toNat ps ((i2cSystem tasks).run d (writeFrame r c n ps)) ∧
      ∀ p ∈ (i2cSystem tasks).trace d (writeFrame r c n ps), p.2.Quiet := by
  obtain ⟨h_run, h_quiet⟩ := trace_header tasks d (c := c) hr h_le (Nat.ne_zero_of_lt h_lt)
  obtain ⟨h_recv, h_rest⟩ := (Receiving.start d ifnum r c n.toNat).run tasks h_write h_le ps
    (by rwa [List.length_nil, Nat.zero_add])
  rw [writeFrame, Transducer.run_append, Transducer.trace_append, h_run]
  exact ⟨h_recv, List.forall_mem_append.mpr ⟨h_quiet, h_rest⟩⟩

/-- The header and the whole payload, with the counter at the header in the end. -/
theorem complete_writeFrame (h_len : ps.length = n.toNat) (h_ps : ps ≠ []) :
    ((i2cSystem tasks).run d (writeFrame r c n ps)).i2c.Complete := by
  obtain ⟨ps, b, rfl⟩ := List.eq_nil_or_concat' ps |>.resolve_left h_ps
  rw [List.length_append, List.length_singleton] at h_len
  have h_lt : ps.length < n.toNat := by omega
  obtain ⟨h_recv, -⟩ := receiving_writeFrame tasks hr h_write h_le h_lt
  rw [writeFrame_concat, Transducer.run_concat, h_recv.step_last tasks h_write h_le h_len b]
  dsimp only
  rw [i2cWriteCommand, writeCommand_i2c]
  have h_stored := h_recv.stored (by omega) b
  have h_state := h_stored.state
  rw [if_neg h_ps] at h_state
  refine ⟨h_state, ?_⟩
  rw [h_stored.counter, h_stored.header, ← h_len, List.length_append, List.length_singleton]

end Frame

/-! ### Transactions -/

theorem trace_writeTransaction (d : Device σ) (r c n : UInt8) (ps : List UInt8) :
    (i2cSystem tasks).trace d (writeTransaction r c n ps)
      = (i2cSystem tasks).trace d (writeFrame r c n ps)
        ++ [(.stop,
            { ret := i2cStopRet ((i2cSystem tasks).run d (writeFrame r c n ps)).i2c })] := by
  rw [writeTransaction, Transducer.trace_concat]
  rfl

section Transaction

variable {d : Device σ} {r ifnum c n : UInt8} {ps : List UInt8}
  (hr : resourceTableSearch d.table r = some ifnum) (h_ne : r ≠ controlSpecialResid)
  (h_write : isControlCmdRead c = false) (h_le : n.toNat ≤ i2cDataMaxBytes)
  (h_answer : (d.writeAnswer tasks ifnum r c (ps.take n.toNat)).1 = controlSuccess)

include hr h_write h_le in
theorem discipline_of_short (h_lt : ps.length < n.toNat) :
    LengthDiscipline ((i2cSystem tasks).trace d (writeTransaction r c n ps)) n.toNat ps.length := by
  obtain ⟨h_recv, h_quiet⟩ := receiving_writeFrame tasks hr h_write h_le h_lt
  rw [trace_writeTransaction]
  exact lengthDiscipline_short h_lt
    (quiet_ret_ne_stop tasks (stop_notMem_writeFrame r c n ps) h_quiet) rfl (h_recv.stopRet h_lt)

include hr h_ne h_write h_le h_answer

/-- A frame with a payload of the declared length returns no error up to its last byte. -/
theorem ret_writeFrame (h_len : ps.length = n.toNat) :
    ∀ p ∈ (i2cSystem tasks).trace d (writeFrame r c n ps), p.2.ret = controlSuccess := by
  obtain ⟨entries, last, h_trace, h_quiet, h_del⟩ :=
    trace_writeFrame tasks d hr h_ne h_write h_len.symm (h_len.trans_le h_le)
  rw [← h_len, List.take_length] at h_answer
  rw [h_trace]
  refine List.forall_mem_append.mpr ⟨fun p hp => (h_quiet p hp).ret, ?_⟩
  exact List.forall_mem_singleton.mpr (h_del.ret.trans h_answer)

theorem discipline_of_exact (h_len : ps.length = n.toNat) :
    LengthDiscipline ((i2cSystem tasks).trace d (writeTransaction r c n ps)) n.toNat ps.length := by
  have h_stop : i2cStopRet ((i2cSystem tasks).run d (writeFrame r c n ps)).i2c
      = controlSuccess := by
    by_cases h_ps : ps = []
    · -- an empty payload leaves the machine in `I2C_WRITE_SIZE`, where no byte is missing
      subst h_ps
      rw [writeFrame_nil, run_header_i2c tasks d hr h_le, i2cStopRet_writeSize rfl]
      exact if_neg (not_not_intro h_len.symm)
    · exact (complete_writeFrame tasks hr h_write h_le h_len h_ps).stopRet
  rw [trace_writeTransaction, h_len]
  apply lengthDiscipline_exact
  refine List.forall_mem_append.mpr ⟨?_, List.forall_mem_singleton.mpr h_stop⟩
  exact ret_writeFrame tasks hr h_ne h_write h_le h_answer h_len

theorem discipline_of_long (h_zero : n ≠ 0) (h_gt : n.toNat < ps.length) :
    LengthDiscipline ((i2cSystem tasks).trace d (writeTransaction r c n ps)) n.toNat ps.length := by
  -- the payload of the declared length, the first byte in excess, and the rest
  have h_len : (ps.take n.toNat).length = n.toNat := List.length_take_of_le h_gt.le
  have h_ps : ps.take n.toNat ++ ps[n.toNat] :: ps.drop (n.toNat + 1) = ps := by simp
  have h_split : writeTransaction r c n ps = writeFrame r c n (ps.take n.toNat)
      ++ .writeData ps[n.toNat] :: ((ps.drop (n.toNat + 1)).map .writeData ++ [.stop]) := by
    have h_map : (ps.take n.toNat).map I2cCallback.writeData
        ++ .writeData ps[n.toNat] :: (ps.drop (n.toNat + 1)).map .writeData
          = ps.map .writeData := by
      rw [← List.map_cons, ← List.map_append, h_ps]
    rw [writeTransaction, writeFrame, writeFrame, ← h_map, List.append_assoc, List.append_assoc,
      List.append_assoc, List.cons_append]
  have h_pos : ps.take n.toNat ≠ [] := by
    rw [← List.length_pos_iff, h_len, Nat.pos_iff_ne_zero]
    exact fun h_eq => h_zero (UInt8.toNat.inj h_eq)
  have h_complete := complete_writeFrame tasks hr h_write h_le h_len h_pos
  rw [h_split, Transducer.trace_append, Transducer.trace_cons, h_complete.step]
  refine lengthDiscipline_long h_gt ?_ ?_ rfl (trace_overflow tasks rfl _)
  · rw [Transducer.length_trace, writeFrame, List.length_append, List.length_map, h_len]
    rfl
  · refine ret_writeFrame tasks hr h_ne h_write h_le ?_ h_len
    rw [List.take_take, min_self]
    exact h_answer

omit h_ne h_le h_answer in
/-- A byte behind a header that declares none is taken for the first one of a payload. -/
theorem not_discipline_of_zero (h_gt : ps ≠ []) :
    ¬ LengthDiscipline ((i2cSystem tasks).trace d (writeTransaction r c 0 ps)) 0 ps.length := by
  intro h
  obtain ⟨b, ps, rfl⟩ := List.exists_cons_of_ne_nil h_gt
  have h_i2c := run_header_i2c tasks d (c := c) (n := 0) hr (Nat.zero_le _)
  set d₁ := (i2cSystem tasks).run d (headerCallbacks r c 0)
  have h_step : ((i2cSystem tasks).step d₁ (.writeData b)).2.ret = controlSuccess := by
    rw [step_firstByte tasks (by rw [h_i2c]; rfl) (by rw [h_i2c]; exact h_write), payloadStep,
      h_i2c]
    rfl
  -- that is the fifth callback, which the discipline wants to report
  have h_get : ((i2cSystem tasks).trace d (writeTransaction r c 0 (b :: ps)))[4]?
      = some (.writeData b, ((i2cSystem tasks).step d₁ (.writeData b)).2) :=
    (i2cSystem tasks).getElem?_trace_eq_some.mpr ⟨rfl, rfl⟩
  have h_error := (h.long (by simp) 4 _ h_get).mpr rfl
  exact controlSuccess_ne_lengthError (h_step.symm.trans h_error)

end Transaction

/-- **The length discipline.** From any reachable state, a write transaction for a user task that
answers with success keeps the length discipline exactly if it declares a payload, or brings none
either. -/
theorem i2c_length_discipline_iff {answers : List (List ControlResid)} {d : Device σ}
    (h_reach : Reachable tasks answers d) {r ifnum c n : UInt8} {ps : List UInt8}
    (h_reg : resourceTableSearch (registeredTable answers) r = some ifnum)
    (h_ne : r ≠ controlSpecialResid) (h_write : isControlCmdRead c = false)
    (h_le : n.toNat ≤ i2cDataMaxBytes)
    (h_answer : (d.writeAnswer tasks ifnum r c (ps.take n.toNat)).1 = controlSuccess) :
    LengthDiscipline ((i2cSystem tasks).trace d (writeTransaction r c n ps)) n.toNat ps.length ↔
      n ≠ 0 ∨ ps = [] := by
  have hr : resourceTableSearch d.table r = some ifnum := by rw [h_reach.table]; exact h_reg
  constructor
  · intro h
    by_contra! h_not
    obtain ⟨rfl, h_ps⟩ := h_not
    exact not_discipline_of_zero tasks hr h_write h_ps h
  · intro h
    rcases lt_trichotomy ps.length n.toNat with h_lt | h_len | h_gt
    · exact discipline_of_short tasks hr h_write h_le h_lt
    · exact discipline_of_exact tasks hr h_ne h_write h_le h_answer h_len
    · have h_pos : n ≠ 0 := by
        refine h.resolve_right fun h_ps => ?_
        rw [h_ps] at h_gt
        exact absurd h_gt (Nat.not_lt_zero _)
      exact discipline_of_long tasks hr h_ne h_write h_le h_answer h_pos h_gt

/-- Two bytes declared and one brought. -/
theorem i2c_length_discipline_iff_run :
    let tasks : UserTasks Unit := .always controlSuccess []
    LengthDiscipline ((i2cSystem tasks).trace (boot [[3]] ()) (writeTransaction 3 5 2 [42]))
      2 1 := by
  have h_reg : resourceTableSearch (registeredTable [[3]]) 3 = some 0 := by decide +kernel
  have h_answer : ((boot [[3]] ()).writeAnswer (.always controlSuccess []) 0 3 5
      (([42] : List UInt8).take (2 : UInt8).toNat)).1 = controlSuccess := rfl
  have h_iff := i2c_length_discipline_iff (.always controlSuccess []) (reachable_boot [[3]] ())
    h_reg (by decide) (by decide) (by decide) h_answer
  exact h_iff.mpr (Or.inl (by decide))

/-- A byte that follows a declared length of zero is reported by no callback. -/
theorem i2c_length_zero_unreported :
    let tasks : UserTasks Unit := .always controlSuccess []
    let entries := (i2cSystem tasks).trace (boot [[3]] ()) (writeTransaction 3 5 0 [42])
    (∀ p ∈ entries, p.2.ret = controlSuccess) ∧ ¬ LengthDiscipline entries 0 1 := by
  intro tasks entries
  have h_success : ∀ p ∈ entries, p.2.ret = controlSuccess := by decide +kernel
  refine ⟨h_success, fun h => ?_⟩
  obtain ⟨p, hp, h_ret⟩ := h.reports.mpr (by decide)
  exact absurd ((h_success p hp).symm.trans h_ret) (by decide)

end DeviceControl
