import DeviceControl.Link.Session

/-!
# The example hosts

Each example has a host program for its transport. It learns the version, and then writes a byte to
the application and reads it back, four times. The device of the examples can be built with
`ERRONEOUS_DEVICE`, which makes the application refuse every third command.

`example_exit_iff` says that the program tells the two builds apart, over every transport: from
whatever state the application is in, it exits with 0 exactly if the device is not erroneous. A read
that is refused does not show over SPI, but a write does, and one of the four writes is among the
refused commands even where the counter of the application wraps around.
-/

namespace DeviceControl

variable {W : Type}

/-! ### Before the first command -/

/-- A probe that the xSCOPE endpoint registers. -/
structure XscopeRegistration where
  id : UInt32
  name : String

/-- `XSCOPE_CONTROL_PROBE`. -/
def xscopeControlProbe : String := "Control Probe"

namespace XscopeHost

/-- `register_callback`. -/
def registerCallback (h : XscopeHost) (r : XscopeRegistration) : XscopeHost :=
  if r.name = xscopeControlProbe then { h with probeId := r.id, probeIdSet := true } else h

/-- `control_init_xscope`, once the endpoint is connected. It waits for the registration of the
probe, for ever if that does not come. -/
def controlInitXscope (h : XscopeHost) (registrations : List XscopeRegistration) :
    Option XscopeHost :=
  let h := registrations.foldl registerCallback h
  if h.probeIdSet then some h else none

end XscopeHost

namespace HostLink

variable {σ : Type} (L : HostLink σ W)

/-- `control_init_i2c`, `control_init_spi_pi`, `control_init_usb` and `control_init_xscope`, once
the bus has been opened. The one for I2C of a Raspberry Pi writes command zero to register zero,
from an array that is not initialised. -/
def controlInit (s : HostState W) (data : Buffer UInt8 3)
    (registrations : List XscopeRegistration) : Option (HostState W) :=
  match L with
  | rpiI2c write _ _ =>
    let built := controlBuildI2cData data 0 0 (some data.toList) 0
    some { s with world := (write s.world (built.2.buffer.front 3)).2 }
  | xscope .. =>
    (s.xscope.controlInitXscope registrations).map fun h => { s with xscope := h }
  | _ => some s

/-! ### The program -/

/-- The variables of a round that are not initialised: those of its two commands, and the array of
the USB program for the bytes that it reads. -/
structure RoundLocals where
  write : HostLocals
  read : HostLocals
  readPayload : List UInt8

/-- One round: the byte is written and read back. The USB program reads into an array of its own,
and compares all of it; the others compare the first byte. With the flag come the payload for the
next round and the state. -/
def exampleRound (s : HostState W) (l : RoundLocals) (i : UInt8) (payload : List UInt8) :
    Option (Bool × List UInt8 × HostState W) :=
  let payload := payload.set 0 i
  match L.controlWriteCommand s l.write resourceId (controlCmdSetWrite 0) payload with
  | none => none
  | some (written, s) =>
    if written.ret ≠ controlSuccess then some (false, payload, s)
    else
      let readPayload := if L.transport = .usb then l.readPayload else payload
      match L.controlReadCommand s l.read resourceId (controlCmdSetRead 0) readPayload with
      | none => none
      | some (read, s) =>
        let returned := if L.transport = .usb then read.payload else read.payload.take 1
        some (read.ret = controlSuccess ∧ ∀ b ∈ returned, b = i,
          if L.transport = .usb then payload else read.payload, s)

/-- The rounds, with the status that the program exits with. -/
def exampleRounds (locals : UInt8 → RoundLocals) (s : HostState W) (payload : List UInt8) :
    List UInt8 → Option (ℕ × HostState W)
  | [] => some (0, s)
  | i :: is =>
    match L.exampleRound s (locals i) i payload with
    | none => none
    | some (false, _, s) => some (1, s)
    | some (true, payload, s) => exampleRounds locals s payload is

/-- `main`, for a payload of `n` bytes. A version other than the one of the library is reported, and
no more. -/
def exampleMain (s : HostState W) (data : Buffer UInt8 3) (registrations : List XscopeRegistration)
    (l : HostLocals) (locals : UInt8 → RoundLocals) (n : ℕ) : Option (ℕ × HostState W) :=
  match L.controlInit s data registrations with
  | none => none
  | some s =>
    match L.controlQueryVersion s l 0xFF with
    | none => none
    | some (version, s) =>
      if version.ret ≠ controlSuccess then some (1, s)
      else L.exampleRounds locals s ((List.range n).map fun i => UInt8.ofNat (i + 1)) [0, 1, 2, 3]

end HostLink

/-! ### The application -/

/-- A build refuses the command that is counted behind `numCommands` others. -/
def App.Refuses (erroneous : Bool) (numCommands : ℕ) : Prop :=
  erroneous = true ∧ incr numCommands % 3 = 0

section Application

variable {erroneous : Bool}

theorem App.takenFor_iff (numCommands : ℕ) :
    App.takenFor erroneous (incr numCommands) resourceId ≠ resourceId ↔
      App.Refuses erroneous numCommands := by
  have h_next : resourceId + 1 ≠ resourceId := by decide
  unfold App.takenFor App.Refuses
  split
  · next h => exact iff_of_true h_next h
  · next h => exact iff_of_false (not_not.mpr rfl) h

/-- A write is counted, and refused or stored. -/
theorem app_write (users : App) (ifnum cmd : UInt8) (payload : List UInt8) :
    (App.Refuses erroneous users.numCommands →
      (commandServer (app erroneous)).step users (writeRequest ifnum resourceId cmd payload)
        = ({ users with numCommands := incr users.numCommands }, ⟨controlError, []⟩)) ∧
    (¬ App.Refuses erroneous users.numCommands → ∀ i rest, payload = i :: rest →
      (commandServer (app erroneous)).step users (writeRequest ifnum resourceId cmd payload)
        = (⟨incr users.numCommands, i⟩, ⟨controlSuccess, []⟩)) := by
  constructor
  · intro h_refuses
    have h_for := (App.takenFor_iff _).mpr h_refuses
    dsimp only [commandServer, writeRequest, app]
    rw [if_pos h_for]
  · rintro h_takes i rest rfl
    have h_for := (App.takenFor_iff _).not.mpr h_takes
    dsimp only [commandServer, writeRequest, app]
    rw [if_neg h_for]
    rfl

/-- A read is counted, and refused or filled. -/
theorem app_read (users : App) (ifnum cmd : UInt8) (n : ℕ) :
    (App.Refuses erroneous users.numCommands →
      (commandServer (app erroneous)).step users (readRequest ifnum resourceId cmd n)
        = ({ users with numCommands := incr users.numCommands }, ⟨controlError, []⟩)) ∧
    (¬ App.Refuses erroneous users.numCommands →
      (commandServer (app erroneous)).step users (readRequest ifnum resourceId cmd n)
        = ({ users with numCommands := incr users.numCommands },
            ⟨controlSuccess, List.replicate n users.testValue⟩)) := by
  constructor
  · intro h_refuses
    have h_for := (App.takenFor_iff _).mpr h_refuses
    dsimp only [commandServer, readRequest, app]
    rw [if_pos h_for]
    rfl
  · intro h_takes
    have h_for := (App.takenFor_iff _).not.mpr h_takes
    dsimp only [commandServer, readRequest, app]
    rw [if_neg h_for]
    rfl

end Application

/-! ### The rounds -/

section Rounds

variable {erroneous : Bool} {L : HostLink App W} {s : HostState W} {n : ℕ}

/-- What the commands of a round count on. -/
structure ExampleReady (L : HostLink App W) (s : HostState W) : Prop where
  reserves : (L.device s.world).table.Reserves
  registered : ∃ ifnum, resourceTableSearch (L.device s.world).table resourceId = some ifnum
  ready : L.Ready s

/-- The next command finds the device as this one has. -/
theorem HostServed.exampleReady {s' : HostState W} {q : UserRequest} {a : HostAnswer}
    (h : HostServed (app erroneous) L s q a s') (h_ready : ExampleReady L s) :
    ExampleReady L s' := by
  obtain ⟨h_reserves, h_registered, -⟩ := h_ready
  rw [← h.table] at h_reserves h_registered
  exact ⟨h_reserves, h_registered, h.ready⟩

theorem resourceId_ne_special : resourceId ≠ controlSpecialResid := by decide

/-- Both answers of the application to a write are told as they are. -/
theorem Transport.told_write (t : Transport) :
    t.told .write controlSuccess = controlSuccess ∧ t.told .write controlError = controlError := by
  cases t with
  | i2c => exact ⟨rfl, rfl⟩
  | spi => exact ⟨rfl, rfl⟩
  | usb => exact ⟨rfl, rfl⟩
  | xscope => exact ⟨rfl, rfl⟩

theorem Transport.told_read_success (t : Transport) :
    t.told .read controlSuccess = controlSuccess := by
  cases t <;> rfl

/-- **The write of a round.** -/
theorem example_write (h_works : L.Works (app erroneous)) (h : ExampleReady L s) (l : HostLocals)
    (i : UInt8) (rest : List UInt8) (h_len : (i :: rest).length ≤ L.transport.reach) :
    ∃ a s', L.controlWriteCommand s l resourceId (controlCmdSetWrite 0) (i :: rest) = some (a, s') ∧
      ExampleReady L s' ∧
      (L.device s'.world).users.numCommands = incr (L.device s.world).users.numCommands ∧
      (App.Refuses erroneous (L.device s.world).users.numCommands → a.ret = controlError) ∧
      (¬ App.Refuses erroneous (L.device s.world).users.numCommands →
        a.ret = controlSuccess ∧ (L.device s'.world).users.testValue = i) := by
  obtain ⟨ifnum, h_search⟩ := h.registered
  obtain ⟨a, s', h_run, -, h_served⟩ := writeServed h_works h.ready h.reserves h_search
    resourceId_ne_special (isControlCmdRead_setWrite 0) h_len l
  obtain ⟨h_refused, h_stored⟩ := app_write (L.device s.world).users ifnum (controlCmdSetWrite 0)
    (i :: rest)
  obtain ⟨h_success, h_error⟩ := Transport.told_write L.transport
  have h_users := h_served.users
  have h_ret := h_served.sees.ret
  refine ⟨a, s', h_run, h_served.exampleReady h, ?_, fun h_refuses => ?_, fun h_takes => ?_⟩
  · by_cases h_refuses : App.Refuses erroneous (L.device s.world).users.numCommands
    · rw [h_users, h_refused h_refuses]
    · rw [h_users, h_stored h_refuses i rest rfl]
  · rw [h_ret, h_refused h_refuses]
    exact h_error
  · rw [h_ret, h_users, h_stored h_takes i rest rfl]
    exact ⟨h_success, rfl⟩

/-- **The read of a round.** If it is refused, the host may be told of success all the same, but it
has as many bytes as it has asked for. -/
theorem example_read (h_works : L.Works (app erroneous)) (h : ExampleReady L s) (l : HostLocals)
    {payload : List UInt8} (h_pos : 1 ≤ payload.length)
    (h_len : payload.length ≤ L.transport.reach) :
    ∃ a s', L.controlReadCommand s l resourceId (controlCmdSetRead 0) payload = some (a, s') ∧
      ExampleReady L s' ∧
      (L.device s'.world).users.numCommands = incr (L.device s.world).users.numCommands ∧
      (a.ret = controlSuccess → a.payload.length = payload.length) ∧
      (¬ App.Refuses erroneous (L.device s.world).users.numCommands → a.ret = controlSuccess ∧
        a.payload = List.replicate payload.length (L.device s.world).users.testValue) := by
  obtain ⟨ifnum, h_search⟩ := h.registered
  obtain ⟨status, a, s', h_run, h_done⟩ :=
    readDone h_works h.ready h_search (isControlCmdRead_setRead 0) h_pos h_len l
  have h_served := h_done.served (app_regular erroneous) resourceId_ne_special
  obtain ⟨h_refused, h_filled⟩ := app_read (L.device s.world).users ifnum (controlCmdSetRead 0)
    payload.length
  have h_users := h_served.users
  refine ⟨a, s', h_run, h_served.exampleReady h, ?_, h_served.sees.length rfl, fun h_takes => ?_⟩
  · by_cases h_refuses : App.Refuses erroneous (L.device s.world).users.numCommands
    · rw [h_users, h_refused h_refuses]
    · rw [h_users, h_filled h_refuses]
  · have h_ret := h_served.sees.ret
    have h_payload := h_served.sees.payload rfl
    rw [h_filled h_takes] at h_ret h_payload
    exact ⟨h_ret.trans (Transport.told_read_success L.transport), h_payload rfl⟩

/-- **A round.** It comes to an end. If it has gone through, its write has been granted and the next
round finds everything in place, and it goes through if both of its commands are granted. -/
theorem exampleRound_result (h_works : L.Works (app erroneous)) (h : ExampleReady L s)
    (h_pos : 1 ≤ n) (h_reach : n ≤ L.transport.reach) {l : HostLink.RoundLocals}
    (h_array : l.readPayload.length = n) (i : UInt8) {payload : List UInt8}
    (h_len : payload.length = n) :
    let c := (L.device s.world).users.numCommands
    ∃ ok payload' s', L.exampleRound s l i payload = some (ok, payload', s') ∧
      (ok = true → ¬ App.Refuses erroneous c ∧ ExampleReady L s' ∧ payload'.length = n ∧
        (L.device s'.world).users.numCommands = incr (incr c)) ∧
      (¬ App.Refuses erroneous c → ¬ App.Refuses erroneous (incr c) → ok = true) := by
  intro c
  obtain ⟨b, rest, rfl⟩ := List.exists_cons_of_length_pos (h_len.symm ▸ h_pos)
  have h_rest : (i :: rest).length = n := h_len
  obtain ⟨written, s₁, h_write, h_ready, h_count, h_refused, h_stored⟩ :=
    example_write h_works h l.write i rest (h_rest.trans_le h_reach)
  unfold HostLink.exampleRound
  dsimp only
  rw [List.set_cons_zero, h_write]
  by_cases h_refuses : App.Refuses erroneous c
  · -- the host is told of the refusal of a write
    have h_error : written.ret ≠ controlSuccess := by
      rw [h_refused h_refuses]
      decide
    refine ⟨false, i :: rest, s₁, if_pos h_error, nofun, fun h_takes => absurd h_refuses h_takes⟩
  obtain ⟨h_success, h_value⟩ := h_stored h_refuses
  set array := if L.transport = .usb then l.readPayload else i :: rest with h_eq
  have h_asked : array.length = n := by
    rw [h_eq]
    split
    · exact h_array
    · exact h_rest
  obtain ⟨read, s₂, h_read, h_ready₂, h_count₂, h_filled, h_returned⟩ :=
    example_read h_works h_ready l.read (h_asked.symm ▸ h_pos) (h_asked.trans_le h_reach)
  rw [h_count] at h_count₂ h_returned
  rw [h_asked, h_value] at h_returned
  dsimp only
  rw [if_neg (not_not.mpr h_success), h_read]
  refine ⟨_, _, s₂, rfl, fun h_ok => ?_, fun _ h_takes => ?_⟩
  · obtain ⟨h_ret, -⟩ := of_decide_eq_true h_ok
    refine ⟨h_refuses, h_ready₂, ?_, h_count₂⟩
    split
    · exact h_rest
    · exact (h_filled h_ret).trans h_asked
  · obtain ⟨h_ret, h_payload⟩ := h_returned h_takes
    refine decide_eq_true ⟨h_ret, fun b hb => ?_⟩
    rw [h_payload] at hb
    split at hb
    · exact List.eq_of_mem_replicate hb
    · exact List.eq_of_mem_replicate (List.mem_of_mem_take hb)

/-- The command that comes `2 * k` behind another one, counted from the next round. -/
theorem App.refuses_succ (c k : ℕ) :
    App.Refuses erroneous (incr (incr c) + 2 * k) ↔ App.Refuses erroneous (c + 2 * (k + 1)) := by
  have h_count : incr (incr (incr c) + 2 * k) = incr (c + 2 * (k + 1)) := by
    unfold incr
    omega
  rw [App.Refuses, App.Refuses, h_count]

/-- **The rounds.** The program comes to an end. It exits with 1 if the write of one of its rounds
is refused, and with 0 if the device is not erroneous. -/
theorem exampleRounds_result (h_works : L.Works (app erroneous)) (h : ExampleReady L s)
    (h_pos : 1 ≤ n) (h_reach : n ≤ L.transport.reach) {locals : UInt8 → HostLink.RoundLocals}
    (h_array : ∀ i, (locals i).readPayload.length = n) {payload : List UInt8}
    (h_len : payload.length = n) (is : List UInt8) :
    let c := (L.device s.world).users.numCommands
    ∃ code s', L.exampleRounds locals s payload is = some (code, s') ∧
      ((∃ k < is.length, App.Refuses erroneous (c + 2 * k)) → code = 1) ∧
      (erroneous = false → code = 0) := by
  induction is generalizing s payload with
  | nil => exact ⟨0, s, rfl, fun ⟨k, h_k, _⟩ => absurd h_k (Nat.not_lt_zero k), fun _ => rfl⟩
  | cons i is ih =>
    intro c
    obtain ⟨ok, payload', s₁, h_round, h_next, h_granted⟩ :=
      exampleRound_result h_works h h_pos h_reach (h_array i) i h_len
    rw [HostLink.exampleRounds, h_round]
    cases ok with
    | false =>
      refine ⟨1, s₁, rfl, fun _ => rfl, fun h_sound => ?_⟩
      -- a device that is not erroneous grants everything
      have h_takes (k : ℕ) : ¬ App.Refuses erroneous k := fun h_refuses => by
        rw [h_sound] at h_refuses
        cases h_refuses.1
      cases h_granted (h_takes _) (h_takes _)
    | true =>
      obtain ⟨h_takes, h_ready, h_length, h_count⟩ := h_next rfl
      obtain ⟨code, s₂, h_run, h_found, h_sound⟩ := ih h_ready h_length
      refine ⟨code, s₂, h_run, ?_, h_sound⟩
      rintro ⟨k, h_k, h_refuses⟩
      cases k with
      | zero => exact absurd h_refuses h_takes
      | succ k =>
        refine h_found ⟨k, Nat.lt_of_succ_lt_succ h_k, ?_⟩
        rw [h_count]
        exact (App.refuses_succ c k).mpr h_refuses

/-- One of four writes is refused, from whatever value of the counter, with reads between them. -/
theorem exists_refused (c : ℕ) : ∃ k < 4, App.Refuses true (c + 2 * k) := by
  -- the counter behind the first one is below `2 ^ 32`, and the others follow it
  have h_next (k : ℕ) : incr (c + 2 * k) = (incr c + 2 * k) % 2 ^ 32 := by
    unfold incr
    rw [Nat.mod_add_mod, Nat.add_right_comm]
  have h_lt : incr c < 2 ^ 32 := Nat.mod_lt _ (by decide)
  suffices h : ∃ k < 4, (incr c + 2 * k) % 2 ^ 32 % 3 = 0 by
    obtain ⟨k, h_k, h_zero⟩ := h
    exact ⟨k, h_k, rfl, (congrArg (· % 3) (h_next k)).trans h_zero⟩
  generalize incr c = m at h_lt
  by_cases h_wrap : m + 6 < 2 ^ 32
  · -- without a wrap the first three differ modulo 3
    have h_small {k : ℕ} (h_k : k < 3) : (m + 2 * k) % 2 ^ 32 = m + 2 * k :=
      Nat.mod_eq_of_lt (by omega)
    have h_some : ∃ k < 3, (m + 2 * k) % 3 = 0 := by
      have h_cases : m % 3 = 0 ∨ m % 3 = 1 ∨ m % 3 = 2 := by omega
      rcases h_cases with h | h | h
      · exact ⟨0, by decide, h⟩
      · exact ⟨1, by decide, by omega⟩
      · exact ⟨2, by decide, by omega⟩
    obtain ⟨k, h_k, h_zero⟩ := h_some
    exact ⟨k, h_k.trans (by decide), (congrArg (· % 3) (h_small h_k)).trans h_zero⟩
  · -- six values are left
    have h_ge : 4294967290 ≤ m := by omega
    interval_cases m <;> decide

end Rounds

/-! ### The initialisation -/

section Init

variable {σ : Type} {tasks : UserTasks σ} {L : HostLink σ W} {s : HostState W}

/-- The endpoint has registered this probe last under the name of the library. -/
def RegistersProbe (registrations : List XscopeRegistration) (probeId : UInt32) : Prop :=
  (registrations.filter fun r => r.name = xscopeControlProbe).getLast?.map XscopeRegistration.id
    = some probeId

theorem foldl_registerCallback (h : XscopeHost) {registrations : List XscopeRegistration}
    {probeId : UInt32} (h_probe : RegistersProbe registrations probeId) :
    registrations.foldl XscopeHost.registerCallback h
      = { h with probeId := probeId, probeIdSet := true } := by
  induction registrations using List.reverseRecOn with
  | nil => cases h_probe
  | append_singleton registrations r ih =>
    rw [RegistersProbe, List.filter_append] at h_probe
    rw [List.foldl_append, List.foldl_cons, List.foldl_nil, XscopeHost.registerCallback]
    by_cases h_name : r.name = xscopeControlProbe
    · rw [List.filter_cons_of_pos (by simpa using h_name), List.filter_nil, List.getLast?_concat]
        at h_probe
      obtain rfl : r.id = probeId := Option.some.inj h_probe
      rw [if_pos h_name]
      -- what came before has left the other fields alone
      have h_kept (registrations : List XscopeRegistration) :
          { registrations.foldl XscopeHost.registerCallback h with
            probeId := r.id, probeIdSet := true }
          = { h with probeId := r.id, probeIdSet := true } := by
        induction registrations using List.reverseRecOn with
        | nil => rfl
        | append_singleton registrations r' ih' =>
          rw [List.foldl_append, List.foldl_cons, List.foldl_nil, XscopeHost.registerCallback]
          split
          · exact ih'
          · exact ih'
      exact h_kept registrations
    · rw [List.filter_cons_of_neg (by simpa using h_name), List.filter_nil, List.append_nil]
        at h_probe
      rw [if_neg h_name, ih h_probe]

/-- The program can be started: no transaction is going on over SPI, and the probe of the device is
registered. -/
def HostLink.Starts (L : HostLink σ W) (s : HostState W)
    (registrations : List XscopeRegistration) : Prop :=
  match L with
  | rpiSpi _ _ device => (device s.world).spi = Spi.zero
  | xscope _ _ probeId => RegistersProbe registrations probeId
  | _ => True

/-- Command zero, written to register zero over I2C, is refused at its length. -/
theorem i2cSent_zero (tasks : UserTasks σ) {d : Device σ} (h_table : d.table.Reserves) :
    let d' := (i2cSystem tasks).run d (i2cSent tasks d (i2cWriteTransfer [0, 0, 0]) ++ [.stop])
    d'.users = d.users ∧ d'.table = d.table := by
  intro d'
  refine ⟨?_, run_i2c_table d _⟩
  obtain ⟨h_run, h_trace⟩ := trace_address tasks d 0 (resourceTableSearch_special h_table)
  set address : List I2cCallback := [.writeStart, .writeData controlSpecialResid, .writeData 0]
  -- up to the length the slave acknowledges everything
  have h_acked : I2cAcked tasks d address := by
    refine i2cAcked_of_quiet ?_
    rw [h_trace]
    simp [Reply.quiet_success]
  have h_sent : i2cSent tasks d (address ++ [.writeData 0]) = address ++ [.writeData 0] :=
    Transducer.upTo_concat h_acked
  show ((i2cSystem tasks).run d (i2cSent tasks d (address ++ [.writeData 0]) ++ [.stop])).users
    = d.users
  rw [h_sent, Transducer.run_append,
    run_readData_stop_users _ (List.forall_mem_singleton.mpr (Or.inr rfl)), Transducer.run_append,
    h_run, Transducer.run_cons, step_lengthZero]
  rfl

variable (h_works : L.Works tasks) (h_table : (L.device s.world).table.Reserves)

include h_works h_table

/-- **The initialisation.** What a host brings to the device with it is benign, and it is ready for
commands then. -/
theorem controlInit_ready {registrations : List XscopeRegistration}
    (h_starts : L.Starts s registrations) (data : Buffer UInt8 3) :
    ∃ s', L.controlInit s data registrations = some s' ∧
      (L.device s'.world).users = (L.device s.world).users ∧
      (L.device s'.world).table = (L.device s.world).table ∧ L.Ready s' := by
  cases L with
  | rpiI2c write rdwr device =>
    obtain ⟨h_users, h_same⟩ := i2cSent_zero tasks h_table
    have h_sent : (controlBuildI2cData data 0 0 (some data.toList) 0).2.buffer.front 3
        = [0, 0, 0] :=
      front_storeHeader (.start data) 0 0 0 le_rfl
    have h_device := h_works.write_device s.world [0, 0, 0]
    refine ⟨_, rfl, ?_, ?_, trivial⟩
    · show (device (write s.world _).2).users = _
      rw [h_sent, h_device]
      exact h_users
    · show (device (write s.world _).2).table = _
      rw [h_sent, h_device]
      exact h_same
  | xcoreI2c write read device => exact ⟨s, rfl, rfl, rfl, trivial⟩
  | rpiSpi transfern requiresFirst device => exact ⟨s, rfl, rfl, rfl, h_starts⟩
  | usb controlOut controlIn server => exact ⟨s, rfl, rfl, rfl, trivial⟩
  | xscope requestUpload server probeId =>
    have h_init : s.xscope.controlInitXscope registrations
        = some { s.xscope with probeId := probeId, probeIdSet := true } := by
      unfold XscopeHost.controlInitXscope
      rw [foldl_registerCallback s.xscope h_starts]
      rfl
    exact ⟨_, congrArg (Option.map _) h_init, rfl, rfl, rfl, rfl⟩

end Init

/-! ### The program -/

/-- **The example hosts.** Over every transport, from whatever state the application is in and for
every size of the payload that the host takes, the program comes to an end, and exits with 0 exactly
if the device is not erroneous. -/
theorem example_exit_iff {erroneous : Bool} {L : HostLink App W} {s : HostState W}
    (h_works : L.Works (app erroneous)) (h_table : (L.device s.world).table.Reserves)
    {ifnum : UInt8}
    (h_search : resourceTableSearch (L.device s.world).table resourceId = some ifnum)
    {registrations : List XscopeRegistration} (h_starts : L.Starts s registrations) {n : ℕ}
    (h_pos : 1 ≤ n) (h_reach : n ≤ L.transport.reach) (data : Buffer UInt8 3) (l : HostLocals)
    {locals : UInt8 → HostLink.RoundLocals} (h_array : ∀ i, (locals i).readPayload.length = n) :
    ∃ code s', L.exampleMain s data registrations l locals n = some (code, s') ∧
      (code = 0 ↔ erroneous = false) := by
  obtain ⟨s₁, h_init, -, h_table₁, h_ready₁⟩ := controlInit_ready h_works h_table h_starts data
  have h_reserves₁ : (L.device s₁.world).table.Reserves := by rwa [h_table₁]
  obtain ⟨s₂, h_version, -, h_table₂, h_ready₂⟩ := version_known h_works h_ready₁ h_reserves₁ l 0xFF
  have h_ready : ExampleReady L s₂ := by
    refine ⟨?_, ⟨ifnum, ?_⟩, h_ready₂⟩
    · rwa [h_table₂]
    · rw [h_table₂, h_table₁, h_search]
  have h_len : ((List.range n).map fun i => UInt8.ofNat (i + 1)).length = n := by
    rw [List.length_map, List.length_range]
  obtain ⟨code, s', h_run, h_found, h_sound⟩ :=
    exampleRounds_result h_works h_ready h_pos h_reach h_array h_len [0, 1, 2, 3]
  refine ⟨code, s', ?_, fun h_zero => ?_, h_sound⟩
  · rw [HostLink.exampleMain, h_init]
    dsimp only
    rw [h_version]
    exact h_run
  · -- a device that is erroneous would have been found out
    by_contra h_erroneous
    have h_true : erroneous = true := Bool.eq_true_of_not_eq_false h_erroneous
    rw [h_true] at h_found
    have h_one := h_found (exists_refused _)
    omega

/-- The erroneous build over xSCOPE, with another probe registered in front of the one of the
library. -/
theorem example_exit_iff_run :
    let L := idealXscope (app true) 7
    let s : HostState (XscopeServer App) :=
      .initial ⟨boot [[resourceId]] .initial, Buffer.ofList 0 []⟩
    let registrations : List XscopeRegistration := [⟨3, "Other"⟩, ⟨7, xscopeControlProbe⟩]
    let locals : UInt8 → HostLink.RoundLocals := fun _ => ⟨.fill 0, .fill 0, [0, 0]⟩
    ∃ s', L.exampleMain s (Buffer.ofList 0 []) registrations (.fill 0) locals 2 = some (1, s') := by
  intro L s registrations locals
  have h_boot : Reachable (app true) [[resourceId]] (boot [[resourceId]] .initial) :=
    reachable_boot _ _
  have h_table : (L.device s.world).table.Reserves := h_boot.reserves
  have h_search : resourceTableSearch (L.device s.world).table resourceId = some 0 := by
    decide +kernel
  have h_starts : L.Starts s registrations := by
    show RegistersProbe registrations 7
    unfold RegistersProbe
    decide +kernel
  have h_reach : 2 ≤ L.transport.reach := by
    show 2 ≤ 64
    decide
  obtain ⟨code, s', h_run, h_iff⟩ := example_exit_iff (idealXscope_works (app true) 7) h_table
    h_search h_starts (by decide) h_reach (Buffer.ofList 0 []) (.fill 0) (fun i => rfl : ∀ i,
      (locals i).readPayload.length = 2)
  have h_code : (L.exampleMain s (Buffer.ofList 0 []) registrations (.fill 0) locals 2).map Prod.fst
      = some 1 := by decide +kernel
  rw [h_run] at h_code
  obtain rfl : code = 1 := Option.some.inj h_code
  exact ⟨s', h_run⟩

end DeviceControl
