import DeviceControl.Link.I2c
import DeviceControl.Link.Ideal
import DeviceControl.Link.Spi
import DeviceControl.Link.Usb
import DeviceControl.Link.Xscope
import DeviceControl.Session.App

/-!
# Sessions of a host

The commands of an application, from the call of the host's function to what that returns, with the
device and its user tasks behind the bus. `host_session` is the result for a whole session over any
of the five host implementations: it comes to an end, the user tasks are served as by the command
server, and the host has been told what the transport tells of every answer.

For a single command this is `command_served`, which puts the results about the links together. The
version can be queried in between, `version_known`.
-/

namespace DeviceControl

variable {σ W : Type} {tasks : UserTasks σ} {L : HostLink σ W} {s : HostState W}

/-! ### A command -/

/-- The command is for a user task, and its payload is not too long for the host. A read is of at
least one byte. -/
structure InReach (table : ResourceTable) (t : Transport) (c : Command) : Prop where
  registered : ∃ ifnum, resourceTableSearch table c.resid = some ifnum
  ne_special : c.resid ≠ controlSpecialResid
  reach : c.payload.length ≤ t.reach
  nonempty : isControlCmdRead c.cmd = true → 1 ≤ c.payload.length

/-- The request that a command is for the device. -/
def Command.requestOf (table : ResourceTable) (c : Command) : UserRequest :=
  c.request ((resourceTableSearch table c.resid).getD ifnumReserved)

/-- **Reads.** A read is performed over every link. -/
theorem readDone (h_works : L.Works tasks) (h_ready : L.Ready s) {resid cmd ifnum : UInt8}
    {payload : List UInt8}
    (h_search : resourceTableSearch (L.device s.world).table resid = some ifnum)
    (h_read : isControlCmdRead cmd = true) (h_pos : 1 ≤ payload.length)
    (h_len : payload.length ≤ L.transport.reach) (l : HostLocals) :
    ∃ status a s', L.controlReadCommand s l resid cmd payload = some (a, s') ∧
      ReadDone tasks L s status ifnum resid cmd payload.length a s' := by
  cases L with
  | rpiI2c write rdwr device =>
    exact ⟨_, _, _, rfl, rpiI2c_readDone h_works s payload h_search h_read h_pos h_len l.data⟩
  | xcoreI2c write read device =>
    exact ⟨_, _, _, rfl, xcoreI2c_readDone h_works s payload h_search h_read h_pos h_len l.data⟩
  | rpiSpi transfern requiresFirst device =>
    exact ⟨_, _, _, rfl, rpiSpi_readDone h_works s h_ready payload h_search h_read h_len⟩
  | usb controlOut controlIn server =>
    exact ⟨_, _, _, rfl, usb_readDone h_works s payload h_search h_read h_len⟩
  | xscope requestUpload server probeId =>
    obtain ⟨r, h_run, h_done⟩ :=
      xscope_readDone h_works s h_ready l.upload payload h_search h_read h_len
    exact ⟨_, _, _, congrArg (Option.map _) h_run, h_done⟩

/-- **Writes.** -/
theorem writeServed (h_works : L.Works tasks) (h_ready : L.Ready s)
    (h_table : (L.device s.world).table.Reserves) {resid cmd ifnum : UInt8} {payload : List UInt8}
    (h_search : resourceTableSearch (L.device s.world).table resid = some ifnum)
    (h_ne : resid ≠ controlSpecialResid) (h_write : isControlCmdRead cmd = false)
    (h_len : payload.length ≤ L.transport.reach) (l : HostLocals) :
    ∃ a s', L.controlWriteCommand s l resid cmd payload = some (a, s') ∧ a.payload = payload ∧
      HostServed tasks L s (writeRequest ifnum resid cmd payload) a s' := by
  cases L with
  | rpiI2c write rdwr device =>
    exact ⟨_, _, rfl, rfl, rpiI2c_writeServed h_works h_table h_search h_ne h_write h_len l⟩
  | xcoreI2c write read device =>
    exact ⟨_, _, rfl, rfl, xcoreI2c_writeServed h_works h_table h_search h_ne h_write h_len l⟩
  | rpiSpi transfern requiresFirst device =>
    exact ⟨_, _, rfl, rfl,
      rpiSpi_writeServed h_works s h_ready h_table h_search h_ne h_write h_len l⟩
  | usb controlOut controlIn server =>
    exact ⟨_, _, rfl, rfl, usb_writeServed h_works s h_table h_search h_ne h_write h_len l⟩
  | xscope requestUpload server probeId =>
    obtain ⟨r, h_run, h_served⟩ :=
      xscope_writeServed h_works s h_ready l.upload h_search h_ne h_write h_len
    exact ⟨_, _, congrArg (Option.map _) h_run, rfl, h_served⟩

/-- **A command.** If it is in reach, it comes to an end over every link, and has been served by
user tasks that are regular. -/
theorem command_served (h_regular : tasks.Regular) (h_works : L.Works tasks) (h_ready : L.Ready s)
    (h_table : (L.device s.world).table.Reserves) {c : Command}
    (h : InReach (L.device s.world).table L.transport c) (l : HostLocals) :
    ∃ a s', L.command s l c = some (a, s') ∧
      HostServed tasks L s (c.requestOf (L.device s.world).table) a s' := by
  obtain ⟨⟨ifnum, h_search⟩, h_ne, h_len, h_pos⟩ := h
  have h_request : c.requestOf (L.device s.world).table = c.request ifnum := by
    rw [Command.requestOf, h_search, Option.getD_some]
  rw [h_request]
  cases h_dir : isControlCmdRead c.cmd with
  | true =>
    obtain ⟨status, a, s', h_run, h_done⟩ :=
      readDone h_works h_ready h_search h_dir (h_pos h_dir) h_len l
    refine ⟨a, s', (if_pos h_dir).trans h_run, ?_⟩
    rw [Command.request, if_pos h_dir]
    exact h_done.served h_regular h_ne
  | false =>
    obtain ⟨a, s', h_run, -, h_served⟩ :=
      writeServed h_works h_ready h_table h_search h_ne h_dir h_len l
    have h_not : ¬ isControlCmdRead c.cmd = true := Bool.eq_false_iff.mp h_dir
    refine ⟨a, s', (if_neg h_not).trans h_run, ?_⟩
    rw [Command.request, if_neg h_not]
    exact h_served

/-! ### A session -/

/-- A session: commands one after the other. Over xSCOPE it may wait for ever. -/
def HostLink.session (L : HostLink σ W) (s : HostState W) :
    List (Command × HostLocals) → Option (List HostAnswer × HostState W)
  | [] => some ([], s)
  | p :: ps =>
    match L.command s p.2 p.1 with
    | none => none
    | some (a, s') => (L.session s' ps).map fun r => (a :: r.1, r.2)

/-- What has become of a session with these requests: the answers that the host has are those of the
command server, as far as the transport tells of them. -/
structure SessionServed (tasks : UserTasks σ) (L : HostLink σ W) (s : HostState W)
    (requests : List UserRequest) (answers : List HostAnswer) (s' : HostState W) : Prop where
  sees : List.Forall₂ (fun p a => HostSees L.transport p.1 p.2 a)
    ((commandServer tasks).trace (L.device s.world).users requests) answers
  users : (L.device s'.world).users
    = (commandServer tasks).run (L.device s.world).users requests
  table : (L.device s'.world).table = (L.device s.world).table
  ready : L.Ready s'

/-- A session after its first command. -/
theorem session_cons {p : Command × HostLocals} {ps : List (Command × HostLocals)} {a : HostAnswer}
    {answers : List HostAnswer} {s₁ s₂ : HostState W} (h_run : L.command s p.2 p.1 = some (a, s₁))
    (h_rest : L.session s₁ ps = some (answers, s₂)) :
    L.session s (p :: ps) = some (a :: answers, s₂) := by
  rw [HostLink.session, h_run]
  dsimp only
  rw [h_rest]
  rfl

section SessionServed

variable {q : UserRequest} {requests : List UserRequest} {a : HostAnswer}
  {answers : List HostAnswer} {s₁ s₂ : HostState W}

/-- A command, and a session behind it. -/
theorem HostServed.cons (h : HostServed tasks L s q a s₁)
    (h_session : SessionServed tasks L s₁ requests answers s₂) :
    SessionServed tasks L s (q :: requests) (a :: answers) s₂ := by
  obtain ⟨h_sees, h_users, h_table, h_ready⟩ := h_session
  rw [h.users] at h_users h_sees
  exact ⟨.cons h.sees h_sees, h_users, h_table.trans h.table, h_ready⟩

/-- A session sees of the device its user tasks and its table. -/
theorem SessionServed.of_same (h : SessionServed tasks L s₁ requests answers s₂)
    (h_users : (L.device s₁.world).users = (L.device s.world).users)
    (h_table : (L.device s₁.world).table = (L.device s.world).table) :
    SessionServed tasks L s requests answers s₂ := by
  obtain ⟨h_sees, h_run, h_kept, h_ready⟩ := h
  rw [h_users] at h_sees h_run
  exact ⟨h_sees, h_run, h_kept.trans h_table, h_ready⟩

end SessionServed

/-- **Host sessions.** Over a link that works, and from any state in which it is ready, a host gets
through all commands that are in reach. User tasks that are regular are served as by a server that
takes one command after the other, and the host is told what the transport has for each answer,
whatever it is. -/
theorem host_session (h_regular : tasks.Regular) (h_works : L.Works tasks) (h_ready : L.Ready s)
    (h_table : (L.device s.world).table.Reserves) (ps : List (Command × HostLocals))
    (h : ∀ p ∈ ps, InReach (L.device s.world).table L.transport p.1) :
    ∃ answers s', L.session s ps = some (answers, s') ∧
      SessionServed tasks L s (ps.map fun p => p.1.requestOf (L.device s.world).table) answers
        s' := by
  induction ps generalizing s with
  | nil => exact ⟨[], s, rfl, .nil, rfl, rfl, h_ready⟩
  | cons p ps ih =>
    obtain ⟨h_head, h_tail⟩ := List.forall_mem_cons.mp h
    obtain ⟨a, s₁, h_run, h_served⟩ := command_served h_regular h_works h_ready h_table h_head p.2
    -- the table is for the commands to come as it was
    have h_same := h_served.table
    obtain ⟨answers, s₂, h_rest, h_session⟩ :=
      ih h_served.ready (by rwa [h_same]) (by rwa [h_same])
    rw [h_same] at h_session
    exact ⟨a :: answers, s₂, session_cons h_run h_rest, h_served.cons h_session⟩

/-- A host before its first command. -/
def HostState.initial (w : W) : HostState W := ⟨w, ⟨0, false, 0, [], fun _ => 0⟩⟩

/-- A byte written to the application over I2C, and read back twice. -/
theorem host_session_run :
    let L := idealRpiI2c (app false)
    let s : HostState (Device App) := .initial (boot [[resourceId]] .initial)
    let ps : List (Command × HostLocals) :=
      [(⟨resourceId, 0, [42]⟩, .fill 0), (⟨resourceId, 0x80, [0, 0]⟩, .fill 0)]
    ∃ s', L.session s ps = some ([⟨controlSuccess, [42]⟩, ⟨controlSuccess, [42, 42]⟩], s') ∧
      SessionServed (app false) L s (ps.map fun p => p.1.requestOf s.world.table)
        [⟨controlSuccess, [42]⟩, ⟨controlSuccess, [42, 42]⟩] s' := by
  intro L s ps
  have h_search : resourceTableSearch s.world.table resourceId = some 0 := by decide +kernel
  have h_ne : resourceId ≠ controlSpecialResid := by decide
  have h_reach : ∀ p ∈ ps, InReach (L.device s.world).table L.transport p.1 := by
    refine List.forall_mem_cons.mpr ⟨?_, List.forall_mem_singleton.mpr ?_⟩
    · exact ⟨⟨0, h_search⟩, h_ne, by decide, nofun⟩
    · exact ⟨⟨0, h_search⟩, h_ne, by decide, fun _ => by decide⟩
  have h_boot : Reachable (app false) [[resourceId]] (boot [[resourceId]] .initial) :=
    reachable_boot _ _
  have h_table : (L.device s.world).table.Reserves := h_boot.reserves
  obtain ⟨answers, s', h_run, h_served⟩ :=
    host_session (app_regular false) (idealRpiI2c_works (app false)) trivial h_table ps h_reach
  have h_answers : (L.session s ps).map Prod.fst = some _ := congrArg (Option.map Prod.fst) h_run
  have h_eval : (L.session s ps).map Prod.fst
      = some [⟨controlSuccess, [42]⟩, ⟨controlSuccess, [42, 42]⟩] := by decide +kernel
  obtain rfl := Option.some.inj (h_answers.symm.trans h_eval)
  exact ⟨s', h_run, h_served⟩

/-! ### The version -/

/-- **The version.** Every host learns the version of the device, whatever its user tasks are doing,
and they are not asked for it. -/
theorem version_known (h_works : L.Works tasks) (h_ready : L.Ready s)
    (h_table : (L.device s.world).table.Reserves) (l : HostLocals) (version : UInt8) :
    ∃ s', L.controlQueryVersion s l version = some (⟨controlSuccess, [controlVersion]⟩, s') ∧
      (L.device s'.world).users = (L.device s.world).users ∧
      (L.device s'.world).table = (L.device s.world).table ∧ L.Ready s' := by
  have h_cmd : IsSpecialCmd controlGetVersion := Or.inl rfl
  -- every implementation performs a read of the one byte
  have h_query : ∃ status a s', L.controlQueryVersion s l version = some (a, s') ∧
      ReadDone tasks L s status ifnumReserved controlSpecialResid controlGetVersion 1 a s' := by
    have h_search := resourceTableSearch_special h_table
    cases L with
    | rpiI2c write rdwr device =>
      exact ⟨_, _, _, rfl, rpiI2c_readDone h_works s [version] h_search h_cmd.read le_rfl
        one_le_i2cDataMaxBytes l.data⟩
    | xcoreI2c write read device =>
      exact ⟨_, _, _, rfl, xcoreI2c_readDone h_works s [version] h_search h_cmd.read le_rfl
        one_le_i2cDataMaxBytes l.data⟩
    | rpiSpi transfern requiresFirst device =>
      exact ⟨_, _, _, rfl, rpiSpi_readDone h_works s h_ready [version] h_search h_cmd.read
        one_le_spiDataMaxBytes⟩
    | usb controlOut controlIn server =>
      exact ⟨_, _, _, rfl, usb_specialDone h_works s version l.requestData h_cmd h_table⟩
    | xscope requestUpload server probeId =>
      have h_len : 1 ≤ xscopeUploadMaxWords := by decide
      obtain ⟨r, h_run, h_done⟩ :=
        xscope_readDone h_works s h_ready l.upload [version] h_search h_cmd.read h_len
      have h_same : s.xscope.controlQueryVersion requestUpload s.world l.upload version = _ :=
        s.xscope.controlQueryVersion_eq ..
      exact ⟨_, _, _, congrArg (Option.map _) (h_same.trans h_run), h_done⟩
  obtain ⟨status, a, s', h_run, h_done⟩ := h_query
  obtain ⟨rfl, h_users⟩ := h_done.special h_cmd
  exact ⟨s', h_run, h_users, h_done.table, h_done.ready⟩

/-- The version over USB. -/
theorem version_known_run :
    let L := idealUsb (app false)
    let s : HostState (UsbServer App) := .initial (usbBoot [[resourceId]] .initial)
    ∃ s', L.controlQueryVersion s (.fill 0) 0xFF = some (⟨controlSuccess, [controlVersion]⟩, s') ∧
      (L.device s'.world).users = (L.device s.world).users ∧
      (L.device s'.world).table = (L.device s.world).table ∧ L.Ready s' := by
  intro L s
  have h_boot : Reachable (app false) [[resourceId]] (boot [[resourceId]] .initial) :=
    reachable_boot _ _
  have h_table : (L.device s.world).table.Reserves := h_boot.reserves
  exact version_known (idealUsb_works (app false)) trivial h_table (.fill 0) 0xFF

end DeviceControl
