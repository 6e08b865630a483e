import DeviceControl.Faults.I2c
import DeviceControl.Faults.Usb
import DeviceControl.Library.Delivery
import DeviceControl.Link.Session

/-!
# Sessions on a bus that may fail

For a single command `command_tried` puts the results about the links together, and
`faulty_session` says of a session that no command is served twice, whatever gets lost, and that
success is told of none that has not been served. If the host has been told success throughout, then
the session has gone as on a bus that works (`FaultySession.complete`).

A bus that works is one that may fail (`mayFail_of_works`).
-/

namespace DeviceControl

variable {σ W : Type} {tasks : UserTasks σ} {L : HostLink σ W} {s : HostState W}

/-! ### A bus that works -/

/-- The status stage of a write is performed, or it is not. -/
theorem usbH2d_stage (tasks : UserTasks σ) (packets : ℕ → XudPacket) (status : XudResult)
    (sp : UsbSetupPacket) (server : UsbServer σ) :
    (usbH2dVendorRequest tasks packets status sp server).stage = none ∨
      (usbH2dVendorRequest tasks packets status sp server).stage = some status := by
  obtain ⟨k, h_stage, -⟩ := usbEp0Receive_spec packets sp.wLength server.requestData
  by_cases h_accepted : sp.Accepted
  · by_cases h_okay : resultAfter packets k = .okay
    · rw [usbH2d_received h_accepted h_stage h_okay]
      dsimp only
      split
      · exact Or.inr rfl
      · exact Or.inl rfl
    · rw [usbH2d_failed h_accepted h_stage h_okay]
      exact Or.inl rfl
  · rw [usbH2d_refused h_accepted]
    exact Or.inl rfl

theorem usbD2h_stage (tasks : UserTasks σ) (sp : UsbSetupPacket) (server : UsbServer σ) :
    (usbD2hVendorOutcome tasks (fun _ _ => .okay) sp server).stage = none ∨
      (usbD2hVendorOutcome tasks (fun _ _ => .okay) sp server).stage = some .okay := by
  unfold usbD2hVendorOutcome
  dsimp only
  split_ifs
  · exact Or.inr rfl
  · exact Or.inl rfl
  · exact Or.inl rfl

/-- What a master makes of a transfer on a bus that works. -/
theorem i2cCut_of_sent (tasks : UserTasks σ) (d : Device σ) (cbs : List I2cCallback)
    {stops : List I2cCallback} (h_stops : ∀ cb ∈ stops, cb = .stop) :
    I2cCut tasks d cbs ((i2cSystem tasks).run d (i2cSent tasks d cbs ++ stops)) :=
  ⟨_, stops, Transducer.upTo_prefix d cbs, h_stops, rfl⟩

theorem i2cCompleted_of_acked {d : Device σ} {cbs : List I2cCallback} (h : I2cAcked tasks d cbs)
    (stops : List I2cCallback) :
    I2cCompleted tasks d cbs stops ((i2cSystem tasks).run d (i2cSent tasks d cbs ++ stops)) :=
  ⟨h, by rw [i2cSent_of_acked h]⟩

theorem RpiI2cWorks.mayFail {write : W → List UInt8 → ℤ × W}
    {rdwr : W → List UInt8 → ℕ → HostTransfer W} {device : W → Device σ}
    (h : RpiI2cWorks tasks write rdwr device) : RpiI2cMayFail tasks write rdwr device where
  write_cut w bytes := by
    rw [h.write_device]
    exact i2cCut_of_sent tasks _ _ forall_mem_stop
  write_told w bytes h_count := by
    have h_acked : I2cAcked tasks (device w) (i2cWriteTransfer bytes) := by
      by_contra h_nacked
      have h_neg := h.write_nacked w bytes h_nacked
      omega
    rw [h.write_device]
    exact i2cCompleted_of_acked h_acked _
  rdwr_cut w bytes n := by
    rw [h.rdwr_device]
    exact i2cCut_of_sent tasks _ _ forall_mem_stop
  rdwr_told w bytes n h_ret := by
    have h_acked : I2cAcked tasks (device w) (i2cWriteTransfer bytes ++ i2cReads n) := by
      by_contra h_nacked
      exact absurd (h.rdwr_nacked w bytes n h_nacked) (Int.not_lt.mpr h_ret)
    rw [h.rdwr_device]
    exact ⟨i2cCompleted_of_acked h_acked _, (h.rdwr_acked w bytes n h_acked).2⟩

theorem XcoreI2cWorks.mayFail {write : W → List UInt8 → Bool → I2cMasterWrite W}
    {read : W → ℕ → I2cMasterRead W} {device : W → Device σ}
    (h : XcoreI2cWorks tasks write read device) : XcoreI2cMayFail tasks write read device where
  write_cut w bytes stop := by
    rw [h.write_device]
    refine i2cCut_of_sent tasks _ _ ?_
    cases stop with
    | false => exact List.forall_mem_nil _
    | true => exact forall_mem_stop
  write_told w bytes stop h_res _ := by
    have h_acked : I2cAcked tasks (device w) (i2cWriteTransfer bytes) := by
      by_contra h_nacked
      rw [h.write_nacked w bytes stop h_nacked] at h_res
      cases h_res
    rw [h.write_device]
    exact i2cCompleted_of_acked h_acked _
  read_cut w n := by
    rw [h.read_device]
    exact i2cCut_of_sent tasks _ _ forall_mem_stop
  read_told w n h_res := by
    have h_acked : I2cAcked tasks (device w) (i2cReads n) := by
      by_contra h_nacked
      rw [h.read_nacked w n h_nacked] at h_res
      cases h_res
    rw [h.read_device]
    exact ⟨i2cCompleted_of_acked h_acked _, (h.read_acked w n h_acked).2⟩

theorem UsbWorks.mayFail {controlOut : W → UsbSetupPacket → List UInt8 → ℤ × W}
    {controlIn : W → UsbSetupPacket → HostTransfer W} {server : W → UsbServer σ}
    (h : UsbWorks tasks controlOut controlIn server) :
    UsbMayFail tasks controlOut controlIn server where
  out_cut w sp bytes h_sp :=
    Or.inr ⟨packetsOf bytes, .okay, fun _ _ => rfl, h.out_server w sp bytes h_sp⟩
  out_told w sp bytes h_sp h_count := by
    refine ⟨?_, h.out_server w sp bytes h_sp⟩
    refine (usbH2d_stage tasks (packetsOf bytes) .okay sp (server w)).resolve_left fun h_none => ?_
    have h_neg := h.out_failed w sp bytes h_sp h_none
    omega
  in_cut w sp h_sp := Or.inr ⟨fun _ _ => .okay, h.in_server w sp h_sp⟩
  in_told w sp h_sp h_count := by
    have h_stage : (usbD2hVendorOutcome tasks (fun _ _ => .okay) sp (server w)).stage
        = some .okay := by
      refine (usbD2h_stage tasks sp (server w)).resolve_left fun h_none => ?_
      have h_neg := h.in_failed w sp h_sp h_none
      omega
    exact ⟨h_stage, h.in_server w sp h_sp, (h.in_completed w sp h_sp h_stage).2⟩

/-- **Works, and may fail.** What is asked of a link here is less than that it works. -/
theorem mayFail_of_works (h : L.Works tasks) (h_t : L.transport = .i2c ∨ L.transport = .usb) :
    MayFail tasks L := by
  cases L with
  | rpiI2c write rdwr device => exact .rpiI2c (RpiI2cWorks.mayFail h)
  | xcoreI2c write read device => exact .xcoreI2c (XcoreI2cWorks.mayFail h)
  | rpiSpi transfern requiresFirst device =>
    rcases h_t with h_t | h_t
    · cases h_t
    · cases h_t
  | usb controlOut controlIn server => exact .usb (UsbWorks.mayFail h)
  | xscope requestUpload server probeId =>
    rcases h_t with h_t | h_t
    · cases h_t
    · cases h_t

/-! ### A command -/

/-- **A command.** If it is in reach, it comes to an end, and has been served at most once by user
tasks that are regular. The host takes it for granted only if it has been. -/
theorem command_tried (h_regular : tasks.Regular) (h_fail : MayFail tasks L)
    (h_table : (L.device s.world).table.Reserves) {c : Command}
    (h : InReach (L.device s.world).table L.transport c) (l : HostLocals) :
    ∃ a s', L.command s l c = some (a, s') ∧
      HostTried tasks L s (c.requestOf (L.device s.world).table) a s' := by
  obtain ⟨⟨ifnum, h_search⟩, h_ne, h_len, h_pos⟩ := h
  have h_request : c.requestOf (L.device s.world).table = c.request ifnum := by
    rw [Command.requestOf, h_search, Option.getD_some]
  rw [h_request]
  cases h_dir : isControlCmdRead c.cmd with
  | true =>
    have h_tried : ∃ a s', L.controlReadCommand s l c.resid c.cmd c.payload = some (a, s') ∧
        ReadTried tasks (L.device s.world) (L.device s'.world) ifnum c.resid c.cmd
          c.payload.length a := by
      cases h_fail with
      | rpiI2c h =>
        exact ⟨_, _, rfl,
          h.readTried s.world c.payload h_search h_dir (h_pos h_dir) h_len l.data⟩
      | xcoreI2c h =>
        exact ⟨_, _, rfl,
          h.readTried s.world c.payload h_search h_dir (h_pos h_dir) h_len l.data⟩
      | usb h => exact ⟨_, _, rfl, h.readTried s.world c.payload h_search h_dir h_len⟩
    obtain ⟨a, s', h_run, h_read⟩ := h_tried
    refine ⟨a, s', (if_pos h_dir).trans h_run, ?_⟩
    rw [Command.request, if_pos h_dir]
    exact h_read.tried h_regular h_ne
  | false =>
    have h_tried : ∃ a s', L.controlWriteCommand s l c.resid c.cmd c.payload = some (a, s') ∧
        HostTried tasks L s (writeRequest ifnum c.resid c.cmd c.payload) a s' := by
      cases h_fail with
      | rpiI2c h =>
        exact ⟨_, _, rfl, h.writeTried h_table h_search h_ne h_dir h_len l⟩
      | xcoreI2c h =>
        exact ⟨_, _, rfl, h.writeTried h_table h_search h_ne h_dir h_len l⟩
      | usb h => exact ⟨_, _, rfl, h.writeTried h_table h_search h_ne h_dir h_len l⟩
    obtain ⟨a, s', h_run, h_write⟩ := h_tried
    have h_not : ¬ isControlCmdRead c.cmd = true := Bool.eq_false_iff.mp h_dir
    refine ⟨a, s', (if_neg h_not).trans h_run, ?_⟩
    rw [Command.request, if_neg h_not]
    exact h_write

/-! ### A session -/

/-- The host has been told success. -/
def HostAnswer.told (a : HostAnswer) : Bool := decide (a.ret = controlSuccess)

/-- What has become of a session with these requests on a bus that may fail. The user tasks have
been served some of them, and the host has been told success of no other. -/
structure FaultySession (tasks : UserTasks σ) (L : HostLink σ W) (s : HostState W)
    (requests : List UserRequest) (answers : List HostAnswer) (s' : HostState W) : Prop where
  length : answers.length = requests.length
  tried : ∃ taken, (commandServer tasks).AtMostOnce HostAnswer.told HostTold
    (L.device s.world).users (L.device s'.world).users (requests.zip answers) taken
  table : (L.device s'.world).table = (L.device s.world).table

section FaultySession

variable {q : UserRequest} {requests : List UserRequest} {a : HostAnswer}
  {answers : List HostAnswer} {s₁ s₂ : HostState W}

/-- A command that has been tried, and a session behind it. -/
theorem HostTried.cons (h : HostTried tasks L s q a s₁)
    (h_session : FaultySession tasks L s₁ requests answers s₂) :
    FaultySession tasks L s (q :: requests) (a :: answers) s₂ := by
  obtain ⟨h_users, h_table⟩ := h
  obtain ⟨h_length, ⟨taken, h_taken⟩, h_kept⟩ := h_session
  refine ⟨congrArg (· + 1) h_length, ?_, h_kept.trans h_table⟩
  rcases h_users with ⟨h_lost, h_ret⟩ | ⟨h_served, h_told⟩
  · rw [h_lost] at h_taken
    exact ⟨taken, h_taken.lost (decide_eq_false h_ret)⟩
  · rw [h_served] at h_taken
    exact ⟨(q, a) :: taken, h_taken.take fun h_success => h_told (of_decide_eq_true h_success)⟩

/-- A session in which the host has always been told success is one as over a bus that works. -/
theorem FaultySession.complete (h : FaultySession tasks L s requests answers s₂)
    (h_told : ∀ a ∈ answers, a.ret = controlSuccess) :
    (L.device s₂.world).users = (commandServer tasks).run (L.device s.world).users requests ∧
      List.Forall₂ (fun p a => HostTold p.1 p.2 a)
        ((commandServer tasks).trace (L.device s.world).users requests) answers := by
  obtain ⟨h_length, ⟨taken, h_taken⟩, -⟩ := h
  obtain ⟨h_run, h_agrees⟩ := h_taken.complete fun p h_mem =>
    decide_eq_true (h_told p.2 (List.of_mem_zip h_mem).2)
  rw [List.map_fst_zip h_length.ge] at h_run h_agrees
  have h_answers := List.forall₂_map_right_iff.mpr h_agrees
  rw [List.map_snd_zip h_length.le] at h_answers
  exact ⟨h_run, h_answers⟩

end FaultySession

/-- **Sessions on a bus that may fail.** Whatever becomes of the transfers, the host gets through
all commands that are in reach. User tasks that are regular have been served each of them at most
once, in their order, and success is told only of those that they have been served, with what they
have answered. -/
theorem faulty_session (h_regular : tasks.Regular) (h_fail : MayFail tasks L)
    (h_table : (L.device s.world).table.Reserves) (ps : List (Command × HostLocals))
    (h : ∀ p ∈ ps, InReach (L.device s.world).table L.transport p.1) :
    ∃ answers s', L.session s ps = some (answers, s') ∧
      FaultySession tasks L s (ps.map fun p => p.1.requestOf (L.device s.world).table) answers
        s' := by
  induction ps generalizing s with
  | nil => exact ⟨[], s, rfl, rfl, ⟨[], .nil _⟩, rfl⟩
  | cons p ps ih =>
    obtain ⟨h_head, h_tail⟩ := List.forall_mem_cons.mp h
    obtain ⟨a, s₁, h_run, h_tried⟩ := command_tried h_regular h_fail h_table h_head p.2
    -- the table is for the commands to come as it was
    have h_same := h_tried.table
    obtain ⟨answers, s₂, h_rest, h_session⟩ := ih (by rwa [h_same]) (by rwa [h_same])
    rw [h_same] at h_session
    exact ⟨a :: answers, s₂, session_cons h_run h_rest, h_tried.cons h_session⟩

/-- A Raspberry Pi and a device on one I2C bus, which comes with the number of transfers so far. The
`n`th one is cut off by a stop after `k` of its callbacks if `cuts n` is `some k`. -/
def cutRpiI2c (tasks : UserTasks σ) (cuts : ℕ → Option ℕ) : HostLink σ (ℕ × Device σ) :=
  .rpiI2c
    (fun w bytes =>
      let cbs := i2cWriteTransfer bytes
      let sent := i2cSent tasks w.2 cbs
      match cuts w.1 with
      | some k => (-1, (w.1 + 1, (i2cSystem tasks).run w.2 (sent.take k ++ [.stop])))
      | none => (if I2cAcked tasks w.2 cbs then bytes.length else -1,
          (w.1 + 1, (i2cSystem tasks).run w.2 (sent ++ [.stop]))))
    (fun w bytes n =>
      let cbs := i2cWriteTransfer bytes ++ i2cReads n
      let sent := i2cSent tasks w.2 cbs
      match cuts w.1 with
      | some k =>
        ⟨-1, .replicate n 0, (w.1 + 1, (i2cSystem tasks).run w.2 (sent.take k ++ [.stop]))⟩
      | none =>
        { ret := if I2cAcked tasks w.2 cbs then 2 else -1
          bytes := i2cBytesRead tasks w.2 cbs
          world := (w.1 + 1, (i2cSystem tasks).run w.2 (sent ++ [.stop])) })
    Prod.snd

theorem cutRpiI2c_mayFail (tasks : UserTasks σ) (cuts : ℕ → Option ℕ) :
    MayFail tasks (cutRpiI2c tasks cuts) := by
  refine .rpiI2c ?_
  constructor
  case write_cut =>
    intro w bytes
    cases cuts w.1 with
    | none => exact i2cCut_of_sent tasks _ _ forall_mem_stop
    | some k =>
      exact ⟨_, _, (List.take_prefix k _).trans (Transducer.upTo_prefix _ _), forall_mem_stop, rfl⟩
  case write_told =>
    intro w bytes h_count
    cases h_cut : cuts w.1 with
    | some k =>
      rw [h_cut] at h_count
      dsimp only at h_count
      omega
    | none =>
      rw [h_cut] at h_count
      dsimp only at h_count
      split at h_count
      case isTrue h_acked => exact i2cCompleted_of_acked h_acked _
      case isFalse => omega
  case rdwr_cut =>
    intro w bytes n
    cases cuts w.1 with
    | none => exact i2cCut_of_sent tasks _ _ forall_mem_stop
    | some k =>
      exact ⟨_, _, (List.take_prefix k _).trans (Transducer.upTo_prefix _ _), forall_mem_stop, rfl⟩
  case rdwr_told =>
    intro w bytes n h_ret
    cases h_cut : cuts w.1 with
    | some k =>
      rw [h_cut] at h_ret
      dsimp only at h_ret
      omega
    | none =>
      rw [h_cut] at h_ret
      dsimp only at h_ret
      split at h_ret
      case isTrue h_acked => exact ⟨i2cCompleted_of_acked h_acked _, rfl⟩
      case isFalse => omega

/-- The first write is cut off in its header, and the first read before its data. The application
has the byte of the second write, and has been read twice. -/
theorem faulty_session_run :
    let L := cutRpiI2c (app false) fun n => if n = 0 then some 2 else if n = 3 then some 5 else none
    let s : HostState (ℕ × Device App) := .initial (0, boot [[resourceId]] .initial)
    let ps : List (Command × HostLocals) :=
      [(⟨resourceId, 0, [42]⟩, .fill 0), (⟨resourceId, 0, [43]⟩, .fill 0),
        (⟨resourceId, 0x80, [0]⟩, .fill 0), (⟨resourceId, 0x80, [0, 0]⟩, .fill 0)]
    ∃ s', L.session s ps = some ([⟨controlError, [42]⟩, ⟨controlSuccess, [43]⟩,
        ⟨controlError, [0]⟩, ⟨controlSuccess, [43, 43]⟩], s') ∧
      FaultySession (app false) L s (ps.map fun p => p.1.requestOf s.world.2.table)
        [⟨controlError, [42]⟩, ⟨controlSuccess, [43]⟩, ⟨controlError, [0]⟩,
          ⟨controlSuccess, [43, 43]⟩] s' := by
  intro L s ps
  have h_search : resourceTableSearch s.world.2.table resourceId = some 0 := by decide +kernel
  have h_ne : resourceId ≠ controlSpecialResid := by decide
  have h_reach : ∀ p ∈ ps, InReach (L.device s.world).table L.transport p.1 := by
    intro p h_mem
    simp only [ps, List.mem_cons, List.not_mem_nil, or_false] at h_mem
    rcases h_mem with rfl | rfl | rfl | rfl
    · exact ⟨⟨0, h_search⟩, h_ne, by decide, nofun⟩
    · exact ⟨⟨0, h_search⟩, h_ne, by decide, nofun⟩
    · exact ⟨⟨0, h_search⟩, h_ne, by decide, fun _ => by decide⟩
    · exact ⟨⟨0, h_search⟩, h_ne, by decide, fun _ => by decide⟩
  have h_boot : Reachable (app false) [[resourceId]] (boot [[resourceId]] .initial) :=
    reachable_boot _ _
  have h_table : (L.device s.world).table.Reserves := h_boot.reserves
  obtain ⟨answers, s', h_run, h_tried⟩ :=
    faulty_session (app_regular false) (cutRpiI2c_mayFail (app false) _) h_table ps h_reach
  have h_answers : (L.session s ps).map Prod.fst = some _ := congrArg (Option.map Prod.fst) h_run
  have h_eval : (L.session s ps).map Prod.fst
      = some [⟨controlError, [42]⟩, ⟨controlSuccess, [43]⟩, ⟨controlError, [0]⟩,
        ⟨controlSuccess, [43, 43]⟩] := by decide +kernel
  obtain rfl := Option.some.inj (h_answers.symm.trans h_eval)
  exact ⟨s', h_run, h_tried⟩

end DeviceControl
