import DeviceControl.Link.Refused

/-!
# Sessions with unknown resources

A host that asks for resources which no user task has registered does no harm: in a session where
such commands come among others, the user tasks and the answers to the others are as in the session
without them (`mixed_session`). So a host may try which resources a device has. Over I2C and USB it
gets to know.
-/

namespace DeviceControl

variable {σ W : Type} {tasks : UserTasks σ} {L : HostLink σ W} {s : HostState W}

/-- What has become of a session in which some commands are for unknown resources. The others have
been served as if they had come alone. -/
structure MixedServed (tasks : UserTasks σ) (L : HostLink σ W) (s : HostState W)
    (ps : List (Command × HostLocals)) (answers : List HostAnswer) (s' : HostState W) : Prop where
  length : answers.length = ps.length
  served : SessionServed tasks L s
    ((ps.filter fun p => p.1.known (L.device s.world).table).map fun p =>
      p.1.requestOf (L.device s.world).table)
    (((ps.zip answers).filter fun x => x.1.1.known (L.device s.world).table).map Prod.snd) s'
  refused : ∀ x ∈ ps.zip answers, x.1.1.known (L.device s.world).table = false →
    ∃ recorded, x.2.ret = L.transport.toldUnknown x.1.1.method recorded x.1.2.upload.pad

section Cons

variable {p : Command × HostLocals} {ps : List (Command × HostLocals)} {a : HostAnswer}
  {answers : List HostAnswer} {ret : ControlRet} {s₁ s₂ : HostState W}

/-- A command of a user task is the first of those that are served. -/
theorem MixedServed.cons_known (h : MixedServed tasks L s₁ ps answers s₂)
    (h_known : p.1.known (L.device s.world).table = true)
    (h_served : HostServed tasks L s (p.1.requestOf (L.device s.world).table) a s₁) :
    MixedServed tasks L s (p :: ps) (a :: answers) s₂ := by
  obtain ⟨h_length, h_session, h_refused⟩ := h
  rw [h_served.table] at h_session h_refused
  constructor
  case length => exact congrArg Nat.succ h_length
  case served =>
    have h_commands : ((p :: ps).filter fun p => p.1.known (L.device s.world).table)
        = p :: ps.filter fun p => p.1.known (L.device s.world).table :=
      List.filter_cons_of_pos h_known
    have h_answers : (((p, a) :: ps.zip answers).filter fun x =>
          x.1.1.known (L.device s.world).table)
        = (p, a) :: (ps.zip answers).filter fun x => x.1.1.known (L.device s.world).table :=
      List.filter_cons_of_pos h_known
    rw [List.zip_cons_cons, h_commands, h_answers]
    exact h_served.cons h_session
  case refused =>
    refine List.forall_mem_cons.mpr ⟨fun h_unknown => ?_, h_refused⟩
    rw [h_known] at h_unknown
    cases h_unknown

/-- One for an unknown resource is not among them. -/
theorem MixedServed.cons_unknown (h : MixedServed tasks L s₁ ps answers s₂)
    (h_unknown : p.1.known (L.device s.world).table = false) {recorded : ControlStatus}
    (h_command : HostRefused L s
      (L.transport.toldUnknown p.1.method recorded p.2.upload.pad) a s₁) :
    MixedServed tasks L s (p :: ps) (a :: answers) s₂ := by
  obtain ⟨h_length, h_session, h_refused⟩ := h
  rw [h_command.table] at h_session h_refused
  have h_not : ¬ p.1.known (L.device s.world).table = true := Bool.eq_false_iff.mp h_unknown
  constructor
  case length => exact congrArg Nat.succ h_length
  case served =>
    have h_commands : ((p :: ps).filter fun p => p.1.known (L.device s.world).table)
        = ps.filter fun p => p.1.known (L.device s.world).table :=
      List.filter_cons_of_neg h_not
    have h_answers : (((p, a) :: ps.zip answers).filter fun x =>
          x.1.1.known (L.device s.world).table)
        = (ps.zip answers).filter fun x => x.1.1.known (L.device s.world).table :=
      List.filter_cons_of_neg h_not
    rw [List.zip_cons_cons, h_commands, h_answers]
    -- the device is for the session as it was before the command
    exact h_session.of_same h_command.users h_command.table
  case refused => exact List.forall_mem_cons.mpr ⟨fun _ => ⟨recorded, h_command.ret⟩, h_refused⟩

end Cons

/-- **Sessions with unknown resources.** The commands for them leave no trace: user tasks that are
regular are served, and the answers to the other commands are, as in the session without them. No
payload is beyond the reach of the transport, and the other commands are in reach altogether. -/
theorem mixed_session (h_regular : tasks.Regular) (h_works : L.Works tasks) (h_ready : L.Ready s)
    (h_table : (L.device s.world).table.Reserves) (ps : List (Command × HostLocals))
    (h : ∀ p ∈ ps, p.1.payload.length ≤ L.transport.reach ∧
      (p.1.known (L.device s.world).table = true →
        InReach (L.device s.world).table L.transport p.1)) :
    ∃ answers s', L.session s ps = some (answers, s') ∧ MixedServed tasks L s ps answers s' := by
  induction ps generalizing s with
  | nil => exact ⟨[], s, rfl, rfl, ⟨.nil, rfl, rfl, h_ready⟩, List.forall_mem_nil _⟩
  | cons p ps ih =>
    obtain ⟨⟨h_len, h_reach⟩, h_tail⟩ := List.forall_mem_cons.mp h
    cases h_known : p.1.known (L.device s.world).table with
    | true =>
      obtain ⟨a, s₁, h_run, h_served⟩ :=
        command_served h_regular h_works h_ready h_table (h_reach h_known) p.2
      have h_same := h_served.table
      obtain ⟨answers, s₂, h_rest, h_mixed⟩ :=
        ih h_served.ready (by rwa [h_same]) (by rwa [h_same])
      exact ⟨a :: answers, s₂, session_cons h_run h_rest, h_mixed.cons_known h_known h_served⟩
    | false =>
      obtain ⟨a, s₁, h_run, h_refused⟩ := unknown_refused h_works h_ready h_table h_known h_len p.2
      have h_same := h_refused.table
      obtain ⟨answers, s₂, h_rest, h_mixed⟩ :=
        ih h_refused.ready (by rwa [h_same]) (by rwa [h_same])
      exact ⟨a :: answers, s₂, session_cons h_run h_rest, h_mixed.cons_unknown h_known h_refused⟩

/-- A byte written over I2C, a resource that nobody has registered, and the byte read back. -/
theorem mixed_session_run :
    let L := idealRpiI2c (app false)
    let s : HostState (Device App) := .initial (boot [[resourceId]] .initial)
    let ps : List (Command × HostLocals) :=
      [(⟨resourceId, 0, [42]⟩, .fill 0), (⟨0x77, 0, [1, 2]⟩, .fill 0),
        (⟨resourceId, 0x80, [0]⟩, .fill 0)]
    ∃ s', L.session s ps
        = some ([⟨controlSuccess, [42]⟩, ⟨controlError, [1, 2]⟩, ⟨controlSuccess, [42]⟩], s') ∧
      MixedServed (app false) L s ps
        [⟨controlSuccess, [42]⟩, ⟨controlError, [1, 2]⟩, ⟨controlSuccess, [42]⟩] s' := by
  intro L s ps
  have h_search : resourceTableSearch s.world.table resourceId = some 0 := by decide +kernel
  have h_unknown : Command.known s.world.table ⟨0x77, 0, [1, 2]⟩ = false := by decide +kernel
  have h_ne : resourceId ≠ controlSpecialResid := by decide
  have h_sendable : ∀ p ∈ ps, p.1.payload.length ≤ L.transport.reach ∧
      (p.1.known (L.device s.world).table = true →
        InReach (L.device s.world).table L.transport p.1) := by
    refine List.forall_mem_cons.mpr ⟨⟨by decide, fun _ => ?_⟩,
      List.forall_mem_cons.mpr ⟨⟨by decide, fun h_known => ?_⟩,
        List.forall_mem_singleton.mpr ⟨by decide, fun _ => ?_⟩⟩⟩
    · exact ⟨⟨0, h_search⟩, h_ne, by decide, nofun⟩
    · exact absurd (h_known.symm.trans h_unknown) (by decide)
    · exact ⟨⟨0, h_search⟩, h_ne, by decide, fun _ => by decide⟩
  have h_boot : Reachable (app false) [[resourceId]] (boot [[resourceId]] .initial) :=
    reachable_boot _ _
  have h_table : (L.device s.world).table.Reserves := h_boot.reserves
  obtain ⟨answers, s', h_run, h_mixed⟩ :=
    mixed_session (app_regular false) (idealRpiI2c_works (app false)) trivial h_table ps h_sendable
  have h_answers : (L.session s ps).map Prod.fst = some _ := congrArg (Option.map Prod.fst) h_run
  have h_eval : (L.session s ps).map Prod.fst = some
      [⟨controlSuccess, [42]⟩, ⟨controlError, [1, 2]⟩, ⟨controlSuccess, [42]⟩] := by decide +kernel
  obtain rfl := Option.some.inj (h_answers.symm.trans h_eval)
  exact ⟨s', h_run, h_mixed⟩

end DeviceControl
