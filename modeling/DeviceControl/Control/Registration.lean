import DeviceControl.Control.ResourceTable
import DeviceControl.Library.Claims

/-!
# Registration is as strict as it should be

`control_register_resources` calls `resource_table_add` once for each interface. Each call works a
list off until it meets a resource that it cannot map, and the resources before that one stay
mapped. That is the registry of first-come claims of `Library/Claims`: the holder of a resource is
the interface in its entry, and the special resource is reserved (`resourceTableAdd_claim`).

`registration_exact` is the result about the whole loop: which lists of lists are accepted, and
what the search answers then. The number of interfaces is part of it, as the loop hands over its
index narrowed to a byte, of which 255 is refused by `resource_table_add`.
-/

namespace DeviceControl

open Claims

/-! ### The table as a registry -/

/-- The interface that holds a resource. -/
def ResourceTable.holder (t : ResourceTable) (r : ControlResid) : Option UInt8 :=
  if t.entry r < ifnumNone then some (t.entry r) else none

/-- The resource table under calls of `resource_table_add`, each with an interface number and the
resources reported. -/
def resourceTableSystem : Transducer ResourceTable (UInt8 × List ControlResid) ℕ where
  step t c := ((resourceTableAdd t c.2 c.1).2, (resourceTableAdd t c.2 c.1).1)

theorem resourceTableSearch_eq {t : ResourceTable} {reservedId : ControlResid}
    (h : t.ReservesId reservedId) (r : ControlResid) :
    resourceTableSearch t r = if r = reservedId then some ifnumReserved else t.holder r := by
  by_cases h_r : r = reservedId
  · rw [if_pos h_r, h_r, resourceTableSearch_special h]
  · rw [if_neg h_r]
    ext ifnum
    rw [resourceTableSearch_eq_some_iff h h_r, ResourceTable.holder]
    split_ifs with h_lt
    · rw [Option.some.injEq, and_iff_right h_lt]
    · simp [h_lt]

theorem ResourceTable.holder_setEntry (t : ResourceTable) (r : ControlResid) {ifnum : UInt8}
    (h : ifnum < ifnumNone) : (t.setEntry r ifnum).holder = assign t.holder ifnum [r] := by
  ext r' : 1
  rw [holder, entry_setEntry, assign]
  by_cases h_r : r' = r
  · rw [if_pos h_r, if_pos h, if_pos (List.mem_singleton.mpr h_r)]
  · rw [if_neg h_r, if_neg (List.mem_singleton.not.mpr h_r)]
    rfl

/-- The resources that `resource_table_add` cannot map. -/
theorem mem_barred_iff {t : ResourceTable} {reservedId r : ControlResid} :
    r ∈ barred {reservedId} t.holder ↔ r = reservedId ∨ t.entry r < ifnumNone := by
  change _ ∨ t.holder r ≠ none ↔ _
  rw [Set.mem_singleton_iff, ResourceTable.holder]
  refine or_congr_right ?_
  split_ifs with h_lt
  · simp [h_lt]
  · simp [h_lt]

/-- The loop of `resource_table_add` is a claim. -/
theorem resourceTableAddLoop_claim {ifnum : UInt8} (h_lt : ifnum < ifnumNone) {t : ResourceTable}
    {reservedId : ControlResid} (h : t.ReservesId reservedId) (resources : List ControlResid) :
    (resourceTableAddLoop ifnum t resources).2.holder
        = assign t.holder ifnum (granted (barred {reservedId} t.holder) resources) ∧
      ((resourceTableAddLoop ifnum t resources).1 = 0 ↔
        granted (barred {reservedId} t.holder) resources = resources) := by
  induction resources generalizing t with
  | nil => exact ⟨(assign_nil ifnum).symm, iff_of_true rfl rfl⟩
  | cons r resources ih =>
    rw [resourceTableAddLoop, if_neg (not_le.mpr r.toNat_lt), h.specified, h.special]
    by_cases h_bar : r ∈ barred {reservedId} t.holder
    · -- the two returns in front of the store
      have h_nil : ¬ [] = r :: resources := (List.cons_ne_nil r resources).symm
      rw [granted_cons_of_mem h_bar, assign_nil]
      by_cases h_special : r = reservedId
      · rw [if_pos ⟨rfl, h_special⟩]
        exact ⟨rfl, iff_of_false (Nat.succ_ne_zero 2) h_nil⟩
      · rw [if_neg (fun h_and => h_special h_and.2),
          if_pos ((mem_barred_iff.mp h_bar).resolve_left h_special)]
        exact ⟨rfl, iff_of_false (Nat.succ_ne_zero 3) h_nil⟩
    · obtain ⟨h_special, h_entry⟩ := not_or.mp (mem_barred_iff.not.mp h_bar)
      -- the rest of the list meets the resource just mapped
      obtain ⟨ih_holder, ih_ret⟩ := ih (t := t.setEntry r ifnum) ⟨h.specified, h.special⟩
      rw [t.holder_setEntry r h_lt, barred_assign] at ih_holder ih_ret
      rw [if_neg (fun h_and => h_special h_and.2), if_neg h_entry, granted_cons_of_notMem h_bar,
        assign_cons, List.cons_inj_right]
      exact ⟨ih_holder, ih_ret⟩

/-- **A call is a claim.** `resource_table_add` with an interface number other than 255 claims the
resources for it. -/
theorem resourceTableAdd_claim {t : ResourceTable} {reservedId : ControlResid}
    (h : t.ReservesId reservedId) {c : UInt8 × List ControlResid} (h_c : c.1 ≠ ifnumNone) :
    ((resourceTableSystem.step t c).1.holder
        = ((claimSystem {reservedId}).step t.holder c).1) ∧
      ((resourceTableSystem.step t c).2 = 0 ↔
        ((claimSystem {reservedId}).step t.holder c).2) := by
  have h_lt : c.1 < ifnumNone := by
    rw [UInt8.lt_iff_toNat_lt]
    have h_ne : c.1.toNat ≠ 255 := fun h_eq => h_c (UInt8.toNat.inj h_eq)
    have h_size := c.1.toNat_lt
    change c.1.toNat < 255
    omega
  change (resourceTableAdd t c.2 c.1).2.holder = _ ∧ ((resourceTableAdd t c.2 c.1).1 = 0 ↔ _)
  rw [resourceTableAdd, if_neg h_c]
  exact resourceTableAddLoop_claim h_lt h c.2

/-! ### The registration loop -/

/-- The calls of `resource_table_add` that the loop makes from interface `j` on. -/
def registrationCalls (j : ℕ) (answers : List (List ControlResid)) :
    List (UInt8 × List ControlResid) :=
  answers.mapIdx fun i r => (UInt8.ofNat (j + i), r)

theorem registrationCalls_cons (j : ℕ) (r : List ControlResid)
    (answers : List (List ControlResid)) :
    registrationCalls j (r :: answers)
      = (UInt8.ofNat j, r) :: registrationCalls (j + 1) answers := by
  simp [registrationCalls, Nat.add_comm, Nat.add_left_comm]

theorem mem_registrationCalls {answers : List (List ControlResid)}
    {c : UInt8 × List ControlResid} :
    c ∈ registrationCalls 0 answers ↔ ∃ j, answers[j]? = some c.2 ∧ UInt8.ofNat j = c.1 := by
  rw [registrationCalls, List.mem_mapIdx]
  constructor
  · rintro ⟨j, h_j, rfl⟩
    exact ⟨j, List.getElem?_eq_getElem h_j, by rw [Nat.zero_add]⟩
  · rintro ⟨j, h_get, h_j⟩
    obtain ⟨h_lt, h_get⟩ := List.getElem?_eq_some_iff.mp h_get
    exact ⟨j, h_lt, by rw [h_get, Nat.zero_add, h_j]⟩

theorem keys_registrationCalls (j : ℕ) (answers : List (List ControlResid)) :
    keys (registrationCalls j answers) = answers.flatten := by
  induction answers generalizing j with
  | nil => rfl
  | cons r answers ih => rw [registrationCalls_cons, keys_cons, ih, List.flatten_cons]

/-- The loop is the run of its calls, and it returns success if it starts with success and every
call returns 0. -/
theorem controlRegisterResourcesFrom_run (j : ℕ) (ret : ControlRet) (t : ResourceTable)
    (answers : List (List ControlResid)) :
    (controlRegisterResourcesFrom j ret t answers).2
        = resourceTableSystem.run t (registrationCalls j answers) ∧
      ((controlRegisterResourcesFrom j ret t answers).1 = controlSuccess ↔
        ret = controlSuccess ∧
          ∀ p ∈ resourceTableSystem.trace t (registrationCalls j answers), p.2 = 0) := by
  induction answers generalizing j ret t with
  | nil =>
    refine ⟨rfl, ?_⟩
    change ret = controlSuccess ↔ ret = controlSuccess ∧ ∀ p ∈ [], _
    simp
  | cons r answers ih =>
    obtain ⟨ih_run, ih_ret⟩ := ih (j + 1)
      (if (resourceTableAdd t r (UInt8.ofNat j)).1 ≠ 0 then controlRegistrationFailed else ret)
      (resourceTableAdd t r (UInt8.ofNat j)).2
    rw [registrationCalls_cons, Transducer.run_cons, Transducer.trace_cons, List.forall_mem_cons]
    refine ⟨ih_run, ih_ret.trans ?_⟩
    change _ ↔ ret = controlSuccess ∧ (resourceTableAdd t r (UInt8.ofNat j)).1 = 0 ∧ _
    -- once a call has failed, the code stays that of a failure
    split_ifs with h_failed
    · exact iff_of_false (fun h => absurd h.1 (by decide)) (fun h => h_failed h.2.1)
    · rw [and_iff_right (not_not.mp h_failed)]
      rfl

/-- The interface with the number 255 is refused, whatever it reports. -/
theorem registration_refuses {answers : List (List ControlResid)} (h_len : 255 < answers.length)
    (t : ResourceTable) :
    ¬ ∀ p ∈ resourceTableSystem.trace t (registrationCalls 0 answers), p.2 = 0 := by
  intro h_all
  have h_get : (registrationCalls 0 answers)[255]? = some (ifnumNone, answers[255]) := by
    rw [registrationCalls, List.getElem?_mapIdx, List.getElem?_eq_getElem h_len]
    rfl
  have h_entry := (resourceTableSystem.getElem?_trace_eq_some (s := t)).mpr ⟨h_get, rfl⟩
  -- `resource_table_add` returns 1 for it before it looks at the list
  have h_one : (1 : ℕ) = 0 := h_all _ (List.mem_of_getElem? h_entry)
  exact absurd h_one (by decide)

/-! ### What is accepted, and what is found then -/

theorem holder_resourceTableInit (reservedId : ControlResid) :
    (resourceTableInit reservedId).holder = fun _ => none := by
  ext r : 1
  have h_entry : (resourceTableInit reservedId).entry r = ifnumNone := by
    simp [ResourceTable.entry, resourceTableInit]
  rw [ResourceTable.holder, h_entry, if_neg (by decide)]

/-- Up to 255 interfaces, the calls of the loop are claims from a registry without holders. -/
theorem registration_lockstep {answers : List (List ControlResid)} (h_len : answers.length ≤ 255) :
    (registeredTable answers).holder = (claimSystem {controlSpecialResid}).run (fun _ => none)
        (registrationCalls 0 answers) ∧
      ((∀ p ∈ resourceTableSystem.trace controlInit.2 (registrationCalls 0 answers), p.2 = 0) ↔
        ∀ p ∈ (claimSystem {controlSpecialResid}).trace (fun _ => none)
          (registrationCalls 0 answers), p.2) := by
  -- up to 255 interfaces, none has the number that is refused
  have h_in : ∀ c ∈ registrationCalls 0 answers, c.1 ≠ ifnumNone := by
    intro c h_c
    obtain ⟨j, h_get, h_j⟩ := mem_registrationCalls.mp h_c
    have h_lt : j < answers.length := (List.getElem?_eq_some_iff.mp h_get).1
    rw [← h_j]
    intro h_eq
    have h_nat := congrArg UInt8.toNat h_eq
    rw [UInt8.toNat_ofNat_of_lt' (by rw [UInt8.size]; omega)] at h_nat
    change j = 255 at h_nat
    omega
  -- one call keeps table and registry together, and they agree on its success
  have h_step : ∀ (t : ResourceTable) holder c, t.Reserves ∧ t.holder = holder → c.1 ≠ ifnumNone →
      (resourceTableSystem.step t c).1.Reserves ∧ (resourceTableSystem.step t c).1.holder
        = ((claimSystem {controlSpecialResid}).step holder c).1 := by
    rintro t holder c ⟨h_res, rfl⟩ h_c
    exact ⟨resourceTableAdd_reserves h_res _ _, (resourceTableAdd_claim h_res h_c).1⟩
  have h_out : ∀ (t : ResourceTable) holder c, t.Reserves ∧ t.holder = holder → c.1 ≠ ifnumNone →
      ((resourceTableSystem.step t c).2 = 0 ↔
        ((claimSystem {controlSpecialResid}).step holder c).2) := by
    rintro t holder c ⟨h_res, rfl⟩ h_c
    exact (resourceTableAdd_claim h_res h_c).2
  have h_init : controlInit.2.Reserves ∧ controlInit.2.holder = fun _ => none :=
    ⟨resourceTableInit_reserves _, holder_resourceTableInit _⟩
  constructor
  · rw [registeredTable, controlRegisterResources, (controlRegisterResourcesFrom_run _ _ _ _).1]
    exact (resourceTableSystem.run_lockstep h_step h_init h_in).2
  · exact resourceTableSystem.forall_trace_lockstep (· = 0) id h_step h_out h_init h_in

/-- The holders of a registration that no claim of failed: the interfaces that listed the
resource. -/
theorem run_registrationCalls_eq_some_iff {answers : List (List ControlResid)}
    (h_len : answers.length ≤ 255)
    (h : ∀ p ∈ (claimSystem {controlSpecialResid}).trace (fun _ => none)
      (registrationCalls 0 answers), p.2) {r : ControlResid} {k : UInt8} :
    (claimSystem {controlSpecialResid}).run (fun _ => none) (registrationCalls 0 answers) r = some k
      ↔ ∃ l, answers[k.toNat]? = some l ∧ r ∈ l := by
  rw [run_claims_eq_some_iff h, or_iff_right nofun]
  constructor
  · rintro ⟨c, h_c, rfl, h_mem⟩
    obtain ⟨j, h_get, h_j⟩ := mem_registrationCalls.mp h_c
    have h_lt : j < answers.length := (List.getElem?_eq_some_iff.mp h_get).1
    refine ⟨c.2, ?_, h_mem⟩
    rw [← h_j, UInt8.toNat_ofNat_of_lt' (by rw [UInt8.size]; omega), h_get]
  · rintro ⟨l, h_get, h_mem⟩
    exact ⟨(k, l), mem_registrationCalls.mpr ⟨k.toNat, h_get, UInt8.ofNat_toNat⟩, rfl, h_mem⟩

/-- **Registration is exact.** It returns success exactly if there are at most 255 interfaces, none
of them lists the special resource and no resource is listed twice. The search answers then with
the interface that listed the resource, and for the special resource with 255. -/
theorem registration_exact (answers : List (List ControlResid)) :
    ((controlRegisterResources controlInit.2 answers).1 = controlSuccess ↔
        answers.length ≤ 255 ∧ (∀ l ∈ answers, controlSpecialResid ∉ l) ∧
          answers.flatten.Nodup) ∧
      ((controlRegisterResources controlInit.2 answers).1 = controlSuccess →
        ∀ (r : ControlResid) (k : UInt8),
          resourceTableSearch (registeredTable answers) r = some k ↔
            (∃ l, answers[k.toNat]? = some l ∧ r ∈ l) ∨
              r = controlSpecialResid ∧ k = ifnumReserved) := by
  have h_ret := (controlRegisterResourcesFrom_run 0 controlSuccess controlInit.2 answers).2
  rw [and_iff_right rfl] at h_ret
  change ((controlRegisterResources controlInit.2 answers).1 = controlSuccess ↔ _) at h_ret
  by_cases h_len : answers.length ≤ 255
  · obtain ⟨h_holder, h_claims⟩ := registration_lockstep h_len
    -- a fresh registry bars nothing but the special resource
    have h_special : (∀ r ∈ answers.flatten, r ∉ barred {controlSpecialResid}
        (fun _ => (none : Option UInt8))) ↔ ∀ l ∈ answers, controlSpecialResid ∉ l := by
      simp only [notMem_barred, Set.mem_singleton_iff, and_true, List.mem_flatten]
      constructor
      · exact fun h l h_l h_mem => h _ ⟨l, h_l, h_mem⟩ rfl
      · rintro h r ⟨l, h_l, h_mem⟩ rfl
        exact h l h_l h_mem
    have h_iff : (controlRegisterResources controlInit.2 answers).1 = controlSuccess ↔
        (∀ l ∈ answers, controlSpecialResid ∉ l) ∧ answers.flatten.Nodup := by
      rw [h_ret, h_claims, claims_succeed_iff, keys_registrationCalls, h_special, and_comm]
    refine ⟨by rw [h_iff, and_iff_right h_len], fun h_success r k => ?_⟩
    rw [resourceTableSearch_eq (registeredTable_reserves answers), h_holder]
    split_ifs with h_r
    · -- no list contains the special resource
      have h_none : ¬ ∃ l, answers[k.toNat]? = some l ∧ r ∈ l := by
        rintro ⟨l, h_get, h_mem⟩
        rw [h_r] at h_mem
        exact (h_iff.mp h_success).1 l (List.mem_of_getElem? h_get) h_mem
      rw [or_iff_right h_none, and_iff_right h_r, Option.some.injEq]
      exact eq_comm
    · rw [run_registrationCalls_eq_some_iff h_len (h_claims.mp (h_ret.mp h_success)),
        or_iff_left (fun h_and => h_r h_and.1)]
  · have h_fails : ¬ (controlRegisterResources controlInit.2 answers).1 = controlSuccess := by
      rw [h_ret]
      exact registration_refuses (not_le.mp h_len) _
    exact ⟨iff_of_false h_fails (fun h => h_len h.1), fun h => absurd h h_fails⟩

/-- Two interfaces with three resources, and who is found for one of them. -/
theorem registration_exact_run :
    (controlRegisterResources controlInit.2 [[3], [4, 5]]).1 = controlSuccess ∧
      resourceTableSearch (registeredTable [[3], [4, 5]]) 5 = some 1 := by
  obtain ⟨h_iff, h_search⟩ := registration_exact [[3], [4, 5]]
  have h_success := h_iff.mpr ⟨by decide, by decide, by decide⟩
  exact ⟨h_success, (h_search h_success 5 1).mpr (Or.inl ⟨[4, 5], rfl, by decide⟩)⟩

end DeviceControl
