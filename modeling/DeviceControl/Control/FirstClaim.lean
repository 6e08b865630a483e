import DeviceControl.Control.Registration
import DeviceControl.Library.ClaimOrder

/-!
# First claim wins

A call of `resource_table_add` that fails has mapped the resources in front of the one it fails at,
and the calls after it meet these. So what the table says after a sequence of calls depends on the
failed ones too. `first_claim_wins` is the result: the table is the registry of `Library/ClaimOrder`
that turns the interface number 255 away, for any reserved resource and any sequence of calls.

`ownership_iff` applies it to `control_register_resources`, which hands over its loop index narrowed
to a byte. From interface 256 on the number is that of another interface, and the resources that
such an interface claims are found with the number of one that need not have listed them.
-/

namespace DeviceControl

open Claims

section FirstClaim

variable (reservedId : ControlResid) (calls : List (UInt8 × List ControlResid))

/-- Call `n` of `resource_table_add` claims the resource: its interface number is not 255, and the
resource stands in its list in front of the first one that cannot be mapped. -/
def ClaimsResource (n : ℕ) (r : ControlResid) : Prop := Takes {ifnumNone} {reservedId} calls n r

/-- After the calls, the resource at place `i` of a list cannot be mapped: it is reserved, one of
the calls has claimed it, or it is repeated. -/
def CannotMap (resources : List ControlResid) (i : ℕ) : Prop :=
  ∃ r, resources[i]? = some r ∧
    (r = reservedId ∨ (∃ n, ClaimsResource reservedId calls n r) ∨ r ∈ resources.take i)

/-- What is to be expected of the table after the calls. -/
structure FirstClaimWins (t : ResourceTable) : Prop where
  reserved : resourceTableSearch t reservedId = some ifnumReserved
  /-- A resource is found with the interface of the earliest call that claims it. -/
  found : ∀ r, r ≠ reservedId → ∀ ifnum, resourceTableSearch t r = some ifnum ↔
    ∃ n c, calls[n]? = some c ∧ c.1 = ifnum ∧ ClaimsResource reservedId calls n r ∧
      ∀ m < n, ¬ ClaimsResource reservedId calls m r
  missing : ∀ r, r ≠ reservedId →
    (resourceTableSearch t r = none ↔ ∀ n, ¬ ClaimsResource reservedId calls n r)
  /-- What a further call returns. -/
  returns : ∀ ifnum resources, (resourceTableAdd t resources ifnum).1 = 0 ↔
    ifnum ≠ ifnumNone ∧ ∀ i, ¬ CannotMap reservedId calls resources i
  /-- Later calls do not change a mapping. -/
  keeps : ∀ later r ifnum, resourceTableSearch t r = some ifnum →
    resourceTableSearch (resourceTableSystem.run t later) r = some ifnum
  /-- A further call that fails at place `i` maps the resources in front of it. -/
  stops : ∀ ifnum resources i, ifnum ≠ ifnumNone → CannotMap reservedId calls resources i →
    (∀ j < i, ¬ CannotMap reservedId calls resources j) → ∀ r, r ≠ reservedId → ∀ k,
      resourceTableSearch (resourceTableAdd t resources ifnum).2 r = some k ↔
        resourceTableSearch t r = some k ∨ k = ifnum ∧ r ∈ resources.take i
  /-- A further call with the interface number 255 maps nothing. -/
  refuses : ∀ resources, (resourceTableAdd t resources ifnumNone).2 = t

variable {reservedId calls}

/-- A place cannot be mapped exactly if it offends the registry. -/
theorem cannotMap_iff {resources : List ControlResid} {i : ℕ} :
    CannotMap reservedId calls resources i ↔
      Offends ({reservedId} ∪ taken {ifnumNone} {reservedId} calls) resources i := by
  refine exists_congr fun r => and_congr_right fun _ => ?_
  rw [Set.mem_union, Set.mem_singleton_iff, or_assoc]
  rfl

/-- **A call is a claim**, refused for the interface number 255. -/
theorem resourceTableAdd_guarded {t : ResourceTable} (h : t.ReservesId reservedId)
    (c : UInt8 × List ControlResid) :
    ((resourceTableSystem.step t c).1.holder
        = ((guardedClaimSystem {ifnumNone} {reservedId}).step t.holder c).1) ∧
      ((resourceTableSystem.step t c).2 = 0 ↔
        ((guardedClaimSystem {ifnumNone} {reservedId}).step t.holder c).2) := by
  by_cases h_c : c.1 = ifnumNone
  · rw [guardedStep_of_mem (Set.mem_singleton_iff.mpr h_c)]
    change (resourceTableAdd t c.2 c.1).2.holder = _ ∧ ((resourceTableAdd t c.2 c.1).1 = 0 ↔ _)
    rw [resourceTableAdd, if_pos h_c]
    exact ⟨rfl, iff_of_false Nat.one_ne_zero not_false⟩
  · rw [guardedStep_of_notMem (Set.mem_singleton_iff.not.mpr h_c)]
    exact resourceTableAdd_claim h h_c

/-- The table and the registry, call by call. -/
theorem resourceTable_run {t : ResourceTable} (h : t.ReservesId reservedId)
    (calls : List (UInt8 × List ControlResid)) :
    (resourceTableSystem.run t calls).ReservesId reservedId ∧
      (resourceTableSystem.run t calls).holder
        = (guardedClaimSystem {ifnumNone} {reservedId}).run t.holder calls := by
  refine resourceTableSystem.run_lockstep (G := fun _ => True)
    (R := fun t holder => t.ReservesId reservedId ∧ t.holder = holder) ?_ ⟨h, rfl⟩
    fun _ _ => trivial
  rintro t holder c ⟨h_res, rfl⟩ -
  exact ⟨resourceTableAdd_reserves h_res _ _, (resourceTableAdd_guarded h_res c).1⟩

/-- The table after any calls holds what they have taken. -/
theorem resourceTable_holdsTaken (reservedId : ControlResid)
    (calls : List (UInt8 × List ControlResid)) :
    HoldsTaken {ifnumNone} {reservedId} calls
      (resourceTableSystem.run (resourceTableInit reservedId) calls).holder := by
  rw [(resourceTable_run (resourceTableInit_reserves reservedId) calls).2,
    holder_resourceTableInit]
  exact holdsTaken_run calls

/-! ### What the table says -/

section Table

variable {t : ResourceTable} (h : t.ReservesId reservedId)
  (h_holds : HoldsTaken {ifnumNone} {reservedId} calls t.holder)

include h h_holds

/-- A resource other than the reserved one is found with the interface of the call that claims
it. -/
theorem search_eq_some_iff_claims {r : ControlResid} (h_r : r ≠ reservedId) {ifnum : UInt8} :
    resourceTableSearch t r = some ifnum ↔
      ∃ n c, calls[n]? = some c ∧ c.1 = ifnum ∧ ClaimsResource reservedId calls n r := by
  rw [resourceTableSearch_eq h, if_neg h_r]
  exact h_holds r ifnum

/-- It is not found exactly if no call claims it. -/
theorem search_eq_none_iff_claims {r : ControlResid} (h_r : r ≠ reservedId) :
    resourceTableSearch t r = none ↔ ∀ n, ¬ ClaimsResource reservedId calls n r := by
  rw [Option.eq_none_iff_forall_ne_some]
  constructor
  · intro h_none n h_claims
    exact h_none _ ((search_eq_some_iff_claims h h_holds h_r).mpr
      ⟨n, _, List.getElem?_eq_getElem h_claims.lt_length, rfl, h_claims⟩)
  · intro h_none ifnum h_some
    obtain ⟨n, c, -, -, h_claims⟩ := (search_eq_some_iff_claims h h_holds h_r).mp h_some
    exact h_none n h_claims

/-- A further call succeeds exactly if all of its resources can be mapped. -/
theorem resourceTableAdd_eq_zero_iff (ifnum : UInt8) (resources : List ControlResid) :
    (resourceTableAdd t resources ifnum).1 = 0 ↔
      ifnum ≠ ifnumNone ∧ ∀ i, ¬ CannotMap reservedId calls resources i := by
  have h_ret := (resourceTableAdd_guarded h (ifnum, resources)).2
  rw [guardedStep_succeeds_iff, h_holds.barred_eq, Set.mem_singleton_iff] at h_ret
  simp only [cannotMap_iff]
  exact h_ret

/-- A further call that cannot map the resource at place `i` maps those in front of it. -/
theorem search_add_eq_some_iff {ifnum : UInt8} {resources : List ControlResid} {i : ℕ}
    (h_ifnum : ifnum ≠ ifnumNone) (h_stop : CannotMap reservedId calls resources i)
    (h_first : ∀ j < i, ¬ CannotMap reservedId calls resources j) {r : ControlResid}
    (h_r : r ≠ reservedId) {k : UInt8} :
    resourceTableSearch (resourceTableAdd t resources ifnum).2 r = some k ↔
      resourceTableSearch t r = some k ∨ k = ifnum ∧ r ∈ resources.take i := by
  have h_holder := (resourceTableAdd_guarded h (ifnum, resources)).1
  change (resourceTableAdd t resources ifnum).2.holder = _ at h_holder
  -- the call is granted the resources in front of the one it stops at
  have h_granted : granted (barred {reservedId} t.holder) resources = resources.take i := by
    rw [h_holds.barred_eq]
    exact granted_eq_take (cannotMap_iff.mp h_stop) fun j h_lt =>
      cannotMap_iff.not.mp (h_first j h_lt)
  have h_allowed : ifnum ∉ ({ifnumNone} : Set UInt8) := Set.mem_singleton_iff.not.mpr h_ifnum
  calc resourceTableSearch (resourceTableAdd t resources ifnum).2 r = some k
      ↔ ((guardedClaimSystem {ifnumNone} {reservedId}).step t.holder (ifnum, resources)).1 r
          = some k := by
        rw [resourceTableSearch_eq (resourceTableAdd_reserves h resources ifnum), if_neg h_r,
          h_holder]
    _ ↔ t.holder r = some k ∨ ifnum = k ∧ r ∈ resources.take i := by
        rw [guardedStep_eq_some_iff, ← mem_granted_iff, h_granted, and_iff_right h_allowed]
    _ ↔ resourceTableSearch t r = some k ∨ k = ifnum ∧ r ∈ resources.take i := by
        rw [resourceTableSearch_eq h, if_neg h_r, eq_comm (a := ifnum)]

omit h_holds in
/-- What is found is found with the same interface after further calls. -/
theorem search_run_of_search {r : ControlResid} {ifnum : UInt8}
    (h_found : resourceTableSearch t r = some ifnum) (later : List (UInt8 × List ControlResid)) :
    resourceTableSearch (resourceTableSystem.run t later) r = some ifnum := by
  obtain ⟨h', h_holder⟩ := resourceTable_run h later
  rw [resourceTableSearch_eq h] at h_found
  rw [resourceTableSearch_eq h']
  split_ifs at h_found ⊢
  · exact h_found
  · rw [h_holder]
    exact run_keeps h_found later

end Table

/-- **First claim wins.** After any sequence of calls, the table is the one that is to be
expected. -/
theorem first_claim_wins (reservedId : ControlResid) (calls : List (UInt8 × List ControlResid)) :
    FirstClaimWins reservedId calls
      (resourceTableSystem.run (resourceTableInit reservedId) calls) := by
  have h := (resourceTable_run (resourceTableInit_reserves reservedId) calls).1
  have h_holds := resourceTable_holdsTaken reservedId calls
  constructor
  case reserved => exact resourceTableSearch_special h
  case found =>
    intro r h_r ifnum
    rw [search_eq_some_iff_claims h h_holds h_r]
    refine exists_congr fun n => exists_congr fun c => and_congr_right fun _ =>
      and_congr_right fun _ => (and_iff_left_of_imp fun h_claims m h_lt h_claims' => ?_).symm
    -- no other call claims it
    exact h_lt.ne (takes_unique h_claims' h_claims)
  case missing => exact fun r h_r => search_eq_none_iff_claims h h_holds h_r
  case returns => exact resourceTableAdd_eq_zero_iff h h_holds
  case keeps => exact fun later r ifnum h_found => search_run_of_search h h_found later
  case stops =>
    intro ifnum resources i h_ifnum h_stop h_first r h_r k
    exact search_add_eq_some_iff h h_holds h_ifnum h_stop h_first h_r
  case refuses =>
    intro resources
    rw [resourceTableAdd, if_pos rfl]

end FirstClaim

/-! ### Whose resource it is -/

section Ownership

variable {answers : List (List ControlResid)}

theorem getElem?_registrationCalls {n : ℕ} {c : UInt8 × List ControlResid} :
    (registrationCalls 0 answers)[n]? = some c ↔ answers[n]? = some c.2 ∧ UInt8.ofNat n = c.1 := by
  rw [registrationCalls, List.getElem?_mapIdx, Option.map_eq_some_iff, Nat.zero_add]
  constructor
  · rintro ⟨l, h_get, rfl⟩
    exact ⟨h_get, rfl⟩
  · rintro ⟨h_get, h_n⟩
    exact ⟨c.2, h_get, Prod.ext h_n rfl⟩

/-- A resource that is found is claimed by an interface whose number narrows to the one found. -/
theorem search_registered_iff {r : ControlResid} (h_r : r ≠ controlSpecialResid) {k : UInt8} :
    resourceTableSearch (registeredTable answers) r = some k ↔
      ∃ j l, answers[j]? = some l ∧ UInt8.ofNat j = k ∧
        ClaimsResource controlSpecialResid (registrationCalls 0 answers) j r := by
  -- the registration is the run of its calls
  have h_run : registeredTable answers
      = resourceTableSystem.run (resourceTableInit controlSpecialResid)
          (registrationCalls 0 answers) :=
    (controlRegisterResourcesFrom_run _ _ _ _).1
  rw [search_eq_some_iff_claims (registeredTable_reserves answers)
    (h_run ▸ resourceTable_holdsTaken _ _) h_r]
  refine exists_congr fun j => ?_
  simp only [getElem?_registrationCalls]
  constructor
  · rintro ⟨c, ⟨h_get, h_j⟩, rfl, h_claims⟩
    exact ⟨c.2, h_get, h_j, h_claims⟩
  · rintro ⟨l, h_get, h_j, h_claims⟩
    exact ⟨(k, l), ⟨h_get, h_j⟩, rfl, h_claims⟩

/-- An interface claims nothing but what it lists. -/
theorem listed_of_claims {j : ℕ} {r : ControlResid}
    (h : ClaimsResource controlSpecialResid (registrationCalls 0 answers) j r) :
    r ≠ controlSpecialResid ∧ ∃ l, answers[j]? = some l ∧ r ∈ l := by
  rw [ClaimsResource, Takes] at h
  obtain ⟨c, h_get, -, h_clear⟩ := h
  -- the special resource offends at any place
  refine ⟨fun h_r => h_clear.notMem (Or.inl h_r), c.2, (getElem?_registrationCalls.mp h_get).1, ?_⟩
  obtain ⟨i, h_i, -⟩ := h_clear
  exact List.mem_of_getElem? h_i

variable (answers)

/-- No interface is given a resource that it has not listed. -/
def OwnResourcesOnly : Prop :=
  ∀ r, r ≠ controlSpecialResid → ∀ k, resourceTableSearch (registeredTable answers) r = some k →
    ∃ l, answers[k.toNat]? = some l ∧ r ∈ l

/-- What an interface from number 256 on claims, the interface whose number it is taken for lists as
well. -/
def NarrowedListed : Prop :=
  ∀ j, 256 ≤ j → ∀ r, ClaimsResource controlSpecialResid (registrationCalls 0 answers) j r →
    ∃ l, answers[j % 256]? = some l ∧ r ∈ l

/-- **Ownership, for any number of interfaces.** After every registration, whatever it returned, a
resource is found with an interface that listed it exactly if no interface beyond 255 claims one
that the interface with the narrowed number did not list. -/
theorem ownership_iff : OwnResourcesOnly answers ↔ NarrowedListed answers := by
  constructor
  · intro h j h_j r h_claims
    obtain ⟨h_r, l, h_get, -⟩ := listed_of_claims h_claims
    have h_found := (search_registered_iff h_r).mpr ⟨j, l, h_get, rfl, h_claims⟩
    have h_own := h r h_r _ h_found
    rwa [UInt8.toNat_ofNat'] at h_own
  · intro h r h_r k h_found
    obtain ⟨j, l, h_get, rfl, h_claims⟩ := (search_registered_iff h_r).mp h_found
    rw [UInt8.toNat_ofNat']
    by_cases h_j : j < 256
    · -- the number has not been narrowed
      rw [Nat.mod_eq_of_lt h_j]
      exact (listed_of_claims h_claims).2
    · exact h j (not_lt.mp h_j) r h_claims

/-- Of 257 interfaces the last one lists a resource, which is found with the first one. -/
theorem ownership_narrowed :
    let answers := List.replicate 256 [] ++ [[7]]
    resourceTableSearch (registeredTable answers) 7 = some 0 ∧ answers[0]? = some [] ∧
      ¬ OwnResourcesOnly answers := by
  intro answers
  have h_found : resourceTableSearch (registeredTable answers) 7 = some 0 := by decide +kernel
  refine ⟨h_found, rfl, fun h => ?_⟩
  obtain ⟨l, h_get, h_mem⟩ := h 7 (by decide) 0 h_found
  obtain rfl : [] = l := Option.some.inj h_get
  exact List.not_mem_nil h_mem

end Ownership

end DeviceControl
