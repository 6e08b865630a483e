import DeviceControl.Control.Shared
import DeviceControl.Library.Buffer

/-!
# The resource table

`resource_table.xc` maps a resource to the number of the interface that registered it, and
`control_register_resources` fills it from the lists that the interfaces report.

An interface number is one byte, and 255 stands both for "no interface" in an entry and for the
owner of the reserved resource, the library itself. `resourceTableSearch` is the only reader:
`resourceTableSearch_eq_some_iff` reads its answer off the entries.

The result carried upwards is `registered_of_search`: after a registration of at most 255
interfaces, whatever it returned, a resource other than the special one that is found belongs to
an interface that listed it. The registration loop keeps it as `OwnedBy`, the statement that every
entry in use points at a list that contains the resource.
-/

namespace DeviceControl

/-- `RESOURCE_TABLE_MAX`. -/
abbrev resourceTableMax : ℕ := 256

/-- `IFNUM_RESERVED`. -/
def ifnumReserved : UInt8 := 255

/-- `IFNUM_NONE`: the reserved interface number is reused to indicate none. -/
def ifnumNone : UInt8 := ifnumReserved

/-- The static data of `resource_table.xc`. -/
structure ResourceTable where
  /-- The interface number of each resource. -/
  resourceTable : Buffer UInt8 resourceTableMax
  gReservedId : ControlResid
  reservedIdSpecified : Bool

namespace ResourceTable

/-- The entry of a resource. A resource is a byte, so the entry exists. -/
def entry (t : ResourceTable) (resid : ControlResid) : UInt8 :=
  have h : resid.toNat < resourceTableMax := resid.toNat_lt
  t.resourceTable[resid.toNat]

/-- `resource_table[resid] = ifnum`. -/
def setEntry (t : ResourceTable) (resid : ControlResid) (ifnum : UInt8) : ResourceTable :=
  { t with resourceTable := t.resourceTable.set resid.toNat ifnum resid.toNat_lt }

theorem entry_setEntry (t : ResourceTable) (resid r : ControlResid) (ifnum : UInt8) :
    (t.setEntry resid ifnum).entry r = if r = resid then ifnum else t.entry r := by
  unfold entry setEntry
  rw [Vector.getElem_set]
  by_cases h : r = resid
  · rw [if_pos h, if_pos (by rw [h])]
  · rw [if_neg h, if_neg (fun h_eq => h (UInt8.toNat.inj h_eq).symm)]

end ResourceTable

/-! ### The functions of `resource_table.xc` -/

/-- `resource_table_init`. -/
def resourceTableInit (reservedId : ControlResid) : ResourceTable where
  resourceTable := Vector.replicate resourceTableMax ifnumNone
  gReservedId := reservedId
  reservedIdSpecified := true

/-- The loop of `resource_table_add` over the reported resources. It stops at the first one that
cannot be mapped, and the ones before it stay mapped. -/
def resourceTableAddLoop (ifnum : UInt8) : ResourceTable → List ControlResid → ℕ × ResourceTable
  | t, [] => (0, t)
  | t, resid :: resources =>
    if resourceTableMax ≤ resid.toNat then (2, t)
    else if t.reservedIdSpecified ∧ resid = t.gReservedId then (3, t)
    else if t.entry resid < ifnumNone then (4, t)
    else resourceTableAddLoop ifnum (t.setEntry resid ifnum) resources

/-- `resource_table_add`: the code it returns and the table it leaves. -/
def resourceTableAdd (t : ResourceTable) (resources : List ControlResid) (ifnum : UInt8) :
    ℕ × ResourceTable :=
  if ifnum = ifnumNone then (1, t) else resourceTableAddLoop ifnum t resources

/-- `resource_table_search`: `some` interface number where it returns 0, `none` where it returns 1
and leaves its reference parameter unassigned. -/
def resourceTableSearch (t : ResourceTable) (resid : ControlResid) : Option UInt8 :=
  if t.reservedIdSpecified ∧ resid = t.gReservedId then some ifnumReserved
  else if resid.toNat < resourceTableMax ∧ t.entry resid < ifnumNone then some (t.entry resid)
  else none

/-- The loop of `control_register_resources` from interface `j` on. Interface `j` reports
`answers[0]`; the loop index is narrowed to the byte that `resource_table_add` takes. -/
def controlRegisterResourcesFrom (j : ℕ) (ret : ControlRet) (t : ResourceTable) :
    List (List ControlResid) → ControlRet × ResourceTable
  | [] => (ret, t)
  | r :: answers =>
    let added := resourceTableAdd t r (UInt8.ofNat j)
    controlRegisterResourcesFrom (j + 1)
      (if added.1 ≠ 0 then controlRegistrationFailed else ret) added.2 answers

/-- `control_register_resources`, where interface `j` reports `answers[j]`. -/
def controlRegisterResources (t : ResourceTable) (answers : List (List ControlResid)) :
    ControlRet × ResourceTable :=
  controlRegisterResourcesFrom 0 controlSuccess t answers

/-- `control_init`. -/
def controlInit : ControlRet × ResourceTable :=
  (controlSuccess, resourceTableInit controlSpecialResid)

/-- The table that `control_init` and `control_register_resources` leave, whatever the latter
returned. -/
def registeredTable (answers : List (List ControlResid)) : ResourceTable :=
  (controlRegisterResources controlInit.2 answers).2

/-! ### What the search answers -/

/-- `resource_table_init` reserves a resource, and no registration changes that. -/
structure ResourceTable.ReservesId (t : ResourceTable) (reservedId : ControlResid) : Prop where
  specified : t.reservedIdSpecified = true
  special : t.gReservedId = reservedId

theorem resourceTableInit_reserves (reservedId : ControlResid) :
    (resourceTableInit reservedId).ReservesId reservedId := ⟨rfl, rfl⟩

/-- `control_init` reserves the special resource. -/
abbrev ResourceTable.Reserves (t : ResourceTable) : Prop := t.ReservesId controlSpecialResid

theorem resourceTableSearch_special {t : ResourceTable} {reservedId : ControlResid}
    (h : t.ReservesId reservedId) : resourceTableSearch t reservedId = some ifnumReserved := by
  rw [resourceTableSearch, if_pos ⟨h.specified, h.special.symm⟩]

/-- A resource other than the reserved one is found with its entry, if that is in use. -/
theorem resourceTableSearch_eq_some_iff {t : ResourceTable} {reservedId : ControlResid}
    (h : t.ReservesId reservedId) {resid : ControlResid} (h_ne : resid ≠ reservedId)
    {ifnum : UInt8} :
    resourceTableSearch t resid = some ifnum ↔
      t.entry resid < ifnumNone ∧ t.entry resid = ifnum := by
  rw [resourceTableSearch, if_neg (by rintro ⟨-, h_eq⟩; exact h_ne (h_eq.trans h.special))]
  by_cases h_lt : t.entry resid < ifnumNone
  · rw [if_pos ⟨resid.toNat_lt, h_lt⟩, Option.some.injEq]
    exact (and_iff_right h_lt).symm
  · rw [if_neg (fun h_and => h_lt h_and.2)]
    simp [h_lt]

/-! ### What registration leaves -/

/-- Every entry in use is the number of a list that contains the resource. -/
def OwnedBy (answers : List (List ControlResid)) (t : ResourceTable) : Prop :=
  ∀ r, t.entry r < ifnumNone → ∃ l, answers[(t.entry r).toNat]? = some l ∧ r ∈ l

theorem resourceTableAddLoop_reserves {ifnum : UInt8} {t : ResourceTable}
    {reservedId : ControlResid} (h : t.ReservesId reservedId) (resources : List ControlResid) :
    (resourceTableAddLoop ifnum t resources).2.ReservesId reservedId := by
  induction resources generalizing t with
  | nil => exact h
  | cons resid resources ih =>
    rw [resourceTableAddLoop]
    split_ifs
    · exact h
    · exact h
    · exact h
    · exact ih ⟨h.specified, h.special⟩

/-- The loop changes an entry only to its own interface number, and only of a resource in its
list. -/
theorem resourceTableAddLoop_entry (ifnum : UInt8) (t : ResourceTable)
    (resources : List ControlResid) (r : ControlResid) :
    (resourceTableAddLoop ifnum t resources).2.entry r = t.entry r ∨
      (resourceTableAddLoop ifnum t resources).2.entry r = ifnum ∧ r ∈ resources := by
  induction resources generalizing t with
  | nil => exact Or.inl rfl
  | cons resid resources ih =>
    rw [resourceTableAddLoop]
    split_ifs
    · exact Or.inl rfl
    · exact Or.inl rfl
    · exact Or.inl rfl
    · -- mapped in this round, or in a later one
      rcases ih (t.setEntry resid ifnum) with h | ⟨h, h_mem⟩
      · rw [h, ResourceTable.entry_setEntry]
        by_cases h_eq : r = resid
        · rw [if_pos h_eq, h_eq]
          exact Or.inr ⟨rfl, List.mem_cons_self⟩
        · rw [if_neg h_eq]
          exact Or.inl rfl
      · exact Or.inr ⟨h, List.mem_cons_of_mem _ h_mem⟩

theorem resourceTableAdd_reserves {t : ResourceTable} {reservedId : ControlResid}
    (h : t.ReservesId reservedId) (resources : List ControlResid) (ifnum : UInt8) :
    (resourceTableAdd t resources ifnum).2.ReservesId reservedId := by
  rw [resourceTableAdd]
  split_ifs
  · exact h
  · exact resourceTableAddLoop_reserves h resources

theorem resourceTableAdd_entry (t : ResourceTable) (resources : List ControlResid)
    (ifnum : UInt8) (r : ControlResid) :
    (resourceTableAdd t resources ifnum).2.entry r = t.entry r ∨
      (resourceTableAdd t resources ifnum).2.entry r = ifnum ∧ r ∈ resources := by
  rw [resourceTableAdd]
  split_ifs
  · exact Or.inl rfl
  · exact resourceTableAddLoop_entry ifnum t resources r

/-- One round of the registration keeps the ownership, for the lists up to its own. -/
theorem OwnedBy.add {answers : List (List ControlResid)} {t : ResourceTable}
    (h : OwnedBy answers t) (h_len : answers.length < 255) (resources : List ControlResid) :
    OwnedBy (answers ++ [resources])
      (resourceTableAdd t resources (UInt8.ofNat answers.length)).2 := by
  intro r h_lt
  -- an entry of an earlier round points into `answers`, one of this round at the new list
  rcases resourceTableAdd_entry t resources (UInt8.ofNat answers.length) r with h_eq | ⟨h_eq, h_mem⟩
  · rw [h_eq] at h_lt ⊢
    obtain ⟨l, h_get, h_mem⟩ := h r h_lt
    refine ⟨l, ?_, h_mem⟩
    rw [List.getElem?_append_left (List.getElem?_eq_some_iff.mp h_get).1, h_get]
  · refine ⟨resources, ?_, h_mem⟩
    rw [h_eq, UInt8.toNat_ofNat_of_lt' (by rw [UInt8.size]; omega), List.getElem?_concat_length]

theorem controlRegisterResourcesFrom_reserves {j : ℕ} {ret : ControlRet} {t : ResourceTable}
    (h : t.Reserves) (answers : List (List ControlResid)) :
    (controlRegisterResourcesFrom j ret t answers).2.Reserves := by
  induction answers generalizing j ret t with
  | nil => exact h
  | cons r answers ih => exact ih (resourceTableAdd_reserves h r _)

theorem controlRegisterResourcesFrom_owned {done : List (List ControlResid)} {t : ResourceTable}
    (h : OwnedBy done t) (ret : ControlRet) (answers : List (List ControlResid))
    (h_len : done.length + answers.length ≤ 255) :
    OwnedBy (done ++ answers) (controlRegisterResourcesFrom done.length ret t answers).2 := by
  induction answers generalizing done t ret with
  | nil => simpa [controlRegisterResourcesFrom] using h
  | cons r answers ih =>
    rw [List.length_cons] at h_len
    have h_add := h.add (by omega) r
    -- the next round starts at index `done.length + 1`
    have h_rest := ih h_add (if (resourceTableAdd t r (UInt8.ofNat done.length)).1 ≠ 0
      then controlRegistrationFailed else ret) (by simp; omega)
    rwa [List.length_append, List.length_singleton, List.append_assoc, List.singleton_append]
      at h_rest

theorem registeredTable_reserves (answers : List (List ControlResid)) :
    (registeredTable answers).Reserves :=
  controlRegisterResourcesFrom_reserves (resourceTableInit_reserves _) answers

/-- **Ownership.** After the registration of at most 255 interfaces, whatever it returned, a
resource other than the special one is found only with the number of an interface that listed
it. -/
theorem registered_of_search {answers : List (List ControlResid)} (h_len : answers.length ≤ 255)
    {resid : ControlResid} (h_ne : resid ≠ controlSpecialResid) {ifnum : UInt8}
    (h : resourceTableSearch (registeredTable answers) resid = some ifnum) :
    ∃ l, answers[ifnum.toNat]? = some l ∧ resid ∈ l := by
  obtain ⟨h_lt, rfl⟩ :=
    (resourceTableSearch_eq_some_iff (registeredTable_reserves answers) h_ne).mp h
  have h_init : OwnedBy [] controlInit.2 := by
    -- a fresh table has no entry in use
    intro r h_lt
    simp [ResourceTable.entry, controlInit, resourceTableInit] at h_lt
  exact controlRegisterResourcesFrom_owned h_init _ answers (by simpa using h_len) resid h_lt

end DeviceControl
