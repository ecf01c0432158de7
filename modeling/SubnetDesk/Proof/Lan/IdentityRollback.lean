import SubnetDesk.Construction.Lan.LanIdentity

namespace SubnetDesk.Identities

open SubnetDesk.Lan (Text)

variable {Config : Type} {api : LocalConfig Config} {checks : Checks}

/-- Everything that the operations read and write, as it can be read back. -/
structure Unchanged (api : LocalConfig Config) (before after : Stores Config) : Prop where
  identities : api.identity after.config = api.identity before.config
  defaultId : api.defaultId after.config = api.defaultId before.config
  bindings : api.boundId after.config = api.boundId before.config
  passwords : after.passwords = before.passwords
  rememberedUsername : after.rememberedUsername = before.rememberedUsername
  rememberedPassword : after.rememberedPassword = before.rememberedPassword

def HasPasswords (api : LocalConfig Config) (stores : Stores Config) : Prop :=
  ∀ id, (api.identity stores.config id).isSome → (stores.passwords id).isSome

/-- A failed operation changes nothing, and a successful one leaves no identity without password. -/
def AtomicOutcome (api : LocalConfig Config) (before : Stores Config) :
    Bool × Stores Config → Prop
  | (true, after) => HasPasswords api after
  | (false, after) => Unchanged api before after

def Request.Atomic (api : LocalConfig Config) (checks : Checks) (stores : Stores Config)
    (request : Request) : Prop :=
  AtomicOutcome api stores (request.run api checks stores)

/-- The identifier of a new identity is not in use. -/
def FreshId (api : LocalConfig Config) (checks : Checks) (stores : Stores Config) (id : Text) :
    Prop :=
  id ≠ [] ∧ checks.parseUuid id = some id ∧ api.identity stores.config id = none ∧
    stores.passwords id = none ∧ api.defaultId stores.config ≠ id ∧
    ∀ fingerprint, api.boundId stores.config fingerprint ≠ id

def Request.Fresh (api : LocalConfig Config) (checks : Checks) (stores : Stores Config) :
    Request → Prop
  | .create identityId _ _ _ _ _ => FreshId api checks stores identityId
  | .importLegacyCredential identityId _ _ _ _ => FreshId api checks stores identityId
  | .update _ _ _ _ _ _ => True
  | .delete _ _ => True

/-- A new identity is not written, or it becomes the default where it has to. -/
def SafeCreate (api : LocalConfig Config) (checks : Checks) (stores : Stores Config)
    (name username password : Text) (makeDefault : Bool) (faults : CreateFaults) : Prop :=
  (checkNew api checks stores.config name username password).toBool = true →
    setPasswordError faults "" = none →
      (makeDefault = true → faults.setDefault = none) ∧ HasPasswords api stores

/-- Nothing is written before the default fails, or the default does not fail. -/
def SafeUpdate (api : LocalConfig Config) (checks : Checks) (stores : Stores Config)
    (identityId name username : Text) (password : Option Text) (makeDefault : Bool)
    (faults : CreateFaults) : Prop :=
  ∀ id identity newName newUsername,
    checkChange api checks stores.config identityId name username password =
      .ok (id, identity, newName, newUsername) →
    (password.isSome = true → setPasswordError faults "" = none) →
    if (makeDefault = true ∨ api.defaultId stores.config = id) ∧ faults.setDefault.isSome = true then
      (password.isSome = true → stores.passwords id = password) ∧
        (faults.store = false → identity.name = newName ∧ identity.username = newUsername ∧
          identity.updatedAt = checks.now)
    else
      ∀ other, (api.identity stores.config other).isSome = true →
        (other = id ∧ password.isSome = true) ∨ (stores.passwords other).isSome = true

/-- The identity is removed with its password. -/
def SafeDelete (api : LocalConfig Config) (checks : Checks) (stores : Stores Config)
    (identityId : Text) (faults : DeleteFaults) : Prop :=
  ∀ id, checks.parseUuid identityId = some id → (api.identity stores.config id).isSome = true →
    deletePasswordError faults = none →
      faults.remove = false ∧ ∀ other, other ≠ id →
        (api.identity stores.config other).isSome = true → (stores.passwords other).isSome = true

/-- A failed binding is undone, and no other default is lost with it. -/
def SafeImport (api : LocalConfig Config) (checks : Checks) (stores : Stores Config)
    (fingerprint name : Text) (makeDefault : Bool) (faults : ImportFaults) : Prop :=
  ∀ username password,
    loadRemembered checks fingerprint faults.readRemembered stores = some (username, password) →
    (checkNew api checks stores.config name username password).toBool = true →
    setPasswordError faults.create "" = none →
      (makeDefault = true → faults.create.setDefault = none) ∧
        if faults.bind.isSome = true then
          faults.create.store = false ∧ deletePasswordError faults.delete = none ∧
            faults.delete.remove = false ∧
            (makeDefault = true → api.defaultId stores.config = [])
        else HasPasswords api stores

def Request.Safe (api : LocalConfig Config) (checks : Checks) (stores : Stores Config) :
    Request → Prop
  | .create _ name username password makeDefault faults =>
      SafeCreate api checks stores name username password makeDefault faults
  | .update identityId name username password makeDefault faults =>
      SafeUpdate api checks stores identityId name username password makeDefault faults
  | .delete identityId faults => SafeDelete api checks stores identityId faults
  | .importLegacyCredential _ fingerprint name makeDefault faults =>
      SafeImport api checks stores fingerprint name makeDefault faults

theorem setPasswordError_none_iff (faults : CreateFaults) (message : String) :
    setPasswordError faults message = none ↔ setPasswordError faults "" = none := by
  cases faults with
  | mk openEntry setPassword store setDefault =>
      cases openEntry <;> cases setPassword <;> simp [setPasswordError]

theorem Unchanged.refl (stores : Stores Config) : Unchanged api stores stores :=
  ⟨rfl, rfl, rfl, rfl, rfl, rfl⟩

/-- The stores after a deletion that was not refused. -/
def deleted (api : LocalConfig Config) (id : Text) (faults : DeleteFaults) (stores : Stores Config) :
    Stores Config :=
  { stores with
    passwords := Function.update stores.passwords id none
    config := if faults.remove then stores.config else api.removeIdentity stores.config id }

/-- A deletion is refused, fails, or is done. -/
theorem delete_cases (api : LocalConfig Config) (checks : Checks) (identityId : Text)
    (faults : DeleteFaults) (stores : Stores Config) :
    (∃ id, checks.parseUuid identityId = some id ∧
      (api.identity stores.config id).isSome = true ∧ deletePasswordError faults = none ∧
      delete api checks identityId faults stores = (.ok (), deleted api id faults stores)) ∨
    ((∀ id, checks.parseUuid identityId = some id →
      (api.identity stores.config id).isSome = true → deletePasswordError faults ≠ none) ∧
      ∃ error, delete api checks identityId faults stores = (.error error, stores)) := by
  unfold delete validateIdentityId
  cases parsed : checks.parseUuid identityId with
  | none => exact .inr ⟨(fun _ same => nomatch same), _, rfl⟩
  | some id =>
      dsimp only
      cases found : api.identity stores.config id with
      | none =>
          refine .inr ⟨fun other same listed => ?_, _, rfl⟩
          cases same
          rw [found] at listed
          cases listed
      | some identity =>
          cases failed : deletePasswordError faults with
          | some error => exact .inr ⟨(fun _ _ _ none_ => nomatch none_), _, rfl⟩
          | none => exact .inl ⟨id, rfl, by rw [found]; rfl, rfl, rfl⟩

/-- A deletion removes its own identity. -/
theorem identity_deleted (lawful : api.Lawful) (id : Text) (faults : DeleteFaults)
    (stores : Stores Config) (other : Text) :
    (api.identity (deleted api id faults stores).config other).isSome = true ↔
      (other = id → faults.remove = true) ∧ (api.identity stores.config other).isSome = true := by
  unfold deleted
  cases kept : faults.remove with
  | true => simp
  | false =>
      dsimp only
      rw [if_neg (by decide), lawful.identity_remove, Function.update_apply]
      split
      next same => simp [same]
      next different => simp [different]

/-- A deletion is atomic where it is safe. -/
theorem delete_atomic_iff (lawful : api.Lawful) (stores : Stores Config) (identityId : Text)
    (faults : DeleteFaults) :
    (Request.delete identityId faults).Atomic api checks stores ↔
      SafeDelete api checks stores identityId faults := by
  unfold Request.Atomic SafeDelete
  dsimp only [Request.run]
  obtain ⟨id, parsed, listed, passes, run⟩ | ⟨refused, error, run⟩ :=
    delete_cases api checks identityId faults stores
  · rw [run]
    change HasPasswords api (deleted api id faults stores) ↔ _
    constructor
    · intro all other same _ _
      obtain rfl : id = other := Option.some.inj (parsed.symm.trans same)
      have removed : faults.remove = false := by
        by_contra kept
        have missing := all id ((identity_deleted lawful id faults stores id).mpr
          ⟨fun _ => by simpa using kept, listed⟩)
        simp [deleted] at missing
      refine ⟨removed, fun another different found => ?_⟩
      have has := all another ((identity_deleted lawful id faults stores another).mpr
        ⟨fun equal => absurd equal different, found⟩)
      dsimp only [deleted] at has
      rwa [Function.update_of_ne different] at has
    · intro safe other found
      obtain ⟨removed, others⟩ := safe id parsed listed passes
      obtain ⟨kept, found⟩ := (identity_deleted lawful id faults stores other).mp found
      have different : other ≠ id := fun equal => by
        rw [removed] at kept
        cases kept equal
      dsimp only [deleted]
      rw [Function.update_of_ne different]
      exact others other different found
  · rw [run]
    exact iff_of_true (Unchanged.refl stores) fun id parsed listed passes =>
      absurd passes (refused id parsed listed)

/-- The stores after a new password and its identity are written. -/
def written (api : LocalConfig Config) (fault : Bool) (identity : LanIdentity) (password : Text)
    (stores : Stores Config) : Stores Config :=
  (stores.setPassword identity.id password).storeIdentity api fault identity

/-- A creation is refused, fails, or is done. -/
theorem create_cases (api : LocalConfig Config) (checks : Checks)
    (identityId name username password : Text) (makeDefault : Bool) (faults : CreateFaults)
    (stores : Stores Config) :
    (∃ newName newUsername,
      (checkNew api checks stores.config name username password).toBool = true ∧
      setPasswordError faults "" = none ∧
      create api checks identityId name username password makeDefault faults stores =
        let stored := written api faults.store
          ⟨identityId, newName, newUsername, checks.now, checks.now⟩ password stores
        match makeDefault, faults.setDefault with
        | false, _ => (.ok identityId, stored)
        | true, some error => (.error error, stored)
        | true, none => (.ok identityId, stored.setDefault api identityId)) ∨
    (((checkNew api checks stores.config name username password).toBool = true →
      setPasswordError faults "" ≠ none) ∧
      ∃ error, create api checks identityId name username password makeDefault faults stores =
        (.error error, stores)) := by
  unfold create
  cases checked : checkNew api checks stores.config name username password with
  | error error => exact .inr ⟨(fun ok => nomatch ok), _, rfl⟩
  | ok accepted =>
      dsimp only
      cases failed : setPasswordError faults "Failed to save the LAN identity password: " with
      | some error =>
          refine .inr ⟨fun _ none_ => ?_, _, rfl⟩
          rw [(setPasswordError_none_iff faults _).mpr none_] at failed
          cases failed
      | none =>
          exact .inl ⟨accepted.1, accepted.2, rfl, (setPasswordError_none_iff faults _).mp failed, rfl⟩

section Written

variable (fault : Bool) (identity : LanIdentity) (password : Text) (stores : Stores Config)

/-- A write stores one password. -/
theorem passwords_written (api : LocalConfig Config) :
    (written api fault identity password stores).passwords =
      Function.update stores.passwords identity.id (some password) := by
  cases fault <;> rfl

/-- A write that is saved stores one identity. -/
theorem identity_written (lawful : api.Lawful) :
    api.identity (written api fault identity password stores).config =
      if fault then api.identity stores.config
      else Function.update (api.identity stores.config) identity.id (some identity) := by
  cases fault with
  | true => rfl
  | false => exact lawful.identity_store _ _

/-- A write keeps the default. -/
theorem default_written (lawful : api.Lawful) :
    api.defaultId (written api fault identity password stores).config =
      api.defaultId stores.config := by
  cases fault with
  | true => rfl
  | false => exact lawful.default_store _ _

/-- A write keeps the bindings. -/
theorem bound_written (lawful : api.Lawful) :
    api.boundId (written api fault identity password stores).config =
      api.boundId stores.config := by
  cases fault with
  | true => rfl
  | false => exact lawful.bound_store _ _

/-- A new identity never lacks its password. -/
theorem hasPasswords_written_iff (lawful : api.Lawful)
    (fresh : api.identity stores.config identity.id = none) :
    HasPasswords api (written api fault identity password stores) ↔ HasPasswords api stores := by
  unfold HasPasswords
  refine forall_congr' fun other => ?_
  rw [passwords_written, identity_written fault identity password stores lawful,
    Function.update_apply]
  by_cases same : other = identity.id
  · rw [same, if_pos rfl, fresh]
    simp
  · rw [if_neg same]
    cases fault <;> simp [Function.update_of_ne same]

/-- A fresh password changes the key store. -/
theorem not_unchanged_written {after : Stores Config} (fresh : stores.passwords identity.id = none)
    (same : after.passwords = (written api fault identity password stores).passwords) :
    ¬ Unchanged api stores after := by
  intro unchanged
  have entry := congrFun (same.symm.trans unchanged.passwords) identity.id
  rw [passwords_written, Function.update_self, fresh] at entry
  cases entry

end Written

/-- The passwords depend on two stores only. -/
theorem hasPasswords_congr {first second : Stores Config}
    (identities : api.identity first.config = api.identity second.config)
    (passwords : first.passwords = second.passwords) :
    HasPasswords api first ↔ HasPasswords api second := by
  rw [HasPasswords, HasPasswords, identities, passwords]

/-- A creation is atomic where it is safe. -/
theorem create_atomic_iff (lawful : api.Lawful) (stores : Stores Config)
    (identityId name username password : Text) (makeDefault : Bool) (faults : CreateFaults)
    (fresh : FreshId api checks stores identityId) :
    (Request.create identityId name username password makeDefault faults).Atomic api checks stores ↔
      SafeCreate api checks stores name username password makeDefault faults := by
  unfold Request.Atomic SafeCreate
  dsimp only [Request.run]
  obtain ⟨newName, newUsername, checked, passes, run⟩ | ⟨refused, error, run⟩ :=
    create_cases api checks identityId name username password makeDefault
      faults stores
  · rw [run]
    obtain ⟨-, -, unlisted, noPassword, -, -⟩ := fresh
    have kept := hasPasswords_written_iff faults.store
      ⟨identityId, newName, newUsername, checks.now, checks.now⟩ password stores lawful unlisted
    cases makeDefault with
    | false =>
        refine kept.trans ⟨fun has _ _ => ⟨(fun no => nomatch no), has⟩, fun safe => ?_⟩
        exact (safe checked passes).2
    | true =>
        cases failed : faults.setDefault with
        | some error =>
            refine iff_of_false (not_unchanged_written faults.store _ password stores noPassword rfl)
              fun safe => ?_
            cases (safe checked passes).1 rfl
        | none =>
            refine Iff.trans (hasPasswords_congr (lawful.identity_setDefault _ _) rfl) ?_
            exact kept.trans ⟨fun has _ _ => ⟨fun _ => rfl, has⟩, fun safe => (safe checked passes).2⟩
  · rw [run]
    exact iff_of_true (Unchanged.refl stores) fun checked passes => absurd passes (refused checked)

theorem exists_of_bind_ok {Error First Second : Type} {first : Except Error First}
    {rest : First → Except Error Second} {result : Second} (ok : first >>= rest = .ok result) :
    ∃ value, first = .ok value ∧ rest value = .ok result := by
  cases first with
  | error error => cases ok
  | ok value => exact ⟨value, rfl, ok⟩

/-- A checked change is about a stored identity. -/
theorem checkChange_ok {config : Config} {identityId name username : Text} {password : Option Text}
    {id newName newUsername : Text} {identity : LanIdentity}
    (checked : checkChange api checks config identityId name username password =
      .ok (id, identity, newName, newUsername)) : api.identity config id = some identity := by
  obtain ⟨found, -, checked⟩ := exists_of_bind_ok checked
  obtain ⟨_, -, checked⟩ := exists_of_bind_ok checked
  obtain ⟨_, -, checked⟩ := exists_of_bind_ok checked
  obtain ⟨_, -, checked⟩ := exists_of_bind_ok checked
  cases listed : api.identity config found with
  | none =>
      rw [listed] at checked
      cases checked
  | some stored =>
      rw [listed] at checked
      obtain ⟨_, -, checked⟩ := exists_of_bind_ok checked
      cases checked
      exact listed

/-- The stores after the change is written, and before the default is chosen. -/
def changedStores (api : LocalConfig Config) (fault : Bool) (identity : LanIdentity)
    (password : Option Text) (stores : Stores Config) : Stores Config :=
  match password with
  | none => stores.storeIdentity api fault identity
  | some password => written api fault identity password stores

section Changed

variable (fault : Bool) (changed : LanIdentity) (password : Option Text) (stores : Stores Config)

/-- A change stores one password at most. -/
theorem passwords_changed (other : Text) :
    (changedStores api fault changed password stores).passwords other =
      if other = changed.id ∧ password.isSome = true then password else stores.passwords other := by
  cases password with
  | none => cases fault <;> simp [changedStores, Stores.storeIdentity]
  | some password =>
      dsimp only [changedStores]
      rw [passwords_written, Function.update_apply]
      simp

/-- A change that is saved stores one identity. -/
theorem identity_changed (lawful : api.Lawful) :
    api.identity (changedStores api fault changed password stores).config =
      if fault then api.identity stores.config
      else Function.update (api.identity stores.config) changed.id (some changed) := by
  cases password with
  | none =>
      cases fault with
      | true => rfl
      | false => exact lawful.identity_store _ _
  | some password => exact identity_written fault changed password stores lawful

/-- A change keeps the default. -/
theorem default_changed (lawful : api.Lawful) :
    api.defaultId (changedStores api fault changed password stores).config =
      api.defaultId stores.config := by
  cases password with
  | none =>
      cases fault with
      | true => rfl
      | false => exact lawful.default_store _ _
  | some password => exact default_written fault changed password stores lawful

/-- A change keeps the bindings. -/
theorem bound_changed (lawful : api.Lawful) :
    api.boundId (changedStores api fault changed password stores).config =
      api.boundId stores.config := by
  cases password with
  | none =>
      cases fault with
      | true => rfl
      | false => exact lawful.bound_store _ _
  | some password => exact bound_written fault changed password stores lawful

/-- A change is invisible when it writes what was there. -/
theorem unchanged_changed_iff (lawful : api.Lawful) (identity : LanIdentity)
    (listed : api.identity stores.config changed.id = some identity) :
    Unchanged api stores (changedStores api fault changed password stores) ↔
      (password.isSome = true → stores.passwords changed.id = password) ∧
        (fault = false → changed = identity) := by
  constructor
  · intro unchanged
    refine ⟨fun given => ?_, fun stored => ?_⟩
    · have entry := congrFun unchanged.passwords changed.id
      rw [passwords_changed, if_pos ⟨rfl, given⟩] at entry
      exact entry.symm
    · have entry := congrFun unchanged.identities changed.id
      rw [identity_changed fault changed password stores lawful, stored, if_neg (by decide),
        Function.update_self, listed] at entry
      exact Option.some.inj entry
  · rintro ⟨samePassword, sameIdentity⟩
    refine ⟨?_, default_changed fault changed password stores lawful,
      bound_changed fault changed password stores lawful, ?_, ?_, ?_⟩
    · rw [identity_changed fault changed password stores lawful]
      split
      · rfl
      next stored =>
        rw [← sameIdentity (by simpa using stored)] at listed
        rw [← listed, Function.update_eq_self]
    · funext other
      rw [passwords_changed]
      split
      next replaced =>
        rw [replaced.1]
        exact (samePassword replaced.2).symm
      next => rfl
    · cases password <;> cases fault <;> rfl
    · cases password <;> cases fault <;> rfl

/-- A change leaves no identity without one. -/
theorem hasPasswords_changed_iff (lawful : api.Lawful) (identity : LanIdentity)
    (listed : api.identity stores.config changed.id = some identity) :
    HasPasswords api (changedStores api fault changed password stores) ↔
      ∀ other, (api.identity stores.config other).isSome = true →
        (other = changed.id ∧ password.isSome = true) ∨ (stores.passwords other).isSome = true := by
  unfold HasPasswords
  refine forall_congr' fun other => ?_
  have sameListed : (api.identity (changedStores api fault changed password stores).config
      other).isSome = (api.identity stores.config other).isSome := by
    rw [identity_changed fault changed password stores lawful]
    split
    · rfl
    · rw [Function.update_apply]
      split
      next same => rw [same, listed]; rfl
      next => rfl
  rw [sameListed, passwords_changed]
  refine imp_congr_right fun _ => ?_
  split
  next replaced => simp [replaced.1, replaced.2]
  next kept => simp [kept]

end Changed

/-- The last step is atomic without a fault. -/
theorem finishUpdate_atomic_iff (lawful : api.Lawful) (before stores : Stores Config) (id : Text)
    (makeDefault : Bool) (fault : Option Text) :
    AtomicOutcome api before ((finishUpdate api id makeDefault fault stores).1.toBool,
        (finishUpdate api id makeDefault fault stores).2) ↔
      if (makeDefault = true ∨ api.defaultId stores.config = id) ∧ fault.isSome = true then
        Unchanged api before stores
      else HasPasswords api stores := by
  unfold finishUpdate
  by_cases chooses : makeDefault = true ∨ api.defaultId stores.config = id
  · rw [if_pos chooses]
    cases fault with
    | some error => exact (iff_of_eq (if_pos (And.intro chooses rfl))).symm
    | none =>
        refine Iff.trans (hasPasswords_congr (lawful.identity_setDefault _ _) rfl) ?_
        exact (iff_of_eq (if_neg fun failed => nomatch failed.2)).symm
  · rw [if_neg chooses]
    exact (iff_of_eq (if_neg fun failed => chooses failed.1)).symm

/-- An update is refused, fails, or is done. -/
theorem update_cases (identityId name username : Text) (password : Option Text)
    (makeDefault : Bool) (faults : CreateFaults) (lawful : api.Lawful) (stores : Stores Config) :
    (∃ id identity newName newUsername,
      checkChange api checks stores.config identityId name username password =
        .ok (id, identity, newName, newUsername) ∧
      (password.isSome = true → setPasswordError faults "" = none) ∧
      update api checks identityId name username password makeDefault faults stores =
        finishUpdate api id makeDefault faults.setDefault (changedStores api faults.store
          { identity with name := newName, username := newUsername, updatedAt := checks.now }
          password stores)) ∨
    ((∀ accepted, checkChange api checks stores.config identityId name username password =
        .ok accepted → ¬ (password.isSome = true → setPasswordError faults "" = none)) ∧
      ∃ error, update api checks identityId name username password makeDefault faults stores =
        (.error error, stores)) := by
  unfold update
  cases checked : checkChange api checks stores.config identityId name username password with
  | error error => exact .inr ⟨(fun _ ok => nomatch ok), _, rfl⟩
  | ok accepted =>
      obtain ⟨id, identity, newName, newUsername⟩ := accepted
      have same := lawful.identity_id _ _ _ (checkChange_ok checked)
      cases password with
      | none => exact .inl ⟨id, identity, newName, newUsername, rfl, (fun no => nomatch no), rfl⟩
      | some password =>
          dsimp only
          cases failed : setPasswordError faults "Failed to update the LAN identity password: " with
          | some error =>
              refine .inr ⟨fun _ _ passes => ?_, _, rfl⟩
              rw [(setPasswordError_none_iff faults _).mpr (passes rfl)] at failed
              cases failed
          | none =>
              refine .inl ⟨id, identity, newName, newUsername, rfl,
                fun _ => (setPasswordError_none_iff faults _).mp failed, ?_⟩
              rw [← same]
              rfl

/-- A change of nothing leaves the identity. -/
theorem changed_eq_iff (identity : LanIdentity) (name username : Text) (now : Int) :
    { identity with name := name, username := username, updatedAt := now } = identity ↔
      identity.name = name ∧ identity.username = username ∧ identity.updatedAt = now := by
  cases identity with
  | mk id oldName oldUsername createdAt updatedAt =>
      simp only [LanIdentity.mk.injEq, true_and]
      exact and_congr eq_comm (and_congr eq_comm eq_comm)

/-- An update is atomic where it is safe. -/
theorem update_atomic_iff (lawful : api.Lawful) (stores : Stores Config)
    (identityId name username : Text) (password : Option Text) (makeDefault : Bool)
    (faults : CreateFaults) :
    (Request.update identityId name username password makeDefault faults).Atomic api checks stores ↔
      SafeUpdate api checks stores identityId name username password makeDefault faults := by
  unfold Request.Atomic SafeUpdate
  dsimp only [Request.run]
  obtain ⟨id, identity, newName, newUsername, checked, passes, run⟩ | ⟨refused, error, run⟩ :=
    update_cases identityId name username password makeDefault faults lawful stores
  · have listed := checkChange_ok checked
    have sameId := lawful.identity_id _ _ _ listed
    rw [run, finishUpdate_atomic_iff lawful, default_changed _ _ _ _ lawful,
      unchanged_changed_iff _ _ _ _ lawful identity (by rw [sameId]; exact listed),
      hasPasswords_changed_iff _ _ _ _ lawful identity (by rw [sameId]; exact listed),
      changed_eq_iff, sameId]
    constructor
    · intro holds _ _ _ _ same _
      cases checked.symm.trans same
      exact holds
    · exact fun safe => safe id identity newName newUsername checked passes
  · rw [run]
    exact iff_of_true (Unchanged.refl stores) fun id identity newName newUsername checked passes =>
      absurd passes (refused _ checked)

/-- The stores after a new identity is written and chosen. -/
def created (api : LocalConfig Config) (fault : Bool) (identity : LanIdentity) (password : Text)
    (makeDefault : Bool) (stores : Stores Config) : Stores Config :=
  let stored := written api fault identity password stores
  if makeDefault then stored.setDefault api identity.id else stored

section Created

variable (fault : Bool) (identity : LanIdentity) (password : Text) (makeDefault : Bool)
  (stores : Stores Config)

theorem passwords_created : (created api fault identity password makeDefault stores).passwords =
    Function.update stores.passwords identity.id (some password) := by
  rw [← passwords_written fault identity password stores api]
  cases makeDefault <;> rfl

theorem identity_created (lawful : api.Lawful) :
    api.identity (created api fault identity password makeDefault stores).config =
      if fault then api.identity stores.config
      else Function.update (api.identity stores.config) identity.id (some identity) := by
  rw [← identity_written fault identity password stores lawful]
  cases makeDefault with
  | true => exact lawful.identity_setDefault _ _
  | false => rfl

theorem default_created (lawful : api.Lawful) :
    api.defaultId (created api fault identity password makeDefault stores).config =
      if makeDefault then identity.id else api.defaultId stores.config := by
  cases makeDefault with
  | true => exact lawful.default_setDefault _ _
  | false => exact default_written fault identity password stores lawful

theorem bound_created (lawful : api.Lawful) :
    api.boundId (created api fault identity password makeDefault stores).config =
      api.boundId stores.config := by
  rw [← bound_written fault identity password stores lawful]
  cases makeDefault with
  | true => exact lawful.bound_setDefault _ _
  | false => rfl

/-- A deletion undoes a new identity, except for the default that was replaced. -/
theorem unchanged_deleted_iff (lawful : api.Lawful) (stored : fault = false)
    (fresh : FreshId api checks stores identity.id) (faults : DeleteFaults) :
    Unchanged api stores (deleted api identity.id faults
        (created api fault identity password makeDefault stores)) ↔
      faults.remove = false ∧ (makeDefault = true → api.defaultId stores.config = []) := by
  obtain ⟨-, -, unlisted, noPassword, notDefault, unbound⟩ := fresh
  have identities := identity_created fault identity password makeDefault stores lawful
  have defaults := default_created fault identity password makeDefault stores lawful
  have bindings := bound_created fault identity password makeDefault stores lawful
  subst stored
  rw [if_neg (by decide)] at identities
  cases kept : faults.remove with
  | true =>
      refine iff_of_false (fun unchanged => ?_) fun removed => nomatch removed.1
      have entry := congrFun unchanged.identities identity.id
      dsimp only [deleted] at entry
      rw [if_pos kept, identities, Function.update_self, unlisted] at entry
      cases entry
  | false =>
      have config : (deleted api identity.id faults
          (created api false identity password makeDefault stores)).config =
            api.removeIdentity (created api false identity password makeDefault stores).config
              identity.id := if_neg (by rw [kept]; decide)
      constructor
      · intro unchanged
        refine ⟨rfl, fun chosen => ?_⟩
        have entry := unchanged.defaultId
        rw [config, lawful.default_remove, defaults, if_pos chosen, if_pos rfl] at entry
        exact entry.symm
      · rintro ⟨-, noDefault⟩
        refine ⟨?_, ?_, ?_, ?_, ?_, ?_⟩
        · rw [config, lawful.identity_remove, identities, Function.update_idem, ← unlisted,
            Function.update_eq_self]
        · rw [config, lawful.default_remove, defaults]
          cases makeDefault with
          | true => exact (if_pos rfl).trans (noDefault rfl).symm
          | false => exact if_neg notDefault
        · rw [config, lawful.bound_remove _ _ (by rw [bindings]; exact unbound), bindings]
        · change Function.update (created api false identity password makeDefault stores).passwords
            identity.id none = stores.passwords
          rw [passwords_created, Function.update_idem, ← noPassword, Function.update_eq_self]
        · cases makeDefault <;> rfl
        · cases makeDefault <;> rfl

/-- A new identity that is bound or not never lacks its password. -/
theorem hasPasswords_created_iff (lawful : api.Lawful)
    (fresh : api.identity stores.config identity.id = none) :
    HasPasswords api (created api fault identity password makeDefault stores) ↔
      HasPasswords api stores := by
  rw [← hasPasswords_written_iff fault identity password stores lawful fresh]
  cases makeDefault with
  | true => exact hasPasswords_congr (lawful.identity_setDefault _ _) rfl
  | false => rfl

end Created

/-- What a successful creation returns, and what one whose default fails returns. -/
theorem create_written (api : LocalConfig Config) (checks : Checks)
    (identityId name username password : Text) (makeDefault : Bool) (faults : CreateFaults)
    (stores : Stores Config) :
    (∃ identity, identity.id = identityId ∧
      (checkNew api checks stores.config name username password).toBool = true ∧
      setPasswordError faults "" = none ∧
      (((makeDefault = true → faults.setDefault = none) ∧
        create api checks identityId name username password makeDefault faults stores =
          (.ok identityId, created api faults.store identity password makeDefault stores)) ∨
      (¬ (makeDefault = true → faults.setDefault = none) ∧
        ∃ error, create api checks identityId name username password makeDefault faults stores =
          (.error error, written api faults.store identity password stores)))) ∨
    (((checkNew api checks stores.config name username password).toBool = true →
      setPasswordError faults "" ≠ none) ∧
      ∃ error, create api checks identityId name username password makeDefault faults stores =
        (.error error, stores)) := by
  obtain ⟨newName, newUsername, checked, passes, run⟩ | refused :=
    create_cases api checks identityId name username password makeDefault
      faults stores
  · refine .inl ⟨⟨identityId, newName, newUsername, checks.now, checks.now⟩, rfl, checked, passes, ?_⟩
    rw [run]
    cases makeDefault with
    | false => exact .inl ⟨(fun no => nomatch no), rfl⟩
    | true =>
        cases failed : faults.setDefault with
        | none => exact .inl ⟨fun _ => rfl, rfl⟩
        | some error => exact .inr ⟨(fun holds => nomatch holds rfl), error, rfl⟩
  · exact .inr refused

/-- A new binding fails only by its fault. -/
theorem bind_new {identityId : Text} (nonempty : identityId ≠ [])
    (canonical : checks.parseUuid identityId = some identityId) (fingerprint : Text)
    (fault : Option Text) (stores : Stores Config) :
    bind api checks fingerprint identityId fault stores =
      match fault with
      | some error => (.error error, stores)
      | none => (.ok (), { stores with
          config := api.bindIdentity stores.config fingerprint identityId }) := by
  have valid : validateIdentityId checks identityId = .ok identityId := by
    rw [validateIdentityId, canonical]
  cases fault with
  | none => rw [bind, if_neg nonempty, valid]
  | some error => rw [bind, if_neg nonempty, valid]

/-- Forgotten secrets are no passwords. -/
theorem hasPasswords_clearRemembered (fingerprint : Text) (faults : ImportFaults)
    (stores : Stores Config) :
    HasPasswords api (clearRemembered fingerprint faults stores) ↔ HasPasswords api stores := by
  unfold clearRemembered
  split <;> rfl

/-- A binding needs no password. -/
theorem hasPasswords_bind (lawful : api.Lawful) (fingerprint id : Text) (stores : Stores Config) :
    HasPasswords api { stores with config := api.bindIdentity stores.config fingerprint id } ↔
      HasPasswords api stores := by
  unfold HasPasswords
  rw [lawful.identity_bind]

/-- A failed binding is undone exactly when the deletion succeeds and no default was replaced. -/
theorem unchanged_undone_iff (lawful : api.Lawful) (fault : Bool) (identity : LanIdentity)
    (password : Text) (makeDefault : Bool) (stores : Stores Config) (faults : DeleteFaults)
    (fresh : FreshId api checks stores identity.id) :
    Unchanged api stores (delete api checks identity.id faults
        (created api fault identity password makeDefault stores)).2 ↔
      fault = false ∧ deletePasswordError faults = none ∧ faults.remove = false ∧
        (makeDefault = true → api.defaultId stores.config = []) := by
  have identities := identity_created fault identity password makeDefault stores lawful
  have canonical := fresh.2.1
  obtain ⟨id, parsed, listed, passes, run⟩ | ⟨refused, error, run⟩ :=
    delete_cases api checks identity.id faults
      (created api fault identity password makeDefault stores)
  · obtain rfl : identity.id = id := Option.some.inj (canonical.symm.trans parsed)
    have stored : fault = false := by
      by_contra kept
      rw [identities, if_pos (by simpa using kept), fresh.2.2.1] at listed
      cases listed
    rw [run, unchanged_deleted_iff fault identity password makeDefault stores lawful stored fresh]
    exact ⟨fun undone => ⟨stored, passes, undone⟩, fun undone => undone.2.2⟩
  · rw [run]
    refine iff_of_false (fun unchanged => ?_) fun undone => ?_
    · have entry := congrFun unchanged.passwords identity.id
      rw [passwords_created, Function.update_self, fresh.2.2.2.1] at entry
      cases entry
    · refine refused identity.id canonical ?_ undone.2.1
      rw [identities, undone.1, if_neg (by decide), Function.update_self]
      rfl

/-- An import is atomic where it is safe. -/
theorem import_atomic_iff (lawful : api.Lawful) (stores : Stores Config)
    (identityId fingerprint name : Text) (makeDefault : Bool) (faults : ImportFaults)
    (fresh : FreshId api checks stores identityId) :
    (Request.importLegacyCredential identityId fingerprint name makeDefault faults).Atomic api checks
        stores ↔ SafeImport api checks stores fingerprint name makeDefault faults := by
  unfold Request.Atomic SafeImport
  dsimp only [Request.run]
  unfold importLegacyCredential
  cases loaded : loadRemembered checks fingerprint faults.readRemembered stores with
  | none => exact iff_of_true (Unchanged.refl stores) fun _ _ same => nomatch same
  | some credential =>
      obtain ⟨username, password⟩ := credential
      dsimp only
      obtain ⟨identity, rfl, checked, passes, ⟨chosen, run⟩ | ⟨unchosen, error, run⟩⟩ |
          ⟨refused, error, run⟩ :=
        create_written api checks identityId name username password
          makeDefault faults.create stores
      · rw [run]
        dsimp only
        rw [bind_new fresh.1 fresh.2.1]
        cases failed : faults.bind with
        | some error =>
            refine (unchanged_undone_iff lawful faults.create.store identity password makeDefault
              stores faults.delete fresh).trans ⟨fun undone _ _ same _ _ => ?_, fun safe => ?_⟩
            · exact ⟨chosen, undone⟩
            · exact (safe username password rfl checked passes).2
        | none =>
            refine (hasPasswords_clearRemembered fingerprint faults _).trans ?_
            refine (hasPasswords_bind lawful fingerprint identity.id _).trans ?_
            refine (hasPasswords_created_iff faults.create.store identity password makeDefault
              stores lawful fresh.2.2.1).trans ⟨fun has _ _ _ _ _ => ?_, fun safe => ?_⟩
            · exact ⟨chosen, has⟩
            · exact (safe username password rfl checked passes).2
      · rw [run]
        refine iff_of_false (not_unchanged_written faults.create.store identity password stores
          fresh.2.2.2.1 rfl) fun safe => ?_
        exact unchosen (safe username password rfl checked passes).1
      · rw [run]
        refine iff_of_true (Unchanged.refl stores) fun _ _ same checked passes => ?_
        cases same
        exact absurd passes (refused checked)

/-- Every operation is atomic exactly in the safe cases. -/
theorem identity_requests_atomic_iff (lawful : api.Lawful) (stores : Stores Config)
    (request : Request) (fresh : request.Fresh api checks stores) :
    request.Atomic api checks stores ↔ request.Safe api checks stores := by
  cases request with
  | create identityId name username password makeDefault faults =>
      exact create_atomic_iff lawful stores identityId name username password makeDefault faults fresh
  | update identityId name username password makeDefault faults =>
      exact update_atomic_iff lawful stores identityId name username password makeDefault faults
  | delete identityId faults => exact delete_atomic_iff lawful stores identityId faults
  | importLegacyCredential identityId fingerprint name makeDefault faults =>
      exact import_atomic_iff lawful stores identityId fingerprint name makeDefault faults fresh

/-- A configuration whose identities are kept under their identifiers. -/
structure KeyedConfig where
  identities : Text → Option LanIdentity
  keyed : ∀ id identity, identities id = some identity → identity.id = id
  defaultId : Text
  boundIds : Text → Text

def keyedConfig : LocalConfig KeyedConfig where
  identity config := config.identities
  nameExists _ _ _ := false
  defaultId config := config.defaultId
  boundId config := config.boundIds
  storeIdentity config identity :=
    { config with
      identities := Function.update config.identities identity.id (some identity)
      keyed := by
        intro id found stored
        rw [Function.update_apply] at stored
        split at stored
        next same =>
          cases stored
          exact same.symm
        next => exact config.keyed id found stored }
  removeIdentity config id :=
    { config with
      identities := Function.update config.identities id none
      defaultId := if config.defaultId = id then [] else config.defaultId
      keyed := by
        intro other found stored
        rw [Function.update_apply] at stored
        split at stored
        · cases stored
        · exact config.keyed other found stored }
  setDefaultId config id := { config with defaultId := id }
  bindIdentity config fingerprint id :=
    { config with boundIds := Function.update config.boundIds fingerprint id }

/-- The sample configuration is lawful. -/
theorem keyedConfig_lawful : keyedConfig.Lawful where
  identity_id config := config.keyed
  identity_store _ _ := rfl
  default_store _ _ := rfl
  bound_store _ _ := rfl
  identity_remove _ _ := rfl
  default_remove _ _ := rfl
  bound_remove _ _ _ := rfl
  identity_setDefault _ _ := rfl
  default_setDefault _ _ := rfl
  bound_setDefault _ _ := rfl
  identity_bind _ _ _ := rfl

def acceptingChecks : Checks where
  parseUuid := some
  validateUsername := .ok
  validatePassword _ := .ok ()
  now := 0

def emptyStores : Stores KeyedConfig where
  config := ⟨fun _ => none, (fun _ _ none_ => nomatch none_), [], fun _ => []⟩
  passwords _ := none
  rememberedUsername _ := none
  rememberedPassword _ := none

def createOffice (faults : CreateFaults) : Request :=
  .create "1".toList "Office".toList "admin".toList "secret".toList true faults

theorem createOffice_fresh (faults : CreateFaults) :
    (createOffice faults).Fresh keyedConfig acceptingChecks emptyStores :=
  have other : ([] : Text) ≠ "1".toList := by decide
  ⟨by decide, rfl, rfl, rfl, other, fun _ => other⟩

theorem identity_requests_atomic_iff_office :
    (createOffice {}).Atomic keyedConfig acceptingChecks emptyStores :=
  (identity_requests_atomic_iff keyedConfig_lawful emptyStores (createOffice {})
    (createOffice_fresh {})).mpr fun _ _ => ⟨fun _ => rfl, fun _ listed => nomatch listed⟩

/-- An identity stays listed with its password although its creation reports an error. -/
theorem failed_default_keeps_identity :
    ¬ (createOffice { setDefault := some "disk full".toList }).Atomic keyedConfig acceptingChecks
      emptyStores := by
  intro atomic
  have unchanged : Unchanged keyedConfig emptyStores
      ((createOffice { setDefault := some "disk full".toList }).run keyedConfig acceptingChecks
        emptyStores).2 := atomic
  have entry := congrFun unchanged.passwords "1".toList
  exact absurd entry (by decide)

end SubnetDesk.Identities
