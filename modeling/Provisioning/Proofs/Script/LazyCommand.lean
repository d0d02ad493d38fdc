import Provisioning.Proofs.Result
import Provisioning.Script.LazyCommand

/-!
# What lazy commands do to the environment

Evaluating a command may seal the store of a registration command and releasing it
may open the store again; nothing else in the environment changes but the journal.
-/

namespace Provisioning

set_option autoImplicit false

namespace Environment

variable {env : Environment} {id other : StoreId} {f : RegistrationStore → RegistrationStore}

@[simp] theorem store?_note (env : Environment) (call : LazyCall) (id : StoreId) :
    (env.note call).store? id = env.store? id := rfl

@[simp] theorem store?_modifyStore_self :
    (env.modifyStore id f).store? id = (env.store? id).map f :=
  List.getElem?_modify_eq f id.index env.stores

theorem store?_modifyStore_of_ne (differ : other ≠ id) :
    (env.modifyStore id f).store? other = env.store? other := by
  refine List.getElem?_modify_ne f env.stores fun same => ?_
  cases id
  cases other
  cases same
  exact differ rfl

theorem store?_addStore_of_some {s : RegistrationStore} (held : env.store? id = some s)
    (added : RegistrationStore) : (env.addStore added).store? id = some s := by
  obtain ⟨within, _⟩ := List.getElem?_eq_some_iff.mp held
  exact (List.getElem?_append_left within).trans held

theorem store?_addStore_nextStore (env : Environment) (added : RegistrationStore) :
    (env.addStore added).store? env.nextStore = some added :=
  List.getElem?_concat_length

theorem nextStore_ne_of_some {s : RegistrationStore} (held : env.store? id = some s) :
    env.nextStore ≠ id := by
  rintro rfl
  obtain ⟨within, _⟩ := List.getElem?_eq_some_iff.mp held
  exact absurd within (Nat.lt_irrefl _)

theorem sources_eq_of_store? {s : RegistrationStore} (held : env.store? id = some s) :
    env.sources id = s.sources := by
  rw [sources, held]
  rfl

end Environment

/-! ## Registration commands -/

/-- The check passes when there is a connection subnet and each one is a segment id. -/
theorem RegistrationCommand.check_eq_ok_iff {c : RegistrationCommand} :
    c.check = .ok () ↔
      c.connectionSubnets ≠ [] ∧ ∀ id ∈ c.connectionSubnets, isSubnetId id = true := by
  rw [check, Result.refuse_bind_eq_ok_iff, Result.forM_eq_ok_iff, List.isEmpty_iff]
  simp only [checkSubnetId_eq_ok_iff]

namespace LazyCommand

variable {c : RegistrationCommand} {env env' : Environment} {text : String}

/-- The text of a registration command lists the registrations as they are, and the
store is sealed with them. -/
theorem evaluate_registration_eq_ok_iff :
    (registration c).evaluate env = (.ok text, env') ↔
      c.check = .ok () ∧ text = c.text (env.sources c.store) ∧
        env' = (env.note (.evaluated (.registration c))).modifyStore c.store
          RegistrationStore.close := by
  rw [evaluate]
  match c.check with
  | .error e => simp
  | .ok () =>
    constructor
    · rintro ⟨⟩
      exact ⟨rfl, rfl, rfl⟩
    · rintro ⟨_, rfl, rfl⟩
      rfl

/-- Evaluating a command changes nothing in a store but its seal. -/
theorem map_reopen_store?_evaluate (command : LazyCommand) (env : Environment) (id : StoreId) :
    ((command.evaluate env).2.store? id).map RegistrationStore.reopen =
      (env.store? id).map RegistrationStore.reopen := by
  cases command with
  | fixed text => rfl
  | caller caller => rfl
  | registration c =>
    rw [evaluate]
    match c.check with
    | .error e => rfl
    | .ok () =>
      by_cases same : id = c.store
      · subst same
        rw [Environment.store?_modifyStore_self, Environment.store?_note, Option.map_map]
        rfl
      · rw [Environment.store?_modifyStore_of_ne same, Environment.store?_note]

/-! ## Commands that have nothing to do with a store -/

/-- The command is no registration command of the store. -/
def Spares (id : StoreId) : LazyCommand → Prop
  | registration command => command.store ≠ id
  | fixed _ => True
  | caller _ => True

variable {id : StoreId} {command : LazyCommand}

theorem store?_evaluate_of_spares (spares : command.Spares id) (env : Environment) :
    (command.evaluate env).2.store? id = env.store? id := by
  cases command with
  | fixed text => rfl
  | caller caller => rfl
  | registration c =>
    rw [evaluate]
    match c.check with
    | .error e => rfl
    | .ok () => exact Environment.store?_modifyStore_of_ne (Ne.symm spares)

theorem store?_release_of_spares (spares : command.Spares id) (env : Environment) :
    (command.release env).store? id = env.store? id := by
  cases command with
  | fixed text => rfl
  | caller caller => rfl
  | registration c => exact Environment.store?_modifyStore_of_ne (Ne.symm spares)

/-- Releasing a registration command opens its store, whether or not it was sealed. -/
theorem store?_release_registration (c : RegistrationCommand) (env : Environment) :
    ((registration c).release env).store? c.store =
      (env.store? c.store).map RegistrationStore.reopen :=
  Environment.store?_modifyStore_self

end LazyCommand

end Provisioning
