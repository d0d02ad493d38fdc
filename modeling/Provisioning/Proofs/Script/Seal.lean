import Provisioning.Proofs.Registration.Store
import Provisioning.Proofs.Script.Sequence

/-!
# What items do to the seal of a store

Several items may hold registration commands of one store.  The first of them that is
evaluated seals the store, and those that follow find it sealed, so all of them list
the same registrations.  Giving items up opens the store if any of them holds such a
command, whether or not it was evaluated, and whoever sealed the store.
-/

namespace Provisioning

set_option autoImplicit false

/-! ## Stores that differ in their seals -/

namespace RegistrationStore

variable {s s' : RegistrationStore}

theorem close_eq_of_reopen_eq (same : s'.reopen = s.reopen) : s'.close = s.close := by
  have closed : s'.reopen.close = s.reopen.close := congrArg close same
  exact closed

theorem sources_eq_of_reopen_eq (same : s'.reopen = s.reopen) : s'.sources = s.sources := by
  have listed : s'.reopen.sources = s.reopen.sources := congrArg sources same
  exact listed

theorem close_eq_of_isSealed (isSealed : s.isSealed = true) : s.close = s := by
  rw [close, ← isSealed]

end RegistrationStore

/-- A store that is sealed stays as it is, whatever command is evaluated. -/
theorem LazyCommand.store?_evaluate_of_isSealed {id : StoreId} {s : RegistrationStore}
    {env : Environment} (command : LazyCommand) (held : env.store? id = some s)
    (isSealed : s.isSealed = true) : (command.evaluate env).2.store? id = some s := by
  cases command with
  | fixed text => exact held
  | caller caller => exact held
  | registration c =>
    rw [evaluate]
    cases c.check with
    | error e => exact held
    | ok passed =>
      by_cases same : id = c.store
      · subst same
        rw [Environment.store?_modifyStore_self, Environment.store?_note, held, Option.map_some,
          RegistrationStore.close_eq_of_isSealed isSealed]
      · exact (Environment.store?_modifyStore_of_ne same).trans held

namespace ScriptItem

variable {id : StoreId} {c : RegistrationCommand} {s : RegistrationStore} {item : ScriptItem}
  {items : List ScriptItem} {env env' : Environment} {texts : List String}

/-! ## Evaluating -/

/-- Whatever an item is, it changes nothing in a store but its seal. -/
theorem exists_store?_evaluate (item : ScriptItem) (held : env.store? id = some s) :
    ∃ s', (item.evaluate env).2.store? id = some s' ∧ s'.reopen = s.reopen := by
  have same : ((item.evaluate env).2.store? id).map RegistrationStore.reopen =
      (env.store? id).map RegistrationStore.reopen := by
    cases item with
    | line text => rfl
    | deferred command => exact command.map_reopen_store?_evaluate env id
  rw [held] at same
  exact Option.map_eq_some_iff.mp same

/-- A store that is sealed stays as it is, whatever is evaluated. -/
theorem store?_evaluateAll_of_isSealed (held : env.store? id = some s)
    (isSealed : s.isSealed = true) (items : List ScriptItem) :
    (evaluateAll items env).2.store? id = some s := by
  refine evaluateAll_preserves (P := fun env' => env'.store? id = some s)
    (fun item _ env₁ held₁ => ?_) held
  cases item with
  | line text => exact held₁
  | deferred command => exact command.store?_evaluate_of_isSealed held₁ isSealed

/-- When items have texts, the text of each registration command among them lists the
registrations as they are, and its store is sealed. -/
theorem mem_texts_of_mem (mem : .deferred (.registration c) ∈ items)
    (held : env.store? c.store = some s) (ran : evaluateAll items env = (.ok texts, env')) :
    c.text s.sources ∈ texts ∧ env'.store? c.store = some s.close := by
  induction items generalizing env s texts with
  | nil => cases mem
  | cons item rest ih =>
    obtain ⟨text, others, env₁, head, tail, rfl⟩ := evaluateAll_cons_eq_ok_iff.mp ran
    rcases List.mem_cons.mp mem with rfl | later
    · obtain ⟨_, rfl, rfl⟩ := LazyCommand.evaluate_registration_eq_ok_iff.mp head
      have closed : ((env.note (.evaluated (.registration c))).modifyStore c.store
          RegistrationStore.close).store? c.store = some s.close := by
        rw [Environment.store?_modifyStore_self, Environment.store?_note, held]
        rfl
      have after := store?_evaluateAll_of_isSealed closed rfl rest
      rw [tail] at after
      refine ⟨?_, after⟩
      rw [Environment.sources_eq_of_store? held]
      exact List.mem_cons_self
    · obtain ⟨s₁, held₁, same⟩ := exists_store?_evaluate item held
      rw [head] at held₁
      obtain ⟨isThere, isSealed⟩ := ih later held₁ tail
      rw [RegistrationStore.sources_eq_of_reopen_eq same] at isThere
      rw [RegistrationStore.close_eq_of_reopen_eq same] at isSealed
      exact ⟨List.mem_cons_of_mem _ isThere, isSealed⟩

/-! ## Giving up -/

/-- Giving up an item changes nothing in a store but its seal. -/
theorem map_reopen_store?_release (item : ScriptItem) (env : Environment) (id : StoreId) :
    ((item.release env).store? id).map RegistrationStore.reopen =
      (env.store? id).map RegistrationStore.reopen := by
  cases item with
  | line text => rfl
  | deferred command =>
    cases command with
    | fixed text => rfl
    | caller caller => rfl
    | registration c =>
      change (((LazyCommand.registration c).release env).store? id).map _ = _
      by_cases same : id = c.store
      · subst same
        rw [LazyCommand.store?_release_registration, Option.map_map]
        rfl
      · have spares : (LazyCommand.registration c).Spares id := Ne.symm same
        rw [LazyCommand.store?_release_of_spares spares]

/-- Giving up an item that has to do with a store opens the store. -/
theorem store?_release_of_not_spares (spoils : ¬ item.Spares id) (env : Environment) :
    (item.release env).store? id = (env.store? id).map RegistrationStore.reopen := by
  cases item with
  | line text => exact absurd trivial spoils
  | deferred command =>
    cases command with
    | fixed text => exact absurd trivial spoils
    | caller caller => exact absurd trivial spoils
    | registration c =>
      cases not_not.mp spoils
      exact LazyCommand.store?_release_registration c env

/-- Items all spare a store, or one of them has to do with it. -/
theorem spare_or_spoil (id : StoreId) (items : List ScriptItem) :
    (∀ item ∈ items, item.Spares id) ∨ ∃ item ∈ items, ¬ item.Spares id := by
  by_cases spoils : ∃ item ∈ items, ¬ item.Spares id
  · exact .inr spoils
  · refine .inl ?_
    intro item mem
    by_contra spoilt
    exact spoils ⟨item, mem, spoilt⟩

/-- Giving up items opens a store as soon as one of them has to do with it. -/
theorem store?_releaseAll_of_spoil (spoils : ∃ item ∈ items, ¬ item.Spares id)
    (env : Environment) :
    (releaseAll items env).store? id = (env.store? id).map RegistrationStore.reopen := by
  induction items generalizing env with
  | nil =>
    obtain ⟨item, mem, _⟩ := spoils
    cases mem
  | cons first rest ih =>
    change (releaseAll rest (first.release env)).store? id = _
    rcases spare_or_spoil id rest with spares | later
    · -- Only the first item is left to have to do with the store.
      have spoilt : ¬ first.Spares id := by
        obtain ⟨item, mem, spoilt⟩ := spoils
        rcases List.mem_cons.mp mem with rfl | mem
        · exact spoilt
        · exact absurd (spares item mem) spoilt
      rw [store?_releaseAll_of_spares spares, store?_release_of_not_spares spoilt]
    · rw [ih later, map_reopen_store?_release]

end ScriptItem

/-- Each main command is a line of the script. -/
theorem CommandSequence.exists_script_eq {commands : List String} {text : String}
    (mem : text ∈ commands) (onExit : List String) :
    ∃ before later, script commands onExit = Text.terminated (before ++ text :: later) := by
  obtain ⟨first, second, rfl⟩ := List.append_of_mem mem
  refine ⟨header ++ first,
    second ++ [")", exitCodeVariable ++ "=$?"] ++ onExit ++ ["exit $" ++ exitCodeVariable], ?_⟩
  rw [script, scriptLines]
  simp only [List.append_assoc, List.cons_append, List.nil_append]

end Provisioning
