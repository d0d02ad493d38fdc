import Provisioning.Proofs.Script.Sequence

/-!
# Environments that differ in their journals

The journal notes what was asked of lazy commands, and nothing ever reads it.  So two
environments that agree on their stores and on the commands of callers give every
command the same text, and go on agreeing when the text is asked for or given up.
-/

namespace Provisioning

set_option autoImplicit false

/-- Two environments differ at most in their journals. -/
structure Environment.Agrees (env env' : Environment) : Prop where
  stores : env'.stores = env.stores
  callers : env'.callers = env.callers

namespace Environment.Agrees

variable {env env' env'' : Environment}

theorem refl (env : Environment) : env.Agrees env :=
  ⟨rfl, rfl⟩

theorem symm (agrees : env.Agrees env') : env'.Agrees env :=
  ⟨agrees.stores.symm, agrees.callers.symm⟩

theorem trans (first : env.Agrees env') (second : env'.Agrees env'') : env.Agrees env'' :=
  ⟨second.stores.trans first.stores, second.callers.trans first.callers⟩

/-- Environments agree when every store is the same in both, and so are the commands of
callers. -/
theorem of_store? (stores : ∀ id, env'.store? id = env.store? id)
    (callers : env'.callers = env.callers) : env.Agrees env' :=
  ⟨List.ext_getElem? fun index => stores ⟨index⟩, callers⟩

theorem store? (agrees : env.Agrees env') (id : StoreId) : env'.store? id = env.store? id :=
  congrArg (·[id.index]?) agrees.stores

theorem sources (agrees : env.Agrees env') (id : StoreId) : env'.sources id = env.sources id := by
  rw [Environment.sources, Environment.sources, agrees.store?]

theorem callerText (agrees : env.Agrees env') (id : CallerId) :
    env'.callerText id = env.callerText id := by
  rw [Environment.callerText, Environment.callerText, caller?, caller?, agrees.callers,
    agrees.stores]

theorem note (agrees : env.Agrees env') (call call' : LazyCall) :
    (env.note call).Agrees (env'.note call') :=
  ⟨agrees.stores, agrees.callers⟩

theorem modifyStore (agrees : env.Agrees env') (id : StoreId)
    (f : RegistrationStore → RegistrationStore) :
    (env.modifyStore id f).Agrees (env'.modifyStore id f) :=
  ⟨congrArg (List.modify · id.index f) agrees.stores, agrees.callers⟩

theorem addStore (agrees : env.Agrees env') (s : RegistrationStore) :
    (env.addStore s).Agrees (env'.addStore s) :=
  ⟨congrArg (· ++ [s]) agrees.stores, agrees.callers⟩

theorem nextStore (agrees : env.Agrees env') : env'.nextStore = env.nextStore := by
  rw [Environment.nextStore, Environment.nextStore, agrees.stores]

theorem addCaller (agrees : env.Agrees env') (text : CallerText) :
    (env.addCaller text).Agrees (env'.addCaller text) :=
  ⟨agrees.stores, congrArg (· ++ [text]) agrees.callers⟩

theorem nextCaller (agrees : env.Agrees env') : env'.nextCaller = env.nextCaller := by
  rw [Environment.nextCaller, Environment.nextCaller, agrees.callers]

theorem setCaller (agrees : env.Agrees env') (id : CallerId) (text : CallerText) :
    (env.setCaller id text).Agrees (env'.setCaller id text) :=
  ⟨agrees.stores, congrArg (List.set · id.index text) agrees.callers⟩

/-- A command has the same text in environments that agree, and they agree afterwards. -/
theorem evaluate (agrees : env.Agrees env') (command : LazyCommand) :
    (command.evaluate env').1 = (command.evaluate env).1 ∧
      (command.evaluate env).2.Agrees (command.evaluate env').2 := by
  have noted := agrees.note (.evaluated command) (.evaluated command)
  cases command with
  | fixed text => exact ⟨rfl, noted⟩
  | caller id => exact ⟨noted.callerText id, noted⟩
  | registration c =>
    rw [LazyCommand.evaluate, LazyCommand.evaluate]
    cases c.check with
    | error e => exact ⟨rfl, noted⟩
    | ok passed =>
      refine ⟨?_, noted.modifyStore c.store RegistrationStore.close⟩
      rw [noted.sources]

theorem release (agrees : env.Agrees env') (command : LazyCommand) :
    (command.release env).Agrees (command.release env') := by
  have noted := agrees.note (.released command) (.released command)
  cases command with
  | fixed text => exact noted
  | caller id => exact noted
  | registration c => exact noted.modifyStore c.store RegistrationStore.reopen

theorem evaluateItem (agrees : env.Agrees env') (item : ScriptItem) :
    (item.evaluate env').1 = (item.evaluate env).1 ∧
      (item.evaluate env).2.Agrees (item.evaluate env').2 := by
  cases item with
  | line text => exact ⟨rfl, agrees⟩
  | deferred command => exact agrees.evaluate command

/-- Items have the same texts in environments that agree, and they agree afterwards. -/
theorem evaluateAll (agrees : env.Agrees env') (items : List ScriptItem) :
    (ScriptItem.evaluateAll items env').1 = (ScriptItem.evaluateAll items env).1 ∧
      (ScriptItem.evaluateAll items env).2.Agrees (ScriptItem.evaluateAll items env').2 := by
  induction items generalizing env env' with
  | nil => exact ⟨rfl, agrees⟩
  | cons item rest ih =>
    obtain ⟨sameText, next⟩ := agrees.evaluateItem item
    rcases head : item.evaluate env with ⟨e | text, env₁⟩
    · rcases head' : item.evaluate env' with ⟨result, env₁'⟩
      rw [head, head'] at sameText next
      cases sameText
      rw [ScriptItem.evaluateAll_cons_error head, ScriptItem.evaluateAll_cons_error head']
      exact ⟨rfl, next⟩
    · rcases head' : item.evaluate env' with ⟨result, env₁'⟩
      rw [head, head'] at sameText next
      cases sameText
      obtain ⟨sameTexts, last⟩ := ih next
      rw [ScriptItem.evaluateAll_cons_ok head, ScriptItem.evaluateAll_cons_ok head', sameTexts]
      exact ⟨rfl, last⟩

theorem releaseAll (agrees : env.Agrees env') (items : List ScriptItem) :
    (ScriptItem.releaseAll items env).Agrees (ScriptItem.releaseAll items env') := by
  induction items generalizing env env' with
  | nil => exact agrees
  | cons item rest ih =>
    cases item with
    | line text => exact ih agrees
    | deferred command => exact ih (agrees.release command)

end Environment.Agrees

/-! ## What items leave alone -/

namespace LazyCommand

theorem callers_evaluate (command : LazyCommand) (env : Environment) :
    (command.evaluate env).2.callers = env.callers := by
  cases command with
  | fixed text => rfl
  | caller id => rfl
  | registration c =>
    rw [evaluate]
    cases c.check with
    | error e => rfl
    | ok passed => rfl

theorem callers_release (command : LazyCommand) (env : Environment) :
    (command.release env).callers = env.callers := by
  cases command with
  | fixed text => rfl
  | caller id => rfl
  | registration c => rfl

end LazyCommand

namespace ScriptItem

/-- Asking for texts changes no command of a caller. -/
theorem callers_evaluateAll (items : List ScriptItem) (env : Environment) :
    (evaluateAll items env).2.callers = env.callers := by
  refine evaluateAll_preserves (P := fun env' => env'.callers = env.callers)
    (fun item _ env₁ same => ?_) rfl
  cases item with
  | line text => exact same
  | deferred command => exact (command.callers_evaluate env₁).trans same

/-- Giving up texts changes no command of a caller. -/
theorem callers_releaseAll (items : List ScriptItem) (env : Environment) :
    (releaseAll items env).callers = env.callers := by
  induction items generalizing env with
  | nil => rfl
  | cons item rest ih =>
    cases item with
    | line text => exact ih env
    | deferred command => exact (ih _).trans (command.callers_release env)

end ScriptItem

end Provisioning
