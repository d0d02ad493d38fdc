import Provisioning.Proofs.Registration.Contents
import Provisioning.Proofs.World.Registrations

/-!
# What the stores of a world contain

An operation takes every store of a world through one step, whatever it is about: it may render
what holds a registration command of the store, evaluate or release such a command, fail midway, or
have nothing to do with the store.  So every store of a world contains what the accepted calls of
the run have brought into it, and no later run takes anything away or changes it.
-/

namespace Provisioning

set_option autoImplicit false

/-- Giving up items changes nothing in a store but its seal. -/
theorem ScriptItem.map_reopen_store?_releaseAll (items : List ScriptItem) (env : Environment)
    (id : StoreId) :
    ((releaseAll items env).store? id).map RegistrationStore.reopen =
      (env.store? id).map RegistrationStore.reopen := by
  induction items generalizing env with
  | nil => rfl
  | cons item rest ih => exact (ih (item.release env)).trans (item.map_reopen_store?_release env id)

namespace World

open RegistrationStore (Step RecordedIn)

variable {w w' : World} {id : StoreId} {s : RegistrationStore} {taken : List SourceSubnet}

/-! ## One operation -/

/-- A store goes through a step with the outcome of an operation. -/
def Steps (w : World) (id : StoreId) (operation : Operation) (outcome : Answer × World) : Prop :=
  Step (w.environment.store? id) (operation.accepted id outcome.1)
    (outcome.2.environment.store? id)

/-- An operation other than registering that changes nothing in the store but its seal. -/
theorem steps_of_map_reopen {operation : Operation} (answer : Answer) (quiet : operation.Quiet id)
    (same : (w'.environment.store? id).map RegistrationStore.reopen =
      (w.environment.store? id).map RegistrationStore.reopen) :
    w.Steps id operation (answer, w') := by
  rw [Steps, Advance.accepted_eq_nil answer quiet]
  exact .of_map_reopen same

/-- An operation other than registering that leaves the stores alone. -/
theorem steps_of_same {operation : Operation} (answer : Answer) (quiet : operation.Quiet id)
    (same : w'.environment = w.environment) : w.Steps id operation (answer, w') :=
  steps_of_map_reopen answer quiet (by rw [same])

/-- An operation that tries a change and leaves the stores alone if the change fails. -/
theorem steps_of_settle {α : Type} {operation : Operation} {change : Result α}
    {accept : α → Answer × World} (quiet : operation.Quiet id)
    (onOk : ∀ a, change = .ok a → w.Steps id operation (accept a)) :
    w.Steps id operation (w.settle change accept) :=
  settle_elim (P := w.Steps id operation) (fun _ _ => steps_of_same _ quiet rfl) onOk

/-- A store that is added is new, and it is the one of the next id. -/
theorem steps_of_addStore {operation : Operation} (answer : Answer) (quiet : operation.Quiet id)
    {instanceId : ResourceId} {frontDoor : List String}
    (added : w'.environment = w.environment.addStore (.create instanceId frontDoor)) :
    w.Steps id operation (answer, w') := by
  rw [Steps, Advance.accepted_eq_nil answer quiet, added]
  cases before : w.environment.store? id with
  | some s =>
    rw [Environment.store?_addStore_of_some before]
    exact .reseal rfl
  | none =>
    have behind : w.environment.stores.length ≤ id.index := List.getElem?_eq_none_iff.mp before
    rw [Environment.store?, Environment.addStore, List.getElem?_append_right behind]
    cases id.index - w.environment.stores.length with
    | zero => exact .create instanceId frontDoor
    | succ later => exact .absent

/-- A call to register that is accepted is taken up by its store; one that is refused, or that
finds no store, changes nothing. -/
theorem steps_register (w : World) (id store : StoreId) (segment : String)
    (requested : Registration) (dependent : ResourceId) :
    w.Steps id (.register store segment requested dependent)
      (w.register store segment requested dependent) := by
  rw [register]
  cases held : w.environment.store? store with
  | none => exact Step.of_map_reopen rfl
  | some s =>
    refine settle_elim (P := w.Steps id _) (fun e _ => Step.of_map_reopen rfl)
      (fun changed accepted => ?_)
    obtain ⟨s', d'⟩ := changed
    by_cases same : store = id
    · subst same
      have isHeld : (w.environment.modifyStore store fun _ => s').store? store = some s' := by
        rw [Environment.store?_modifyStore_self, held]
        rfl
      have isTaken : (Operation.register store segment requested dependent).accepted store
          { result := .ok .done, events := s'.warnings segment } =
            [RegisterCall.source ⟨segment, requested, dependent⟩] := if_pos rfl
      have made : s.make w.deployment ⟨segment, requested, dependent⟩ = .ok (s', d') := accepted
      rw [Steps, isTaken, held]
      exact isHeld ▸ .register made
    · refine steps_of_map_reopen _ same ?_
      exact congrArg _ (Environment.store?_modifyStore_of_ne (Ne.symm same))

theorem steps_renderInstance (w : World) (id : StoreId) (instanceId : InstanceId)
    (i : ProvisioningInstance) :
    w.Steps id (.onInstance instanceId .render) (w.renderInstance instanceId i) := by
  have evaluated := ScriptItem.map_reopen_store?_evaluateAll i.setup w.environment id
  rw [renderInstance]
  rcases i.render_cases w.deployment w.environment with
    ⟨e, _, isOutcome⟩ | ⟨_, texts, env', ran, isOutcome⟩ | ⟨_, e, env', ran, isOutcome⟩
  · rw [isOutcome]
    exact steps_of_same _ trivial rfl
  · rw [ran] at evaluated
    rw [isOutcome]
    exact steps_of_map_reopen _ trivial evaluated
  · rw [ran] at evaluated
    rw [isOutcome]
    refine steps_of_map_reopen _ trivial ?_
    rw [ScriptItem.map_reopen_store?_releaseAll, ScriptItem.map_reopen_store?_releaseAll, evaluated]

theorem steps_renderSequence (w : World) (id : StoreId) (sequenceId : SequenceId)
    (g : GuardedSequence) :
    w.Steps id (.onSequence sequenceId .render) (w.renderSequence sequenceId g) := by
  have evaluated := ScriptItem.map_reopen_store?_evaluateAll g.sequence.commands w.environment id
  rw [renderSequence]
  rcases g.sequence.render_cases w.environment with
    ⟨e, _, isOutcome⟩ | ⟨_, texts, env', ran, isOutcome⟩ | ⟨_, e, env', ran, isOutcome⟩
  · rw [isOutcome]
    exact steps_of_same _ trivial rfl
  · rw [ran] at evaluated
    rw [isOutcome]
    exact steps_of_map_reopen _ trivial evaluated
  · rw [ran] at evaluated
    rw [isOutcome]
    exact steps_of_map_reopen _ trivial
      ((ScriptItem.map_reopen_store?_releaseAll _ _ _).trans evaluated)

/-- **Every operation takes every store through a step.** -/
theorem steps_apply (w : World) (id : StoreId) (operation : Operation) :
    w.Steps id operation (w.apply operation) := by
  cases operation with
  | addResource path => exact steps_of_settle trivial fun _ _ => steps_of_same _ trivial rfl
  | addDependency dependent dependency =>
    exact steps_of_settle trivial fun _ _ => steps_of_same _ trivial rfl
  | finalize => exact steps_of_settle trivial fun _ _ => steps_of_same _ trivial rfl
  | declareInstance path options =>
    exact steps_of_settle trivial fun _ _ => steps_of_same _ trivial rfl
  | declareRegistration path options =>
    refine steps_of_settle trivial fun declared success => ?_
    obtain ⟨_, _, _, _, isStore, _⟩ := IdentityRegistration.exists_of_declare success
    exact steps_of_addStore _ trivial (congrArg w.environment.addStore isStore)
  | addStore instanceId frontDoor => exact steps_of_addStore _ trivial rfl
  | addSequence => exact steps_of_same _ trivial rfl
  | addCaller text => exact steps_of_map_reopen _ trivial rfl
  | setCaller caller text => exact steps_of_map_reopen _ trivial rfl
  | evaluate command =>
    exact steps_of_map_reopen _ trivial (command.map_reopen_store?_evaluate w.environment id)
  | release command =>
    exact steps_of_map_reopen _ trivial
      ((ScriptItem.deferred command).map_reopen_store?_release w.environment id)
  | register store segment requested dependent =>
    exact steps_register w id store segment requested dependent
  | onInstance instanceId operation =>
    rw [apply]
    cases w.findInstance? instanceId with
    | none => exact steps_of_same _ trivial rfl
    | some i =>
      cases operation with
      | render => exact steps_renderInstance w id instanceId i
      | _ => exact steps_of_settle trivial fun _ _ => steps_of_same _ trivial rfl
  | onSequence sequenceId operation =>
    rw [apply]
    cases w.findSequence? sequenceId with
    | none => exact steps_of_same _ trivial rfl
    | some g =>
      cases operation with
      | render => exact steps_renderSequence w id sequenceId g
      | _ => exact steps_of_settle trivial fun _ _ => steps_of_same _ trivial rfl

/-! ## Runs -/

theorem accepted_run_cons (id : StoreId) (operation : Operation) (rest : List Operation) :
    accepted id (operation :: rest) (w.run (operation :: rest)).1 =
      operation.accepted id (w.apply operation).1 ++
        accepted id rest ((w.apply operation).2.run rest).1 := by
  rw [run_cons, accepted, List.zip_cons_cons, List.flatMap_cons, accepted]

/-- A run keeps the record of every store: by induction on the run, a step at a time. -/
theorem recordedIn_run (recorded : RecordedIn taken (w.environment.store? id))
    (operations : List Operation) :
    RecordedIn (taken ++ accepted id operations (w.run operations).1)
      ((w.run operations).2.environment.store? id) := by
  induction operations generalizing w taken with
  | nil =>
    rw [show accepted id [] (w.run []).1 = [] from rfl, List.append_nil]
    exact recorded
  | cons operation rest ih =>
    rw [accepted_run_cons, ← List.append_assoc]
    exact ih (recorded.step (steps_apply w id operation))

/-- A run takes away no store and no entry. -/
theorem kept_run (held : w.environment.store? id = some s) (operations : List Operation) :
    ∃ s', (w.run operations).2.environment.store? id = some s' ∧
      ∀ source ∈ s.sources, source ∈ s'.sources := by
  induction operations generalizing w s with
  | nil => exact ⟨s, held, fun _ mem => mem⟩
  | cons operation rest ih =>
    have step := steps_apply w id operation
    rw [Steps, held] at step
    obtain ⟨s₁, held₁, kept₁⟩ := step.kept
    obtain ⟨s', held', kept'⟩ := ih held₁
    exact ⟨s', held', fun source mem => kept' source (kept₁ source mem)⟩

/-- In a world that was just created there is no store. -/
theorem recordedIn_of_create {stack region : String} (created : create stack region = .ok w) :
    RecordedIn [] (w.environment.store? id) := by
  obtain ⟨d, _, rfl⟩ := Result.map_eq_ok_iff.mp created
  exact rfl

/-- **A store contains the first accepted call for each segment.**  Whatever is done in a world,
the entries of each of its stores are listed in the strict order of their segments; each segment id
passes its check, and no entry gives the role of an administrator.  The entry of a segment is what
the first accepted call for the segment asked for, there are as many entries as segments with an
accepted call, and no later run changes or removes an entry. -/
theorem store_contents {w₀ : World} {stack region : String} {operations : List Operation}
    {answers : List Answer} (created : create stack region = .ok w₀)
    (ran : w₀.run operations = (answers, w)) (held : w.environment.store? id = some s) :
    s.sources.Pairwise (·.subnetId < ·.subnetId) ∧
    (∀ source ∈ s.sources, checkSubnetId source.subnetId = .ok () ∧
      source.role ≠ .administrator) ∧
    (∀ source, source ∈ s.sources ↔
      (accepted id operations answers).find? (·.subnetId = source.subnetId) = some source) ∧
    s.entries.size = ((accepted id operations answers).map (·.subnetId)).toFinset.card ∧
    ∀ more, ∃ s', (w.run more).2.environment.store? id = some s' ∧
      ∀ source ∈ s.sources, source ∈ s'.sources := by
  have none : RecordedIn [] (w₀.environment.store? id) := recordedIn_of_create created
  have recorded := recordedIn_run none operations
  rw [ran, held, List.nil_append] at recorded
  have records : s.Records (accepted id operations answers) := recorded
  refine ⟨s.pairwise_sources, fun source mem => ?_, records.mem_sources_iff, records.size_eq_card,
    kept_run held⟩
  have registrable := records.isRegistrable source (records.mem_of_mem_sources mem)
  refine ⟨checkSubnetId_eq_ok_iff.mpr registrable.isSubnetId, ?_⟩
  intro administrator
  have notGiven := registrable.role
  rw [administrator] at notGiven
  cases notGiven

/-- What is done with a store: an accepted call, the same call again, one that disagrees, a script
that seals the store, a call that comes too late, the script given up, and one more call. -/
def callsAroundSeal : List Operation := [
  .addResource "Repository", .addResource "Fleet", .addStore ⟨"Repository"⟩ [],
  .register ⟨0⟩ "subnet-b" ⟨.client, .registered⟩ ⟨"Fleet"⟩,
  .register ⟨0⟩ "subnet-b" ⟨.client, .registered⟩ ⟨"Fleet"⟩,
  .register ⟨0⟩ "subnet-b" ⟨.server, .registered⟩ ⟨"Fleet"⟩,
  .evaluate (.registration LazyCommand.fleetCommand),
  .register ⟨0⟩ "subnet-a" ⟨.client, .registered⟩ ⟨"Fleet"⟩,
  .release (.registration LazyCommand.fleetCommand),
  .register ⟨0⟩ "subnet-a" ⟨.server, .pending⟩ ⟨"Fleet"⟩]

theorem store_contents_around_seal :
    create "Farm" "us-west-2" = .ok emptyFarm ∧
    ∃ s, (emptyFarm.run callsAroundSeal).2.environment.store? ⟨0⟩ = some s ∧
      accepted ⟨0⟩ callsAroundSeal (emptyFarm.run callsAroundSeal).1 = [
        ⟨"subnet-b", .client, .registered⟩, ⟨"subnet-b", .client, .registered⟩,
        ⟨"subnet-a", .server, .pending⟩] ∧
      s.entries.size = 2 ∧ ⟨"subnet-b", .client, .registered⟩ ∈ s.sources ∧
      ⟨"subnet-a", .server, .pending⟩ ∈ s.sources := by
  have created : create "Farm" "us-west-2" = .ok emptyFarm := rfl
  have taken : accepted ⟨0⟩ callsAroundSeal (emptyFarm.run callsAroundSeal).1 = [
      ⟨"subnet-b", .client, .registered⟩, ⟨"subnet-b", .client, .registered⟩,
      ⟨"subnet-a", .server, .pending⟩] := by
    decide +kernel
  obtain ⟨s, held⟩ : ∃ s, (emptyFarm.run callsAroundSeal).2.environment.store? ⟨0⟩ = some s :=
    Option.isSome_iff_exists.mp (by decide +kernel)
  obtain ⟨_, _, mem_iff, size, _⟩ := store_contents created rfl held
  rw [taken] at size mem_iff
  exact ⟨created, s, held, taken, size, (mem_iff _).mpr rfl, (mem_iff _).mpr rfl⟩

end World

end Provisioning
