import Provisioning.Proofs.Instance.Render
import Provisioning.Proofs.Registration.Identity
import Provisioning.Proofs.Registration.Store
import Provisioning.Proofs.World.Basic

/-!
# A store and the one instance that applies it

While no other registration command has to do with a store, the store is sealed
exactly as long as its instance is rendered.  A render seals the store in its midst,
and it fails only after that; but then it gives up the setup of the instance, which
opens the store again.  The invariant of this module says so of every state of a
world, and it says what each operation adds to the store.
-/

namespace Provisioning

set_option autoImplicit false

/-! ## The invariant -/

/-- In a world, an instance applies a store with a command that stands behind some lines
of its setup, and nothing else has to do with the store. -/
structure Hosting (hostId : InstanceId) (c : RegistrationCommand) (lines : List String)
    (w : World) (i : ProvisioningInstance) (s : RegistrationStore) : Prop where
  found : w.findInstance? hostId = some i
  held : w.environment.store? c.store = some s
  setup : ∃ later, i.setup = lines.map .line ++ .deferred (.registration c) :: later ∧
    ∀ item ∈ later, item.Spares c.store
  others : ∀ id j, id ≠ hostId → w.findInstance? id = some j → ∀ item ∈ j.setup, item.Spares c.store
  sequences : ∀ g ∈ w.sequences, ∀ item ∈ g.sequence.commands, item.Spares c.store
  isSealed_eq : s.isSealed = i.isRendered
  reachable : s.Reachable

namespace Hosting

variable {hostId id : InstanceId} {c : RegistrationCommand} {lines : List String} {w w' : World}
  {i j j' : ProvisioningInstance} {s s' : RegistrationStore}

/-! ### Parts of a world that change -/

/-- The invariant is about the instances, the sequences and the store. -/
theorem of_same (hosting : Hosting hostId c lines w i s) (instances : w'.instances = w.instances)
    (sequences : w'.sequences = w.sequences)
    (held : w'.environment.store? c.store = w.environment.store? c.store) :
    Hosting hostId c lines w' i s where
  found := (congrArg (·[hostId.index]?) instances).trans hosting.found
  held := held.trans hosting.held
  setup := hosting.setup
  others id j differ found :=
    hosting.others id j differ ((congrArg (·[id.index]?) instances).symm.trans found)
  sequences := sequences ▸ hosting.sequences
  isSealed_eq := hosting.isSealed_eq
  reachable := hosting.reachable

theorem eq_of_found (hosting : Hosting hostId c lines w i s)
    (found : w.findInstance? hostId = some j) : j = i :=
  Option.some.inj (found.symm.trans hosting.found)

/-- The instance that applies the store may change together with the store, as long as it
keeps what it has in its setup. -/
theorem setHost (hosting : Hosting hostId c lines w i s) {more : List ScriptItem}
    (instances : w'.instances = w.instances) (sequences : w'.sequences = w.sequences)
    (held : w'.environment.store? c.store = some s') (setup : j.setup = i.setup ++ more)
    (spares : ∀ item ∈ more, item.Spares c.store) (isSealed_eq : s'.isSealed = j.isRendered)
    (reachable : s'.Reachable) : Hosting hostId c lines (w'.setInstance hostId j) j s' := by
  have same : ∀ id, w'.findInstance? id = w.findInstance? id := fun id =>
    congrArg (·[id.index]?) instances
  obtain ⟨later, isSetup, sparesLater⟩ := hosting.setup
  refine ⟨?_, held, ⟨later ++ more, ?_, ?_⟩, ?_, sequences ▸ hosting.sequences, isSealed_eq,
    reachable⟩
  · exact World.findInstance?_setInstance_self ((same hostId).trans hosting.found)
  · rw [setup, isSetup, List.append_assoc, List.cons_append]
  · intro item mem
    rcases List.mem_append.mp mem with old | new
    · exact sparesLater item old
    · exact spares item new
  · intro id k differ found
    rw [World.findInstance?_setInstance_of_ne differ, same id] at found
    exact hosting.others id k differ found

/-- Another instance may change as it likes, as long as it spares the store. -/
theorem setOther (hosting : Hosting hostId c lines w i s) (differ : id ≠ hostId)
    (spares : ∀ item ∈ j.setup, item.Spares c.store) :
    Hosting hostId c lines (w.setInstance id j) i s := by
  refine ⟨?_, hosting.held, hosting.setup, ?_, hosting.sequences, hosting.isSealed_eq,
    hosting.reachable⟩
  · rw [World.findInstance?_setInstance_of_ne (Ne.symm differ)]
    exact hosting.found
  · intro other k differ' found
    by_cases same : other = id
    · subst same
      obtain ⟨within, _⟩ := List.getElem?_eq_some_iff.mp found
      have isNew : (w.setInstance other j).findInstance? other = some j :=
        List.getElem?_set_self (by simpa [World.setInstance] using within)
      rw [isNew] at found
      cases found
      exact spares
    · rw [World.findInstance?_setInstance_of_ne same] at found
      exact hosting.others other k differ' found

/-- An instance that takes more setup without being rendered or opened again. -/
theorem extend (hosting : Hosting hostId c lines w i s) {more : List ScriptItem}
    (found : w.findInstance? id = some j) (setup : j'.setup = j.setup ++ more)
    (spares : ∀ item ∈ more, item.Spares c.store) (isRendered : j'.isRendered = j.isRendered) :
    ∃ i', Hosting hostId c lines (w.setInstance id j') i' s ∧ i'.isRendered = i.isRendered := by
  by_cases same : id = hostId
  · subst same
    cases hosting.eq_of_found found
    exact ⟨j', hosting.setHost rfl rfl hosting.held setup spares
      (hosting.isSealed_eq.trans isRendered.symm) hosting.reachable, isRendered⟩
  · refine ⟨i, hosting.setOther same fun item mem => ?_, rfl⟩
    rw [setup] at mem
    rcases List.mem_append.mp mem with old | new
    · exact hosting.others id j same found item old
    · exact spares item new

/-- A new instance spares the store. -/
theorem addInstance (hosting : Hosting hostId c lines w i s)
    (spares : ∀ item ∈ j.setup, item.Spares c.store) :
    Hosting hostId c lines { w with instances := w.instances ++ [j] } i s := by
  refine ⟨?_, hosting.held, hosting.setup, ?_, hosting.sequences, hosting.isSealed_eq,
    hosting.reachable⟩
  · obtain ⟨within, _⟩ := List.getElem?_eq_some_iff.mp hosting.found
    exact (List.getElem?_append_left within).trans hosting.found
  · intro id k differ found
    rcases Nat.lt_or_ge id.index w.instances.length with old | new
    · exact hosting.others id k differ ((List.getElem?_append_left old).symm.trans found)
    · have isNew : k ∈ [j] := by
        have mem := List.mem_of_getElem? ((List.getElem?_append_right new).symm.trans found)
        exact mem
      cases List.mem_singleton.mp isNew
      exact spares

theorem setSequence (hosting : Hosting hostId c lines w i s) (sequenceId : SequenceId)
    {g : GuardedSequence} (spares : ∀ item ∈ g.sequence.commands, item.Spares c.store) :
    Hosting hostId c lines (w.setSequence sequenceId g) i s := by
  refine ⟨hosting.found, hosting.held, hosting.setup, hosting.others, ?_, hosting.isSealed_eq,
    hosting.reachable⟩
  intro g' mem
  rcases List.mem_or_eq_of_mem_set mem with old | rfl
  · exact hosting.sequences g' old
  · exact spares

end Hosting

/-! ## What an operation adds to the store -/

/-- What an operation that was answered has added to a store. -/
def Operation.accepted (storeId : StoreId) : Operation → Answer → List SourceSubnet
  | .register store segment requested _, { result := .ok .done, .. } =>
    if store = storeId then [⟨segment, requested.role, requested.status⟩] else []
  | _, _ => []

/-- The operation does not register in the store. -/
def Operation.Quiet (storeId : StoreId) : Operation → Prop
  | .register store _ _ _ => store ≠ storeId
  | _ => True

/-- How an instance and its store go on with an operation: a rendered instance stays
rendered, the store takes up what the operation added, and a sealed store takes up
nothing. -/
structure Advance (storeId : StoreId) (operation : Operation) (answer : Answer)
    (i i' : ProvisioningInstance) (s s' : RegistrationStore) : Prop where
  rendered : i.isRendered = true → i'.isRendered = true
  mem_sources : ∀ source, source ∈ s'.sources ↔
    source ∈ s.sources ∨ source ∈ operation.accepted storeId answer
  frozen : s.isSealed = true → s'.entries = s.entries ∧
    ∀ segment requested dependent, operation = .register storeId segment requested dependent →
      ∃ e, answer.result = .error e

/-- The outcome of an operation keeps the invariant, and the store goes on with it. -/
def Outcome (hostId : InstanceId) (c : RegistrationCommand) (lines : List String)
    (operation : Operation) (i : ProvisioningInstance) (s : RegistrationStore)
    (outcome : Answer × World) : Prop :=
  ∃ i' s', Hosting hostId c lines outcome.2 i' s' ∧
    Advance c.store operation outcome.1 i i' s s'

namespace Advance

variable {storeId : StoreId} {operation : Operation} {answer : Answer}
  {i i' : ProvisioningInstance} {s s' : RegistrationStore}

theorem accepted_eq_nil (answer : Answer) (quiet : operation.Quiet storeId) :
    operation.accepted storeId answer = [] := by
  unfold Operation.accepted
  split
  next store segment requested dependent events => exact if_neg quiet
  next => rfl

/-- An operation other than registering in the store adds nothing. -/
theorem of_quiet (answer : Answer) (quiet : operation.Quiet storeId)
    (rendered : i.isRendered = true → i'.isRendered = true) (entries : s'.entries = s.entries) :
    Advance storeId operation answer i i' s s' where
  rendered := rendered
  mem_sources source := by
    rw [accepted_eq_nil answer quiet, RegistrationStore.sources, RegistrationStore.sources, entries]
    simp
  frozen _ := by
    refine ⟨entries, fun segment requested dependent same => ?_⟩
    subst same
    exact absurd rfl quiet

end Advance

namespace Hosting

variable {hostId id : InstanceId} {c : RegistrationCommand} {lines : List String} {w w' : World}
  {i j j' : ProvisioningInstance} {s s' : RegistrationStore}

/-! ### Registering -/

/-- Registering in the store takes up the segment, unless the store is sealed or
something else speaks against it. -/
theorem register (hosting : Hosting hostId c lines w i s) (segment : String)
    (requested : Registration) (dependent : ResourceId) :
    Outcome hostId c lines (.register c.store segment requested dependent) i s
      (w.register c.store segment requested dependent) := by
  rw [World.register, hosting.held]
  refine World.settle_elim (fun e _ => ?_) (fun changed accepted => ?_)
  · refine ⟨i, s, hosting, id, fun source => ?_, fun _ => ⟨rfl, fun _ _ _ _ => ⟨e, rfl⟩⟩⟩
    simp [Operation.accepted]
  · obtain ⟨s', d'⟩ := changed
    obtain ⟨_, _, isOpen, _, _, isChanged⟩ := RegistrationStore.register_eq_ok_iff.mp accepted
    have held : ({ w with deployment := d' } : World).environment.store? c.store = some s :=
      hosting.held
    refine ⟨i, s', ?_, ?_⟩
    · have isHeld : (({ w with deployment := d' } : World).setStore c.store s').environment.store?
          c.store = some s' := by
        rw [World.setStore, Environment.store?_modifyStore_self, held]
        rfl
      refine ⟨hosting.found, isHeld, hosting.setup, hosting.others, hosting.sequences, ?_,
        .register hosting.reachable accepted⟩
      rw [isChanged]
      exact hosting.isSealed_eq
    · refine ⟨id, fun source => ?_, fun isSealed => ?_⟩
      · rw [RegistrationStore.mem_sources_of_register accepted]
        simp [Operation.accepted]
      · rw [isOpen] at isSealed
        cases isSealed

/-- Registering in another store leaves this one alone. -/
theorem registerElsewhere (hosting : Hosting hostId c lines w i s) {store : StoreId}
    (differ : store ≠ c.store) (segment : String) (requested : Registration)
    (dependent : ResourceId) :
    Outcome hostId c lines (.register store segment requested dependent) i s
      (w.register store segment requested dependent) := by
  have quiet : (Operation.register store segment requested dependent).Quiet c.store := differ
  rw [World.register]
  cases w.environment.store? store with
  | none => exact ⟨i, s, hosting, .of_quiet _ quiet id rfl⟩
  | some other =>
    refine World.settle_elim (fun e _ => ?_) (fun changed _ => ?_)
    · exact ⟨i, s, hosting, .of_quiet _ quiet id rfl⟩
    · exact ⟨i, s, hosting.of_same rfl rfl
        (Environment.store?_modifyStore_of_ne (Ne.symm differ)), .of_quiet _ quiet id rfl⟩

/-! ### Rendering -/

/-- An instance that is open has a store that is open. -/
theorem reopen_eq_of_open (hosting : Hosting hostId c lines w i s)
    (isOpen : i.checkOpen w.deployment = .ok ()) : s.reopen = s := by
  obtain ⟨notRendered, _⟩ := ProvisioningInstance.checkOpen_eq_ok_iff.mp isOpen
  have unsealed : s.isSealed = false := hosting.isSealed_eq.trans notRendered
  rw [RegistrationStore.reopen, ← unsealed]

/-- When the setup of the instance is given up, its store is what it was before the
setup was evaluated. -/
theorem store?_of_failure (hosting : Hosting hostId c lines w i s)
    (isOpen : i.checkOpen w.deployment = .ok ()) {e : Error} {env' : Environment}
    (ran : ScriptItem.evaluateAll i.setup w.environment = (.error e, env')) :
    (ScriptItem.releaseAll i.setup (ScriptItem.releaseAll i.setup env')).store? c.store =
      w.environment.store? c.store := by
  obtain ⟨later, isSetup, spares⟩ := hosting.setup
  have evaluated := ScriptItem.map_reopen_store?_evaluateAll i.setup w.environment c.store
  rw [ran] at evaluated
  rw [isSetup, ScriptItem.store?_releaseAll_registration spares,
    ScriptItem.store?_releaseAll_registration spares, evaluated, hosting.held, Option.map_some,
    Option.map_some, hosting.reopen_eq_of_open isOpen, hosting.reopen_eq_of_open isOpen]

/-- When the setup of the instance has texts, one of them lists the registrations as they
are, and the instance is rendered and its store sealed together. -/
theorem of_texts (hosting : Hosting hostId c lines w i s) {texts : List String}
    {env' : Environment}
    (ran : ScriptItem.evaluateAll i.setup w.environment = (.ok texts, env')) :
    c.check = .ok () ∧ (∃ others, texts = lines ++ c.text s.sources :: others) ∧
      Hosting hostId c lines
        (({ w with environment := env' } : World).setInstance hostId (i.sealedBy w.deployment))
        (i.sealedBy w.deployment) s.close := by
  obtain ⟨later, isSetup, spares⟩ := hosting.setup
  rw [isSetup] at ran
  obtain ⟨passed, isText, isSealed⟩ := ScriptItem.evaluateAll_registration_ok spares ran
  rw [Environment.sources_eq_of_store? hosting.held] at isText
  rw [hosting.held] at isSealed
  have setup : (i.sealedBy w.deployment).setup = i.setup ++ [] := (List.append_nil _).symm
  exact ⟨passed, isText, hosting.setHost rfl rfl isSealed setup
    (fun _ mem => absurd mem List.not_mem_nil) rfl hosting.reachable.close⟩

/-- A render seals the store for good or leaves it as it was. -/
theorem renderInstance (hosting : Hosting hostId c lines w i s)
    (found : w.findInstance? id = some j) :
    Outcome hostId c lines (.onInstance id .render) i s (w.renderInstance id j) := by
  have quiet : (Operation.onInstance id .render).Quiet c.store := trivial
  rw [World.renderInstance]
  by_cases same : id = hostId
  · subst same
    cases hosting.eq_of_found found
    rcases i.render_cases w.deployment w.environment with
      ⟨e, _, isOutcome⟩ | ⟨_, texts, env', ran, isOutcome⟩ | ⟨isOpen, e, env', ran, isOutcome⟩
    · rw [isOutcome]
      exact ⟨i, s, hosting.of_same rfl rfl rfl, .of_quiet _ quiet (·) rfl⟩
    · rw [isOutcome]
      obtain ⟨_, _, next⟩ := hosting.of_texts ran
      exact ⟨_, _, next, .of_quiet _ quiet (fun _ => rfl) rfl⟩
    · rw [isOutcome]
      exact ⟨i, s, hosting.of_same rfl rfl (hosting.store?_of_failure isOpen ran),
        .of_quiet _ quiet (·) rfl⟩
  · have spares := hosting.others id j same found
    have evaluated := ScriptItem.store?_evaluateAll_of_spares spares w.environment
    rcases j.render_cases w.deployment w.environment with
      ⟨e, _, isOutcome⟩ | ⟨_, texts, env', ran, isOutcome⟩ | ⟨_, e, env', ran, isOutcome⟩
    · rw [isOutcome]
      exact ⟨i, s, hosting.of_same rfl rfl rfl, .of_quiet _ quiet (·) rfl⟩
    · rw [ran] at evaluated
      rw [isOutcome]
      have next : Hosting hostId c lines { w with environment := env' } i s :=
        hosting.of_same rfl rfl evaluated
      exact ⟨i, s, next.setOther same spares, .of_quiet _ quiet (·) rfl⟩
    · rw [ran] at evaluated
      have released : (ScriptItem.releaseAll j.setup
          (ScriptItem.releaseAll j.setup env')).store? c.store = w.environment.store? c.store := by
        rw [ScriptItem.store?_releaseAll_of_spares spares,
          ScriptItem.store?_releaseAll_of_spares spares, evaluated]
      rw [isOutcome]
      exact ⟨i, s, hosting.of_same rfl rfl released, .of_quiet _ quiet (·) rfl⟩

/-- Rendering a sequence has nothing to do with the store. -/
theorem renderSequence (hosting : Hosting hostId c lines w i s) {sequenceId : SequenceId}
    {g : GuardedSequence} (mem : g ∈ w.sequences) :
    Outcome hostId c lines (.onSequence sequenceId .render) i s
      (w.renderSequence sequenceId g) := by
  have quiet : (Operation.onSequence sequenceId .render).Quiet c.store := trivial
  have spares := hosting.sequences g mem
  have evaluated := ScriptItem.store?_evaluateAll_of_spares spares w.environment
  rw [World.renderSequence]
  rcases g.sequence.render_cases w.environment with
    ⟨e, _, isOutcome⟩ | ⟨_, texts, env', ran, isOutcome⟩ | ⟨_, e, env', ran, isOutcome⟩
  · rw [isOutcome]
    exact ⟨i, s, hosting.of_same rfl rfl rfl, .of_quiet _ quiet (·) rfl⟩
  · rw [ran] at evaluated
    rw [isOutcome]
    have next : Hosting hostId c lines { w with environment := env' } i s :=
      hosting.of_same rfl rfl evaluated
    exact ⟨i, s, next.setSequence sequenceId spares, .of_quiet _ quiet (·) rfl⟩
  · rw [ran] at evaluated
    rw [isOutcome]
    have released := (ScriptItem.store?_releaseAll_of_spares spares env').trans evaluated
    exact ⟨i, s, hosting.of_same rfl rfl released, .of_quiet _ quiet (·) rfl⟩

/-! ### Single operations -/

/-- An operation that leaves instances, sequences and the store alone. -/
theorem outcome_of_same {operation : Operation} (hosting : Hosting hostId c lines w i s)
    (answer : Answer)
    (quiet : operation.Quiet c.store)
    (instances : w'.instances = w.instances) (sequences : w'.sequences = w.sequences)
    (held : w'.environment.store? c.store = w.environment.store? c.store) :
    Outcome hostId c lines operation i s (answer, w') :=
  ⟨i, s, hosting.of_same instances sequences held, .of_quiet answer quiet id rfl⟩

/-- An operation that tries a change and leaves the world as it was if the change fails. -/
theorem outcome_of_settle {α : Type} {operation : Operation} {change : Result α}
    {accept : α → Answer × World} (hosting : Hosting hostId c lines w i s)
    (quiet : operation.Quiet c.store)
    (onOk : ∀ a, change = .ok a → Outcome hostId c lines operation i s (accept a)) :
    Outcome hostId c lines operation i s (w.settle change accept) :=
  World.settle_elim (fun _ _ => hosting.outcome_of_same _ quiet rfl rfl rfl) onOk

/-- An operation on an instance that gives it more setup, or changes what is not setup. -/
theorem outcome_of_extend {operation : Operation} (hosting : Hosting hostId c lines w i s)
    (answer : Answer)
    (quiet : operation.Quiet c.store)
    (found : w.findInstance? id = some j) {more : List ScriptItem}
    (setup : j'.setup = j.setup ++ more) (spares : ∀ item ∈ more, item.Spares c.store)
    (isRendered : j'.isRendered = j.isRendered) :
    Outcome hostId c lines operation i s (answer, w.setInstance id j') := by
  obtain ⟨i', next, same⟩ := hosting.extend found setup spares isRendered
  exact ⟨i', s, next, .of_quiet answer quiet same.trans rfl⟩

theorem operateInstance (hosting : Hosting hostId c lines w i s)
    (found : w.findInstance? id = some j) (operation : InstanceOperation)
    (spares : operation.Spares c.store) :
    Outcome hostId c lines (.onInstance id operation) i s (w.operateInstance id j operation) := by
  have quiet : (Operation.onInstance id operation).Quiet c.store := trivial
  have noItem : ∀ item ∈ ([] : List ScriptItem), item.Spares c.store := fun _ mem =>
    absurd mem List.not_mem_nil
  cases operation with
  | addSetup items =>
    refine hosting.outcome_of_settle quiet fun j' changed => ?_
    obtain ⟨_, rfl⟩ := ProvisioningInstance.addSetup_eq_ok_iff.mp changed
    exact hosting.outcome_of_extend _ quiet found rfl spares rfl
  | addLogStream name path =>
    refine hosting.outcome_of_settle quiet fun j' changed => ?_
    obtain ⟨_, rfl⟩ := ProvisioningInstance.addLogStream_eq_ok_iff.mp changed
    exact hosting.outcome_of_extend _ quiet found (List.append_nil _).symm noItem rfl
  | grant statement =>
    refine hosting.outcome_of_settle quiet fun j' changed => ?_
    obtain ⟨_, rfl⟩ := ProvisioningInstance.grant_eq_ok_iff.mp changed
    exact hosting.outcome_of_extend _ quiet found (List.append_nil _).symm noItem rfl
  | addExecutionDependency resource =>
    refine hosting.outcome_of_settle quiet fun d' changed => ?_
    exact hosting.outcome_of_same _ quiet rfl rfl rfl
  | render => exact hosting.renderInstance found

theorem operateSequence (hosting : Hosting hostId c lines w i s) {sequenceId : SequenceId}
    {g : GuardedSequence} (mem : g ∈ w.sequences) (operation : SequenceOperation)
    (spares : operation.Spares c.store) :
    Outcome hostId c lines (.onSequence sequenceId operation) i s
      (w.operateSequence sequenceId g operation) := by
  have quiet : (Operation.onSequence sequenceId operation).Quiet c.store := trivial
  have before := hosting.sequences g mem
  have outcome : ∀ g' : GuardedSequence, (∀ item ∈ g'.sequence.commands, item.Spares c.store) →
      Outcome hostId c lines (.onSequence sequenceId operation) i s
        (w.setSequence sequenceId g').done := fun g' spares =>
    ⟨i, s, hosting.setSequence sequenceId spares, .of_quiet _ quiet id rfl⟩
  cases operation with
  | addItems items =>
    refine hosting.outcome_of_settle quiet fun sequence changed => ?_
    obtain ⟨_, rfl⟩ := CommandSequence.addItems_eq_ok_iff.mp changed
    refine outcome _ fun item here => ?_
    rcases List.mem_append.mp here with old | new
    · exact before item old
    · exact spares item new
  | addOnExit commands =>
    refine hosting.outcome_of_settle quiet fun sequence changed => ?_
    obtain ⟨_, rfl⟩ := CommandSequence.addOnExit_eq_ok_iff.mp changed
    exact outcome _ before
  | applyGuard guard =>
    refine hosting.outcome_of_settle quiet fun g' changed => ?_
    obtain ⟨sequence, added, same⟩ := Result.bind_eq_ok_iff.mp changed
    obtain ⟨_, rfl⟩ := CommandSequence.addOnExit_eq_ok_iff.mp added
    cases same
    exact outcome _ before
  | render => exact hosting.renderSequence mem

/-- **Every operation keeps the invariant**, and the store goes on with it. -/
theorem apply (hosting : Hosting hostId c lines w i s) (operation : Operation)
    (spares : operation.Spares c.store) :
    Outcome hostId c lines operation i s (w.apply operation) := by
  cases operation with
  | addResource path =>
    refine hosting.outcome_of_settle trivial fun change _ => ?_
    exact hosting.outcome_of_same _ trivial rfl rfl rfl
  | addDependency dependent dependency =>
    refine hosting.outcome_of_settle trivial fun change _ => ?_
    exact hosting.outcome_of_same _ trivial rfl rfl rfl
  | finalize =>
    refine hosting.outcome_of_settle trivial fun change _ => ?_
    exact hosting.outcome_of_same _ trivial rfl rfl rfl
  | declareInstance path options =>
    refine hosting.outcome_of_settle trivial fun change declared => ?_
    obtain ⟨j, d'⟩ := change
    obtain ⟨noSetup, _⟩ := ProvisioningInstance.setup_of_declare declared
    have next : Hosting hostId c lines { w with deployment := d' } i s :=
      hosting.of_same rfl rfl rfl
    refine ⟨i, s, next.addInstance (j := j) fun item mem => ?_,
      .of_quiet _ trivial id rfl⟩
    rw [noSetup] at mem
    cases mem
  | declareRegistration path options =>
    refine hosting.outcome_of_settle trivial fun declared success => ?_
    obtain ⟨object, _, isSetup, _, _⟩ := IdentityRegistration.exists_of_declare success
    have held := Environment.store?_addStore_of_some hosting.held declared.store
    have next : Hosting hostId c lines { w with
        deployment := declared.deployment
        environment := w.environment.addStore declared.store } i s :=
      hosting.of_same rfl rfl (held.trans hosting.held.symm)
    refine ⟨i, s, next.addInstance (j := declared.host) fun item mem => ?_,
      .of_quiet _ trivial id rfl⟩
    rw [isSetup, List.mem_append, List.mem_map, List.mem_singleton] at mem
    rcases mem with ⟨line, _, rfl⟩ | rfl
    · trivial
    · exact Environment.nextStore_ne_of_some hosting.held
  | addStore instanceId frontDoor =>
    have held := Environment.store?_addStore_of_some hosting.held (.create instanceId frontDoor)
    exact hosting.outcome_of_same _ trivial rfl rfl (held.trans hosting.held.symm)
  | addSequence =>
    refine ⟨i, s, ⟨hosting.found, hosting.held, hosting.setup, hosting.others, ?_,
      hosting.isSealed_eq, hosting.reachable⟩, .of_quiet _ trivial id rfl⟩
    intro g mem
    rcases List.mem_append.mp mem with old | new
    · exact hosting.sequences g old
    · cases List.mem_singleton.mp new
      exact fun item here => absurd here List.not_mem_nil
  | addCaller text => exact hosting.outcome_of_same _ trivial rfl rfl rfl
  | setCaller caller text => exact hosting.outcome_of_same _ trivial rfl rfl rfl
  | evaluate command =>
    exact hosting.outcome_of_same _ trivial rfl rfl
      (LazyCommand.store?_evaluate_of_spares spares w.environment)
  | release command =>
    exact hosting.outcome_of_same _ trivial rfl rfl
      (LazyCommand.store?_release_of_spares spares w.environment)
  | register store segment requested dependent =>
    by_cases same : store = c.store
    · subst same
      exact hosting.register segment requested dependent
    · exact hosting.registerElsewhere same segment requested dependent
  | onInstance id operation =>
    rw [World.apply]
    cases found : w.findInstance? id with
    | none => exact hosting.outcome_of_same _ trivial rfl rfl rfl
    | some j => exact hosting.operateInstance found operation spares
  | onSequence sequenceId operation =>
    rw [World.apply]
    cases found : w.findSequence? sequenceId with
    | none => exact hosting.outcome_of_same _ trivial rfl rfl rfl
    | some g => exact hosting.operateSequence (List.mem_of_getElem? found) operation spares

end Hosting

/-! ## Whole runs -/

/-- What the operations of a run have added to a store, given their answers. -/
def accepted (storeId : StoreId) (operations : List Operation) (answers : List Answer) :
    List SourceSubnet :=
  (operations.zip answers).flatMap fun (operation, answer) => operation.accepted storeId answer

/-- **Every run keeps the invariant.**  The store takes up what the run added, and when it
is sealed at the beginning it takes up nothing: every call to register fails. -/
theorem Hosting.run {hostId : InstanceId} {c : RegistrationCommand} {lines : List String}
    {w : World} {i : ProvisioningInstance} {s : RegistrationStore}
    (hosting : Hosting hostId c lines w i s) {operations : List Operation}
    (spares : ∀ operation ∈ operations, operation.Spares c.store) :
    ∃ i' s', Hosting hostId c lines (w.run operations).2 i' s' ∧
      (i.isRendered = true → i'.isRendered = true) ∧
      (∀ source, source ∈ s'.sources ↔
        source ∈ s.sources ∨ source ∈ accepted c.store operations (w.run operations).1) ∧
      (s.isSealed = true → s'.entries = s.entries ∧
        ∀ called ∈ operations.zip (w.run operations).1, ∀ segment requested dependent,
          called.1 = .register c.store segment requested dependent →
            ∃ e, called.2.result = .error e) := by
  induction operations generalizing w i s with
  | nil =>
    refine ⟨i, s, hosting, id, fun source => ?_, fun _ => ⟨rfl, fun called mem => ?_⟩⟩
    · simp [accepted]
    · cases mem
  | cons operation rest ih =>
    obtain ⟨i₁, s₁, next, step⟩ := hosting.apply operation (spares _ List.mem_cons_self)
    obtain ⟨i', s', last, rendered, members, frozen⟩ :=
      ih next fun other mem => spares other (List.mem_cons_of_mem _ mem)
    refine ⟨i', s', last, fun before => rendered (step.rendered before), fun source => ?_,
      fun before => ?_⟩
    · rw [members source, step.mem_sources source, World.run_cons, accepted, accepted,
        List.zip_cons_cons, List.flatMap_cons, List.mem_append, or_assoc]
    · obtain ⟨same, failed⟩ := step.frozen before
      have still : s₁.isSealed = true := by
        rw [next.isSealed_eq]
        exact step.rendered (hosting.isSealed_eq ▸ before)
      obtain ⟨same', failed'⟩ := frozen still
      refine ⟨same'.trans same, fun called mem => ?_⟩
      rw [World.run_cons, List.zip_cons_cons] at mem
      rcases List.mem_cons.mp mem with rfl | later
      · exact failed
      · exact failed' called later

end Provisioning
