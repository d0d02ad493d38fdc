import Provisioning.Proofs.Instance.Render
import Provisioning.Proofs.Registration.Command
import Provisioning.Proofs.Script.Seal
import Provisioning.Proofs.World.CallOrder

/-!
# How long a seal lasts

A script that lists the registrations of a store seals the store.  The seal lasts until
some registration command of the store is given up.  That need not be the command in
the script: whenever a render fails, all commands of what it was to render are given
up, and one of them may belong to a store that another render has sealed.  The store
then takes registrations that the earlier script does not know of.
-/

namespace Provisioning

set_option autoImplicit false

/-! ## Giving up a store -/

/-- Items that hold a registration command of the store fail in an environment. -/
def ScriptItem.Fail (id : StoreId) (items : List ScriptItem) (env : Environment) : Prop :=
  (∃ item ∈ items, ¬ item.Spares id) ∧ ∃ e, (ScriptItem.evaluateAll items env).1 = .error e

/-- The operation renders an open instance that holds a registration command of the store,
and the render fails. -/
def InstanceOperation.GivesUp (id : StoreId) (w : World) (i : ProvisioningInstance) :
    InstanceOperation → Prop
  | .render => i.checkOpen w.deployment = .ok () ∧ ScriptItem.Fail id i.setup w.environment
  | _ => False

/-- The operation renders an open sequence that holds a registration command of the store,
and the render fails. -/
def SequenceOperation.GivesUp (id : StoreId) (w : World) (g : GuardedSequence) :
    SequenceOperation → Prop
  | .render =>
    g.sequence.isSealed = false ∧ ScriptItem.Fail id g.sequence.commands w.environment
  | _ => False

/-- In a world, an operation gives up a registration command of the store: by itself, or
with all commands of a render that fails. -/
def Operation.GivesUp (id : StoreId) (w : World) : Operation → Prop
  | .release command => ¬ command.Spares id
  | .onInstance instanceId operation =>
    ∃ i, w.findInstance? instanceId = some i ∧ operation.GivesUp id w i
  | .onSequence sequenceId operation =>
    ∃ g, w.findSequence? sequenceId = some g ∧ operation.GivesUp id w g
  | _ => False

/-- The operations of a run never give up the store. -/
def World.Respects (id : StoreId) (w : World) : List Operation → Prop
  | [] => True
  | operation :: rest => ¬ operation.GivesUp id w ∧ Respects id (w.apply operation).2 rest

/-- What becomes of a sealed store: it is opened when it is given up, and otherwise it stays
as it is. -/
structure SealOutcome (id : StoreId) (s : RegistrationStore) (givenUp : Prop)
    (outcome : Answer × World) : Prop where
  opened : givenUp → outcome.2.environment.store? id = some s.reopen
  kept : ¬ givenUp → outcome.2.environment.store? id = some s

/-! ## Sealed stores -/

/-- A sealed store refuses to register anything, and nothing changes. -/
theorem World.exists_apply_register_eq {w : World} {id : StoreId} {s : RegistrationStore}
    (held : w.environment.store? id = some s) (isSealed : s.isSealed = true) (segment : String)
    (requested : Registration) (dependent : ResourceId) :
    ∃ e, w.apply (.register id segment requested dependent) = ({ result := .error e }, w) := by
  rw [apply, register, held]
  refine settle_elim (P := fun outcome => ∃ e, outcome = ({ result := .error e }, w))
    (fun e _ => ⟨e, rfl⟩) (fun changed accepted => ?_)
  obtain ⟨_, _, isOpen, _⟩ := RegistrationStore.register_eq_ok_iff.mp accepted
  rw [isSealed] at isOpen
  cases isOpen

namespace SealOutcome

variable {id : StoreId} {w w' : World} {s : RegistrationStore} {givenUp : Prop}
  {env : Environment}

/-- An operation that leaves the store alone. -/
theorem of_kept (notGivenUp : ¬ givenUp) (answer : Answer)
    (held : w'.environment.store? id = some s) : SealOutcome id s givenUp (answer, w') :=
  ⟨fun happened => absurd happened notGivenUp, fun _ => held⟩

/-- An operation that tries a change and leaves the store alone. -/
theorem of_settle {α : Type} {change : Result α} {accept : α → Answer × World}
    (notGivenUp : ¬ givenUp) (held : w.environment.store? id = some s)
    (accepts : ∀ a, change = .ok a → (accept a).2.environment.store? id = some s) :
    SealOutcome id s givenUp (w.settle change accept) :=
  World.settle_elim (fun _ _ => of_kept notGivenUp _ held)
    fun a changed => of_kept notGivenUp _ (accepts a changed)

theorem register (held : w.environment.store? id = some s) (isSealed : s.isSealed = true)
    (store : StoreId) (segment : String) (requested : Registration) (dependent : ResourceId) :
    SealOutcome id s False (w.apply (.register store segment requested dependent)) := by
  by_cases same : store = id
  · subst same
    obtain ⟨e, isOutcome⟩ :=
      World.exists_apply_register_eq held isSealed segment requested dependent
    rw [isOutcome]
    exact of_kept not_false _ held
  · rw [World.apply, World.register]
    cases w.environment.store? store with
    | none => exact of_kept not_false _ held
    | some other =>
      refine of_settle not_false held ?_
      intro changed _
      exact (Environment.store?_modifyStore_of_ne (Ne.symm same)).trans held

theorem renderInstance (held : w.environment.store? id = some s) (isSealed : s.isSealed = true)
    (instanceId : InstanceId) (i : ProvisioningInstance) :
    SealOutcome id s (InstanceOperation.render.GivesUp id w i) (w.renderInstance instanceId i) := by
  have evaluated := ScriptItem.store?_evaluateAll_of_isSealed held isSealed i.setup
  rw [World.renderInstance]
  rcases i.render_cases w.deployment w.environment with
    ⟨e, isClosed, isOutcome⟩ | ⟨_, texts, env', ran, isOutcome⟩ |
      ⟨isOpen, e, env', ran, isOutcome⟩
  · rw [isOutcome]
    refine of_kept ?_ _ held
    rintro ⟨isOpen, _⟩
    rw [isClosed] at isOpen
    cases isOpen
  · rw [ran] at evaluated
    rw [isOutcome]
    refine of_kept ?_ _ evaluated
    rintro ⟨_, _, e, failed⟩
    rw [ran] at failed
    cases failed
  · rw [ran] at evaluated
    rw [isOutcome]
    rcases ScriptItem.spare_or_spoil id i.setup with spares | spoils
    · have same : (ScriptItem.releaseAll i.setup
          (ScriptItem.releaseAll i.setup env')).store? id = some s := by
        rw [ScriptItem.store?_releaseAll_of_spares spares,
          ScriptItem.store?_releaseAll_of_spares spares, evaluated]
      refine of_kept ?_ _ same
      rintro ⟨_, ⟨item, mem, spoilt⟩, _⟩
      exact spoilt (spares item mem)
    · refine ⟨?_, fun kept => absurd ⟨isOpen, spoils, e, by rw [ran]⟩ kept⟩
      intro _
      dsimp only
      rw [ScriptItem.store?_releaseAll_of_spoil spoils,
        ScriptItem.store?_releaseAll_of_spoil spoils, evaluated]
      rfl

theorem renderSequence (held : w.environment.store? id = some s) (isSealed : s.isSealed = true)
    (sequenceId : SequenceId) (g : GuardedSequence) :
    SealOutcome id s (SequenceOperation.render.GivesUp id w g) (w.renderSequence sequenceId g) := by
  have evaluated := ScriptItem.store?_evaluateAll_of_isSealed held isSealed g.sequence.commands
  rw [World.renderSequence]
  rcases g.sequence.render_cases w.environment with
    ⟨e, isClosed, isOutcome⟩ | ⟨_, texts, env', ran, isOutcome⟩ |
      ⟨unsealed, e, env', ran, isOutcome⟩
  · rw [isOutcome]
    refine of_kept ?_ _ held
    rintro ⟨unsealed, _⟩
    rw [CommandSequence.checkOpen_eq_ok_iff.mpr unsealed] at isClosed
    cases isClosed
  · rw [ran] at evaluated
    rw [isOutcome]
    refine of_kept ?_ _ evaluated
    rintro ⟨_, _, e, failed⟩
    rw [ran] at failed
    cases failed
  · rw [ran] at evaluated
    rw [isOutcome]
    rcases ScriptItem.spare_or_spoil id g.sequence.commands with spares | spoils
    · refine of_kept ?_ _ ((ScriptItem.store?_releaseAll_of_spares spares env').trans evaluated)
      rintro ⟨_, ⟨item, mem, spoilt⟩, _⟩
      exact spoilt (spares item mem)
    · refine ⟨?_, fun kept => absurd ⟨unsealed, spoils, e, by rw [ran]⟩ kept⟩
      intro _
      dsimp only
      rw [ScriptItem.store?_releaseAll_of_spoil spoils, evaluated]
      rfl

theorem operateInstance (held : w.environment.store? id = some s) (isSealed : s.isSealed = true)
    (instanceId : InstanceId) (i : ProvisioningInstance) (operation : InstanceOperation) :
    SealOutcome id s (operation.GivesUp id w i) (w.operateInstance instanceId i operation) := by
  cases operation with
  | addSetup items => exact of_settle not_false held fun _ _ => held
  | addLogStream name path => exact of_settle not_false held fun _ _ => held
  | grant statement => exact of_settle not_false held fun _ _ => held
  | addExecutionDependency resource => exact of_settle not_false held fun _ _ => held
  | render => exact renderInstance held isSealed instanceId i

theorem operateSequence (held : w.environment.store? id = some s) (isSealed : s.isSealed = true)
    (sequenceId : SequenceId) (g : GuardedSequence) (operation : SequenceOperation) :
    SealOutcome id s (operation.GivesUp id w g) (w.operateSequence sequenceId g operation) := by
  cases operation with
  | addItems items => exact of_settle not_false held fun _ _ => held
  | addOnExit commands => exact of_settle not_false held fun _ _ => held
  | applyGuard guard => exact of_settle not_false held fun _ _ => held
  | render => exact renderSequence held isSealed sequenceId g

/-- **A sealed store stays as it is, whatever is done, until it is given up**, and then it
is open. -/
theorem apply (held : w.environment.store? id = some s) (isSealed : s.isSealed = true)
    (operation : Operation) : SealOutcome id s (operation.GivesUp id w) (w.apply operation) := by
  cases operation with
  | addResource path => exact of_settle not_false held fun _ _ => held
  | addDependency dependent dependency => exact of_settle not_false held fun _ _ => held
  | finalize => exact of_settle not_false held fun _ _ => held
  | declareInstance path options => exact of_settle not_false held fun _ _ => held
  | declareRegistration path options =>
    exact of_settle not_false held fun declared _ =>
      Environment.store?_addStore_of_some held declared.store
  | addStore instanceId frontDoor =>
    exact of_kept not_false _ (Environment.store?_addStore_of_some held _)
  | addSequence => exact of_kept not_false _ held
  | addCaller text => exact of_kept not_false _ held
  | setCaller caller text => exact of_kept not_false _ held
  | evaluate command =>
    exact of_kept not_false _ (command.store?_evaluate_of_isSealed held isSealed)
  | release command =>
    by_cases spares : command.Spares id
    · refine of_kept (fun spoilt => spoilt spares) _ ?_
      exact (LazyCommand.store?_release_of_spares spares w.environment).trans held
    · refine ⟨?_, fun kept => absurd spares kept⟩
      intro _
      have spoilt : ¬ (ScriptItem.deferred command).Spares id := spares
      have opened := ScriptItem.store?_release_of_not_spares spoilt w.environment
      rw [held] at opened
      exact opened
  | register store segment requested dependent =>
    exact register held isSealed store segment requested dependent
  | onInstance instanceId operation =>
    rw [World.apply, Operation.GivesUp]
    cases found : w.findInstance? instanceId with
    | none =>
      refine of_kept ?_ _ held
      rintro ⟨_, impossible, _⟩
      cases impossible
    | some i =>
      simp only [Option.some.injEq, exists_eq_left']
      exact operateInstance held isSealed instanceId i operation
  | onSequence sequenceId operation =>
    rw [World.apply, Operation.GivesUp]
    cases found : w.findSequence? sequenceId with
    | none =>
      refine of_kept ?_ _ held
      rintro ⟨_, impossible, _⟩
      cases impossible
    | some g =>
      simp only [Option.some.injEq, exists_eq_left']
      exact operateSequence held isSealed sequenceId g operation

end SealOutcome

/-! ## Scripts that are out -/

/-- In a world, an operation renders an instance or a sequence that holds a registration
command, and it succeeds with a script. -/
inductive World.Renders (w : World) (c : RegistrationCommand) : Operation → String → Prop
  | host {id : InstanceId} {i : ProvisioningInstance} {artifacts : RenderedInstance}
      (found : w.findInstance? id = some i) (mem : .deferred (.registration c) ∈ i.setup)
      (success : (w.apply (.onInstance id .render)).1.result = .ok (.rendered artifacts)) :
      Renders w c (.onInstance id .render) artifacts.script
  | commands {id : SequenceId} {g : GuardedSequence} {script : String}
      (found : w.findSequence? id = some g)
      (mem : .deferred (.registration c) ∈ g.sequence.commands)
      (success : (w.apply (.onSequence id .render)).1.result = .ok (.text script)) :
      Renders w c (.onSequence id .render) script

/-- A script with a registration command in it lists the registrations as they are, and
their store is sealed. -/
theorem World.Renders.seals {w : World} {c : RegistrationCommand} {s : RegistrationStore}
    {render : Operation} {script : String} (renders : w.Renders c render script)
    (held : w.environment.store? c.store = some s) :
    (∃ before later, script = Text.terminated (before ++ c.text s.sources :: later)) ∧
      (w.apply render).2.environment.store? c.store = some s.close := by
  cases renders with
  | @host id i artifacts found mem success =>
    rw [apply_render found, renderInstance] at success ⊢
    rcases i.render_cases w.deployment w.environment with
      ⟨_, _, isOutcome⟩ | ⟨_, texts, env', ran, isOutcome⟩ | ⟨_, _, env', _, isOutcome⟩
    · rw [isOutcome] at success
      cases success
    · rw [isOutcome] at success ⊢
      cases success
      obtain ⟨isThere, isSealed⟩ := ScriptItem.mem_texts_of_mem mem held ran
      refine ⟨?_, isSealed⟩
      rw [ProvisioningInstance.script_artifacts, ProvisioningInstance.bootScript]
      exact CommandSequence.exists_script_eq (List.mem_append_right _ isThere) _
    · rw [isOutcome] at success
      cases success
  | @commands id g script found mem success =>
    rw [apply, found] at success ⊢
    change (w.renderSequence id g).1.result = _ at success
    change _ ∧ (w.renderSequence id g).2.environment.store? c.store = _
    rw [renderSequence] at success ⊢
    rcases g.sequence.render_cases w.environment with
      ⟨_, _, isOutcome⟩ | ⟨_, texts, env', ran, isOutcome⟩ | ⟨_, _, env', _, isOutcome⟩
    · rw [isOutcome] at success
      cases success
    · rw [isOutcome] at success ⊢
      cases success
      obtain ⟨isThere, isSealed⟩ := ScriptItem.mem_texts_of_mem mem held ran
      exact ⟨CommandSequence.exists_script_eq isThere _, isSealed⟩
    · rw [isOutcome] at success
      cases success

/-- A run that respects a sealed store leaves it as it is, and all of its calls to register
in the store fail. -/
theorem World.Respects.run {id : StoreId} {w : World} {s : RegistrationStore}
    {operations : List Operation} (respects : w.Respects id operations)
    (held : w.environment.store? id = some s) (isSealed : s.isSealed = true) :
    (w.run operations).2.environment.store? id = some s ∧
      ∀ called ∈ operations.zip (w.run operations).1, ∀ segment requested dependent,
        called.1 = .register id segment requested dependent →
          ∃ e, called.2.result = .error e := by
  induction operations generalizing w with
  | nil => exact ⟨held, fun _ mem => absurd mem List.not_mem_nil⟩
  | cons operation rest ih =>
    obtain ⟨notGivenUp, respectsRest⟩ := respects
    have next := (SealOutcome.apply held isSealed operation).kept notGivenUp
    obtain ⟨last, refused⟩ := ih respectsRest next
    rw [run_cons]
    refine ⟨last, ?_⟩
    intro called mem segment requested dependent isCall
    rw [List.zip_cons_cons] at mem
    rcases List.mem_cons.mp mem with rfl | later
    · subst isCall
      obtain ⟨e, isOutcome⟩ := exists_apply_register_eq held isSealed segment requested dependent
      exact ⟨e, by rw [isOutcome]⟩
    · exact refused called later segment requested dependent isCall

/-- **A seal lasts until the store is given up.**  Once a script with a registration command
is out, it lists the registrations of the store.  As long as no operation gives up the
store, no call to register succeeds and the store stays as the script has it.  An operation
that gives up the store opens it again, whoever made the script. -/
theorem World.seal_until_given_up {w w' : World} {c : RegistrationCommand}
    {s : RegistrationStore} {render : Operation} {script : String} {operations : List Operation}
    {answers : List Answer} (held : w.environment.store? c.store = some s)
    (renders : w.Renders c render script)
    (respects : (w.apply render).2.Respects c.store operations)
    (ran : (w.apply render).2.run operations = (answers, w')) :
    (∃ before later, script = Text.terminated (before ++ c.text s.sources :: later)) ∧
      w'.environment.store? c.store = some s.close ∧
      (∀ called ∈ operations.zip answers, ∀ segment requested dependent,
        called.1 = .register c.store segment requested dependent →
          ∃ e, called.2.result = .error e) ∧
      ∀ operation, operation.GivesUp c.store w' →
        (w'.apply operation).2.environment.store? c.store = some s.reopen := by
  obtain ⟨isScript, isSealed⟩ := renders.seals held
  obtain ⟨last, refused⟩ := respects.run isSealed rfl
  rw [ran] at last refused
  exact ⟨isScript, last, refused, fun operation => (SealOutcome.apply last rfl operation).opened⟩

/-- A farm with two sequences that hold the same registration command; the second one also
waits for a share. -/
def sharedFarm : World :=
  { World.openFarm with
    environment := World.openFarm.environment.addCaller fun _ =>
      .error (.config (.unreadableFile "/mnt/share" "not mounted"))
    sequences := [
      { tags := ∅
        role := .empty
        sequence := { CommandSequence.empty with
          commands := [.deferred (.registration LazyCommand.fleetCommand)] } },
      { tags := ∅
        role := .empty
        sequence := { CommandSequence.empty with
          commands := [
            .deferred (.registration LazyCommand.fleetCommand), .deferred (.caller ⟨0⟩)] } }] }

/-- The first sequence is rendered. -/
def renderFirst : Operation :=
  .onSequence ⟨0⟩ .render

/-- The second sequence is rendered. -/
def renderSecond : Operation :=
  .onSequence ⟨1⟩ .render

/-- The fleet registers its segment in the store of both sequences. -/
def fleetComes : Operation :=
  (World.fleetCall "subnet-b").on ⟨0⟩

theorem World.seal_until_given_up_shared :
    sharedFarm.environment.store? ⟨0⟩ = some (.create ⟨"Repository"⟩ ["subnet-a"]) ∧
    (∃ script, sharedFarm.Renders LazyCommand.fleetCommand renderFirst script) ∧
    (sharedFarm.apply renderFirst).2.Respects ⟨0⟩ [fleetComes] ∧
    ∃ answer w', (sharedFarm.apply renderFirst).2.run [fleetComes] = ([answer], w') ∧
      (∃ e, answer.result = .error e) ∧ renderSecond.GivesUp ⟨0⟩ w' ∧
      (w'.apply renderSecond).2.environment.store? ⟨0⟩ =
        some (.create ⟨"Repository"⟩ ["subnet-a"]) := by
  have held : sharedFarm.environment.store? ⟨0⟩ =
      some (.create ⟨"Repository"⟩ ["subnet-a"]) := rfl
  have renders : sharedFarm.Renders LazyCommand.fleetCommand renderFirst
      (CommandSequence.script [LazyCommand.fleetCommand.text []] []) :=
    .commands rfl List.mem_cons_self (by decide +kernel)
  have respects : (sharedFarm.apply renderFirst).2.Respects ⟨0⟩ [fleetComes] :=
    ⟨not_false, trivial⟩
  obtain ⟨_, _, refused, opens⟩ := World.seal_until_given_up held renders respects rfl
  have givenUp : renderSecond.GivesUp ⟨0⟩
      ((sharedFarm.apply renderFirst).2.run [fleetComes]).2 := by
    refine ⟨_, rfl, rfl, ⟨_, List.mem_cons_self, fun spares => spares rfl⟩, ?_⟩
    exact ⟨.config (.unreadableFile "/mnt/share" "not mounted"), by decide +kernel⟩
  exact ⟨held, ⟨_, renders⟩, respects, _, _, rfl,
    refused _ List.mem_cons_self _ _ _ rfl, givenUp, opens _ givenUp⟩

/-- **A seal is not for good.**  After the first script is out, the render of the second
sequence fails and opens the store of both, and a registration is accepted that the first
script does not have. -/
theorem World.not_sealed_for_good :
    ¬ ∀ (w : World) (c : RegistrationCommand) (render : Operation) (script : String)
        (operations : List Operation), w.Renders c render script →
      ∀ called ∈ operations.zip ((w.apply render).2.run operations).1,
        ∀ segment requested dependent,
          called.1 = .register c.store segment requested dependent →
            ∃ e, called.2.result = .error e := by
  intro always
  have renders : sharedFarm.Renders LazyCommand.fleetCommand renderFirst
      (CommandSequence.script [LazyCommand.fleetCommand.text []] []) :=
    .commands rfl List.mem_cons_self (by decide +kernel)
  have taken : (((sharedFarm.apply renderFirst).2.run [renderSecond, fleetComes]).1[1]?.map
      (·.result)) = some (.ok .done) := by
    decide +kernel
  obtain ⟨e, refused⟩ := always _ _ _ _ [renderSecond, fleetComes] renders _
    (List.mem_cons_of_mem _ List.mem_cons_self) "subnet-b" ⟨.client, .registered⟩ ⟨"Fleet"⟩ rfl
  have failed : (((sharedFarm.apply renderFirst).2.run [renderSecond, fleetComes]).1[1]?.map
      (·.result)) = some (.error e) := congrArg some refused
  rw [taken] at failed
  cases failed

end Provisioning
