import Provisioning.Proofs.LogStreams
import Provisioning.Proofs.World.Artifacts
import Provisioning.Proofs.World.Graph

/-!
# What the streams of an instance become

An instance takes up streams while it is open, and when it can still be rendered it was open
before.  So every stream that it was asked to ship was taken up, and what a render ships can be
told from the operations since the declaration alone.
-/

namespace Provisioning

set_option autoImplicit false

/-! ## Streams that are asked for -/

/-- What an operation on an instance asks to ship. -/
def InstanceOperation.streams : InstanceOperation → List (String × String)
  | .addLogStream name path => [(name, path)]
  | _ => []

/-- What an operation asks an instance to ship. -/
def Operation.streamsFor (id : InstanceId) : Operation → List (String × String)
  | .onInstance other change => if other = id then change.streams else []
  | _ => []

theorem Operation.streamsFor_eq_nil {id : InstanceId} {operation : Operation}
    (asksNothing : ∀ name path, operation ≠ .onInstance id (.addLogStream name path)) :
    operation.streamsFor id = [] := by
  unfold streamsFor
  split
  next other change =>
    refine ite_eq_right_iff.mpr fun same => ?_
    subst same
    cases change with
    | addLogStream name path => exact absurd rfl (asksNothing name path)
    | _ => rfl
  next => rfl

/-- A change of an instance adds to its streams what the operation asks for. -/
theorem ProvisioningInstance.Becomes.logStreams_eq {i i' : ProvisioningInstance} {d : Deployment}
    {change : InstanceOperation} (becomes : i.Becomes d change i') :
    i'.logStreams = change.streams.foldl appendNew i.logStreams := by
  cases becomes with
  | addSetup changed =>
    obtain ⟨_, rfl⟩ := addSetup_eq_ok_iff.mp changed
    rfl
  | addLogStream changed =>
    obtain ⟨_, rfl⟩ := addLogStream_eq_ok_iff.mp changed
    rfl
  | grant changed =>
    obtain ⟨_, rfl⟩ := grant_eq_ok_iff.mp changed
    rfl
  | render isOpen => rfl

section Open

variable {w : World} {id : InstanceId} {i i' : ProvisioningInstance} {operation : Operation}

/-- An instance that is open after an operation was open before. -/
theorem checkOpen_of_apply (found : w.findInstance? id = some i)
    (found' : (w.apply operation).2.findInstance? id = some i')
    (isOpen : i'.checkOpen (w.apply operation).2.deployment = .ok ()) :
    i.checkOpen w.deployment = .ok () := by
  obtain ⟨notRendered, notFinalized⟩ := ProvisioningInstance.checkOpen_eq_ok_iff.mp isOpen
  obtain ⟨j, there, same | ⟨change, _, becomes⟩⟩ := Evolves.apply found operation
  · obtain rfl : i' = i := (Option.some.inj (found'.symm.trans there)).trans same
    refine ProvisioningInstance.checkOpen_eq_ok_iff.mpr ⟨notRendered, ?_⟩
    cases isFinalized : w.deployment.isFinalized with
    | false => rfl
    | true =>
      rw [(World.becomes_apply w operation).eq_of_isFinalized isFinalized, isFinalized]
        at notFinalized
      cases notFinalized
  · exact becomes.checkOpen_eq

/-- An open instance takes up a stream. -/
theorem World.apply_addLogStream (found : w.findInstance? id = some i)
    (isOpen : i.checkOpen w.deployment = .ok ()) (name path : String) :
    w.apply (.onInstance id (.addLogStream name path)) =
      (w.setInstance id { i with logStreams := appendNew i.logStreams (name, path) }).done := by
  rw [apply, found]
  simp only [operateInstance]
  rw [ProvisioningInstance.addLogStream_eq_ok_iff.mpr ⟨isOpen, rfl⟩, settle]

/-- An instance that is open after an operation has taken up what the operation asks for, and
keeps its options. -/
theorem logStreams_of_apply (found : w.findInstance? id = some i)
    (found' : (w.apply operation).2.findInstance? id = some i')
    (isOpen : i'.checkOpen (w.apply operation).2.deployment = .ok ()) :
    i'.options = i.options ∧
      i'.logStreams = (operation.streamsFor id).foldl appendNew i.logStreams ∧
      ∀ name path, operation = .onInstance id (.addLogStream name path) →
        (w.apply operation).1.result = .ok .done := by
  by_cases asks : ∃ name path, operation = .onInstance id (.addLogStream name path)
  · -- A call that asks for a stream is refused by a closed instance only.
    obtain ⟨name, path, rfl⟩ := asks
    have wasOpen := checkOpen_of_apply found found' isOpen
    rw [World.apply_addLogStream found wasOpen] at found' ⊢
    obtain rfl := Option.some.inj
      (found'.symm.trans (World.findInstance?_setInstance_self found))
    refine ⟨rfl, ?_, fun _ _ _ => rfl⟩
    rw [Operation.streamsFor, if_pos rfl]
    rfl
  · have never : ∀ name path, operation = .onInstance id (.addLogStream name path) →
        (w.apply operation).1.result = .ok .done :=
      fun name path isAsked => absurd ⟨name, path, isAsked⟩ asks
    obtain ⟨j, there, became⟩ := Evolves.apply found operation
    obtain rfl := Option.some.inj (found'.symm.trans there)
    rcases became with rfl | ⟨change, rfl, becomes⟩
    · rw [Operation.streamsFor_eq_nil fun name path isAsked => asks ⟨name, path, isAsked⟩]
      exact ⟨rfl, rfl, never⟩
    · rw [Operation.streamsFor, if_pos rfl]
      exact ⟨becomes.options_eq, becomes.logStreams_eq, never⟩

end Open

/-! ## From the declaration on -/

/-- The declaration of an instance, by itself or for a registration, with the options that the
instance gets. -/
inductive World.Introduces (w : World) : Operation → InstanceId → InstanceOptions → Prop
  | alone {path : String} {options : InstanceOptions} {id : InstanceId}
      (declared : (w.apply (.declareInstance path options)).1.result =
        .ok (.declaredInstance id)) :
      Introduces w (.declareInstance path options) id options
  | registration {path : String} {options : RegistrationOptions} {id : InstanceId}
      {storeId : StoreId}
      (declared : (w.apply (.declareRegistration path options)).1.result =
        .ok (.declaredRegistration id storeId)) :
      Introduces w (.declareRegistration path options) id options.effectiveInstanceOptions

/-- A change that is answered with a success was taken over. -/
theorem World.exists_of_settle {w : World} {α : Type} {change : Result α}
    {accept : α → Answer × World} {reply : Reply}
    (success : (w.settle change accept).1.result = .ok reply) :
    ∃ a, change = .ok a ∧ w.settle change accept = accept a := by
  cases change with
  | error e => cases success
  | ok a => exact ⟨a, rfl, rfl⟩

/-- An instance that was just declared ships nothing of its own. -/
theorem World.Introduces.exists_found {w : World} {declaration : Operation} {id : InstanceId}
    {options : InstanceOptions} (introduces : w.Introduces declaration id options) :
    ∃ i, (w.apply declaration).2.findInstance? id = some i ∧ i.options = options ∧
      i.logStreams = [] := by
  cases introduces with
  | alone declared =>
    rw [apply] at declared ⊢
    obtain ⟨change, success, isOutcome⟩ := exists_of_settle declared
    rw [isOutcome] at declared ⊢
    cases declared
    obtain ⟨_, _, _, _, _, isDeclared⟩ := ProvisioningInstance.declare_eq_ok_iff.mp success
    refine ⟨change.1, List.getElem?_concat_length, ?_, ?_⟩
    · rw [isDeclared]
    · rw [isDeclared]
  | registration declared =>
    rw [apply] at declared ⊢
    obtain ⟨registration, success, isOutcome⟩ := exists_of_settle declared
    rw [isOutcome] at declared ⊢
    cases declared
    obtain ⟨_, _, _, _, _, _, isHost, _⟩ := IdentityRegistration.eq_of_declare success
    refine ⟨registration.host, List.getElem?_concat_length, ?_, ?_⟩
    · rw [isHost]
    · rw [isHost]

/-- **A run that leaves an instance open has taken up every stream**, in the order of the calls,
and all of these calls succeeded. -/
theorem logStreams_of_run {w : World} {id : InstanceId} {i i' : ProvisioningInstance}
    (operations : List Operation) (found : w.findInstance? id = some i)
    (found' : (w.run operations).2.findInstance? id = some i')
    (isOpen : i'.checkOpen (w.run operations).2.deployment = .ok ()) :
    i.checkOpen w.deployment = .ok () ∧ i'.options = i.options ∧
      i'.logStreams =
        (operations.flatMap (·.streamsFor id)).foldl appendNew i.logStreams ∧
      ∀ called ∈ operations.zip (w.run operations).1, ∀ name path,
        called.1 = .onInstance id (.addLogStream name path) → called.2.result = .ok .done := by
  induction operations generalizing w i with
  | nil =>
    obtain rfl := Option.some.inj (found.symm.trans found')
    exact ⟨isOpen, rfl, rfl, fun _ mem => absurd mem List.not_mem_nil⟩
  | cons operation rest ih =>
    rw [World.run_cons] at found' isOpen ⊢
    obtain ⟨next, foundNext, _⟩ := Evolves.apply found operation
    -- The instance is open at the end, so it is open behind the first operation as well.
    obtain ⟨openNext, sameOptions, laterStreams, laterCalls⟩ := ih foundNext found' isOpen
    obtain ⟨options, streams, accepted⟩ := logStreams_of_apply found foundNext openNext
    refine ⟨checkOpen_of_apply found foundNext openNext, sameOptions.trans options, ?_, ?_⟩
    · rw [List.flatMap_cons, List.foldl_append, ← streams]
      exact laterStreams
    · rw [List.zip_cons_cons]
      exact List.forall_mem_cons.mpr ⟨accepted, laterCalls⟩

/-! ## Renders -/

/-- A render that succeeds makes the artifacts of an open instance. -/
theorem World.exists_artifacts_of_rendered {w : World} {id : InstanceId}
    {artifacts : RenderedInstance}
    (success : (w.apply (.onInstance id .render)).1.result = .ok (.rendered artifacts)) :
    ∃ i texts, w.findInstance? id = some i ∧ i.checkOpen w.deployment = .ok () ∧
      artifacts = i.artifacts w.deployment texts := by
  cases found : w.findInstance? id with
  | none =>
    rw [apply, found] at success
    cases success
  | some i =>
    rw [apply_render found, renderInstance] at success
    rcases i.render_cases w.deployment w.environment with
      ⟨_, _, isOutcome⟩ | ⟨isOpen, texts, _, _, isOutcome⟩ | ⟨_, _, _, _, isOutcome⟩
    · rw [isOutcome] at success
      cases success
    · rw [isOutcome] at success
      cases success
      exact ⟨i, texts, rfl, isOpen, rfl⟩
    · rw [isOutcome] at success
      cases success

/-- **Grants and streams are kept once, in the order of the first calls.**  A role holds the first
occurrences of its grants.  What the render of an instance ships is the log of the boot, and then
the first occurrences of what else the instance was asked to ship since it was declared; none of
these calls was refused, and streams with different names or files stay apart. -/
theorem World.grants_and_streams_kept_once :
    (∀ given : List PolicyStatement,
      IsFirsts (InstanceRole.empty.grantAll given).statements given) ∧
    ∀ (w₀ w : World) (declaration : Operation) (id : InstanceId) (options : InstanceOptions)
      (operations : List Operation) (answers : List Answer) (artifacts : RenderedInstance),
      w₀.Introduces declaration id options →
      (w₀.apply declaration).2.run operations = (answers, w) →
      (w.apply (.onInstance id .render)).1.result = .ok (.rendered artifacts) →
        (∀ called ∈ operations.zip answers, ∀ name path,
          called.1 = .onInstance id (.addLogStream name path) → called.2.result = .ok .done) ∧
        artifacts.logs.ShipsOnce options.logs (operations.flatMap (·.streamsFor id)) := by
  refine ⟨InstanceRole.isFirsts_statements_grantAll, ?_⟩
  intro w₀ w declaration id options operations answers artifacts introduces ran success
  obtain ⟨i, found, isOptions, noStreams⟩ := introduces.exists_found
  obtain ⟨i', texts, found', isOpen, rfl⟩ := exists_artifacts_of_rendered success
  obtain rfl : ((w₀.apply declaration).2.run operations).2 = w := by rw [ran]
  obtain ⟨_, sameOptions, streams, accepted⟩ := logStreams_of_run operations found found' isOpen
  rw [ran] at accepted
  refine ⟨accepted, ?_⟩
  have nothing : ([] : List (String × String)) = [].eraseDups := rfl
  rw [noStreams, nothing, foldl_appendNew_eraseDups, List.nil_append] at streams
  rw [ProvisioningInstance.logs_artifacts, ProvisioningInstance.shippedLogs, sameOptions, isOptions,
    streams]
  exact LogShipping.shipsOnce_addStreams options.logs _

/-- The declaration of an instance whose streams have a prefix. -/
def declarePrefixed : Operation :=
  .declareInstance "Repository"
    { InstanceOptions.ofName "repository" ["subnet-1"] with
      logs := { LogOptions.standard with streamPrefix := "repository-" } }

/-- The instance is asked to ship two files under one name, one of them twice, and the log of the
boot, which it ships anyway. -/
def shipTwice : List Operation := [
  .onInstance ⟨0⟩ (.addLogStream "setup" "/var/log/setup.log"),
  .onInstance ⟨0⟩ (.addLogStream "cloud-init-output" "/var/log/cloud-init-output.log"),
  .onInstance ⟨0⟩ (.addLogStream "setup" "/var/log/yum.log"),
  .onInstance ⟨0⟩ (.addLogStream "setup" "/var/log/setup.log")]

/-- The answers to what the instance is asked, and the farm afterwards. -/
def shipTwiceRun : List Answer × World :=
  (emptyFarm.apply declarePrefixed).2.run shipTwice

theorem World.grants_and_streams_kept_once_prefixed :
    IsFirsts (InstanceRole.empty.grantAll
        [copySetup, TerminationGuard.lookupStatement, copySetup]).statements
      [copySetup, TerminationGuard.lookupStatement, copySetup] ∧
    ∃ options artifacts,
      emptyFarm.Introduces declarePrefixed ⟨0⟩ options ∧
      (emptyFarm.apply declarePrefixed).2.run shipTwice = (shipTwiceRun.1, shipTwiceRun.2) ∧
      (shipTwiceRun.2.apply renderHost).1.result = .ok (.rendered artifacts) ∧
      artifacts.logs.ShipsOnce options.logs (shipTwice.flatMap (·.streamsFor ⟨0⟩)) ∧
      artifacts.logs.streams = [
        ⟨"repository-cloud-init-output-\x7binstance_id\x7d", "/var/log/cloud-init-output.log"⟩,
        ⟨"repository-setup-\x7binstance_id\x7d", "/var/log/setup.log"⟩,
        ⟨"repository-setup-\x7binstance_id\x7d", "/var/log/yum.log"⟩] := by
  obtain ⟨roles, renders⟩ := World.grants_and_streams_kept_once
  have introduces : emptyFarm.Introduces declarePrefixed ⟨0⟩ _ := .alone (by decide +kernel)
  have accepted : (shipTwiceRun.2.apply renderHost).1.result.toBool = true := by decide +kernel
  have present : (shipTwiceRun.2.findInstance? ⟨0⟩).isSome = true := by decide +kernel
  obtain ⟨i, found⟩ := Option.isSome_iff_exists.mp present
  rw [renderHost, World.apply_render found] at accepted
  obtain ⟨artifacts, success⟩ := World.exists_rendered_of_toBool accepted
  rw [← World.apply_render found] at success
  obtain ⟨_, shipsOnce⟩ := renders _ shipTwiceRun.2 _ _ _ _ _ _ introduces rfl success
  refine ⟨roles _, _, artifacts, introduces, rfl, success, shipsOnce, ?_⟩
  rw [shipsOnce.direct]
  decide +kernel

end Provisioning
