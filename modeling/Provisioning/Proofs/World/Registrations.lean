import Provisioning.Proofs.Registration.Command
import Provisioning.Proofs.World.Hosting

/-!
# No registration is lost

Callers register in any order and at any time, while others work on the same
instance and renders fail in between.  Whatever happens, a registration that was
accepted is in the script, once the instance is rendered, and one that is not in the
script was refused.
-/

namespace Provisioning

set_option autoImplicit false

namespace Hosting

variable {hostId : InstanceId} {c : RegistrationCommand} {lines : List String} {w w' : World}
  {i : ProvisioningInstance} {s : RegistrationStore} {artifacts : RenderedInstance}

/-! ## The beginning -/

/-- A registration that was just declared is hosted by its instance, and nothing is
registered yet. -/
theorem of_declareRegistration {path : String} {options : RegistrationOptions}
    {storeId : StoreId} (spares : w.Spares storeId)
    (declared : (w.apply (.declareRegistration path options)).1.result =
      .ok (.declaredRegistration hostId storeId)) :
    ∃ object i s, options.scriptObject = .ok object ∧
      Hosting hostId (options.command storeId) (options.preparation object)
        (w.apply (.declareRegistration path options)).2 i s ∧
      i.isRendered = false ∧ s.sources = [] := by
  rw [World.apply] at declared ⊢
  revert declared
  refine World.settle_elim
    (P := fun outcome => outcome.1.result = .ok (.declaredRegistration hostId storeId) →
      ∃ object i s, options.scriptObject = .ok object ∧
        Hosting hostId (options.command storeId) (options.preparation object) outcome.2 i s ∧
        i.isRendered = false ∧ s.sources = [])
    (fun e _ => ?_) (fun registration success => ?_)
  · rintro ⟨⟩
  · rintro ⟨⟩
    obtain ⟨object, isObject, isSetup, notRendered, isStore, _⟩ :=
      IdentityRegistration.exists_of_declare success
    have noSource : registration.store.sources = [] := by
      rw [isStore]
      rfl
    have isOpen : registration.store.isSealed = registration.host.isRendered := by
      rw [isStore, notRendered]
      rfl
    refine ⟨object, registration.host, registration.store, isObject, ?_, notRendered, noSource⟩
    refine ⟨List.getElem?_concat_length, Environment.store?_addStore_nextStore _ _,
      ⟨[], isSetup, fun _ mem => absurd mem List.not_mem_nil⟩, ?_, spares.sequences, isOpen,
      isStore ▸ .create _ _⟩
    intro id j differ found
    have within : id.index < w.instances.length := by
      obtain ⟨within, _⟩ := List.getElem?_eq_some_iff.mp found
      have notLast : id.index ≠ w.instances.length := fun same => differ (by rw [← same])
      have atMost : id.index < w.instances.length + 1 := by simpa using within
      omega
    exact spares.instances j
      (List.mem_of_getElem? ((List.getElem?_append_left within).symm.trans found))

/-! ## The render that succeeds -/

/-- The script of a render that succeeds has the command behind its lines, with the
registrations as they are; afterwards the instance is rendered. -/
theorem of_render (hosting : Hosting hostId c lines w i s)
    (success : (w.apply (.onInstance hostId .render)).1.result = .ok (.rendered artifacts)) :
    c.check = .ok () ∧
    (∃ later, artifacts.script = Text.terminated
      (CommandSequence.header ++ i.shippedLogs.commands ++ lines ++ [c.text s.sources] ++ later)) ∧
    ∃ i', Hosting hostId c lines (w.apply (.onInstance hostId .render)).2 i' s.close ∧
      i'.isRendered = true := by
  rw [World.apply_render hosting.found, World.renderInstance] at success ⊢
  rcases i.render_cases w.deployment w.environment with
    ⟨e, _, isOutcome⟩ | ⟨_, texts, env', ran, isOutcome⟩ | ⟨_, e, env', _, isOutcome⟩
  · rw [isOutcome] at success
    cases success
  · rw [isOutcome] at success ⊢
    obtain ⟨passed, ⟨others, rfl⟩, next⟩ := hosting.of_texts ran
    refine ⟨passed, ⟨others ++ [")", CommandSequence.exitCodeVariable ++ "=$?"]
      ++ i.exitCommands w.deployment ++ ["exit $" ++ CommandSequence.exitCodeVariable], ?_⟩,
      _, next, rfl⟩
    cases success
    rw [ProvisioningInstance.script_artifacts, ProvisioningInstance.bootScript,
      CommandSequence.script, CommandSequence.scriptLines]
    simp only [List.append_assoc, List.cons_append, List.nil_append]
  · rw [isOutcome] at success
    cases success

end Hosting

/-! ## Runs from the declaration on -/

/-- **No registration is lost.**  In every state the store is sealed exactly when its
instance is rendered.  When a render succeeds, the command in the script names every
registration that was accepted until then, and nothing else, each once and in the order
of the ids.  From then on all calls to register fail and the store never changes. -/
theorem World.registrations_not_lost {w₀ w : World} {path : String}
    {options : RegistrationOptions} {hostId : InstanceId} {storeId : StoreId}
    {operations : List Operation} {answers : List Answer} (spares₀ : w₀.Spares storeId)
    (declared : (w₀.apply (.declareRegistration path options)).1.result =
      .ok (.declaredRegistration hostId storeId))
    (spares : ∀ operation ∈ operations, operation.Spares storeId)
    (ran : (w₀.apply (.declareRegistration path options)).2.run operations = (answers, w)) :
    ∃ i s, w.findInstance? hostId = some i ∧ w.environment.store? storeId = some s ∧
      s.isSealed = i.isRendered ∧
      ∀ artifacts, (w.apply (.onInstance hostId .render)).1.result = .ok (.rendered artifacts) →
        (∃ object later rest,
          options.scriptObject = .ok object ∧
          artifacts.script = Text.terminated
            (CommandSequence.header ++ i.shippedLogs.commands ++ options.preparation object
              ++ ["sudo -u " ++ options.osUser ++ " " ++ options.configureCommand ++ " "
                ++ ("--region " ++ options.region ++ " " ++ rest)]
              ++ later) ∧
          Shell.words? rest = some
            (["--credentials", options.adminCredentials.arn]
              ++ options.connectionSubnets.flatMap (fun id => ["--connection-subnet", id])
              ++ s.sources.flatMap (fun source => ["--source-subnet", source.text]))) ∧
        s.sources.Pairwise (·.subnetId < ·.subnetId) ∧
        (∀ source, source ∈ s.sources ↔ source ∈ accepted storeId operations answers) ∧
        ∀ more, (∀ operation ∈ more, operation.Spares storeId) → ∀ answers' w',
          (w.apply (.onInstance hostId .render)).2.run more = (answers', w') →
            (w'.environment.store? storeId).map (·.entries) = some s.entries ∧
            ∀ called ∈ more.zip answers', ∀ segment requested dependent,
              called.1 = .register storeId segment requested dependent →
                ∃ e, called.2.result = .error e := by
  obtain ⟨object, i₁, s₁, isObject, hosting₁, _, noSource⟩ :=
    Hosting.of_declareRegistration spares₀ declared
  obtain ⟨i, s, hosting, _, members, _⟩ := hosting₁.run spares
  rw [ran] at hosting members
  refine ⟨i, s, hosting.found, hosting.held, hosting.isSealed_eq, fun artifacts success => ?_⟩
  obtain ⟨passed, ⟨later, isScript⟩, i', next, isRendered⟩ := hosting.of_render success
  obtain ⟨_, valid⟩ := RegistrationCommand.check_eq_ok_iff.mp passed
  obtain ⟨rest, isBehind, split⟩ :=
    RegistrationCommand.exists_words? valid hosting.reachable.isRegistrable
  refine ⟨⟨object, later, rest, isObject, ?_, split⟩, s.pairwise_sources, fun source => ?_,
    fun more sparesMore answers' w' ranMore => ?_⟩
  · rw [isScript, RegistrationCommand.text, isBehind]
    rfl
  · rw [members source, noSource]
    exact or_iff_right List.not_mem_nil
  · obtain ⟨i'', s'', last, _, _, frozen⟩ := next.run sparesMore
    rw [ranMore] at last frozen
    obtain ⟨same, failed⟩ := frozen rfl
    refine ⟨?_, failed⟩
    have held : w'.environment.store? storeId = some s'' := last.held
    rw [held, Option.map_some, same]
    rfl

/-- A farm without anything in it. -/
def emptyFarm : World where
  deployment := {
    stack := "Farm"
    region := "us-west-2"
    resources := ∅
    edges := ∅
    isFinalized := false }
  environment := .empty
  instances := []
  sequences := []

/-- A deployment with a fleet and nothing else. -/
def farm : World where
  deployment := {
    stack := "Farm"
    region := "us-west-2"
    resources := SortedSet.add ∅ ⟨"Fleet"⟩
    edges := ∅
    isFinalized := false }
  environment := .empty
  instances := []
  sequences := []

/-- The declaration of a registration behind one connection subnet. -/
def declareRepository : Operation :=
  .declareRegistration "Repository" (.create "us-west-2" LazyCommand.fleetCommand.credentials
    ["subnet-a"] (.ofName "repository" ["subnet-1"]))

/-- The fleet registers its segment. -/
def fleetRegisters : Operation :=
  .register ⟨0⟩ "subnet-b" ⟨.client, .registered⟩ ⟨"Fleet"⟩

/-- The answer to the fleet, and the farm afterwards. -/
def farmRun : List Answer × World :=
  (farm.apply declareRepository).2.run [fleetRegisters]

theorem World.registrations_not_lost_fleet :
    farm.Spares ⟨0⟩ ∧
    (farm.apply declareRepository).1.result = .ok (.declaredRegistration ⟨0⟩ ⟨0⟩) ∧
    (∀ operation ∈ [fleetRegisters], operation.Spares ⟨0⟩) ∧
    ∃ i s artifacts, farmRun.2.findInstance? ⟨0⟩ = some i ∧
      farmRun.2.environment.store? ⟨0⟩ = some s ∧ s.isSealed = i.isRendered ∧
      (farmRun.2.apply (.onInstance ⟨0⟩ .render)).1.result = .ok (.rendered artifacts) ∧
      ∀ source, source ∈ s.sources ↔ source = ⟨"subnet-b", .client, .registered⟩ := by
  have spares₀ : farm.Spares ⟨0⟩ :=
    ⟨fun _ mem => absurd mem List.not_mem_nil, fun _ mem => absurd mem List.not_mem_nil⟩
  have declared : (farm.apply declareRepository).1.result =
      .ok (.declaredRegistration ⟨0⟩ ⟨0⟩) := by
    decide +kernel
  have spares : ∀ operation ∈ [fleetRegisters], operation.Spares ⟨0⟩ := by
    intro operation mem
    cases List.mem_singleton.mp mem
    trivial
  have taken : accepted ⟨0⟩ [fleetRegisters] farmRun.1 = [⟨"subnet-b", .client, .registered⟩] := by
    decide +kernel
  obtain ⟨i, s, found, held, isSealed_eq, onSuccess⟩ :=
    World.registrations_not_lost (w := farmRun.2) spares₀ declared spares rfl
  have succeeds : (farmRun.2.apply (.onInstance ⟨0⟩ .render)).1.result.toBool = true := by
    decide +kernel
  rw [World.apply_render found] at succeeds
  obtain ⟨artifacts, success⟩ := World.exists_rendered_of_toBool succeeds
  rw [← World.apply_render found] at success
  obtain ⟨_, _, members, _⟩ := onSuccess artifacts success
  refine ⟨spares₀, declared, spares, i, s, artifacts, found, held, isSealed_eq, success, ?_⟩
  intro source
  rw [members source]
  change source ∈ accepted ⟨0⟩ [fleetRegisters] farmRun.1 ↔ _
  rw [taken, List.mem_singleton]

end Provisioning
