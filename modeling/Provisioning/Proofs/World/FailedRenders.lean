import Provisioning.Proofs.World.Agreement
import Provisioning.Proofs.World.Registrations
import Provisioning.Proofs.World.Setup

/-!
# Renders that fail leave no trace

A render takes copies, seals a store in its midst and asks lazy commands for their
texts before it meets the one that fails.  Then it gives everything up, and what it
leaves differs from what it found in the journal alone.  So the renders of an instance
that fail may be struck out of any run, and everything else is answered as before.

The stores that an instance owns are those it applies with a registration command of
its own.  For other stores a render would seal and open what does not belong to it, so
the instance takes no registration command for them.
-/

namespace Provisioning

set_option autoImplicit false

/-! ## Instances and the stores that they own -/

/-- In a world, an instance applies each store that it owns with one command, nothing else
has to do with those stores, and the instance holds no command of any other store. -/
structure Owning (hostId : InstanceId) (owned : List StoreId) (w : World)
    (i : ProvisioningInstance) : Prop where
  found : w.findInstance? hostId = some i
  spares : ∀ item ∈ i.setup, ∀ id ∉ owned, item.Spares id
  hosting : ∀ id ∈ owned, ∃ c lines s, c.store = id ∧ Hosting hostId c lines w i s

/-- The operation has nothing to do with the commands of the stores that the instance
owns, and brings no registration command into its setup. -/
structure Operation.Harmless (hostId : InstanceId) (owned : List StoreId) (operation : Operation) :
    Prop where
  spares : ∀ id ∈ owned, operation.Spares id
  setup : ∀ item ∈ operation.setupFor hostId, ∀ id, item.Spares id

/-- The declaration of an instance by itself, which owns no store, or of a registration,
whose instance owns the new store. -/
inductive World.Declares (w : World) : Operation → InstanceId → List StoreId → Prop
  | alone {path : String} {options : InstanceOptions} {hostId : InstanceId}
      (declared : (w.apply (.declareInstance path options)).1.result =
        .ok (.declaredInstance hostId)) :
      Declares w (.declareInstance path options) hostId []
  | registration {path : String} {options : RegistrationOptions} {hostId : InstanceId}
      {storeId : StoreId} (spares : w.Spares storeId)
      (declared : (w.apply (.declareRegistration path options)).1.result =
        .ok (.declaredRegistration hostId storeId)) :
      Declares w (.declareRegistration path options) hostId [storeId]

section Owning

variable {hostId : InstanceId} {owned : List StoreId} {w w' : World} {i : ProvisioningInstance}
  {operation declaration : Operation} {operations : List Operation}

/-- A registration that was just declared has one registration command. -/
theorem setup_of_declareRegistration {path : String} {options : RegistrationOptions}
    {storeId : StoreId}
    (declared : (w.apply (.declareRegistration path options)).1.result =
      .ok (.declaredRegistration hostId storeId)) :
    ∃ i, (w.apply (.declareRegistration path options)).2.findInstance? hostId = some i ∧
      ∃ lines : List String, i.setup =
        lines.map .line ++ [.deferred (.registration (options.command storeId))] := by
  rw [World.apply] at declared ⊢
  revert declared
  refine World.settle_elim
    (P := fun outcome => outcome.1.result = .ok (.declaredRegistration hostId storeId) →
      ∃ i, outcome.2.findInstance? hostId = some i ∧
        ∃ lines : List String, i.setup =
          lines.map .line ++ [.deferred (.registration (options.command storeId))])
    (fun e _ => ?_) (fun registration success => ?_)
  · rintro ⟨⟩
  · rintro ⟨⟩
    obtain ⟨object, _, isSetup, _, _⟩ := IdentityRegistration.exists_of_declare success
    exact ⟨registration.host, List.getElem?_concat_length, options.preparation object, isSetup⟩

/-- An instance that was just declared owns its stores. -/
theorem World.Declares.exists_owning (declares : w.Declares declaration hostId owned) :
    ∃ i, Owning hostId owned (w.apply declaration).2 i := by
  cases declares with
  | @alone path options _ declared =>
    rw [apply] at declared ⊢
    revert declared
    refine settle_elim
      (P := fun outcome => outcome.1.result = .ok (.declaredInstance hostId) →
        ∃ i, Owning hostId [] outcome.2 i) (fun e _ => ?_) (fun change success => ?_)
    · rintro ⟨⟩
    · rintro ⟨⟩
      obtain ⟨noSetup, _⟩ := ProvisioningInstance.setup_of_declare success
      refine ⟨change.1, List.getElem?_concat_length, fun item mem => ?_, fun _ mem => ?_⟩
      · rw [noSetup] at mem
        cases mem
      · cases mem
  | @registration path options _ storeId spares declared =>
    obtain ⟨object, i, s, _, hosting, _, _⟩ := Hosting.of_declareRegistration spares declared
    obtain ⟨j, found, lines, isSetup⟩ := setup_of_declareRegistration declared
    cases hosting.eq_of_found found
    refine ⟨i, found, fun item mem id notOwned => ?_, fun id mem => ?_⟩
    · rw [isSetup, List.mem_append, List.mem_map, List.mem_singleton] at mem
      rcases mem with ⟨line, _, rfl⟩ | rfl
      · trivial
      · exact fun same => notOwned (List.mem_singleton.mpr same.symm)
    · cases List.mem_singleton.mp mem
      exact ⟨_, _, s, rfl, hosting⟩

namespace Owning

/-- **Every operation that is harmless leaves the stores with their owner.** -/
theorem apply (owning : Owning hostId owned w i) (harmless : operation.Harmless hostId owned) :
    ∃ i', Owning hostId owned (w.apply operation).2 i' := by
  obtain ⟨i', found, members⟩ := Stays.apply owning.found operation
  refine ⟨i', found, fun item mem id notOwned => ?_, fun id mem => ?_⟩
  · rcases members item mem with old | new
    · exact owning.spares item old id notOwned
    · exact harmless.setup item new id
  · obtain ⟨c, lines, s, rfl, hosting⟩ := owning.hosting id mem
    obtain ⟨i'', s', next, _⟩ := hosting.apply operation (harmless.spares c.store mem)
    cases next.eq_of_found found
    exact ⟨c, lines, s', rfl, next⟩

/-- A setup that fails and is given up leaves every store as it was. -/
theorem agrees_of_failure (owning : Owning hostId owned w i)
    (isOpen : i.checkOpen w.deployment = .ok ()) {e : Error} {env' : Environment}
    (ran : ScriptItem.evaluateAll i.setup w.environment = (.error e, env')) :
    w.environment.Agrees (ScriptItem.releaseAll i.setup (ScriptItem.releaseAll i.setup env')) := by
  refine .of_store? (fun id => ?_) ?_
  · by_cases mem : id ∈ owned
    · obtain ⟨c, lines, s, rfl, hosting⟩ := owning.hosting id mem
      exact hosting.store?_of_failure isOpen ran
    · have spares : ∀ item ∈ i.setup, item.Spares id := fun item here =>
        owning.spares item here id mem
      have evaluated := ScriptItem.store?_evaluateAll_of_spares spares w.environment
      rw [ran] at evaluated
      rw [ScriptItem.store?_releaseAll_of_spares spares,
        ScriptItem.store?_releaseAll_of_spares spares, evaluated]
  · have evaluated := ScriptItem.callers_evaluateAll i.setup w.environment
    rw [ran] at evaluated
    rw [ScriptItem.callers_releaseAll, ScriptItem.callers_releaseAll, evaluated]

/-- **A render that fails changes nothing but the journal.** -/
theorem agrees_of_failed_render (owning : Owning hostId owned w i) {e : Error}
    (failed : (w.apply (.onInstance hostId .render)).1.result = .error e) :
    w.Agrees (w.apply (.onInstance hostId .render)).2 := by
  rw [World.apply_render owning.found, World.renderInstance] at failed ⊢
  rcases i.render_cases w.deployment w.environment with
    ⟨_, _, isOutcome⟩ | ⟨_, texts, env', _, isOutcome⟩ | ⟨isOpen, _, env', ran, isOutcome⟩
  · rw [isOutcome]
    exact .refl w
  · rw [isOutcome] at failed
    cases failed
  · rw [isOutcome]
    exact ⟨rfl, owning.agrees_of_failure isOpen ran, rfl, rfl⟩

end Owning

/-! ## Striking out failed renders -/

/-- The operation renders the instance. -/
def Operation.isRenderOf (hostId : InstanceId) : Operation → Bool
  | .onInstance id .render => id = hostId
  | _ => false

/-- The operation was a render of the instance, and it failed. -/
def isFailedRender (hostId : InstanceId) (called : Operation × Answer) : Bool :=
  called.1.isRenderOf hostId && !called.2.result.toBool

/-- The operations of a run and their answers, without the renders of an instance that
failed. -/
def withoutFailedRenders (hostId : InstanceId) (operations : List Operation)
    (answers : List Answer) : List (Operation × Answer) :=
  (operations.zip answers).filter fun called => !isFailedRender hostId called

theorem Operation.eq_of_isRenderOf (isRender : operation.isRenderOf hostId = true) :
    operation = .onInstance hostId .render := by
  unfold Operation.isRenderOf at isRender
  split at isRender
  next id => rw [of_decide_eq_true isRender]
  next => cases isRender

/-- Without the failed renders, a run in a world that agrees has the same answers and ends
in a world that agrees. -/
theorem Owning.run_withoutFailedRenders (owning : Owning hostId owned w i) (agrees : w.Agrees w')
    (harmless : ∀ operation ∈ operations, operation.Harmless hostId owned) :
    ∀ kept, kept = withoutFailedRenders hostId operations (w.run operations).1 →
      (w'.run (kept.map Prod.fst)).1 = kept.map Prod.snd ∧
        (w.run operations).2.Agrees (w'.run (kept.map Prod.fst)).2 := by
  rintro _ rfl
  induction operations generalizing w w' i with
  | nil => exact ⟨rfl, agrees⟩
  | cons operation rest ih =>
    obtain ⟨i₁, next⟩ := owning.apply (harmless operation List.mem_cons_self)
    have harmlessRest : ∀ other ∈ rest, other.Harmless hostId owned := fun other mem =>
      harmless other (List.mem_cons_of_mem _ mem)
    rw [World.run_cons, withoutFailedRenders, List.zip_cons_cons, List.filter_cons,
      ← withoutFailedRenders]
    by_cases struck : isFailedRender hostId (operation, (w.apply operation).1) = true
    · -- The struck render leaves a world that agrees, so the shorter run is where it was.
      rw [if_neg (by simp [struck])]
      obtain ⟨isRender, failed⟩ := Bool.and_eq_true_iff.mp struck
      have isHost := Operation.eq_of_isRenderOf isRender
      subst isHost
      rcases result : (w.apply (.onInstance hostId .render)).1.result with e | reply
      · exact ih next ((owning.agrees_of_failed_render result).symm.trans agrees) harmlessRest
      · dsimp only at failed
        rw [result] at failed
        cases failed
    · rw [if_pos (by simp [struck])]
      obtain ⟨sameAnswer, agrees₁⟩ := agrees.apply operation
      obtain ⟨sameAnswers, last⟩ := ih next agrees₁ harmlessRest
      rw [List.map_cons, List.map_cons, World.run_cons, sameAnswer, sameAnswers]
      exact ⟨rfl, last⟩

/-- Every run of harmless operations leaves the stores with their owner. -/
theorem Owning.run (owning : Owning hostId owned w i)
    (harmless : ∀ operation ∈ operations, operation.Harmless hostId owned) :
    ∃ i', Owning hostId owned (w.run operations).2 i' := by
  induction operations generalizing w i with
  | nil => exact ⟨i, owning⟩
  | cons operation rest ih =>
    obtain ⟨i₁, next⟩ := owning.apply (harmless operation List.mem_cons_self)
    exact ih next fun other mem => harmless other (List.mem_cons_of_mem _ mem)

end Owning

/-! ## Runs from the declaration on -/

/-- **Failed renders are transparent.**  At any time a render that fails leaves everything
but the journal as it was.  Without the failed renders of an instance a run has the same
answers, the artifacts of the render that succeeds among them, and it ends in a world that
answers everything alike. -/
theorem World.failed_renders_transparent {w₀ w : World} {declaration : Operation}
    {hostId : InstanceId} {owned : List StoreId} {operations : List Operation}
    {answers : List Answer} (declares : w₀.Declares declaration hostId owned)
    (harmless : ∀ operation ∈ operations, operation.Harmless hostId owned)
    (ran : (w₀.apply declaration).2.run operations = (answers, w)) :
    (∀ e, (w.apply (.onInstance hostId .render)).1.result = .error e →
      w.Agrees (w.apply (.onInstance hostId .render)).2) ∧
    ∃ kept w', kept = withoutFailedRenders hostId operations answers ∧
      (w₀.apply declaration).2.run (kept.map Prod.fst) = (kept.map Prod.snd, w') ∧
      w.Agrees w' ∧ ∀ operation, (w'.apply operation).1 = (w.apply operation).1 := by
  obtain ⟨i, owning⟩ := declares.exists_owning
  obtain ⟨i', last⟩ := owning.run harmless
  obtain ⟨sameAnswers, agrees⟩ := owning.run_withoutFailedRenders (.refl _) harmless _ rfl
  rw [ran] at last sameAnswers agrees
  refine ⟨fun e failed => last.agrees_of_failed_render failed, _, _, rfl,
    Prod.ext sameAnswers rfl, agrees, fun operation => ?_⟩
  exact (agrees.apply operation).answer

/-- A share is not ready when the repository is rendered for the first time, and it is
ready when it is rendered for the second time. -/
def mountLater : List Operation := [
  .addCaller fun _ => .error (.config (.unreadableFile "/mnt/share" "not mounted")),
  .onInstance ⟨0⟩ (.addSetup [.deferred (.caller ⟨0⟩)]),
  .onInstance ⟨0⟩ .render,
  .setCaller ⟨0⟩ fun _ => .ok "ls /mnt/share",
  fleetRegisters,
  .onInstance ⟨0⟩ .render]

/-- The answers on the way to the mounted share, and the farm afterwards. -/
def mountRun : List Answer × World :=
  (farm.apply declareRepository).2.run mountLater

theorem World.failed_renders_transparent_mountLater :
    farm.Declares declareRepository ⟨0⟩ [⟨0⟩] ∧
    (∀ operation ∈ mountLater, operation.Harmless ⟨0⟩ [⟨0⟩]) ∧
    mountRun.1.map (·.result.toBool) = [true, true, false, true, true, true] ∧
    ∃ kept w', kept = withoutFailedRenders ⟨0⟩ mountLater mountRun.1 ∧ kept.length = 5 ∧
      (farm.apply declareRepository).2.run (kept.map Prod.fst) = (kept.map Prod.snd, w') ∧
      mountRun.2.Agrees w' := by
  have declared : (farm.apply declareRepository).1.result =
      .ok (.declaredRegistration ⟨0⟩ ⟨0⟩) := by
    decide +kernel
  have declares : farm.Declares declareRepository ⟨0⟩ [⟨0⟩] :=
    .registration ⟨fun _ mem => absurd mem List.not_mem_nil,
      fun _ mem => absurd mem List.not_mem_nil⟩ declared
  have harmless : ∀ operation ∈ mountLater, operation.Harmless ⟨0⟩ [⟨0⟩] := by
    have spares : ∀ item ∈ [ScriptItem.deferred (.caller ⟨0⟩)], ∀ id, item.Spares id := by
      intro item mem id
      cases List.mem_singleton.mp mem
      trivial
    intro operation mem
    simp only [mountLater, List.mem_cons, List.not_mem_nil, or_false] at mem
    rcases mem with rfl | rfl | rfl | rfl | rfl | rfl
    · exact ⟨fun _ _ => trivial, fun _ mem => absurd mem List.not_mem_nil⟩
    · exact ⟨fun id _ item mem => spares item mem id, spares⟩
    · exact ⟨fun _ _ => trivial, fun _ mem => absurd mem List.not_mem_nil⟩
    · exact ⟨fun _ _ => trivial, fun _ mem => absurd mem List.not_mem_nil⟩
    · exact ⟨fun _ _ => trivial, fun _ mem => absurd mem List.not_mem_nil⟩
    · exact ⟨fun _ _ => trivial, fun _ mem => absurd mem List.not_mem_nil⟩
  have tried : mountRun.1.map (·.result.toBool) = [true, true, false, true, true, true] := by
    decide +kernel
  obtain ⟨_, kept, w', isKept, ran, agrees, _⟩ :=
    World.failed_renders_transparent declares harmless (w := mountRun.2) rfl
  have count : (withoutFailedRenders ⟨0⟩ mountLater mountRun.1).length = 5 := by decide +kernel
  exact ⟨declares, harmless, tried, kept, w', isKept, isKept ▸ count, ran, agrees⟩

end Provisioning
