import Provisioning.Proofs.World.Frozen
import Provisioning.Proofs.World.Growth

/-!
# Promises about the order

A caller is promised an order long before there is one: whoever registers a segment is
deployed after the instance that applies the store, an instance is deployed after what it
was told to wait for, and after everything that its artifacts name.  Each promise is a
dependency in the graph.  No operation takes a dependency away, whatever fails in between,
so the order that finalizing yields in the end keeps all of them.
-/

namespace Provisioning

set_option autoImplicit false

/-! ## The calls of a run -/

/-- An operation, the world in which it was done, and how it was answered. -/
structure Call where
  world : World
  operation : Operation
  answer : Answer

namespace World

variable {w w₀ : World} {operation : Operation} {operations : List Operation}

/-- The calls of a run, one after another. -/
def calls (w : World) : List Operation → List Call
  | [] => []
  | operation :: rest =>
    { world := w, operation, answer := (w.apply operation).1 } ::
      calls (w.apply operation).2 rest

/-- The calls are the operations of the run with their answers. -/
theorem map_calls (w : World) (operations : List Operation) :
    (w.calls operations).map (fun call => (call.operation, call.answer)) =
      operations.zip (w.run operations).1 := by
  induction operations generalizing w with
  | nil => rfl
  | cons operation rest ih =>
    rw [calls, run_cons, List.map_cons, List.zip_cons_cons, ih]

theorem answer_of_mem_calls {call : Call} (mem : call ∈ w.calls operations) :
    call.answer = (call.world.apply call.operation).1 := by
  induction operations generalizing w with
  | nil => cases mem
  | cons operation rest ih =>
    rcases List.mem_cons.mp mem with rfl | later
    · rfl
    · exact ih later

/-- What the graph has after a call of a run it still has at the end. -/
theorem dependsOn_run_of_mem_calls {call : Call} (mem : call ∈ w.calls operations)
    {dependent dependency : ResourceId}
    (depends : (call.world.apply call.operation).2.deployment.DependsOn dependent dependency) :
    (w.run operations).2.deployment.DependsOn dependent dependency := by
  induction operations generalizing w with
  | nil => cases mem
  | cons operation rest ih =>
    rw [run_cons]
    rcases List.mem_cons.mp mem with rfl | later
    · exact (dependsOn_run_iff _ rest dependent dependency).mpr (.inl depends)
    · exact ih later

/-- A dependency that was asked for by a call that succeeded is there at the end. -/
theorem dependsOn_run_of_asked {call : Call} (mem : call ∈ w.calls operations)
    {dependent dependency : ResourceId}
    (asked : call.operation.dependency? call.world = some (dependent, dependency))
    (succeeded : call.answer.result.toBool = true) :
    (w.run operations).2.deployment.DependsOn dependent dependency := by
  rw [answer_of_mem_calls mem] at succeeded
  exact dependsOn_run_of_mem_calls mem
    ((Adds.apply call.world call.operation dependent dependency).mpr (.inr ⟨succeeded, asked⟩))

/-- A dependency that is named in artifacts is there at the end. -/
theorem dependsOn_run_of_rendered {call : Call} (mem : call ∈ w.calls operations)
    {id : InstanceId} {artifacts : RenderedInstance} {resource : ResourceId}
    (isRender : call.operation = .onInstance id .render)
    (success : call.answer.result = .ok (.rendered artifacts))
    (named : resource ∈ artifacts.dependencies) :
    (w.run operations).2.deployment.DependsOn artifacts.instanceId resource := by
  rw [answer_of_mem_calls mem, isRender] at success
  obtain ⟨i, _, _, isId, isDependencies⟩ := exists_of_rendered success
  refine dependsOn_run_of_mem_calls mem ?_
  rw [isRender, isId, ← Deployment.mem_dependenciesOf_iff, ← isDependencies]
  exact named

/-! ## Promises -/

/-- In an order, one resource stands before another. -/
structure StandsBefore (order : List ResourceId) (first second : ResourceId) : Prop where
  mem_first : first ∈ order
  mem_second : second ∈ order
  idxOf_lt : order.idxOf first < order.idxOf second

/-- Finalizing puts everything after what it depends on. -/
theorem standsBefore_of_finalize (joined : w.deployment.WellJoined) {order : List ResourceId}
    (finalized : (w.apply .finalize).1.result = .ok (.order order)) :
    order.Nodup ∧ ∀ dependent dependency, w.deployment.DependsOn dependent dependency →
      StandsBefore order dependency dependent := by
  rw [apply] at finalized
  revert finalized
  refine settle_elim
    (P := fun outcome => outcome.1.result = .ok (.order order) → order.Nodup ∧
      ∀ dependent dependency, w.deployment.DependsOn dependent dependency →
        StandsBefore order dependency dependent) (fun e _ => ?_) (fun outcome success => ?_)
  · rintro ⟨⟩
  · rintro ⟨⟩
    obtain ⟨ran, _⟩ := Deployment.of_finalize success
    obtain ⟨nodup, members, after⟩ := joined.of_rounds_eq_ok ran
    refine ⟨nodup, fun dependent dependency depends => ?_⟩
    exact ⟨(members dependency).mpr (joined.declares_dependency depends),
      (members dependent).mpr (joined.declares_dependent depends),
      after dependent dependency (.single depends)⟩

/-- **The order keeps every promise.**  When a deployment is finalized at the end of a run,
every resource that was the dependent of an accepted registration stands after the instance
that applies the store, every instance stands after the resources that it was told to wait
for, and after the dependencies that its artifacts name. -/
theorem order_keeps_promises {stack region : String} {answers : List Answer}
    {order : List ResourceId} (created : create stack region = .ok w₀)
    (ran : w₀.run operations = (answers, w))
    (finalized : (w.apply .finalize).1.result = .ok (.order order)) :
    order.Nodup ∧
    (w₀.calls operations).map (fun call => (call.operation, call.answer)) =
      operations.zip answers ∧
    ∀ call ∈ w₀.calls operations,
      (∀ store segment requested dependent s,
        call.operation = .register store segment requested dependent →
        call.answer.result = .ok .done → call.world.environment.store? store = some s →
          StandsBefore order s.instanceId dependent) ∧
      (∀ id i resource, call.operation = .onInstance id (.addExecutionDependency resource) →
        call.answer.result = .ok .done → call.world.findInstance? id = some i →
          StandsBefore order resource i.id) ∧
      ∀ id artifacts, call.operation = .onInstance id .render →
        call.answer.result = .ok (.rendered artifacts) →
          ∀ resource ∈ artifacts.dependencies,
            StandsBefore order resource artifacts.instanceId := by
  have joined : w.deployment.WellJoined := by
    have atEnd := wellJoined_run (wellJoined_of_create created) operations
    rwa [ran] at atEnd
  have kept : ∀ {call}, call ∈ w₀.calls operations → ∀ {dependent dependency},
      (w₀.run operations).2.deployment.DependsOn dependent dependency →
        StandsBefore order dependency dependent := by
    intro _ _ dependent dependency depends
    rw [ran] at depends
    exact (standsBefore_of_finalize joined finalized).2 dependent dependency depends
  refine ⟨(standsBefore_of_finalize joined finalized).1, ?_, fun call mem => ⟨?_, ?_, ?_⟩⟩
  · rw [map_calls, ran]
  · intro store segment requested dependent s isRegister accepted held
    refine kept mem (dependsOn_run_of_asked mem ?_ ?_)
    · rw [isRegister, Operation.dependency?, held]
      rfl
    · rw [accepted]
      rfl
  · intro id i resource isDependency accepted found
    refine kept mem (dependsOn_run_of_asked mem ?_ ?_)
    · rw [isDependency, Operation.dependency?, found]
      rfl
    · rw [accepted]
      rfl
  · intro id artifacts isRender success resource named
    exact kept mem (dependsOn_run_of_rendered mem isRender success named)

end World

/-! ## A repository between a database and a fleet -/

/-- A repository is told to wait for a database, and the fleet registers with it. -/
def promising : List Operation := [
  .addResource "Fleet",
  .addResource "Database",
  declareRepository,
  fleetRegisters,
  .onInstance ⟨0⟩ (.addExecutionDependency ⟨"Database"⟩),
  .onInstance ⟨0⟩ .render]

/-- The fleet and the database come in one after another and out the other way round. -/
theorem World.order_keeps_promises_repository :
    World.create "Farm" "us-west-2" = .ok emptyFarm ∧
    ∃ order, ((emptyFarm.run promising).2.apply .finalize).1.result = .ok (.order order) ∧
      World.StandsBefore order ⟨"Repository"⟩ ⟨"Fleet"⟩ ∧
      World.StandsBefore order ⟨"Database"⟩ ⟨"Repository"⟩ := by
  have created : World.create "Farm" "us-west-2" = .ok emptyFarm := rfl
  have finalized : ((emptyFarm.run promising).2.apply .finalize).1.result =
      .ok (.order [⟨"Database"⟩, ⟨"Repository"⟩, ⟨"Fleet"⟩]) := by
    decide +kernel
  obtain ⟨_, _, promises⟩ := World.order_keeps_promises created
    (show emptyFarm.run promising = ((emptyFarm.run promising).1, _) from rfl) finalized
  have registers : (emptyFarm.calls promising)[3] ∈ emptyFarm.calls promising :=
    List.getElem_mem _
  have held : (emptyFarm.calls promising)[3].world.environment.store? ⟨0⟩ =
      some (.create ⟨"Repository"⟩ ["subnet-a"]) := by
    decide +kernel
  have awaits : (emptyFarm.calls promising)[4] ∈ emptyFarm.calls promising :=
    List.getElem_mem _
  have isRepository : ((emptyFarm.calls promising)[4].world.findInstance? ⟨0⟩).map (·.id) =
      some ⟨"Repository"⟩ := by
    decide +kernel
  obtain ⟨i, found, isId⟩ := Option.map_eq_some_iff.mp isRepository
  have afterHost := (promises _ registers).1 ⟨0⟩ "subnet-b" ⟨.client, .registered⟩ ⟨"Fleet"⟩ _ rfl
    (by decide +kernel) held
  have beforeHost := (promises _ awaits).2.1 ⟨0⟩ i ⟨"Database"⟩ rfl (by decide +kernel) found
  rw [isId] at beforeHost
  exact ⟨created, _, finalized, afterHost, beforeHost⟩

end Provisioning
