import Provisioning.Proofs.Registration.CallOrder
import Provisioning.Proofs.Script.LazyCommand
import Provisioning.Proofs.World.Basic

/-!
# Callers that register in any order

Callers of a store do not wait for each other, so their calls to register arrive in
any order.  While the store and the deployment are open, the order decides nothing
that lasts: the same world comes out of every order of calls that are all accepted,
and two calls that disagree never both succeed.
-/

namespace Provisioning

set_option autoImplicit false

/-- The call, made on a store. -/
def RegisterCall.on (call : RegisterCall) (store : StoreId) : Operation :=
  .register store call.segment call.requested call.dependent

/-- Makes calls on a store, one after another. -/
def World.callAll (w : World) (store : StoreId) (calls : List RegisterCall) : List Answer × World :=
  w.run (calls.map (·.on store))

/-- In a world, a store can take registrations: it is open, and so is the deployment, in
which its instance was declared. -/
structure World.Accepting (w : World) (id : StoreId) (s : RegistrationStore) : Prop where
  held : w.environment.store? id = some s
  isOpen : s.isSealed = false
  declared : w.deployment.declares s.instanceId = true
  unfinalized : w.deployment.isFinalized = false

/-- What calls to register do not take back: the instance, the declared resources and the
registrations that are in the store. -/
structure Growth (w w' : World) (s s' : RegistrationStore) : Prop where
  instanceId : s'.instanceId = s.instanceId
  declares : ∀ other, w'.deployment.declares other = w.deployment.declares other
  entries : ∀ segment registration, s.entries.get? segment = some registration →
    s'.entries.get? segment = some registration

theorem Growth.refl (w : World) (s : RegistrationStore) : Growth w w s s :=
  ⟨rfl, fun _ => rfl, fun _ _ found => found⟩

theorem Growth.trans {w w' w'' : World} {s s' s'' : RegistrationStore} (first : Growth w w' s s')
    (second : Growth w' w'' s' s'') : Growth w w'' s s'' :=
  ⟨second.instanceId.trans first.instanceId,
    fun other => (second.declares other).trans (first.declares other),
    fun segment registration found =>
      second.entries segment registration (first.entries segment registration found)⟩

theorem Growth.acceptable {w w' : World} {s s' : RegistrationStore} {call : RegisterCall}
    (growth : Growth w w' s s') (acceptable : call.Acceptable w.deployment s.instanceId) :
    call.Acceptable w'.deployment s'.instanceId :=
  ⟨acceptable.isRegistrable, acceptable.isSubnetId,
    (growth.declares _).trans acceptable.declares, growth.instanceId ▸ acceptable.differ⟩

/-- The answer to a call that was accepted. -/
def RegistrationStore.acceptance (s : RegistrationStore) (call : RegisterCall) : Answer where
  result := .ok .done
  events := s.warnings call.segment

namespace World

variable {w : World} {id : StoreId} {s s' : RegistrationStore} {d' : Deployment}
  {call : RegisterCall} {calls calls' : List RegisterCall}

/-! ## One call -/

theorem apply_on_of_ok (held : w.environment.store? id = some s)
    (made : s.make w.deployment call = .ok (s', d')) :
    w.apply (call.on id) =
      (s'.acceptance call, ({ w with deployment := d' } : World).setStore id s') := by
  rw [RegisterCall.on, apply, register, held]
  dsimp only
  rw [← RegistrationStore.make, made]
  rfl

theorem apply_on_of_error {e : Error} (held : w.environment.store? id = some s)
    (failed : s.make w.deployment call = .error e) :
    w.apply (call.on id) = ({ result := .error e }, w) := by
  rw [RegisterCall.on, apply, register, held]
  dsimp only
  rw [← RegistrationStore.make, failed]
  rfl

theorem store?_setStore_self (held : w.environment.store? id = some s) :
    (w.setStore id s').environment.store? id = some s' := by
  rw [setStore, Environment.store?_modifyStore_self, held]
  rfl

theorem setStore_setStore (w : World) (id : StoreId) (s s' : RegistrationStore) :
    (w.setStore id s).setStore id s' = w.setStore id s' := by
  simp only [setStore, Environment.modifyStore, List.modify_modify_eq]
  rfl

/-- Putting a store where it stands changes nothing. -/
theorem setStore_of_held (held : w.environment.store? id = some s) : w.setStore id s = w := by
  have same : w.environment.stores.modify id.index (fun _ => s) = w.environment.stores := by
    refine List.ext_getElem? ?_
    intro index
    rw [List.getElem?_modify]
    by_cases here : id.index = index
    · subst here
      have isStore : w.environment.stores[id.index]? = some s := held
      simp [isStore]
    · simp [here]
  rw [setStore, Environment.modifyStore, same]

/-- A store that can take registrations still can after a call, whatever the answer.  A
call that is acceptable by itself is in the store then, unless it was refused for another
registration. -/
theorem Accepting.apply_on (accepting : w.Accepting id s) (call : RegisterCall) :
    ∃ s', (w.apply (call.on id)).2.Accepting id s' ∧
      Growth w (w.apply (call.on id)).2 s s' ∧
      (call.Acceptable w.deployment s.instanceId →
        (∃ disagreement, (w.apply (call.on id)).1.result = .error (.conflict disagreement)) ∨
          s'.entries.get? call.segment = some call.requested) := by
  cases made : s.make w.deployment call with
  | error e =>
    rw [apply_on_of_error accepting.held made]
    refine ⟨s, accepting, .refl w s, fun acceptable => .inl ?_⟩
    rcases RegistrationStore.make_of_acceptable acceptable accepting.isOpen
      accepting.unfinalized accepting.declared with ⟨disagreement, refused⟩ | ⟨_, _, taken⟩
    · rw [made] at refused
      cases refused
      exact ⟨disagreement, rfl⟩
    · rw [made] at taken
      cases taken
  | ok changed =>
    obtain ⟨s', d'⟩ := changed
    rw [apply_on_of_ok accepting.held made]
    obtain ⟨isNew, isKept⟩ := RegistrationStore.get?_of_make made
    obtain ⟨_, _, isOpen, _, added, rfl⟩ := RegistrationStore.register_eq_ok_iff.mp made
    have declares := Deployment.declares_of_addDependency added
    refine ⟨_, ⟨store?_setStore_self accepting.held, isOpen, ?_, ?_⟩, ⟨rfl, declares, isKept⟩,
      fun _ => .inr isNew⟩
    · exact (declares _).trans accepting.declared
    · obtain ⟨unfinalized, _, _, _, rfl⟩ := Deployment.addDependency_eq_ok_iff.mp added
      exact unfinalized

/-! ## Many calls -/

theorem callAll_cons (w : World) (id : StoreId) (call : RegisterCall) (rest : List RegisterCall) :
    w.callAll id (call :: rest) =
      ((w.apply (call.on id)).1 :: ((w.apply (call.on id)).2.callAll id rest).1,
        ((w.apply (call.on id)).2.callAll id rest).2) := rfl

/-- Calls that are all accepted leave the world with what they make of the store and the
deployment. -/
theorem callAll_of_makeAll (held : w.environment.store? id = some s)
    (made : s.makeAll w.deployment calls = .ok (s', d')) :
    w.callAll id calls =
      (calls.map s.acceptance, ({ w with deployment := d' } : World).setStore id s') := by
  induction calls generalizing w s with
  | nil =>
    cases made
    rw [setStore_of_held held]
    rfl
  | cons call rest ih =>
    obtain ⟨s₁, d₁, head, tail⟩ := RegistrationStore.makeAll_cons_eq_ok_iff.mp made
    have step := apply_on_of_ok held head
    have held₁ : ((w.apply (call.on id)).2).environment.store? id = some s₁ := by
      rw [step]
      exact store?_setStore_self held
    have next := ih held₁ (step ▸ tail)
    obtain ⟨_, _, _, _, _, rfl⟩ := RegistrationStore.register_eq_ok_iff.mp head
    rw [callAll_cons, next, step, List.map_cons]
    exact Prod.ext rfl (setStore_setStore { w with deployment := d' } id _ s')

/-- When all calls of a run are accepted, they are accepted one after another by the
store. -/
theorem exists_makeAll_of_callAll (held : w.environment.store? id = some s)
    (accepted : ∀ answer ∈ (w.callAll id calls).1, answer.result = .ok .done) :
    ∃ s' d', s.makeAll w.deployment calls = .ok (s', d') := by
  induction calls generalizing w s with
  | nil => exact ⟨s, w.deployment, rfl⟩
  | cons call rest ih =>
    rw [callAll_cons] at accepted
    cases made : s.make w.deployment call with
    | error e =>
      have refused := accepted _ List.mem_cons_self
      rw [apply_on_of_error held made] at refused
      cases refused
    | ok changed =>
      obtain ⟨s₁, d₁⟩ := changed
      have step := apply_on_of_ok held made
      have held₁ : ((w.apply (call.on id)).2).environment.store? id = some s₁ := by
        rw [step]
        exact store?_setStore_self held
      obtain ⟨s', d', tail⟩ := ih held₁ fun answer mem =>
        accepted answer (List.mem_cons_of_mem _ mem)
      rw [step] at tail
      exact ⟨s', d', RegistrationStore.makeAll_cons_eq_ok_iff.mpr ⟨s₁, d₁, made, tail⟩⟩

/-- After a run of calls each one that is acceptable by itself is in the store, unless one
of the calls was refused for another registration. -/
theorem Accepting.callAll (accepting : w.Accepting id s) (calls : List RegisterCall) :
    ∃ s', (w.callAll id calls).2.Accepting id s' ∧
      Growth w (w.callAll id calls).2 s s' ∧
      ∀ call ∈ calls, call.Acceptable w.deployment s.instanceId →
        (∃ answer ∈ (w.callAll id calls).1,
          ∃ disagreement, answer.result = .error (.conflict disagreement)) ∨
        s'.entries.get? call.segment = some call.requested := by
  induction calls generalizing w s with
  | nil => exact ⟨s, accepting, .refl w s, fun _ mem => absurd mem List.not_mem_nil⟩
  | cons first rest ih =>
    obtain ⟨s₁, accepting₁, growth₁, taken⟩ := accepting.apply_on first
    obtain ⟨s', accepting', growth, takenRest⟩ := ih accepting₁
    rw [callAll_cons]
    refine ⟨s', accepting', growth₁.trans growth, ?_⟩
    intro call mem acceptable
    rcases List.mem_cons.mp mem with rfl | later
    · rcases taken acceptable with ⟨disagreement, refused⟩ | isThere
      · exact .inl ⟨_, List.mem_cons_self, disagreement, refused⟩
      · exact .inr (growth.entries _ _ isThere)
    · rcases takenRest call later (growth₁.acceptable acceptable) with
        ⟨answer, mem, refused⟩ | isThere
      · exact .inl ⟨answer, List.mem_cons_of_mem _ mem, refused⟩
      · exact .inr isThere

/-! ## Any order -/

/-- **The order of the callers does not matter.**  When all calls are accepted in one order
they are accepted in every other, and the world they leave is the same, with the same
entries, the same dependencies and the same arguments of a command; as many warnings are
reported.  Of two calls that disagree about a segment, one is refused in every order. -/
theorem register_order_independent (accepting : w.Accepting id s) (perm : calls.Perm calls') :
    ((∀ answer ∈ (w.callAll id calls).1, answer.result = .ok .done) →
      (∀ answer ∈ (w.callAll id calls').1, answer.result = .ok .done) ∧
      (w.callAll id calls').2 = (w.callAll id calls).2 ∧
      ((w.callAll id calls').1.flatMap (·.events)).Perm
        ((w.callAll id calls).1.flatMap (·.events)) ∧
      ∀ c : RegistrationCommand,
        c.arguments ((w.callAll id calls').2.environment.sources c.store) =
          c.arguments ((w.callAll id calls).2.environment.sources c.store)) ∧
    ∀ p ∈ calls, ∀ q ∈ calls, p.Acceptable w.deployment s.instanceId →
      q.Acceptable w.deployment s.instanceId → p.segment = q.segment →
      p.requested ≠ q.requested →
        ∃ answer ∈ (w.callAll id calls').1,
          ∃ disagreement, answer.result = .error (.conflict disagreement) := by
  constructor
  · intro accepted
    obtain ⟨s', d', made⟩ := exists_makeAll_of_callAll accepting.held accepted
    have ran := callAll_of_makeAll accepting.held made
    have ran' := callAll_of_makeAll accepting.held (RegistrationStore.makeAll_perm perm made)
    rw [ran, ran']
    refine ⟨?_, rfl, (perm.symm.map s.acceptance).flatMap_right _, fun _ => rfl⟩
    intro answer mem
    obtain ⟨call, _, rfl⟩ := List.mem_map.mp mem
    rfl
  · intro p memP q memQ acceptableP acceptableQ sameSegment disagree
    obtain ⟨s', _, _, taken⟩ := accepting.callAll calls'
    rcases taken p (perm.mem_iff.mp memP) acceptableP with refused | first
    · exact refused
    · rcases taken q (perm.mem_iff.mp memQ) acceptableQ with refused | second
      · exact refused
      · rw [← sameSegment, first] at second
        exact absurd (Option.some.inj second) disagree

/-- A farm with a repository and a fleet, and a store of registrations that the repository
applies. -/
def openFarm : World where
  deployment := {
    stack := "Farm"
    region := "us-west-2"
    resources := .ofList [(⟨"Fleet"⟩, ()), (⟨"Repository"⟩, ())]
    edges := ∅
    isFinalized := false }
  environment := .addStore .empty (.create ⟨"Repository"⟩ ["subnet-a"])
  instances := []
  sequences := []

/-- The fleet registers a segment for its clients. -/
def fleetCall (segment : String) : RegisterCall :=
  ⟨segment, ⟨.client, .registered⟩, ⟨"Fleet"⟩⟩

/-- The fleet registers a segment for servers. -/
def serverCall (segment : String) : RegisterCall :=
  ⟨segment, ⟨.server, .registered⟩, ⟨"Fleet"⟩⟩

theorem register_order_independent_fleet :
    openFarm.Accepting ⟨0⟩ (.create ⟨"Repository"⟩ ["subnet-a"]) ∧
    (openFarm.callAll ⟨0⟩ [fleetCall "subnet-b", fleetCall "subnet-a"]).2 =
      (openFarm.callAll ⟨0⟩ [fleetCall "subnet-a", fleetCall "subnet-b"]).2 ∧
    ∃ answer ∈ (openFarm.callAll ⟨0⟩ [serverCall "subnet-a", fleetCall "subnet-a"]).1,
      ∃ disagreement, answer.result = .error (.conflict disagreement) := by
  have accepting : openFarm.Accepting ⟨0⟩ (.create ⟨"Repository"⟩ ["subnet-a"]) :=
    ⟨rfl, rfl, by decide +kernel, rfl⟩
  have accepted : ∀ answer ∈ (openFarm.callAll ⟨0⟩ [fleetCall "subnet-a", fleetCall "subnet-b"]).1,
      answer.result = .ok .done := by
    decide +kernel
  obtain ⟨sameOutcome, _⟩ := register_order_independent accepting
    (List.Perm.swap (fleetCall "subnet-b") (fleetCall "subnet-a") [])
  obtain ⟨_, oneRefused⟩ := register_order_independent accepting
    (List.Perm.swap (serverCall "subnet-a") (fleetCall "subnet-a") [])
  have acceptable : ∀ call ∈ [fleetCall "subnet-a", serverCall "subnet-a"],
      call.Acceptable openFarm.deployment ⟨"Repository"⟩ := by
    intro call mem
    rcases List.mem_pair.mp mem with rfl | rfl
    · exact ⟨rfl, by decide +kernel, by decide +kernel, by decide⟩
    · exact ⟨rfl, by decide +kernel, by decide +kernel, by decide⟩
  refine ⟨accepting, (sameOutcome accepted).2.1, ?_⟩
  exact oneRefused _ List.mem_cons_self _ (List.mem_cons_of_mem _ List.mem_cons_self)
    (acceptable _ List.mem_cons_self)
    (acceptable _ (List.mem_cons_of_mem _ List.mem_cons_self)) rfl (by decide)

end World

end Provisioning
