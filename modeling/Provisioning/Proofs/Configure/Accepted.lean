import Provisioning.Configure.Arguments
import Provisioning.Proofs.Registration.SourceSubnet
import Provisioning.Proofs.Result

/-!
# What holds of accepted arguments

Values are checked when they are taken.  So a property of the values taken so far that holds
before the first one and is kept by every further one holds of all arguments that are
accepted, in whatever order the options were given.  Two such properties are that subnets are
segment ids, and that networks have patterns.
-/

namespace Provisioning

set_option autoImplicit false

/-! ## Taking values -/

/-- Taking one more value keeps the property. -/
def GivenArguments.IsKept (P : GivenArguments → Prop) : Prop :=
  ∀ (g g' : GivenArguments) (name : OptionName) (value : String),
    P g → g.take name value = .ok g' → P g'

namespace GivenArguments

variable {g g' : GivenArguments}

theorem valid_eq_ok_iff {α : Type} {result : Result α} {value : α} :
    valid result = .ok value ↔ result = .ok value := by
  cases result with
  | ok _ => simp [valid]
  | error _ => simp [valid]

/-- A network that is taken has a pattern. -/
theorem exists_addressMatch_of_readSubnetNetwork {text : String} {entry : String × String}
    (accepted : readSubnetNetwork text = .ok entry) :
    ∃ pattern, addressMatch entry.2 = .ok pattern := by
  unfold readSubnetNetwork at accepted
  simp only at accepted
  split at accepted
  next => cases accepted
  next network _ =>
    obtain ⟨_, accepted⟩ := Result.check_bind_eq_ok_iff.mp accepted
    obtain ⟨_, matched, same⟩ := Result.bind_eq_ok_iff.mp accepted
    cases same
    obtain ⟨pattern, isPattern, _⟩ := Result.map_eq_ok_iff.mp matched
    exact ⟨pattern, isPattern⟩

/-- What one value adds has been checked. -/
structure AddsChecked (g g' : GivenArguments) : Prop where
  connections : ∀ id ∈ g'.connectionSubnets, id ∈ g.connectionSubnets ∨ isSubnetId id = true
  sources : ∀ source ∈ g'.sourceSubnets, source ∈ g.sourceSubnets ∨ source.IsRegistrable
  networks : ∀ entry ∈ g'.networks,
    entry ∈ g.networks ∨ ∃ pattern, addressMatch entry.2 = .ok pattern

/-- Each option adds to a list of its own or to none. -/
theorem addsChecked_of_take {name : OptionName} {value : String}
    (taken : g.take name value = .ok g') : g.AddsChecked g' := by
  cases name with
  | region =>
    obtain ⟨_, rfl⟩ := Result.guarded_eq_ok_iff.mp taken
    exact ⟨fun _ => .inl, fun _ => .inl, fun _ => .inl⟩
  | credentials =>
    obtain ⟨_, rest⟩ := Result.check_bind_eq_ok_iff.mp taken
    obtain ⟨_, _, same⟩ := Result.bind_eq_ok_iff.mp rest
    cases same
    exact ⟨fun _ => .inl, fun _ => .inl, fun _ => .inl⟩
  | existing =>
    obtain ⟨_, rest⟩ := Result.check_bind_eq_ok_iff.mp taken
    split at rest
    · cases rest
    · cases rest
      exact ⟨fun _ => .inl, fun _ => .inl, fun _ => .inl⟩
  | connectionSubnet =>
    obtain ⟨checked, rfl⟩ := Result.guarded_eq_ok_iff.mp taken
    have isId := checkSubnetId_eq_ok_iff.mp (valid_eq_ok_iff.mp checked)
    refine ⟨List.forall_mem_append.mpr ⟨fun _ => .inl, ?_⟩, fun _ => .inl, fun _ => .inl⟩
    exact List.forall_mem_singleton.mpr (.inr isId)
  | sourceSubnet =>
    obtain ⟨source, accepted, same⟩ := Result.bind_eq_ok_iff.mp taken
    cases same
    have isSource := SourceSubnet.isRegistrable_of_read (valid_eq_ok_iff.mp accepted)
    refine ⟨fun _ => .inl, List.forall_mem_append.mpr ⟨fun _ => .inl, ?_⟩, fun _ => .inl⟩
    exact List.forall_mem_singleton.mpr (.inr isSource)
  | subnetCidr =>
    obtain ⟨entry, accepted, same⟩ := Result.bind_eq_ok_iff.mp taken
    cases same
    have isNetwork := exists_addressMatch_of_readSubnetNetwork (valid_eq_ok_iff.mp accepted)
    refine ⟨fun _ => .inl, fun _ => .inl, List.forall_mem_append.mpr ⟨fun _ => .inl, ?_⟩⟩
    exact List.forall_mem_singleton.mpr (.inr isNetwork)

/-- All subnets that were given so far are segment ids, and all sources can be registered. -/
structure NamesSegments (g : GivenArguments) : Prop where
  connections : ∀ id ∈ g.connectionSubnets, isSubnetId id = true
  sources : ∀ source ∈ g.sourceSubnets, source.IsRegistrable

theorem NamesSegments.isKept : IsKept NamesSegments := by
  intro g g' name value named taken
  have added := addsChecked_of_take taken
  exact ⟨fun subnet mem => (added.connections subnet mem).elim (named.connections subnet) id,
    fun source mem => (added.sources source mem).elim (named.sources source) id⟩

/-- Every network that was given so far has a pattern. -/
def HasPatterns (g : GivenArguments) : Prop :=
  ∀ entry ∈ g.networks, ∃ pattern, addressMatch entry.2 = .ok pattern

theorem HasPatterns.isKept : IsKept HasPatterns := by
  intro g g' name value has taken entry mem
  exact ((addsChecked_of_take taken).networks entry mem).elim (has entry) id

end GivenArguments

/-! ## Reading arguments -/

namespace ArgumentReader

variable {P : GivenArguments → Prop} {r r' : ArgumentReader} {g : GivenArguments}

theorem kept_of_settle (kept : GivenArguments.IsKept P) (holds : P r.given)
    (settled : r.settle = .ok g) : P g := by
  unfold settle at settled
  split at settled
  next =>
    cases settled
    exact holds
  next => cases settled
  next => exact kept _ _ _ _ holds settled

/-- Reading one argument takes one value at most. -/
theorem kept_of_read (kept : GivenArguments.IsKept P) (holds : P r.given) {token : ArgumentToken}
    (accepted : r.read token = .ok r') : P r'.given := by
  unfold read at accepted
  split at accepted
  next => cases accepted
  next =>
    split at accepted
    next name =>
      obtain ⟨given, settled, same⟩ := Result.bind_eq_ok_iff.mp accepted
      cases same
      exact kept_of_settle kept holds settled
    next name value =>
      obtain ⟨before, settled, rest⟩ := Result.bind_eq_ok_iff.mp accepted
      obtain ⟨given, taken, same⟩ := Result.bind_eq_ok_iff.mp rest
      cases same
      exact kept _ _ _ _ (kept_of_settle kept holds settled) taken
    next =>
      obtain ⟨_, _, impossible⟩ := Result.bind_eq_ok_iff.mp accepted
      cases impossible
    next => cases accepted
    next =>
      cases accepted
      exact holds
    next => cases accepted
    next =>
      split at accepted
      next =>
        cases accepted
        exact holds
      next => cases accepted

/-- The induction is on the arguments that are still to be read. -/
theorem kept_of_readAll (kept : GivenArguments.IsKept P) (holds : P r.given)
    {tokens : List ArgumentToken} (accepted : r.readAll tokens = .ok r') : P r'.given := by
  induction tokens generalizing r with
  | nil =>
    cases accepted
    exact holds
  | cons token rest ih =>
    rw [readAll, List.foldlM_cons] at accepted
    obtain ⟨next, first, others⟩ := Result.bind_eq_ok_iff.mp accepted
    exact ih (kept_of_read kept holds first) others

end ArgumentReader

/-! ## Accepted arguments -/

namespace ConfigureArguments

variable {arguments : List String} {a : ConfigureArguments} {g : GivenArguments}

/-- The subnets and networks of accepted arguments are the ones that were taken, and among them
there is a connection. -/
structure Takes (a : ConfigureArguments) (g : GivenArguments) : Prop where
  connectionSubnets : a.connectionSubnets = g.connectionSubnets
  sourceSubnets : a.sourceSubnets = g.sourceSubnets
  networks : a.networks = g.networks
  someConnection : a.connectionSubnets ≠ []

theorem takes_of_ofGiven (made : ofGiven g = .ok a) : a.Takes g := by
  unfold ofGiven at made
  split at made
  next given =>
    cases made
    exact ⟨rfl, rfl, rfl, by simp [given]⟩
  next => cases made

/-- **Whatever every value keeps that is taken holds of the values of accepted arguments.** -/
theorem exists_takes_of_read {P : GivenArguments → Prop} (kept : GivenArguments.IsKept P)
    (start : P {}) (accepted : read arguments = .ok a) : ∃ g, P g ∧ a.Takes g := by
  obtain ⟨r, readAll, rest⟩ := Result.bind_eq_ok_iff.mp accepted
  obtain ⟨g, settled, made⟩ := Result.bind_eq_ok_iff.mp rest
  have holds : P r.given := ArgumentReader.kept_of_readAll kept start readAll
  exact ⟨g, ArgumentReader.kept_of_settle kept holds settled, takes_of_ofGiven made⟩

/-- **The subnets in arguments that are accepted are segment ids.** -/
theorem isSubnetId_of_read (accepted : read arguments = .ok a) :
    (∀ id ∈ a.connectionSubnets, isSubnetId id = true) ∧
      ∀ source ∈ a.sourceSubnets, isSubnetId source.subnetId = true := by
  obtain ⟨g, named, takes⟩ := exists_takes_of_read GivenArguments.NamesSegments.isKept
    ⟨fun _ mem => absurd mem List.not_mem_nil, fun _ mem => absurd mem List.not_mem_nil⟩ accepted
  rw [takes.connectionSubnets, takes.sourceSubnets]
  exact ⟨named.connections, fun source mem => (named.sources source mem).isSubnetId⟩

/-- The networks in arguments that are accepted have patterns, and there is a connection. -/
theorem exists_addressMatch_of_read (accepted : read arguments = .ok a) :
    a.connectionSubnets ≠ [] ∧
      ∀ entry ∈ a.networks, ∃ pattern, addressMatch entry.2 = .ok pattern := by
  obtain ⟨g, has, takes⟩ := exists_takes_of_read GivenArguments.HasPatterns.isKept
    (fun _ mem => absurd mem List.not_mem_nil) accepted
  rw [takes.networks]
  exact ⟨takes.someConnection, has⟩

end ConfigureArguments

end Provisioning
