import Provisioning.Configure.Program
import Provisioning.Proofs.Configure.Accepted
import Provisioning.Proofs.Reconcile.Outcome

/-!
# When the configure program has a plan

The arguments of the program are checked one by one, and a plan needs them to fit together.
Networks without a pattern and the lack of a connection are found out before, so what a plan
can fail for, when no settings are stored, is a source that is named twice and a subnet
without a network.
-/

namespace Provisioning

set_option autoImplicit false

/-- A network that is looked up is one of those given for the subnet. -/
theorem DesiredSettings.mem_of_network?_eq_some {d : DesiredSettings} {subnetId network : String}
    (known : d.network? subnetId = some network) : (subnetId, network) ∈ d.networks := by
  obtain ⟨entry, found, rfl⟩ := Option.map_eq_some_iff.mp known
  have named : entry.1 = subnetId := by simpa using List.find?_some found
  rw [← named]
  exact List.mem_reverse.mp (List.mem_of_find?_eq_some found)

/-- No network is found for a subnet when none is given for it. -/
theorem DesiredSettings.not_mem_of_network?_eq_none {d : DesiredSettings} {subnetId : String}
    (unknown : d.network? subnetId = none) (network : String) :
    (subnetId, network) ∉ d.networks := by
  intro mem
  have differs := List.find?_eq_none.mp (Option.map_eq_none_iff.mp unknown) _
    (List.mem_reverse.mpr mem)
  exact differs (decide_eq_true rfl)

namespace ConfigureArguments

variable {arguments : List String} {a : ConfigureArguments} {subnetId : String} {e : Error}

/-- Among accepted arguments a subnet lacks a pattern only because no network is given for
it. -/
theorem lacksPattern_of_read (accepted : read arguments = .ok a)
    (lacks : a.desired.LacksPattern subnetId e) :
    (∀ network, (subnetId, network) ∉ a.networks) ∧ e = .config (.unknownCidr subnetId) := by
  rcases lacks with ⟨unknown, rfl⟩ | ⟨network, known, refused⟩
  · exact ⟨DesiredSettings.not_mem_of_network?_eq_none unknown, rfl⟩
  · have given : (subnetId, network) ∈ a.networks :=
      DesiredSettings.mem_of_network?_eq_some known
    obtain ⟨pattern, matched⟩ := (exists_addressMatch_of_read accepted).2 _ given
    cases refused.symm.trans matched

/-- The error of a plan for accepted arguments and an empty repository. -/
theorem error_of_plan_of_read (accepted : read arguments = .ok a)
    (failed : Provisioning.plan [] a.desired = .error e) :
    (∃ id, (a.sourceSubnets.map (·.subnetId)).Duplicate id ∧
        e = .config (.repeatedSource id)) ∨
      ∃ id, a.sourceSubnets ≠ [] ∧
        (id ∈ a.connectionSubnets ∨ id ∈ a.sourceSubnets.map (·.subnetId)) ∧
        (∀ network, (id, network) ∉ a.networks) ∧ e = .config (.unknownCidr id) := by
  rcases plan_eq_error_iff.mp failed with
    ⟨none, _⟩ | ⟨_, id, repeated, rfl⟩ | ⟨_, _, someSource, id, before, after, parts, _, lacks⟩
  · exact absurd none (exists_addressMatch_of_read accepted).1
  · have twice := (DesiredSettings.duplicate_of_firstRepeated repeated).2
    exact .inl ⟨id, twice.resolve_left List.not_mem_nil, rfl⟩
  · have mem : id ∈ a.desired.subnets := by
      rw [parts]
      exact List.mem_append_right before List.mem_cons_self
    exact .inr ⟨id, someSource, DesiredSettings.mem_subnets_iff.mp mem,
      lacksPattern_of_read accepted lacks⟩

/-- **When there is a plan, and what it fails for.**  Whatever is stored, there is a plan
exactly when there is a connection, no source is named twice, and every subnet has a pattern
unless there is no source.  When only the patterns are at fault, the error is the one of the
first subnet without a pattern: the first connection, the sources and the other connections in
order.  For accepted arguments without stored settings, a plan fails only for a source that is
named twice or for a subnet that a pattern is needed of and no network is given for. -/
theorem plan_unless_refused :
    (∀ (prior : List RegistrationSetting) (d : DesiredSettings),
      (∃ actions, Provisioning.plan prior d = .ok actions) ↔
        d.connections ≠ [] ∧ (d.sources.map (·.subnetId)).Nodup ∧
          (d.sources = [] ∨ ∀ id, id ∈ d.connections ∨ id ∈ d.sources.map (·.subnetId) →
            d.HasPattern id)) ∧
    (∀ (prior : List RegistrationSetting) (d : DesiredSettings), d.connections ≠ [] →
      (d.sources.map (·.subnetId)).Nodup → ¬ d.HasPatterns →
        ∃ id before after e,
          d.connections.take 1 ++ (d.sources.map (·.subnetId) ++ d.connections.drop 1) =
            before ++ id :: after ∧
          (∀ earlier ∈ before, d.HasPattern earlier) ∧ d.LacksPattern id e ∧
          Provisioning.plan prior d = .error e) ∧
    ∀ (arguments : List String) (a : ConfigureArguments) (found : String → TextFile) (e : Error),
      read arguments = .ok a → a.existing = none → a.plan (a.existing.map found) = .error e →
        (∃ id, (a.sourceSubnets.map (·.subnetId)).Duplicate id ∧
          e = .config (.repeatedSource id)) ∨
        ∃ id, a.sourceSubnets ≠ [] ∧
          (id ∈ a.connectionSubnets ∨ id ∈ a.sourceSubnets.map (·.subnetId)) ∧
          (∀ network, (id, network) ∉ a.networks) ∧ e = .config (.unknownCidr id) := by
  refine ⟨fun prior d => exists_plan_iff, fun prior d someConnection distinct lacking => ?_,
    fun arguments a found e accepted notStored failed => ?_⟩
  · have noPlan : ¬ ∃ actions, Provisioning.plan prior d = .ok actions :=
      fun planned => lacking (exists_plan_iff.mp planned).2.2
    cases failed : Provisioning.plan prior d with
    | ok actions => exact absurd ⟨actions, failed⟩ noPlan
    | error e =>
      rcases plan_eq_error_iff.mp failed with
        ⟨none, _⟩ | ⟨_, id, repeated, _⟩ | ⟨_, _, _, id, before, after, parts, earlier, lacks⟩
      · exact absurd none someConnection
      · rw [firstRepeated_nil_eq_none_iff.mpr distinct] at repeated
        cases repeated
      · exact ⟨id, before, after, e, parts, earlier, lacks, rfl⟩
  · rw [notStored] at failed
    exact error_of_plan_of_read accepted failed

/-- A front and a side door, for an office behind them.  The network of the side door has a bit
set behind the fixed ones. -/
def crookedSide : DesiredSettings where
  connections := ["front", "side"]
  sources := [⟨"office", .client, .registered⟩]
  networks := [("front", "10.0.0.0/24"), ("office", "10.1.0.0/16"), ("side", "10.2.0.1/16")]

/-- Arguments that give no network for the side door. -/
def noNetworkForSide : List String := [
  "--region", "us-east-1",
  "--credentials", "arn:aws:secretsmanager:us-east-1:123456789012:secret:repository",
  "--connection-subnet", "front", "--connection-subnet=side",
  "--source-subnet", "office,Client,Registered",
  "--subnet-cidr", "front=10.0.0.0/24", "--subnet-cidr", "office=10.1.0.0/16"]

/-- What these arguments say. -/
def noNetworkForSideArguments : ConfigureArguments where
  region := "us-east-1"
  credentials := {
    arn := "arn:aws:secretsmanager:us-east-1:123456789012:secret:repository"
    region := "us-east-1"
    isReference := by decide }
  connectionSubnets := ["front", "side"]
  sourceSubnets := [⟨"office", .client, .registered⟩]
  networks := [("front", "10.0.0.0/24"), ("office", "10.1.0.0/16")]
  existing := none

/-- A plan fails for the side door after the front and the office have been looked up, and for
its network when that is not given. -/
theorem plan_unless_refused_side :
    (crookedSide.connections ≠ [] ∧ (crookedSide.sources.map (·.subnetId)).Nodup ∧
      ¬ crookedSide.HasPatterns ∧
      ∃ id before after e, ["front", "office", "side"] = before ++ id :: after ∧
        (∀ earlier ∈ before, crookedSide.HasPattern earlier) ∧ crookedSide.LacksPattern id e ∧
        Provisioning.plan [] crookedSide = .error e) ∧
    read noNetworkForSide = .ok noNetworkForSideArguments ∧
      noNetworkForSideArguments.existing = none ∧
      noNetworkForSideArguments.plan none = .error (.config (.unknownCidr "side")) ∧
      ((∃ id, ["office"].Duplicate id ∧
          Error.config (.unknownCidr "side") = .config (.repeatedSource id)) ∨
        ∃ id, noNetworkForSideArguments.sourceSubnets ≠ [] ∧
          (id ∈ ["front", "side"] ∨ id ∈ ["office"]) ∧
          (∀ network, (id, network) ∉ noNetworkForSideArguments.networks) ∧
          Error.config (.unknownCidr "side") = .config (.unknownCidr id)) := by
  obtain ⟨_, first_lacking, missing⟩ := plan_unless_refused
  have someConnection : crookedSide.connections ≠ [] := by decide
  have distinct : (crookedSide.sources.map (·.subnetId)).Nodup := by decide
  have lacking : ¬ crookedSide.HasPatterns := by
    rintro (none | all)
    · cases none
    · obtain ⟨network, known, pattern, matched⟩ := all "side" (.inl (by decide))
      cases (by decide +kernel : crookedSide.network? "side" = some "10.2.0.1/16").symm.trans known
      cases (by decide +kernel : addressMatch "10.2.0.1/16" =
        .error (.config (.hostBitsSet "10.2.0.1/16"))).symm.trans matched
  have accepted : read noNetworkForSide = .ok noNetworkForSideArguments := by decide +kernel
  have failed : noNetworkForSideArguments.plan none = .error (.config (.unknownCidr "side")) := by
    decide +kernel
  exact ⟨⟨someConnection, distinct, lacking, first_lacking [] _ someConnection distinct lacking⟩,
    accepted, rfl, failed, missing _ _ .absent _ accepted rfl failed⟩

end ConfigureArguments

end Provisioning
