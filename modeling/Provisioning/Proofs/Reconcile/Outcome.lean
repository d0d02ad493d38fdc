import Mathlib.Data.List.Duplicate
import Provisioning.Proofs.Reconcile.Plan

/-!
# When there is a plan

Whether there is a plan depends on what is wanted and not on what is stored: there has to be
a connection, no source may be named twice, and unless there is no source at all every subnet
needs a network that has a pattern.

Networks are looked up combination by combination, the one of the connection first.  So the
combinations of the first connection ask for this connection and then for one source after
another, and all that the combinations of the other connections add are these connections.  Of
the subnets in this order, a plan fails for the first one without a pattern.
-/

namespace Provisioning

set_option autoImplicit false

open Result (fault?)

/-! ## The first fault of a nested loop -/

section FirstFault

variable {α β γ : Type}

/-- What every member has in common may be looked for once, if there is a member. -/
theorem findSome?_or_left {members : List α} (some_member : members ≠ []) (shared : Option γ)
    (f : α → Option γ) :
    members.findSome? (fun member => shared.or (f member)) = shared.or (members.findSome? f) := by
  cases shared with
  | none => simp
  | some found =>
    obtain ⟨first, rest, rfl⟩ := List.exists_cons_of_ne_nil some_member
    simp

/-- Going through all pairs, one looks at the left side once for each row. -/
theorem findSome?_pairs {lefts : List α} {rights : List β} (some_right : rights ≠ [])
    (f : α → Option γ) (g : β → Option γ) :
    (lefts.flatMap fun left => rights.map (left, ·)).findSome?
        (fun pair => (f pair.1).or (g pair.2)) =
      lefts.findSome? fun left => (f left).or (rights.findSome? g) := by
  induction lefts with
  | nil => rfl
  | cons left rest ih =>
    have row : (rights.map (left, ·)).findSome? (fun pair => (f pair.1).or (g pair.2)) =
        (f left).or (rights.findSome? g) := by
      rw [List.findSome?_map]
      exact findSome?_or_left some_right (f left) g
    rw [List.flatMap_cons, List.findSome?_append, row, ih, List.findSome?_cons]
    cases (f left).or (rights.findSome? g) with
    | none => rfl
    | some found => rfl

/-- What is looked for in every row is looked for in the first one. -/
theorem findSome?_or_right (left : α) (rest : List α) (f : α → Option γ) (shared : Option γ) :
    (left :: rest).findSome? (fun left => (f left).or shared) =
      (f left).or (shared.or (rest.findSome? f)) := by
  rw [List.findSome?_cons]
  cases f left with
  | some found => rfl
  | none =>
    cases shared with
    | none => simp
    | some found => rfl

end FirstFault

/-! ## Patterns of subnets -/

namespace DesiredSettings

variable {d : DesiredSettings} {subnetId : String} {e : Error}

/-- The network of a subnet is known and has a pattern. -/
def HasPattern (d : DesiredSettings) (subnetId : String) : Prop :=
  ∃ network, d.network? subnetId = some network ∧ ∃ pattern, addressMatch network = .ok pattern

/-- The error for a subnet without a pattern: its network is not known, or is no network
that has one. -/
def LacksPattern (d : DesiredSettings) (subnetId : String) (e : Error) : Prop :=
  d.network? subnetId = none ∧ e = .config (.unknownCidr subnetId) ∨
    ∃ network, d.network? subnetId = some network ∧ addressMatch network = .error e

theorem fault?_patternOf_eq_none_iff :
    fault? (d.patternOf subnetId) = none ↔ d.HasPattern subnetId := by
  rw [Result.fault?_eq_none_iff]
  simp only [patternOf_eq_ok_iff, HasPattern]
  exact ⟨fun ⟨pattern, network, known, isPattern⟩ => ⟨network, known, pattern, isPattern⟩,
    fun ⟨network, known, pattern, isPattern⟩ => ⟨pattern, network, known, isPattern⟩⟩

theorem fault?_patternOf_eq_some_iff :
    fault? (d.patternOf subnetId) = some e ↔ d.LacksPattern subnetId e := by
  rw [Result.fault?_eq_some_iff, LacksPattern]
  unfold patternOf
  split
  next network known => simp [known]
  next unknown => simp [unknown, eq_comm]

/-- The subnets of the combinations, in the order in which their networks are looked up for
the first time. -/
def subnets (d : DesiredSettings) : List String :=
  d.connections.take 1 ++ (d.sources.map (·.subnetId) ++ d.connections.drop 1)

theorem mem_subnets_iff :
    subnetId ∈ d.subnets ↔ subnetId ∈ d.connections ∨ subnetId ∈ d.sources.map (·.subnetId) := by
  have split : subnetId ∈ d.connections ↔
      subnetId ∈ d.connections.take 1 ∨ subnetId ∈ d.connections.drop 1 := by
    rw [← List.mem_append, List.take_append_drop]
  rw [subnets, List.mem_append, List.mem_append, split]
  tauto

/-- Every subnet has a pattern, unless there is no source that it would be needed for. -/
def HasPatterns (d : DesiredSettings) : Prop :=
  d.sources = [] ∨ ∀ subnetId,
    subnetId ∈ d.connections ∨ subnetId ∈ d.sources.map (·.subnetId) → d.HasPattern subnetId

/-- Of the subnets in order, this is the first one without a pattern, and the error is for
it. -/
def FirstLacking (d : DesiredSettings) (subnetId : String) (e : Error) : Prop :=
  ∃ before after, d.subnets = before ++ subnetId :: after ∧
    (∀ earlier ∈ before, d.HasPattern earlier) ∧ d.LacksPattern subnetId e

theorem findSome?_subnets_eq_some_iff :
    d.subnets.findSome? (fun id => fault? (d.patternOf id)) = some e ↔
      ∃ subnetId, d.FirstLacking subnetId e := by
  simp only [List.findSome?_eq_some_iff, fault?_patternOf_eq_some_iff,
    fault?_patternOf_eq_none_iff, FirstLacking]
  constructor
  · rintro ⟨before, subnetId, after, parts, lacks, earlier⟩
    exact ⟨subnetId, before, after, parts, earlier, lacks⟩
  · rintro ⟨subnetId, before, after, parts, earlier, lacks⟩
    exact ⟨before, subnetId, after, parts, lacks, earlier⟩

/-- Without a source there is no combination. -/
theorem pairs_eq_nil (none : d.sources = []) : d.pairs = [] := by
  simp [pairs, none]

/-- A setting is wanted in vain because of its connection, or else because of its source. -/
theorem fault?_wanted (connection : String) (source : SourceSubnet) :
    fault? (d.wanted connection source) =
      (fault? (d.patternOf connection)).or (fault? (d.patternOf source.subnetId)) :=
  Result.fault?_bind fun _ => Result.fault?_bind_pure

/-- The first fault of the combinations is the one of the first subnet without a pattern. -/
theorem findSome?_fault?_wanted (someConnection : d.connections ≠ [])
    (someSource : d.sources ≠ []) :
    d.pairs.findSome? (fun pair => fault? (d.wanted pair.1 pair.2)) =
      d.subnets.findSome? fun id => fault? (d.patternOf id) := by
  obtain ⟨connection, rest, parts⟩ := List.exists_cons_of_ne_nil someConnection
  simp only [fault?_wanted]
  rw [pairs, findSome?_pairs someSource (fun id => fault? (d.patternOf id))
      (fun source => fault? (d.patternOf source.subnetId)), subnets, parts, findSome?_or_right,
    List.findSome?_append, List.findSome?_append, List.findSome?_map]
  simp only [List.take_one, List.head?_cons, Option.toList_some, List.findSome?_singleton,
    List.drop_one, List.tail_cons, Function.comp_def]

/-! ## What is wrong with the lists themselves -/

/-- A subnet that is complained about stands in the list twice, or was seen before. -/
theorem duplicate_of_firstRepeated {seen ids : List String} {id : String}
    (repeated : firstRepeated seen ids = some id) : id ∈ ids ∧ (id ∈ seen ∨ ids.Duplicate id) := by
  induction ids generalizing seen with
  | nil => cases repeated
  | cons first rest ih =>
    rw [firstRepeated] at repeated
    split at repeated
    next known =>
      cases repeated
      exact ⟨List.mem_cons_self, .inl known⟩
    next =>
      obtain ⟨mem, before⟩ := ih repeated
      refine ⟨List.mem_cons_of_mem first mem, ?_⟩
      rcases before with before | twice
      · rcases List.mem_cons.mp before with rfl | before
        · exact .inr (.cons_mem mem)
        · exact .inl before
      · exact .inr (.cons_duplicate twice)

theorem check_eq_error_iff :
    d.check = .error e ↔
      d.connections = [] ∧ e = .config .noConnectionSubnet ∨
        d.connections ≠ [] ∧ ∃ id, firstRepeated [] (d.sources.map (·.subnetId)) = some id ∧
          e = .config (.repeatedSource id) := by
  rw [check, Ne, ← List.isEmpty_iff]
  split
  next empty => simp [empty, eq_comm]
  next some =>
    cases firstRepeated [] (d.sources.map (·.subnetId)) with
    | none => simp [some]
    | some id => simp [some, eq_comm]

end DesiredSettings

/-! ## Plans -/

section Plans

variable {prior : List RegistrationSetting} {d : DesiredSettings} {e : Error}

/-- A plan fails for what is wrong with the lists, or else for the first combination that is
wanted in vain.  The settings of the repository play no part in it. -/
theorem fault?_plan :
    fault? (plan prior d) =
      (fault? d.check).or (d.pairs.findSome? fun pair => fault? (d.wanted pair.1 pair.2)) :=
  Result.fault?_bind fun _ => Result.fault?_bind_pure.trans Result.fault?_mapM

/-- **There is a plan exactly for sources and connections that fit together.** -/
theorem exists_plan_iff :
    (∃ actions, plan prior d = .ok actions) ↔
      d.connections ≠ [] ∧ (d.sources.map (·.subnetId)).Nodup ∧ d.HasPatterns := by
  rw [← Result.fault?_eq_none_iff, fault?_plan, Option.or_eq_none_iff, Result.fault?_eq_none_iff,
    ← and_assoc]
  have checked : (∃ done, d.check = .ok done) ↔
      d.connections ≠ [] ∧ (d.sources.map (·.subnetId)).Nodup :=
    ⟨fun ⟨_, passes⟩ => DesiredSettings.check_eq_ok_iff.mp passes,
      fun fits => ⟨(), DesiredSettings.check_eq_ok_iff.mpr fits⟩⟩
  rw [checked]
  refine and_congr_right fun ⟨someConnection, _⟩ => ?_
  by_cases someSource : d.sources = []
  · rw [DesiredSettings.pairs_eq_nil someSource]
    exact iff_of_true rfl (.inl someSource)
  · rw [DesiredSettings.findSome?_fault?_wanted someConnection someSource,
      List.findSome?_eq_none_iff, DesiredSettings.HasPatterns, or_iff_right someSource]
    simp only [DesiredSettings.fault?_patternOf_eq_none_iff, DesiredSettings.mem_subnets_iff]

/-- **The error of a plan that there is not**: without a connection, for a source that is
named twice, or for the first subnet without a pattern. -/
theorem plan_eq_error_iff :
    plan prior d = .error e ↔
      d.connections = [] ∧ e = .config .noConnectionSubnet ∨
      (d.connections ≠ [] ∧ ∃ id, firstRepeated [] (d.sources.map (·.subnetId)) = some id ∧
        e = .config (.repeatedSource id)) ∨
      (d.connections ≠ [] ∧ (d.sources.map (·.subnetId)).Nodup ∧ d.sources ≠ [] ∧
        ∃ subnetId, d.FirstLacking subnetId e) := by
  rw [← Result.fault?_eq_some_iff, fault?_plan, Option.or_eq_some_iff, Result.fault?_eq_some_iff,
    DesiredSettings.check_eq_error_iff, Result.fault?_eq_none_iff, or_assoc]
  refine or_congr_right (or_congr_right ?_)
  constructor
  · rintro ⟨⟨_, passes⟩, found⟩
    obtain ⟨someConnection, distinct⟩ := DesiredSettings.check_eq_ok_iff.mp passes
    have someSource : d.sources ≠ [] := by
      intro none
      rw [DesiredSettings.pairs_eq_nil none] at found
      cases found
    rw [DesiredSettings.findSome?_fault?_wanted someConnection someSource] at found
    exact ⟨someConnection, distinct, someSource,
      DesiredSettings.findSome?_subnets_eq_some_iff.mp found⟩
  · rintro ⟨someConnection, distinct, someSource, lacking⟩
    refine ⟨⟨(), DesiredSettings.check_eq_ok_iff.mpr ⟨someConnection, distinct⟩⟩, ?_⟩
    rw [DesiredSettings.findSome?_fault?_wanted someConnection someSource]
    exact DesiredSettings.findSome?_subnets_eq_some_iff.mpr lacking

end Plans

end Provisioning
