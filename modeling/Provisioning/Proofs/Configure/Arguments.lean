import Provisioning.Configure.Arguments
import Provisioning.Proofs.Registration.SourceSubnet
import Provisioning.Proofs.Result

/-!
# Options with their values as the next arguments

When each option is followed by its value as an argument of its own, reading the
arguments amounts to taking the options with their values one after another.  The
reader looks at a value only when the next option begins; so the options it has
taken are always one behind those it has read, until it settles at the end.
-/

namespace Provisioning

set_option autoImplicit false

namespace ArgumentToken

/-- A text that does not begin with a hyphen is a word. -/
theorem ofText_of_head {text : String} {first : Char} {rest : List Char}
    (chars : text.toList = first :: rest) (noHyphen : first ≠ '-') : ofText text = .word text := by
  rw [ofText, chars]
  split
  next same =>
    cases same
    exact absurd rfl noHyphen
  next same =>
    cases same
    exact absurd rfl noHyphen
  next same =>
    cases same
    exact absurd rfl noHyphen
  next same =>
    cases same
    exact absurd rfl noHyphen
  next => rfl

/-- Behind an equals sign the value of an option may be any text. -/
theorem ofText_region (value : String) :
    ofText ("--region=" ++ value) = .option .region (some value) := by
  have chars : ("--region=" ++ value).toList =
      '-' :: '-' :: ("region".toList ++ '=' :: value.toList) := by
    simp
  have name : ("region".toList ++ '=' :: value.toList).takeWhile (· != '=') = "region".toList := by
    simp
  have tail : ("region".toList ++ '=' :: value.toList).dropWhile (· != '=') =
      '=' :: value.toList := by
    simp
  rw [ofText, chars]
  change ofLong ("region".toList ++ '=' :: value.toList) = _
  rw [ofLong, name, after?, tail]
  simp only [String.ofList_toList]
  rfl

end ArgumentToken

namespace ArgumentReader

/-- An option and its value, as two tokens. -/
def pairTokens (given : OptionName × String) : List ArgumentToken :=
  [.option given.1 none, .word given.2]

variable {r : ArgumentReader}

/-- An option settles what was read before it, and then waits for its value. -/
theorem readAll_pair (isOpen : r.isTerminated = false) (given : OptionName × String)
    (rest : List ArgumentToken) :
    r.readAll (pairTokens given ++ rest) =
      r.settle >>= fun g =>
        ({ given := g, pending := some (given.1, some given.2), isTerminated := false } :
          ArgumentReader).readAll rest := by
  obtain ⟨former, pending, isTerminated⟩ := r
  cases isOpen
  have first : read ⟨former, pending, false⟩ (.option given.1 none) =
      settle ⟨former, pending, false⟩ >>= fun g => .ok ⟨g, some (given.1, none), false⟩ := rfl
  rw [readAll, pairTokens, List.cons_append, List.foldlM_cons, first]
  match settle ⟨former, pending, false⟩ with
  | .error fault => rfl
  | .ok g => rfl

/-- Reading options with their values takes them one after another. -/
theorem readAll_pairs_settle (isOpen : r.isTerminated = false)
    (pairs : List (OptionName × String)) :
    (r.readAll (pairs.flatMap pairTokens) >>= settle) =
      r.settle >>= fun g => pairs.foldlM (fun g given => g.take given.1 given.2) g := by
  induction pairs generalizing r with
  | nil =>
    change settle r = _
    match settle r with
    | .error fault => rfl
    | .ok g => rfl
  | cons given rest ih =>
    rw [List.flatMap_cons, readAll_pair isOpen, bind_assoc]
    congr 1
    funext g
    rw [ih rfl, List.foldlM_cons]
    rfl

/-- When nothing is waiting, the options are taken after those read so far. -/
theorem readAll_pairs_settle_of_given (g : GivenArguments) (pairs : List (OptionName × String)) :
    (({ given := g, pending := none, isTerminated := false } : ArgumentReader).readAll
        (pairs.flatMap pairTokens) >>= settle) =
      pairs.foldlM (fun g given => g.take given.1 given.2) g :=
  readAll_pairs_settle rfl pairs

end ArgumentReader

/-! ## Options that may be repeated -/

namespace GivenArguments

variable {g : GivenArguments}

/-- When a reader places each value of a repeated option behind those before it, it
places all of them in order. -/
theorem foldlM_take_map {α : Type} {name : OptionName} {text : α → String}
    {p : List α → GivenArguments} {values : List α}
    (takes : ∀ value ∈ values, ∀ before,
      (p before).take name (text value) = .ok (p (before ++ [value]))) (before : List α) :
    (values.map fun value => (name, text value)).foldlM (fun g given => g.take given.1 given.2)
        (p before) =
      .ok (p (before ++ values)) := by
  induction values generalizing before with
  | nil =>
    rw [List.append_nil]
    rfl
  | cons value rest ih =>
    rw [List.map_cons, List.foldlM_cons, takes value List.mem_cons_self before, Result.ok_bind,
      ih (fun other mem => takes other (List.mem_cons_of_mem _ mem)), List.append_assoc,
      List.singleton_append]

/-- Segment ids are taken as connection subnets. -/
theorem foldlM_take_connectionSubnets {ids : List String}
    (valid : ∀ id ∈ ids, isSubnetId id = true) :
    (ids.map (OptionName.connectionSubnet, ·)).foldlM (fun g given => g.take given.1 given.2) g =
      .ok { g with connectionSubnets := g.connectionSubnets ++ ids } := by
  refine foldlM_take_map (p := fun ids => { g with connectionSubnets := ids })
    (fun id mem before => ?_) g.connectionSubnets
  rw [take, checkSubnetId_eq_ok_iff.mpr (valid id mem)]
  rfl

/-- The texts of source subnets are taken as these source subnets. -/
theorem foldlM_take_sourceSubnets {sources : List SourceSubnet}
    (registrable : ∀ source ∈ sources, source.IsRegistrable) :
    (sources.map (OptionName.sourceSubnet, ·.text)).foldlM
        (fun g given => g.take given.1 given.2) g =
      .ok { g with sourceSubnets := g.sourceSubnets ++ sources } := by
  refine foldlM_take_map (p := fun sources => { g with sourceSubnets := sources })
    (fun source mem before => ?_) g.sourceSubnets
  rw [take, SourceSubnet.read_text (registrable source mem)]
  rfl

end GivenArguments

end Provisioning
