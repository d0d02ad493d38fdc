import Provisioning.Proofs.Script.ShellWords
import Provisioning.Proofs.Text.Separator
import Provisioning.Secret

/-!
# The fields of a reference to a secret

A reference is taken apart into its fields.  Each field has its alphabet, and none
of the alphabets holds a character that is special to a shell, so a reference is one
word, whether or not it is written between double quotation marks.

No alphabet holds a colon either, so the colons of a text alone decide what its fields
are, and the scanners, which read from the front and never go back, accept exactly the
texts whose fields are those of a reference.  A region is made of parts with hyphens
between them in the same way; its optional part is told apart by the number of hyphens.
-/

namespace Provisioning

set_option autoImplicit false

/-! ## Scanners -/

/-- A partition: nothing, or `aws` and further letters and hyphens. -/
def IsPartition (field : List Char) : Prop :=
  field = [] ∨ ∃ more, field = "aws".toList ++ more ∧
    ∀ c ∈ more, SecretScanner.isPartitionChar c = true

theorem IsPartition.isPartitionChar {field : List Char} (valid : IsPartition field) :
    ∀ c ∈ field, SecretScanner.isPartitionChar c = true := by
  rcases valid with rfl | ⟨more, rfl, inMore⟩
  · exact fun c mem => absurd mem List.not_mem_nil
  · have inWord : "aws".toList.all SecretScanner.isPartitionChar = true := by decide
    exact List.forall_mem_append.mpr ⟨List.all_eq_true.mp inWord, inMore⟩

namespace SecretScanner

variable {cs rest expected : List Char} {n : Nat}

theorem expect_eq_some_iff : expect expected cs = some rest ↔ cs = expected ++ rest := by
  rw [expect]
  split
  next isPrefix =>
    obtain ⟨tail, rfl⟩ := List.isPrefixOf_iff_prefix.mp isPrefix
    rw [List.drop_left, Option.some.injEq, List.append_cancel_left_eq]
  next noPrefix =>
    refine iff_of_false (by rintro ⟨⟩) ?_
    rintro rfl
    exact noPrefix (List.isPrefixOf_iff_prefix.mpr (List.prefix_append expected rest))

theorem expect_append : expect expected (expected ++ rest) = some rest :=
  expect_eq_some_iff.mpr rfl

theorem digits_eq_some_iff :
    digits n cs = some rest ↔ ∃ number, cs = number ++ rest ∧ number.length = n ∧
      ∀ c ∈ number, Text.isDecimalDigit c = true := by
  rw [digits]
  constructor
  · intro passed
    split at passed
    next numeric =>
      cases passed
      exact ⟨cs.take n, (List.take_append_drop n cs).symm, numeric.1,
        List.all_eq_true.mp numeric.2⟩
    next => cases passed
  · rintro ⟨number, rfl, rfl, numeric⟩
    rw [List.take_left, List.drop_left, if_pos ⟨rfl, List.all_eq_true.mpr numeric⟩]

/-- What is passed over as a partition is one. -/
theorem exists_of_partition (passed : partition cs = some rest) :
    ∃ field, cs = field ++ rest ∧ IsPartition field := by
  rw [partition] at passed
  split at passed
  next tail isNamed =>
    cases passed
    refine ⟨"aws".toList ++ tail.takeWhile isPartitionChar, ?_, .inr ⟨_, rfl, ?_⟩⟩
    · rw [expect_eq_some_iff.mp isNamed, List.append_assoc, List.takeWhile_append_dropWhile]
    · exact List.all_eq_true.mp List.all_takeWhile
  next =>
    cases passed
    exact ⟨[], rfl, .inl rfl⟩

/-- A partition is passed over up to the colon behind it. -/
theorem partition_append_colon {field : List Char} (valid : IsPartition field)
    (rest : List Char) : partition (field ++ ':' :: rest) = some (':' :: rest) := by
  rcases valid with rfl | ⟨more, rfl, inMore⟩
  · have noName : expect "aws".toList (':' :: rest) = none := rfl
    rw [partition, List.nil_append, noName]
  · have named : expect "aws".toList ("aws".toList ++ (more ++ ':' :: rest)) =
        some (more ++ ':' :: rest) := expect_eq_some_iff.mpr rfl
    rw [partition, List.append_assoc, named]
    have stops : isPartitionChar ':' = false := by decide
    simp only [List.dropWhile_append_of_pos inMore, List.dropWhile_cons, stops]
    rfl

end SecretScanner

/-! ## Regions -/

/-- The name of a region: two lowercase letters, possibly the word for an isolated area,
lowercase letters, and a digit, with hyphens between them. -/
def IsRegionName (region : List Char) : Prop :=
  ∃ (country isolated area : List Char) (number : Char),
    region = country ++ (isolated ++ '-' :: (area ++ ['-', number])) ∧
    country.length = 2 ∧ (∀ c ∈ country, SecretScanner.isLower c = true) ∧
    isolated ∈ ["", "-gov", "-iso", "-isob"].map String.toList ∧
    area ≠ [] ∧ (∀ c ∈ area, SecretScanner.isLower c = true) ∧
    Text.isDecimalDigit number = true

theorem isRegion_ends_iff {country area number : List Char} :
    isRegion.ends country area number = true ↔
      country.length = 2 ∧ (∀ c ∈ country, SecretScanner.isLower c = true) ∧
      area ≠ [] ∧ (∀ c ∈ area, SecretScanner.isLower c = true) ∧
      ∃ digit, number = [digit] ∧ Text.isDecimalDigit digit = true := by
  simp only [isRegion.ends, Bool.and_eq_true, beq_iff_eq, List.all_eq_true, Bool.not_eq_true',
    List.isEmpty_eq_false_iff, and_assoc]
  refine and_congr_right fun _ => and_congr_right fun _ => and_congr_right fun _ =>
    and_congr_right fun _ => ?_
  rw [List.length_eq_one_iff]
  constructor
  · rintro ⟨⟨digit, rfl⟩, isDigit⟩
    exact ⟨digit, rfl, isDigit digit List.mem_cons_self⟩
  · rintro ⟨digit, rfl, isDigit⟩
    exact ⟨⟨digit, rfl⟩, List.forall_mem_singleton.mpr isDigit⟩

/-- The hyphens of a region divide it into its parts. -/
theorem isRegion_iff {region : List Char} : isRegion region = true ↔ IsRegionName region := by
  constructor
  · intro valid
    unfold isRegion at valid
    split at valid
    next country area number parts =>
      obtain ⟨two, inCountry, someArea, inArea, digit, rfl, isDigit⟩ :=
        isRegion_ends_iff.mp valid
      refine ⟨country, [], area, digit, ?_, two, inCountry, by decide, someArea, inArea, isDigit⟩
      rw [Text.eq_intercalate_of_splitOn parts]
      simp
    next country isolated area number parts =>
      obtain ⟨ends, isIsolated⟩ := Bool.and_eq_true_iff.mp valid
      obtain ⟨two, inCountry, someArea, inArea, digit, rfl, isDigit⟩ := isRegion_ends_iff.mp ends
      refine ⟨country, '-' :: isolated, area, digit, ?_, two, inCountry, ?_, someArea, inArea,
        isDigit⟩
      · rw [Text.eq_intercalate_of_splitOn parts]
        simp
      · simp only [Bool.or_eq_true, beq_iff_eq] at isIsolated
        rcases isIsolated with (rfl | rfl) | rfl
        · decide
        · decide
        · decide
    next => cases valid
  · rintro ⟨country, isolated, area, digit, rfl, two, inCountry, isIsolated, someArea, inArea,
      isDigit⟩
    have plainCountry : '-' ∉ country := fun mem => absurd (inCountry _ mem) (by decide)
    have plainArea : '-' ∉ area := fun mem => absurd (inArea _ mem) (by decide)
    have plainDigit : '-' ∉ [digit] := fun mem =>
      absurd (List.mem_singleton.mp mem ▸ isDigit) (by decide)
    have ends : isRegion.ends country area [digit] = true :=
      isRegion_ends_iff.mpr ⟨two, inCountry, someArea, inArea, digit, rfl, isDigit⟩
    have tail : (area ++ ['-', digit]).splitOn '-' = [area, [digit]] := by
      rw [List.splitOn_append_cons_self_of_not_mem plainArea, List.splitOn_eq_singleton plainDigit]
    have withoutWord : isRegion (country ++ '-' :: (area ++ ['-', digit])) = true := by
      rw [isRegion, List.splitOn_append_cons_self_of_not_mem plainCountry, tail]
      exact ends
    have withWord (word : List Char) (plain : '-' ∉ word)
        (known : (word == "gov".toList || word == "iso".toList || word == "isob".toList) = true) :
        isRegion (country ++ ('-' :: word ++ '-' :: (area ++ ['-', digit]))) = true := by
      rw [isRegion, List.cons_append, List.splitOn_append_cons_self_of_not_mem plainCountry,
        List.splitOn_append_cons_self_of_not_mem plain, tail]
      simp only [ends, known, Bool.and_self]
    simp only [List.map_cons, List.map_nil, List.mem_cons, List.not_mem_nil, or_false]
      at isIsolated
    rcases isIsolated with rfl | rfl | rfl | rfl
    · exact withoutWord
    · exact withWord "gov".toList (by decide) (by decide)
    · exact withWord "iso".toList (by decide) (by decide)
    · exact withWord "isob".toList (by decide) (by decide)

/-- A character of a region: a lowercase letter, a hyphen or a digit. -/
def isRegionChar (c : Char) : Bool :=
  SecretScanner.isLower c || c == '-' || Text.isDecimalDigit c

/-- A region consists of characters of regions. -/
theorem isRegionChar_of_mem {region : List Char} {c : Char} (valid : IsRegionName region)
    (mem : c ∈ region) : isRegionChar c = true := by
  obtain ⟨country, isolated, area, number, rfl, _, inCountry, isIsolated, _, inArea, isDigit⟩ :=
    valid
  have inIsolated : isolated.all isRegionChar = true := by
    simp only [List.map_cons, List.map_nil, List.mem_cons, List.not_mem_nil, or_false]
      at isIsolated
    rcases isIsolated with rfl | rfl | rfl | rfl
    · decide
    · decide
    · decide
    · decide
  simp only [List.mem_append, List.mem_cons, List.not_mem_nil, or_false] at mem
  rcases mem with here | here | rfl | here | rfl | rfl
  · simp [isRegionChar, inCountry c here]
  · exact List.all_eq_true.mp inIsolated c here
  · decide
  · simp [isRegionChar, inArea c here]
  · decide
  · simp [isRegionChar, isDigit]

/-- The name of a region is one word. -/
theorem words?_of_isRegion {region : String} (named : isRegion region.toList = true) :
    Shell.words? region = some [region] := by
  refine Shell.words?_ordinary (fun c mem => ?_) ?_
  · exact Shell.isOrdinary_of_class (by decide) (isRegionChar_of_mem (isRegion_iff.mp named) mem)
  · obtain ⟨country, isolated, area, number, chars, _⟩ := isRegion_iff.mp named
    simp [chars]

/-! ## References -/

/-- The parts of a reference that are not fixed, each within its alphabet. -/
structure AreSecretFields (partition region account name : List Char) : Prop where
  partition : IsPartition partition
  region : IsRegionName region
  account_length : account.length = 12
  account : ∀ c ∈ account, Text.isDecimalDigit c = true
  name_ne_nil : name ≠ []
  name : ∀ c ∈ name, SecretScanner.isNameChar c = true

/-- A reference is made of its parts, with fixed words between them. -/
theorem secretRegion?_eq_some_iff {text region : List Char} :
    secretRegion? text = some region ↔
      ∃ partition account name : List Char,
        text = "arn:".toList ++ (partition ++ (":secretsmanager:".toList ++ (region ++
          (':' :: (account ++ (":secret:".toList ++ name)))))) ∧
        AreSecretFields partition region account name := by
  constructor
  · intro known
    simp only [secretRegion?, Option.bind_eq_bind, Option.bind_eq_some_iff] at known
    obtain ⟨rest₁, marker, rest₂, partitioned, rest₃, service, rest₄, colon, rest₅, number, name,
      kind, fields⟩ := known
    split at fields
    next valid =>
      cases fields
      obtain ⟨partition, rfl, isPartition⟩ := SecretScanner.exists_of_partition partitioned
      obtain ⟨account, rfl, twelve, inAccount⟩ := SecretScanner.digits_eq_some_iff.mp number
      simp only [Bool.and_eq_true, List.all_eq_true] at valid
      obtain ⟨⟨isRegion, someName⟩, inName⟩ := valid
      refine ⟨partition, account, name, ?_, isPartition, isRegion_iff.mp isRegion, twelve,
        inAccount, ?_, inName⟩
      · rw [SecretScanner.expect_eq_some_iff.mp marker, SecretScanner.expect_eq_some_iff.mp service,
          ← SecretScanner.expect_eq_some_iff.mp kind, ← List.singleton_append,
          ← SecretScanner.expect_eq_some_iff.mp colon, List.takeWhile_append_dropWhile]
      · rintro rfl
        cases someName
    next => cases fields
  · rintro ⟨partition, account, name, rfl, fields⟩
    have noColon : ':' ∉ region := fun mem =>
      absurd (isRegionChar_of_mem fields.region mem) (by decide)
    have back (rest : List Char) : (region ++ ':' :: rest).dropWhile (· != ':') = [':'] ++ rest :=
      Text.dropWhile_ne_of_not_mem noColon
    have partitioned (rest : List Char) :
        SecretScanner.partition (partition ++ (":secretsmanager:".toList ++ rest)) =
          some (":secretsmanager:".toList ++ rest) :=
      SecretScanner.partition_append_colon fields.partition ("secretsmanager:".toList ++ rest)
    have number (rest : List Char) : SecretScanner.digits 12 (account ++ rest) = some rest :=
      SecretScanner.digits_eq_some_iff.mpr ⟨account, rfl, fields.account_length, fields.account⟩
    have valid : (isRegion region && !name.isEmpty && name.all SecretScanner.isNameChar) = true := by
      simpa [isRegion_iff.mpr fields.region, fields.name_ne_nil] using fields.name
    simp only [secretRegion?, Option.bind_eq_bind, Option.bind_some, SecretScanner.expect_append,
      partitioned, Text.takeWhile_ne_of_not_mem noColon, back, number, if_pos valid]

/-- The colons of a text divide it into seven fields exactly when it is made of them. -/
theorem splitOn_eq_fields_iff {text partition region account name : List Char}
    (fields : AreSecretFields partition region account name) :
    text = "arn:".toList ++ (partition ++ (":secretsmanager:".toList ++ (region ++
      (':' :: (account ++ (":secret:".toList ++ name)))))) ↔
    text.splitOn ':' = ["arn".toList, partition, "secretsmanager".toList, region, account,
      "secret".toList, name] := by
  have together : "arn:".toList ++ (partition ++ (":secretsmanager:".toList ++ (region ++
      (':' :: (account ++ (":secret:".toList ++ name)))))) =
      [':'].intercalate ["arn".toList, partition, "secretsmanager".toList, region, account,
        "secret".toList, name] := by
    simp
  have noColon : ∀ field ∈ ["arn".toList, partition, "secretsmanager".toList, region, account,
      "secret".toList, name], ':' ∉ field := by
    simp only [List.forall_mem_cons]
    refine ⟨by decide, fun mem => ?_, by decide, fun mem => ?_, fun mem => ?_, by decide,
      fun mem => ?_, fun _ mem => absurd mem List.not_mem_nil⟩
    · exact absurd (fields.partition.isPartitionChar _ mem) (by decide)
    · exact absurd (isRegionChar_of_mem fields.region mem) (by decide)
    · exact absurd (fields.account _ mem) (by decide)
    · exact absurd (fields.name _ mem) (by decide)
  rw [together]
  constructor
  · rintro rfl
    exact List.splitOn_intercalate ':' noColon (List.cons_ne_nil _ _)
  · exact Text.eq_intercalate_of_splitOn

/-- A character of a reference stands for itself, in quotation marks or not. -/
theorem isOrdinary_of_mem_reference {text region : List Char} {c : Char}
    (known : secretRegion? text = some region) (mem : c ∈ text) : Shell.isOrdinary c = true := by
  obtain ⟨partition, account, name, rfl, fields⟩ := secretRegion?_eq_some_iff.mp known
  simp only [List.mem_append, List.mem_cons] at mem
  rcases mem with fixed | here | fixed | here | rfl | here | fixed | here
  · exact List.all_eq_true.mp (by decide : "arn:".toList.all Shell.isOrdinary = true) c fixed
  · exact Shell.isOrdinary_of_class (by decide) (fields.partition.isPartitionChar c here)
  · have inWord : ":secretsmanager:".toList.all Shell.isOrdinary = true := by decide
    exact List.all_eq_true.mp inWord c fixed
  · exact Shell.isOrdinary_of_class (by decide) (isRegionChar_of_mem fields.region here)
  · decide
  · exact Shell.isOrdinary_of_class (by decide) (fields.account c here)
  · exact List.all_eq_true.mp (by decide : ":secret:".toList.all Shell.isOrdinary = true) c fixed
  · exact Shell.isOrdinary_of_class (by decide) (fields.name c here)

namespace SecretReference

/-- A reference is read back as itself. -/
theorem read_arn (secret : SecretReference) : read secret.arn = .ok secret := by
  have known : ofText? secret.arn = some secret := by
    unfold ofText?
    split
    next region found =>
      rw [secret.isReference] at found
      cases found
      simp
    next missing =>
      rw [secret.isReference] at missing
      cases missing
  rw [read, known]

/-- A text is read exactly when it is a reference with the region that is read. -/
theorem read_eq_ok_iff {text : String} {secret : SecretReference} :
    read text = .ok secret ↔ secret.arn = text := by
  refine ⟨fun accepted => ?_, fun same => same ▸ read_arn secret⟩
  unfold read at accepted
  split at accepted
  next found known =>
    cases accepted
    exact arn_of_ofText? known
  next => cases accepted

/-- **What is read as a reference, and what it is.**  A text is read exactly when its colons
divide it into seven fields, each within its alphabet.  The reference is that text, its region
is the fourth field, and neither holds a character that is special to a shell, so the region as
it stands and the reference in quotation marks are one word each. -/
theorem read_seven_fields :
    (∀ text : String, (∃ secret, read text = .ok secret) ↔
      ∃ partition region account name : List Char,
        text.toList.splitOn ':' = ["arn".toList, partition, "secretsmanager".toList, region,
          account, "secret".toList, name] ∧
        AreSecretFields partition region account name) ∧
    ∀ (text : String) (secret : SecretReference), read text = .ok secret →
      secret.arn = text ∧
      (text.toList.splitOn ':')[3]? = some secret.region.toList ∧
      (∀ c ∈ " \t\n'\"$`\\;&|<>".toList, c ∉ secret.arn.toList ∧ c ∉ secret.region.toList) ∧
      Shell.words? secret.region = some [secret.region] ∧
      Shell.words? (Text.inMarks secret.arn) = some [secret.arn] := by
  refine ⟨fun text => ⟨?_, ?_⟩, fun text secret accepted => ?_⟩
  · rintro ⟨secret, accepted⟩
    obtain rfl := read_eq_ok_iff.mp accepted
    obtain ⟨partition, account, name, made, fields⟩ :=
      secretRegion?_eq_some_iff.mp secret.isReference
    exact ⟨partition, secret.region.toList, account, name,
      (splitOn_eq_fields_iff fields).mp made, fields⟩
  · rintro ⟨partition, region, account, name, split, fields⟩
    have known : secretRegion? text.toList = some region :=
      secretRegion?_eq_some_iff.mpr
        ⟨partition, account, name, (splitOn_eq_fields_iff fields).mpr split, fields⟩
    exact ⟨⟨text, String.ofList region, by simpa using known⟩, read_eq_ok_iff.mpr rfl⟩
  · obtain rfl := read_eq_ok_iff.mp accepted
    obtain ⟨partition, account, name, made, fields⟩ :=
      secretRegion?_eq_some_iff.mp secret.isReference
    have ordinaryArn : ∀ c ∈ secret.arn.toList, Shell.isOrdinary c = true :=
      fun c mem => isOrdinary_of_mem_reference secret.isReference mem
    have ordinaryRegion : ∀ c ∈ secret.region.toList, Shell.isOrdinary c = true :=
      fun c mem => Shell.isOrdinary_of_class (by decide) (isRegionChar_of_mem fields.region mem)
    have special {c : Char} (mem : c ∈ " \t\n'\"$`\\;&|<>".toList) : Shell.isOrdinary c ≠ true :=
      fun ordinary => Shell.not_mem_of_class (by decide) ordinary mem
    refine ⟨rfl, ?_, fun c mem => ⟨?_, ?_⟩, words?_of_isRegion (isRegion_iff.mpr fields.region), ?_⟩
    · rw [(splitOn_eq_fields_iff fields).mp made]
      rfl
    · exact mt (ordinaryArn c) (special mem)
    · exact mt (ordinaryRegion c) (special mem)
    · exact Shell.words?_inMarks fun c mem => Shell.isInert_of_isOrdinary (ordinaryArn c mem)

/-- A reference without a partition, in a region whose area is the word for an isolated one. -/
def usGovSecret : SecretReference where
  arn := "arn::secretsmanager:us-gov-1:123456789012:secret:farm/admin-AbCdEf"
  region := "us-gov-1"
  isReference := by decide

/-- The area is not mistaken for the optional part of a region. -/
theorem read_seven_fields_usGov :
    read "arn::secretsmanager:us-gov-1:123456789012:secret:farm/admin-AbCdEf" = .ok usGovSecret ∧
      usGovSecret.arn = "arn::secretsmanager:us-gov-1:123456789012:secret:farm/admin-AbCdEf" ∧
      Shell.words? "us-gov-1" = some ["us-gov-1"] := by
  have accepted := read_arn usGovSecret
  obtain ⟨same, _, _, word, _⟩ := read_seven_fields.2 _ _ accepted
  exact ⟨accepted, same, word⟩

end SecretReference

end Provisioning
