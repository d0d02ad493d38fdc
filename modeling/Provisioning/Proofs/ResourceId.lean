import Provisioning.Deployment.Signal
import Provisioning.Proofs.Script.QuotedWord
import Provisioning.ResourceId

/-!
# Which resources share an identifier

An identifier is the letters and digits of a path with eight digits of the path's digest behind
them.  The first part may have any length and may end in hexadecimal digits itself, but the
second part always has eight characters, so an identifier is divided in one way only.  Two paths
share an identifier exactly when they agree in both parts.  All of its characters are letters
and digits, so an identifier needs no quotation marks in a command.
-/

namespace Provisioning

set_option autoImplicit false

/-! ## The digits of a digest -/

theorem Sha256.length_digest (message : List UInt8) : (digest message).length = 32 := rfl

namespace ResourceId

/-- Every byte has two digits. -/
theorem length_flatMap_hexByte (bytes : List UInt8) :
    (bytes.flatMap hexByte).length = 2 * bytes.length := by
  induction bytes with
  | nil => rfl
  | cons b rest ih =>
    rw [List.flatMap_cons, List.length_append, ih, List.length_cons, hexByte]
    change 2 + 2 * rest.length = _
    omega

theorem isAlphanum_hexDigit (n : Nat) : (hexDigit n).isAlphanum = true := by
  have digits : ∀ c ∈ "0123456789ABCDEF".toList, c.isAlphanum = true :=
    List.all_eq_true.mp (by decide)
  rw [hexDigit, List.getD_eq_getElem?_getD]
  cases found : "0123456789ABCDEF".toList[n]? with
  | none => rfl
  | some c => exact digits c (List.mem_of_getElem? found)

variable (id : ResourceId)

/-- The digest has more digits than are taken of it. -/
theorem length_digestDigits : id.digestDigits.length = 8 := by
  rw [digestDigits, List.length_take, length_flatMap_hexByte, Sha256.length_digest]
  rfl

/-! ## Identifiers -/

@[simp] theorem toList_uniqueId : id.uniqueId.toList = id.readable ++ id.digestDigits :=
  String.toList_ofList

/-- An identifier has letters and digits only. -/
theorem isAlphanum_of_mem_uniqueId : ∀ c ∈ id.uniqueId.toList, c.isAlphanum = true := by
  intro c mem
  rw [toList_uniqueId] at mem
  rcases List.mem_append.mp mem with ofPath | ofDigest
  · exact (List.mem_filter.mp ofPath).2
  · obtain ⟨b, -, isDigit⟩ := List.mem_flatMap.mp (List.mem_of_mem_take ofDigest)
    rw [hexByte, List.mem_cons, List.mem_singleton] at isDigit
    rcases isDigit with rfl | rfl
    · exact isAlphanum_hexDigit _
    · exact isAlphanum_hexDigit _

/-- Identifiers agree when both of their parts do, for they are divided eight characters in front
of the end. -/
theorem uniqueId_inj {a b : ResourceId} :
    a.uniqueId = b.uniqueId ↔ a.readable = b.readable ∧ a.digestDigits = b.digestDigits := by
  rw [uniqueId, uniqueId, String.ofList_inj]
  constructor
  · intro same
    exact List.append_inj' same (by rw [length_digestDigits, length_digestDigits])
  · rintro ⟨readable, digits⟩
    rw [readable, digits]

/-- An identifier needs no quotation marks. -/
theorem isPlain_uniqueId : Shell.IsPlain id.uniqueId where
  someChar none := by
    have size := congrArg List.length (congrArg String.toList none)
    rw [toList_uniqueId, List.length_append, length_digestDigits] at size
    cases size
  ordinary c mem := Shell.isOrdinary_of_class (by decide) (isAlphanum_of_mem_uniqueId id c mem)

end ResourceId

/-! ## In a command -/

namespace SignalTarget

/-- The signal command up to its resource. -/
def opening (t : SignalTarget) : String :=
  Text.joined " " ["/opt/aws/bin/cfn-signal", "--stack", t.stack, "--resource", t.resource]

theorem exists_command_eq (t : SignalTarget) (variableName : String) :
    ∃ behind, t.command variableName = t.opening ++ " " ++ behind := by
  have program : "/opt/aws/bin/cfn-signal --stack ".toList =
      "/opt/aws/bin/cfn-signal".toList ++ " ".toList ++ "--stack".toList ++ " ".toList := by
    decide
  have option : " --resource ".toList = " ".toList ++ "--resource".toList ++ " ".toList := by decide
  have region : " --region ".toList = " ".toList ++ "--region ".toList := by decide
  refine ⟨"--region " ++ t.region ++ " -e $" ++ variableName
    ++ " || echo 'Failed to send completion signal'", String.toList_inj.mp ?_⟩
  unfold command
  simp only [opening, Text.joined, String.toList_append, program, option, region,
    List.append_assoc]

/-- What a shell reads of the command up to a plain resource. -/
theorem words?_opening {t : SignalTarget} {found : List String}
    (stack : Shell.words? t.stack = some found) (plain : Shell.IsPlain t.resource) :
    Shell.words? t.opening =
      some (["/opt/aws/bin/cfn-signal", "--stack"] ++ found ++ ["--resource", t.resource]) := by
  have alone {word : String} (isPlain : word ≠ "")
      (ordinary : word.toList.all Shell.isOrdinary = true) : Shell.words? word = some [word] :=
    Shell.IsPlain.words? ⟨isPlain, List.all_eq_true.mp ordinary⟩
  rw [opening, Shell.words?_joined (.cons (alone (by decide) (by decide))
    (.cons (alone (by decide) (by decide)) (.cons stack
      (.cons (alone (by decide) (by decide)) (.cons plain.words? .nil)))))]
  simp

end SignalTarget

/-- **When identifiers collide.**  Two resources share an identifier exactly when the ASCII
letters and digits of their paths are the same and the digests of their paths begin with the same
eight hexadecimal digits.  An identifier has letters and digits only, so it is one word: by
itself, wherever a word can begin in a command, and in the signal command behind its option,
when what stands for the stack reads as words. -/
theorem ResourceId.collision_iff (a b : ResourceId) :
    (a.uniqueId = b.uniqueId ↔
      a.path.toList.filter Char.isAlphanum = b.path.toList.filter Char.isAlphanum ∧
      ((Sha256.digest (Text.bytes a.path)).flatMap hexByte).take 8 =
        ((Sha256.digest (Text.bytes b.path)).flatMap hexByte).take 8) ∧
    (∀ c ∈ a.uniqueId.toList, c.isAlphanum = true) ∧
    Shell.words? a.uniqueId = some [a.uniqueId] ∧
    (∀ rest, Shell.scan .bare none (a.uniqueId.toList ++ ' ' :: rest) =
      (Shell.scan .bare none rest).map (a.uniqueId.toList :: ·)) ∧
    ∀ (t : SignalTarget) (variableName : String) (found : List String),
      t.resource = a.uniqueId → Shell.words? t.stack = some found →
        ∃ behind, t.command variableName = t.opening ++ " " ++ behind ∧
          ∀ rest, Shell.words? (t.opening ++ " " ++ rest) = (Shell.words? rest).map
            (["/opt/aws/bin/cfn-signal", "--stack"] ++ found
              ++ ["--resource", a.uniqueId] ++ ·) := by
  have plain := a.isPlain_uniqueId
  refine ⟨uniqueId_inj, a.isAlphanum_of_mem_uniqueId, plain.words?, fun rest => ?_,
    fun t variableName found isResource stack => ?_⟩
  · have scanned : Shell.scan .bare none a.uniqueId.toList = some [a.uniqueId.toList] := by
      obtain ⟨chars, scanned, isWord⟩ := Option.map_eq_some_iff.mp plain.words?
      obtain ⟨word, rfl, same⟩ := List.map_eq_singleton_iff.mp isWord
      rw [scanned, ← same, String.toList_ofList]
    rw [Shell.scan_append_blank scanned]
    rfl
  · obtain ⟨behind, isCommand⟩ := t.exists_command_eq variableName
    rw [← isResource] at plain
    refine ⟨behind, isCommand, fun rest => ?_⟩
    rw [← isResource]
    exact Shell.words?_append_blank (SignalTarget.words?_opening stack plain)

/-- Where an instance in a farm sends its signal. -/
def SignalTarget.ofFarmInstance : SignalTarget where
  stack := "FarmStack"
  resource := ResourceId.uniqueId ⟨"Farm/Instance"⟩
  region := "us-west-2"

/-- Two paths with the same letters that are divided into components differently have different
digests, and so different identifiers. -/
theorem ResourceId.collision_iff_regrouped :
    "Farm/Instance".toList.filter Char.isAlphanum = "Far/mInstance".toList.filter Char.isAlphanum ∧
    uniqueId ⟨"Farm/Instance"⟩ ≠ uniqueId ⟨"Far/mInstance"⟩ ∧
    'F' ∈ (uniqueId ⟨"Farm/Instance"⟩).toList ∧
    SignalTarget.ofFarmInstance.resource = uniqueId ⟨"Farm/Instance"⟩ ∧
    Shell.words? SignalTarget.ofFarmInstance.stack = some ["FarmStack"] ∧
    ∃ behind, SignalTarget.ofFarmInstance.command "exitCode" =
        SignalTarget.ofFarmInstance.opening ++ " " ++ behind ∧
      Shell.words? (SignalTarget.ofFarmInstance.opening ++ " " ++ "--region us-west-2") =
        some ["/opt/aws/bin/cfn-signal", "--stack", "FarmStack", "--resource",
          uniqueId ⟨"Farm/Instance"⟩, "--region", "us-west-2"] := by
  obtain ⟨collide_iff, _, _, _, inCommand⟩ := collision_iff ⟨"Farm/Instance"⟩ ⟨"Far/mInstance"⟩
  have stack : Shell.words? SignalTarget.ofFarmInstance.stack = some ["FarmStack"] := by decide
  have more : Shell.words? "--region us-west-2" = some ["--region", "us-west-2"] := by decide
  obtain ⟨behind, isCommand, isRead⟩ := inCommand .ofFarmInstance "exitCode" _ rfl stack
  refine ⟨by decide, fun same => ?_, by decide +kernel, rfl, stack, behind, isCommand, ?_⟩
  · have digits := (collide_iff.mp same).2
    revert digits
    decide +kernel
  · rw [isRead, more]
    rfl

end Provisioning
