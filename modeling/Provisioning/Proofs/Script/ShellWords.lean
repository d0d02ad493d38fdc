import Mathlib.Data.List.Forall2
import Provisioning.Script.Shell
import Provisioning.Text.Quoted

/-!
# How a shell reads words

The reader here follows the quoting rules of the shell for the words of one simple
command.  Blanks separate words unless they are quoted.  A backslash makes the next
character literal, or removes a line break.  Everything between single quotation
marks is literal.  Between double quotation marks a dollar sign and a backquote
begin a substitution, and a backslash is special in front of these two, a double
quotation mark, a backslash and a line break only.

The reader does not carry out what it cannot read as plain words: it gives up at an
operator, a substitution, a pattern or a comment that would take effect.  So a text
that is read stands for its words and for nothing else.
-/

namespace Provisioning.Shell

set_option autoImplicit false

/-! ## The reader -/

/-- How the next character is quoted. -/
inductive Quoting where
  | bare
  /-- Behind a backslash outside of quotation marks. -/
  | escaped
  | single
  | double
  /-- Behind a backslash between double quotation marks. -/
  | doubleEscaped
  deriving DecidableEq

/-- A character that separates words. -/
def isBlank (c : Char) : Bool :=
  c == ' ' || c == '\t'

/-- A character that can take effect as an operator, a substitution, a pattern or a
comment when it is not quoted. -/
def isActive (c : Char) : Bool :=
  "|&;<>()$`*?[]#~{}!\n".toList.contains c

/-- A character that stands for itself when it is not quoted. -/
def isOrdinary (c : Char) : Bool :=
  !isBlank c && !isActive c && !"\\'\"".toList.contains c

/-- A character that stands for itself between double quotation marks. -/
def isInert (c : Char) : Bool :=
  !"\"\\$`".toList.contains c

/-- A class that leaves out some characters has none of them. -/
theorem not_mem_of_class {p : Char → Bool} {left : List Char} {c : Char}
    (without : left.all (fun other => !p other) = true) (mem : p c = true) : c ∉ left := by
  intro here
  have absent := List.all_eq_true.mp without c here
  rw [mem] at absent
  cases absent

/-- The characters of a class are inert when the class leaves out the four that are
not. -/
theorem isInert_of_class {p : Char → Bool} {c : Char}
    (without : "\"\\$`".toList.all (fun active => !p active) = true) (mem : p c = true) :
    isInert c = true := by
  rw [isInert, Bool.not_eq_true', List.contains_eq_mem, decide_eq_false_iff_not]
  exact not_mem_of_class without mem

/-- The characters that do not stand for themselves when they are not quoted. -/
def specialChars : String :=
  " \t|&;<>()$`*?[]#~{}!\n\\'\""

theorem isOrdinary_of_not_mem {c : Char} (absent : c ∉ specialChars.toList) :
    isOrdinary c = true := by
  rw [specialChars] at absent
  simp at absent
  simp [isOrdinary, isBlank, isActive, absent]

/-- The characters of a class stand for themselves when the class leaves out those that do
not. -/
theorem isOrdinary_of_class {p : Char → Bool} {c : Char}
    (without : specialChars.toList.all (fun special => !p special) = true) (mem : p c = true) :
    isOrdinary c = true :=
  isOrdinary_of_not_mem (not_mem_of_class without mem)

/-- What stands for itself outside of quotation marks does so inside of them. -/
theorem isInert_of_isOrdinary {c : Char} (ordinary : isOrdinary c = true) : isInert c = true :=
  isInert_of_class (by decide) ordinary

/-- Reads characters into words.  The word at hand is what has been read since the
last blank; there is none in front of a word. -/
def scan : Quoting → (word : Option (List Char)) → List Char → Option (List (List Char))
  | .bare, word, [] => some word.toList
  | _, _, [] => none
  | .bare, word, c :: rest =>
    if isBlank c then (scan .bare none rest).map (word.toList ++ ·)
    else if c = '\\' then scan .escaped word rest
    else if c = '\'' then scan .single (some (word.getD [])) rest
    else if c = '"' then scan .double (some (word.getD [])) rest
    else if isActive c then none
    else scan .bare (some (word.getD [] ++ [c])) rest
  | .escaped, word, c :: rest =>
    if c = '\n' then scan .bare word rest
    else scan .bare (some (word.getD [] ++ [c])) rest
  | .single, word, c :: rest =>
    if c = '\'' then scan .bare word rest
    else scan .single (some (word.getD [] ++ [c])) rest
  | .double, word, c :: rest =>
    if c = '"' then scan .bare word rest
    else if c = '\\' then scan .doubleEscaped word rest
    else if c = '$' ∨ c = '`' then none
    else scan .double (some (word.getD [] ++ [c])) rest
  | .doubleEscaped, word, c :: rest =>
    if c = '\n' then scan .double word rest
    else if isInert c then scan .double (some (word.getD [] ++ ['\\', c])) rest
    else scan .double (some (word.getD [] ++ [c])) rest

/-- The words of a text, if it is nothing but words. -/
def words? (text : String) : Option (List String) :=
  (scan .bare none text.toList).map (·.map String.ofList)

/-! ## Runs of plain characters -/

section Runs

variable {cs rest : List Char} {word : Option (List Char)}

/-- Ordinary characters extend the word at hand. -/
theorem scan_ordinary (plain : ∀ c ∈ cs, isOrdinary c = true) (some_char : cs ≠ []) :
    scan .bare word (cs ++ rest) = scan .bare (some (word.getD [] ++ cs)) rest := by
  induction cs generalizing word with
  | nil => exact absurd rfl some_char
  | cons c cs ih =>
    have ordinary : isOrdinary c = true := plain c List.mem_cons_self
    simp only [isOrdinary, Bool.and_eq_true, Bool.not_eq_true'] at ordinary
    obtain ⟨⟨notBlank, notActive⟩, noMark⟩ := ordinary
    have step : scan .bare word (c :: (cs ++ rest)) =
        scan .bare (some (word.getD [] ++ [c])) (cs ++ rest) := by
      rw [scan]
      simp only [notBlank, notActive]
      simp at noMark
      simp [noMark]
    rw [List.cons_append, step]
    by_cases last : cs = []
    · rw [last, List.nil_append]
    · rw [ih (fun c mem => plain c (List.mem_cons_of_mem _ mem)) last, Option.getD_some,
        List.append_assoc, List.singleton_append]

/-- Inert characters extend the word at hand, up to the mark that ends the quoted
part. -/
theorem scan_inert (plain : ∀ c ∈ cs, isInert c = true) (start : List Char) :
    scan .double (some start) (cs ++ '"' :: rest) = scan .bare (some (start ++ cs)) rest := by
  induction cs generalizing start with
  | nil => rw [List.nil_append, List.append_nil, scan, if_pos rfl]
  | cons c cs ih =>
    have inert : isInert c = true := plain c List.mem_cons_self
    have step : scan .double (some start) (c :: (cs ++ '"' :: rest)) =
        scan .double (some (start ++ [c])) (cs ++ '"' :: rest) := by
      simp [isInert] at inert
      simp [scan, inert]
    rw [List.cons_append, step, ih (fun c mem => plain c (List.mem_cons_of_mem _ mem)),
      List.append_assoc, List.singleton_append]

end Runs

/-! ## Words one after another -/

/-- Words that are read from a text are read from it in front of a blank as well. -/
theorem scan_append_blank {quoting : Quoting} {word : Option (List Char)} {cs rest : List Char}
    {found : List (List Char)} (read : scan quoting word cs = some found) :
    scan quoting word (cs ++ ' ' :: rest) = (scan .bare none rest).map (found ++ ·) := by
  fun_induction scan quoting word cs generalizing found with
  | case1 word =>
    cases read
    rw [List.nil_append, scan, if_pos (by decide)]
  | case2 => cases read
  | case3 word c cs blank ih =>
    obtain ⟨others, tail, rfl⟩ := Option.map_eq_some_iff.mp read
    rw [List.cons_append, scan, if_pos blank, ih tail, Option.map_map]
    simp only [Function.comp_def, List.append_assoc]
  -- every other character is passed over, whatever stands behind the text
  | _ => simp_all [scan]

section Words

variable {first rest name value : String} {found : List String}

theorem words?_append_blank (read : words? first = some found) :
    words? (first ++ " " ++ rest) = (words? rest).map (found ++ ·) := by
  obtain ⟨chars, scanned, rfl⟩ := Option.map_eq_some_iff.mp read
  have together : (first ++ " " ++ rest).toList = first.toList ++ ' ' :: rest.toList := by simp
  rw [words?, together, scan_append_blank scanned, words?, Option.map_map, Option.map_map]
  simp only [Function.comp_def, List.map_append]

/-- Ordinary characters make one word. -/
theorem words?_ordinary (plain : ∀ c ∈ name.toList, isOrdinary c = true)
    (some_char : name.toList ≠ []) : words? name = some [name] := by
  have scanned : scan .bare none (name.toList ++ []) = scan .bare (some ([] ++ name.toList)) [] :=
    scan_ordinary plain some_char
  rw [List.append_nil] at scanned
  rw [words?, scanned, scan]
  simp

/-- Inert characters between double quotation marks make one word. -/
theorem words?_inMarks (plain : ∀ c ∈ value.toList, isInert c = true) :
    words? (Text.inMarks value) = some [value] := by
  have marked : (Text.inMarks value).toList = '"' :: (value.toList ++ ['"']) := by
    simp [Text.inMarks]
  have opened : scan .bare none ('"' :: (value.toList ++ ['"'])) =
      scan .double (some []) (value.toList ++ ['"']) := by
    rw [scan]
    rfl
  rw [words?, marked, opened, scan_inert plain, scan]
  simp

/-- Texts joined by blanks stand for the words of each of them, in order. -/
theorem words?_joined {texts : List String} {found : List (List String)}
    (read : List.Forall₂ (fun text words => words? text = some words) texts found) :
    words? (Text.joined " " texts) = some found.flatten := by
  induction read with
  | nil => rfl
  | @cons text words texts found head tail ih =>
    cases tail with
    | nil => rw [Text.joined, head, List.flatten_singleton]
    | cons next others =>
      rw [Text.joined, words?_append_blank head, ih]
      · rfl
      · simp

end Words

end Provisioning.Shell
