import Provisioning.Proofs.Script.ShellWords

/-!
# A quoted text is one word

A text is quoted by leaving the quoted part at each quotation mark and coming back to it behind
the mark.  The shell joins all these parts, so what it reads is the text itself, as a part of
the word at hand: no character of the text takes effect, and none is lost or added.  Between
blanks the text is a word of its own, even when it is empty, and different texts are quoted
differently.
-/

namespace Provisioning.Shell

set_option autoImplicit false

/-- Behind an opening mark, what was written for some characters is read as these characters,
up to the mark that closes the last part.  The induction is on the characters; each of them
leaves the reader inside of a quoted part again. -/
theorem scan_quoteChars (start cs rest : List Char) :
    scan .single (some start) (cs.flatMap quoteChar ++ '\'' :: rest) =
      scan .bare (some (start ++ cs)) rest := by
  induction cs generalizing start with
  | nil => rw [List.flatMap_nil, List.nil_append, List.append_nil, scan, if_pos rfl]
  | cons c cs ih =>
    have step : scan .single (some start) (quoteChar c ++ (cs.flatMap quoteChar ++ '\'' :: rest)) =
        scan .single (some (start ++ [c])) (cs.flatMap quoteChar ++ '\'' :: rest) := by
      by_cases mark : c = '\''
      · subst mark
        rfl
      · rw [quoteChar, if_neg mark, List.singleton_append, scan, if_neg mark, Option.getD_some]
    rw [List.flatMap_cons, List.append_assoc, step, ih, List.append_assoc, List.singleton_append]

/-- **Wherever it stands between bare characters, a quoted text adds itself to the word at
hand.** -/
theorem scan_quote (word : Option (List Char)) (s : String) (rest : List Char) :
    scan .bare word ((quote s).toList ++ rest) =
      scan .bare (some (word.getD [] ++ s.toList)) rest := by
  have opened : (quote s).toList ++ rest =
      '\'' :: (s.toList.flatMap quoteChar ++ '\'' :: rest) := by
    simp [quote]
  have inside : scan .bare word ('\'' :: (s.toList.flatMap quoteChar ++ '\'' :: rest)) =
      scan .single (some (word.getD [])) (s.toList.flatMap quoteChar ++ '\'' :: rest) := rfl
  rw [opened, inside, scan_quoteChars]

/-- A quoted text is read as one word. -/
theorem words?_quote (s : String) : words? (quote s) = some [s] := by
  have scanned := scan_quote none s []
  rw [List.append_nil] at scanned
  rw [words?, scanned, scan]
  simp

/-- Different texts are quoted differently, for they are read back. -/
theorem quote_injective : Function.Injective quote := by
  intro s t same
  have words : words? (quote s) = words? (quote t) := congrArg words? same
  rw [words?_quote, words?_quote] at words
  exact List.singleton_inj.mp (Option.some.inj words)

/-- A word that needs no quotation marks: it has a character, and all of its characters stand
for themselves. -/
structure IsPlain (word : String) : Prop where
  someChar : word ≠ ""
  ordinary : ∀ c ∈ word.toList, isOrdinary c = true

theorem IsPlain.words? {word : String} (plain : IsPlain word) : words? word = some [word] :=
  words?_ordinary plain.ordinary fun none => plain.someChar (String.toList_eq_nil_iff.mp none)

/-- **A quoted text is one faithful word.**  Between two plain words it is read as the word in
the middle; without blanks around it, its characters join whatever is read before and behind
them; and the text is determined by its quoted form. -/
theorem quote_one_word :
    (∀ s first last : String, IsPlain first → IsPlain last →
      words? (first ++ " " ++ quote s ++ " " ++ last) = some [first, s, last]) ∧
    (∀ (word : Option (List Char)) (s : String) (rest : List Char),
      scan .bare word ((quote s).toList ++ rest) =
        scan .bare (some (word.getD [] ++ s.toList)) rest) ∧
    Function.Injective quote := by
  refine ⟨fun s first last plainFirst plainLast => ?_, scan_quote, quote_injective⟩
  have begun : words? (first ++ " " ++ quote s) = some [first, s] := by
    rw [words?_append_blank plainFirst.words?, words?_quote]
    rfl
  rw [words?_append_blank begun, plainLast.words?]
  rfl

/-- A text of marks, blanks and operators, between the words of a command. -/
theorem quote_one_word_operators :
    IsPlain "echo" ∧ IsPlain "--" ∧
      words? ("echo" ++ " " ++ quote "''; rm -rf \"$HOME\" \\\n#'" ++ " " ++ "--") =
        some ["echo", "''; rm -rf \"$HOME\" \\\n#'", "--"] := by
  have command : IsPlain "echo" := ⟨by decide, List.all_eq_true.mp (by decide)⟩
  have dashes : IsPlain "--" := ⟨by decide, List.all_eq_true.mp (by decide)⟩
  exact ⟨command, dashes, quote_one_word.1 _ _ _ command dashes⟩

end Provisioning.Shell
