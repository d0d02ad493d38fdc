import Provisioning.Proofs.Script.ShellWords

/-!
# What the beginning of a text leaves open

A text that is put in front of other words may not end as it seems to: a quotation mark
or a backslash in it takes effect on what comes behind, and an operator makes the reader
give up.  So a text reads as one word in front of other words only if it reads as that
word by itself, provided that what comes behind is written between double quotation
marks.
-/

namespace Provisioning.Shell

set_option autoImplicit false

/-! ## Where the reader stands -/

/-- Where the reader stands: the words that are finished, how the next character is quoted,
and the word at hand. -/
structure Standing where
  found : List (List Char)
  quoting : Quoting
  word : Option (List Char)

/-- Whatever comes behind some characters, the reader gives up within them. -/
def GivesUp (quoting : Quoting) (word : Option (List Char)) (cs : List Char) : Prop :=
  ∀ rest, scan quoting word (cs ++ rest) = none

/-- Whatever comes behind some characters, they leave the reader where it stands. -/
def Leaves (quoting : Quoting) (word : Option (List Char)) (cs : List Char) (s : Standing) : Prop :=
  ∀ rest, scan quoting word (cs ++ rest) = (scan s.quoting s.word rest).map (s.found ++ ·)

variable {quoting : Quoting} {word : Option (List Char)} {c : Char} {cs rest : List Char}

/-- A character after which the reader goes on without a finished word. -/
theorem Leaves.of_step {quoting' : Quoting} {word' : Option (List Char)}
    (step : ∀ rest, scan quoting word (c :: rest) = scan quoting' word' rest) :
    Leaves quoting word [c] ⟨[], quoting', word'⟩ := by
  intro rest
  rw [List.singleton_append, step rest]
  simp

theorem givesUp_or_leaves_singleton (quoting : Quoting) (word : Option (List Char)) (c : Char) :
    GivesUp quoting word [c] ∨ ∃ s, Leaves quoting word [c] s := by
  cases quoting with
  | bare =>
    by_cases blank : isBlank c = true
    · exact .inr ⟨⟨word.toList, .bare, none⟩, fun rest => by
        rw [List.singleton_append, scan, if_pos blank]⟩
    by_cases backslash : c = '\\'
    · exact .inr ⟨_, .of_step fun rest => by rw [scan, if_neg blank, if_pos backslash]⟩
    by_cases single : c = '\''
    · exact .inr ⟨_, .of_step fun rest => by
        rw [scan, if_neg blank, if_neg backslash, if_pos single]⟩
    by_cases double : c = '"'
    · exact .inr ⟨_, .of_step fun rest => by
        rw [scan, if_neg blank, if_neg backslash, if_neg single, if_pos double]⟩
    by_cases active : isActive c = true
    · exact .inl fun rest => by
        rw [List.singleton_append, scan, if_neg blank, if_neg backslash, if_neg single,
          if_neg double, if_pos active]
    · exact .inr ⟨_, .of_step fun rest => by
        rw [scan, if_neg blank, if_neg backslash, if_neg single, if_neg double, if_neg active]⟩
  | escaped =>
    by_cases lineBreak : c = '\n'
    · exact .inr ⟨_, .of_step fun rest => by rw [scan, if_pos lineBreak]⟩
    · exact .inr ⟨_, .of_step fun rest => by rw [scan, if_neg lineBreak]⟩
  | single =>
    by_cases single : c = '\''
    · exact .inr ⟨_, .of_step fun rest => by rw [scan, if_pos single]⟩
    · exact .inr ⟨_, .of_step fun rest => by rw [scan, if_neg single]⟩
  | double =>
    by_cases double : c = '"'
    · exact .inr ⟨_, .of_step fun rest => by rw [scan, if_pos double]⟩
    by_cases backslash : c = '\\'
    · exact .inr ⟨_, .of_step fun rest => by rw [scan, if_neg double, if_pos backslash]⟩
    by_cases substitution : c = '$' ∨ c = '`'
    · exact .inl fun rest => by
        rw [List.singleton_append, scan, if_neg double, if_neg backslash, if_pos substitution]
    · exact .inr ⟨_, .of_step fun rest => by
        rw [scan, if_neg double, if_neg backslash, if_neg substitution]⟩
  | doubleEscaped =>
    by_cases lineBreak : c = '\n'
    · exact .inr ⟨_, .of_step fun rest => by rw [scan, if_pos lineBreak]⟩
    by_cases inert : isInert c = true
    · exact .inr ⟨_, .of_step fun rest => by rw [scan, if_neg lineBreak, if_pos inert]⟩
    · exact .inr ⟨_, .of_step fun rest => by rw [scan, if_neg lineBreak, if_neg inert]⟩

/-- The reader gives up within some characters, or they leave it somewhere. -/
theorem givesUp_or_leaves (quoting : Quoting) (word : Option (List Char)) (cs : List Char) :
    GivesUp quoting word cs ∨ ∃ s, Leaves quoting word cs s := by
  induction cs generalizing quoting word with
  | nil => exact .inr ⟨⟨[], quoting, word⟩, fun rest => by simp⟩
  | cons c cs ih =>
    rcases givesUp_or_leaves_singleton quoting word c with stuck | ⟨first, leaves⟩
    · exact .inl fun rest => stuck (cs ++ rest)
    · rcases ih first.quoting first.word with stuck | ⟨second, later⟩
      · refine .inl fun rest => ?_
        exact (leaves (cs ++ rest)).trans (by rw [stuck rest, Option.map_none])
      · refine .inr ⟨⟨first.found ++ second.found, second.quoting, second.word⟩, fun rest => ?_⟩
        refine (leaves (cs ++ rest)).trans ?_
        rw [later rest, Option.map_map]
        simp only [Function.comp_def, List.append_assoc]

/-! ## Quoted parts that are left open -/

/-- Without another mark a part between single quotation marks is not closed. -/
theorem scan_single_eq_none (noMark : '\'' ∉ cs) : scan .single word cs = none := by
  induction cs generalizing word with
  | nil => rfl
  | cons c cs ih =>
    obtain ⟨differ, noMark⟩ := List.ne_and_not_mem_of_not_mem_cons noMark
    rw [scan, if_neg (Ne.symm differ)]
    exact ih noMark

/-- Behind an open part between double quotation marks, marks that come in pairs leave a
part open, and outside of such a part a mark without a partner does. -/
theorem scan_eq_none_of_count (noSingle : '\'' ∉ cs) (noBackslash : '\\' ∉ cs) :
    (cs.count '"' % 2 = 0 → scan .double word cs = none) ∧
      (cs.count '"' % 2 = 1 → scan .bare word cs = none) := by
  induction cs generalizing word with
  | nil => exact ⟨fun _ => rfl, nofun⟩
  | cons c cs ih =>
    obtain ⟨notSingle, restNoSingle⟩ := List.ne_and_not_mem_of_not_mem_cons noSingle
    obtain ⟨notBackslash, restNoBackslash⟩ := List.ne_and_not_mem_of_not_mem_cons noBackslash
    have later := fun word => @ih word restNoSingle restNoBackslash
    by_cases mark : c = '"'
    · -- the mark opens a part or closes one
      subst mark
      rw [List.count_cons_self]
      refine ⟨fun even => ?_, fun odd => ?_⟩
      · rw [scan, if_pos rfl]
        exact (later _).2 (by omega)
      · have opened : scan .bare word ('"' :: cs) = scan .double (some (word.getD [])) cs := by
          rw [scan]
          rfl
        rw [opened]
        exact (later _).1 (by omega)
    · rw [List.count_cons_of_ne mark]
      refine ⟨fun even => ?_, fun odd => ?_⟩
      · rw [scan, if_neg mark, if_neg (Ne.symm notBackslash)]
        split
        next => rfl
        next => exact (later _).1 even
      · rw [scan, if_neg (Ne.symm notBackslash), if_neg (Ne.symm notSingle), if_neg mark]
        split
        next => rw [(later _).2 odd, Option.map_none]
        next =>
          split
          next => rfl
          next => exact (later _).2 odd

/-! ## Words in front of marked words -/

/-- Characters among which double quotation marks come in pairs and nothing else can keep
a part open or make a mark literal. -/
structure IsPaired (cs : List Char) : Prop where
  noSingle : '\'' ∉ cs
  noBackslash : '\\' ∉ cs
  even : cs.count '"' % 2 = 0

namespace IsPaired

variable {more : List Char}

theorem append (paired : IsPaired cs) (pairedMore : IsPaired more) : IsPaired (cs ++ more) where
  noSingle mem := (List.mem_append.mp mem).elim paired.noSingle pairedMore.noSingle
  noBackslash mem := (List.mem_append.mp mem).elim paired.noBackslash pairedMore.noBackslash
  even := by
    have first := paired.even
    have second := pairedMore.even
    rw [List.count_append]
    omega

/-- Characters that stand for themselves have no marks at all. -/
theorem of_ordinary (plain : ∀ c ∈ cs, isOrdinary c = true) : IsPaired cs where
  noSingle mem := absurd (plain _ mem) (by decide)
  noBackslash mem := absurd (plain _ mem) (by decide)
  even := by
    have noMark : '"' ∉ cs := fun mem => absurd (plain _ mem) (by decide)
    rw [List.count_eq_zero_of_not_mem noMark]

theorem blank : IsPaired [' '] := ⟨by decide, by decide, by decide⟩

/-- Characters that stand for themselves, between double quotation marks. -/
theorem of_inMarks {value : String} (plain : ∀ c ∈ value.toList, isOrdinary c = true) :
    IsPaired (Text.inMarks value).toList := by
  have marked : (Text.inMarks value).toList = '"' :: (value.toList ++ ['"']) := by
    simp [Text.inMarks]
  have inside := of_ordinary plain
  rw [marked]
  refine ⟨?_, ?_, ?_⟩
  · simp [inside.noSingle]
  · simp [inside.noBackslash]
  · have even := inside.even
    rw [List.count_cons_self, List.count_append, List.count_singleton_self]
    omega

/-- Texts with paired marks, joined by blanks. -/
theorem joined {texts : List String} (paired : ∀ text ∈ texts, IsPaired text.toList) :
    IsPaired (Text.joined " " texts).toList := by
  induction texts with
  | nil => exact ⟨by decide, by decide, by decide⟩
  | cons text texts ih =>
    have first := paired text List.mem_cons_self
    cases texts with
    | nil => exact first
    | cons next others =>
      have together : (Text.joined " " (text :: next :: others)).toList =
          text.toList ++ ([' '] ++ (Text.joined " " (next :: others)).toList) := by
        simp [Text.joined]
      rw [together]
      have later := ih fun other mem => paired other (List.mem_cons_of_mem _ mem)
      exact first.append (blank.append later)

/-- Behind characters with paired marks, an open part between quotation marks stays open. -/
theorem scan_eq_none (paired : IsPaired cs) (open_ : quoting = .single ∨ quoting = .double) :
    scan quoting word cs = none := by
  rcases open_ with rfl | rfl
  · exact scan_single_eq_none paired.noSingle
  · exact (scan_eq_none_of_count paired.noSingle paired.noBackslash).1 paired.even

end IsPaired

section InFront

variable {option behind : String} {others : List String}

/-- What stands behind a backslash in front of a blank is part of the same word, and this
word is not the one behind the blank. -/
theorem ne_of_scan_escaped {text : String} {found : List (List Char)}
    (plain : ∀ c ∈ option.toList, isOrdinary c = true) (some_char : option.toList ≠ [])
    (read : words? behind = some others) :
    ((scan .escaped word (' ' :: (option.toList ++ ' ' :: behind.toList))).map (found ++ ·)).map
      (·.map String.ofList) ≠ some (text :: option :: others) := by
  obtain ⟨chars, scanned, rfl⟩ := Option.map_eq_some_iff.mp read
  have literal : scan .escaped word (' ' :: (option.toList ++ ' ' :: behind.toList)) =
      some ((word.getD [] ++ [' '] ++ option.toList) :: chars) := by
    rw [scan, if_neg (by decide), scan_ordinary plain some_char, Option.getD_some, scan,
      if_pos (by decide), scanned]
    rfl
  rw [literal]
  intro same
  have parts : (found.map String.ofList ++ [String.ofList (word.getD [] ++ [' '] ++ option.toList)])
      ++ chars.map String.ofList = ([text] ++ [option]) ++ chars.map String.ofList := by
    simpa using same
  have isOption : [String.ofList (word.getD [] ++ [' '] ++ option.toList)] = [option] :=
    List.append_inj_right' (List.append_cancel_right parts) rfl
  have lengths := congrArg String.toList (List.singleton_inj.mp isOption)
  rw [String.toList_ofList] at lengths
  have longer := congrArg List.length lengths
  rw [List.length_append, List.length_append, List.length_singleton] at longer
  omega

/-- **A text in front of an option and marked words reads as a word only if it does so by
itself.** -/
theorem words?_in_front_iff (text : String) (plain : ∀ c ∈ option.toList, isOrdinary c = true)
    (some_char : option.toList ≠ []) (read : words? behind = some others)
    (paired : IsPaired behind.toList) :
    words? (text ++ " " ++ (option ++ " " ++ behind)) = some (text :: option :: others) ↔
      words? text = some [text] := by
  have tail : words? (option ++ " " ++ behind) = some (option :: others) := by
    rw [words?_append_blank (words?_ordinary plain some_char), read]
    rfl
  refine ⟨fun whole => ?_, fun alone => ?_⟩
  · have together : (text ++ " " ++ (option ++ " " ++ behind)).toList =
        text.toList ++ ' ' :: (option.toList ++ ' ' :: behind.toList) := by
      simp
    have pairedTail : IsPaired (option.toList ++ ' ' :: behind.toList) :=
      (IsPaired.of_ordinary plain).append (IsPaired.blank.append paired)
    rcases givesUp_or_leaves .bare none text.toList with stuck | ⟨⟨found, quoting, word⟩, leaves⟩
    · rw [words?, together, stuck] at whole
      cases whole
    have reached : ((scan quoting word (' ' :: (option.toList ++ ' ' :: behind.toList))).map
        (found ++ ·)).map (·.map String.ofList) = some (text :: option :: others) := by
      rwa [words?, together, leaves] at whole
    have closed : ¬ (quoting = .single ∨ quoting = .double) := by
      intro open_
      have nothing : scan quoting word ([' '] ++ (option.toList ++ ' ' :: behind.toList)) = none :=
        (IsPaired.blank.append pairedTail).scan_eq_none open_
      rw [List.singleton_append] at nothing
      rw [nothing] at reached
      cases reached
    cases quoting with
    | bare =>
      have scanned := leaves []
      rw [List.append_nil, scan] at scanned
      have alone : words? text = some ((found ++ word.toList).map String.ofList) := by
        rw [words?, scanned]
        rfl
      rw [words?_append_blank alone, tail] at whole
      have same : (found ++ word.toList).map String.ofList ++ (option :: others) =
          [text] ++ (option :: others) := Option.some.inj whole
      rw [alone, List.append_cancel_right same]
    | escaped => exact absurd reached (ne_of_scan_escaped plain some_char read)
    | single => exact absurd (.inl rfl) closed
    | double => exact absurd (.inr rfl) closed
    | doubleEscaped =>
      rw [scan, if_neg (by decide), if_pos (by decide), pairedTail.scan_eq_none (.inr rfl)]
        at reached
      cases reached
  · rw [words?_append_blank alone, tail]
    rfl

end InFront

end Provisioning.Shell
