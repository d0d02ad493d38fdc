import Mathlib.Data.List.DropRight
import Provisioning.Proofs.Datum.Printer
import Provisioning.Proofs.Datum.Scalars

/-!
# The pretty form is read back

The lines of a tree stand at the indentation of the place where the tree is written: they make
one text, with the indentation behind each line break.  Reading skips it, so a tree is read back
wherever it stands, and what follows it is left.  This is so for all trees without scalars that
keep their text whose integers fit 64 bits.
-/

namespace Provisioning.Datum

set_option autoImplicit false

variable {indent rest : List Char} {line : String} {block more : List String}

/-! ## Lines at an indentation -/

/-- Lines as one text; every line but the first stands behind a line break and the indentation. -/
def spread (indent : List Char) : List String → List Char
  | [] => []
  | line :: more => line.toList ++ more.flatMap fun other => '\n' :: (indent ++ other.toList)

theorem spread_singleton (indent : List Char) (line : String) :
    spread indent [line] = line.toList :=
  List.append_nil _

theorem spread_cons (indent : List Char) (line : String) (someLine : more ≠ []) :
    spread indent (line :: more) = line.toList ++ '\n' :: (indent ++ spread indent more) := by
  obtain ⟨next, others, rfl⟩ := List.exists_cons_of_ne_nil someLine
  simp [spread]

theorem spread_append (indent : List Char) (someBlock : block ≠ []) (someLine : more ≠ []) :
    spread indent (block ++ more) =
      spread indent block ++ '\n' :: (indent ++ spread indent more) := by
  obtain ⟨line, others, rfl⟩ := List.exists_cons_of_ne_nil someBlock
  obtain ⟨next, later, rfl⟩ := List.exists_cons_of_ne_nil someLine
  simp [spread]

/-- Without an indentation, lines are joined by line breaks. -/
theorem toList_joined_eq_spread (block : List String) :
    (Text.joined "\n" block).toList = spread [] block := by
  induction block with
  | nil => rfl
  | cons line more ih =>
    cases more with
    | nil => exact (spread_singleton [] line).symm
    | cons next others =>
      have someLine := List.cons_ne_nil next others
      rw [Text.toList_joined_cons (c := '\n') rfl line someLine, ih, spread_cons [] line someLine,
        List.nil_append]

theorem withComma_ne_nil (someLine : block ≠ []) : withComma block ≠ [] := by
  obtain ⟨line, more, rfl⟩ := List.exists_cons_of_ne_nil someLine
  cases more <;> simp [withComma]

theorem spread_withComma (indent : List Char) (someLine : block ≠ []) :
    spread indent (withComma block) = spread indent block ++ [','] := by
  induction block using withComma.induct with
  | case1 => exact absurd rfl someLine
  | case2 last => simp [withComma, spread]
  | case3 line more others ih =>
    have someMore : more ≠ [] := others
    rw [withComma, spread_cons _ _ (withComma_ne_nil someMore), ih someMore,
      spread_cons _ _ someMore]
    · simp
    · exact others

theorem spread_labelled (indent : List Char) (name : String) (someLine : block ≠ []) :
    spread indent (labelled name block) =
      (stringText name).toList ++ ':' :: ' ' :: spread indent block := by
  obtain ⟨line, more, rfl⟩ := List.exists_cons_of_ne_nil someLine
  simp [labelled, spread]

theorem spread_indented (indent : List Char) (someLine : block ≠ []) :
    spread indent (block.map ("  " ++ ·)) = ' ' :: ' ' :: spread (indent ++ [' ', ' ']) block := by
  obtain ⟨line, more, rfl⟩ := List.exists_cons_of_ne_nil someLine
  simp [spread, List.flatMap_map]

/-- Between brackets the indentation is deeper. -/
theorem spread_bracketed (indent : List Char) {opening closing : String} (first last : Char)
    (isFirst : opening.toList = [first]) (isLast : closing.toList = [last])
    (someLine : block ≠ []) :
    spread indent (bracketed opening closing block) =
      first :: (('\n' :: (indent ++ [' ', ' '])) ++ (spread (indent ++ [' ', ' ']) block ++
        '\n' :: (indent ++ [last]))) := by
  have someInner : block.map ("  " ++ ·) ≠ [] := mt List.map_eq_nil_iff.mp someLine
  rw [bracketed, spread_append _ (List.cons_ne_nil _ _) (List.cons_ne_nil _ _),
    spread_cons _ _ someInner, spread_indented _ someLine, spread_singleton, isFirst, isLast]
  simp

theorem commaSeparated_ne_nil {blocks : List (List String)} (someBlock : blocks ≠ [])
    (someLine : ∀ block ∈ blocks, block ≠ []) : commaSeparated blocks ≠ [] := by
  obtain ⟨block, more, rfl⟩ := List.exists_cons_of_ne_nil someBlock
  have first := someLine block List.mem_cons_self
  cases more with
  | nil => exact first
  | cons next others => simp [commaSeparated, withComma_ne_nil first]

theorem spread_commaSeparated (indent : List Char) {blocks : List (List String)}
    (someBlock : blocks ≠ []) (someLine : ∀ other ∈ block :: blocks, other ≠ []) :
    spread indent (commaSeparated (block :: blocks)) =
      spread indent block ++
        ',' :: (('\n' :: indent) ++ spread indent (commaSeparated blocks)) := by
  obtain ⟨first, others⟩ := List.forall_mem_cons.mp someLine
  rw [commaSeparated, spread_append _ (withComma_ne_nil first)
    (commaSeparated_ne_nil someBlock others), spread_withComma _ first]
  · simp
  · exact someBlock

/-! ## Reading behind blanks -/

namespace Json

variable {blank cs cs' : List Char} {c : Char} {fuel : Nat}

/-- There are only blanks. -/
def IsBlank (blank : List Char) : Prop :=
  ∀ c ∈ blank, isBlank c = true

/-- A line break and an indentation are blanks. -/
theorem IsBlank.behindLineBreak (blanks : IsBlank blank) : IsBlank ('\n' :: blank) :=
  List.forall_mem_cons.mpr ⟨rfl, blanks⟩

theorem skip_append (blanks : IsBlank blank) (cs : List Char) : skip (blank ++ cs) = skip cs :=
  List.dropWhile_append_of_pos blanks

theorem skip_cons (noBlank : isBlank c = false) : skip (c :: cs) = c :: cs :=
  List.dropWhile_cons_of_neg (by simp [noBlank])

theorem skip_comma (cs : List Char) : skip (',' :: cs) = ',' :: cs :=
  skip_cons rfl

theorem skip_colon (cs : List Char) : skip (':' :: cs) = ':' :: cs :=
  skip_cons rfl

theorem skip_skip (cs : List Char) : skip (skip cs) = skip cs :=
  List.dropWhile_idempotent _ _

/-- What is read as a value does not depend on the blanks in front. -/
theorem value?_congr (same : skip cs = skip cs') (fuel : Nat) :
    value? fuel cs = value? fuel cs' := by
  cases fuel with
  | zero => rfl
  | succ fuel => rw [value?, value?, same]

theorem items?_congr (same : skip cs = skip cs') (fuel : Nat) :
    items? fuel cs = items? fuel cs' := by
  cases fuel with
  | zero => rfl
  | succ fuel => rw [items?, items?, value?_congr same]

theorem fields?_congr (same : skip cs = skip cs') (fuel : Nat) :
    fields? fuel cs = fields? fuel cs' := by
  cases fuel with
  | zero => rfl
  | succ fuel => rw [fields?, fields?, same]

/-! ## Reading values -/

/-- Nothing but a number begins with a sign or a digit. -/
theorem value?_number (first : c = '-' ∨ c.isDigit = true) (fuel : Nat) (cs : List Char) :
    value? (fuel + 1) (c :: cs) = number? (c :: cs) := by
  have differs (other : Char) (noNumber : ¬ (other = '-' ∨ other.isDigit = true)) :
      c ≠ other := by
    rintro rfl
    exact noNumber first
  have noBlank : isBlank c = false := by
    simp [isBlank, differs]
  rw [value?, skip_cons noBlank]
  split
  case h_7 => rfl
  all_goals
    next same => exact absurd (List.cons.inj same).1 (differs _ (by decide))

theorem value?_string (s : String) (rest : List Char) (fuel : Nat) :
    value? (fuel + 1) ((stringText s).toList ++ rest) = some (.string s, rest) := by
  rw [toList_stringText_append, value?, skip_cons rfl]
  simp [stringBody_escaped]

/-- No value begins with a closing bracket. -/
theorem value?_closing (closing : skip cs = ']' :: rest) (fuel : Nat) : value? fuel cs = none := by
  cases fuel with
  | zero => rfl
  | succ fuel =>
    rw [value?, closing]
    rfl

/-- An array is what its items are read as. -/
theorem value?_array {items : List Datum} (read : items? fuel cs = some (items, rest))
    (blanks : IsBlank blank) :
    value? (fuel + 1) ('[' :: (blank ++ cs)) = some (.array items, rest) := by
  rw [value?, skip_cons rfl]
  simp only [skip_append blanks]
  split
  next closing =>
    cases fuel with
    | zero => cases read
    | succ fuel =>
      rw [items?, value?_closing closing] at read
      cases read
  next => rw [items?_congr (skip_skip cs), read, Option.map_some]

/-- A record is what its fields are read as. -/
theorem value?_record {fields : List (String × Datum)}
    (read : fields? fuel cs = some (some fields, rest)) (blanks : IsBlank blank) :
    value? (fuel + 1) ('\x7b' :: (blank ++ cs)) = some (.record fields, rest) := by
  rw [value?, skip_cons rfl]
  simp only [skip_append blanks]
  split
  next closing =>
    cases fuel with
    | zero => cases read
    | succ fuel =>
      rw [fields?, closing] at read
      cases read
  next =>
    rw [fields?_congr (skip_skip cs), read, Option.map_some]
    rfl

/-- At every indentation the lines of the tree are read as the tree, and what may follow a value
is left.  Two calls for each character are enough. -/
def ReadsBack (d : Datum) : Prop :=
  ∀ (indent rest : List Char) (fuel : Nat), IsBlank indent → EndsValue rest →
    2 * (spread indent d.lines).length ≤ fuel →
      value? (fuel + 1) (spread indent d.lines ++ rest) = some (d, rest)

theorem itemLines_ne_nil (items : List Datum) : ∀ block ∈ itemLines items, block ≠ [] := by
  rw [itemLines_eq, List.forall_mem_map]
  exact fun d _ => d.lines_ne_nil

theorem fieldLines_ne_nil (fields : List (String × Datum)) :
    ∀ block ∈ fieldLines fields, block ≠ [] := by
  rw [fieldLines_eq, List.forall_mem_map]
  intro field _
  obtain ⟨line, more, parts⟩ := List.exists_cons_of_ne_nil field.2.lines_ne_nil
  simp [parts, labelled]

/-- The first field, when its value is read. -/
theorem fields?_label {cs behind : List Char} {d : Datum} (name : String)
    (read : value? fuel cs = some (d, behind)) :
    fields? (fuel + 1) ((stringText name).toList ++ ':' :: ' ' :: cs) =
      match skip behind with
      | '\x7d' :: rest => some (some [(name, d)], rest)
      | ',' :: rest =>
        (fields? fuel rest).bind fun p => some (p.1.map ((name, d) :: ·), p.2)
      | _ => none := by
  have oneBlank : IsBlank [' '] := List.forall_mem_singleton.mpr rfl
  have behindLabel : value? fuel (' ' :: cs) = some (d, behind) := by
    rw [← read]
    exact value?_congr (skip_append oneBlank cs) fuel
  rw [toList_stringText_append, fields?, skip_cons rfl]
  simp only [stringBody_escaped, Option.bind_eq_bind, Option.bind_some, skip_colon, behindLabel,
    Option.map_some, String.ofList_toList]
  rfl

section Members

variable {indent behind : List Char}

/-- The induction is on the items; behind each but the last there are a comma and blanks. -/
theorem items?_spread {items : List Datum} (someItem : items ≠ [])
    (each : ∀ d ∈ items, ReadsBack d) (blanks : IsBlank indent) (ends : EndsValue behind)
    (closing : skip behind = ']' :: rest) (fuel : Nat)
    (enough : 2 * (spread indent (commaSeparated (itemLines items))).length + 1 < fuel) :
    items? fuel (spread indent (commaSeparated (itemLines items)) ++ behind) =
      some (items, rest) := by
  induction items generalizing fuel with
  | nil => exact absurd rfl someItem
  | cons d others ih =>
    obtain ⟨first, later⟩ := List.forall_mem_cons.mp each
    obtain ⟨fuel, rfl⟩ : ∃ k, fuel = k + 2 := ⟨fuel - 2, by omega⟩
    cases others with
    | nil =>
      rw [itemLines, itemLines, commaSeparated] at enough ⊢
      rw [items?, first indent behind fuel blanks ends (by omega)]
      simp [closing]
    | cons next more =>
      have someBlock : itemLines (next :: more) ≠ [] := by simp [itemLines]
      rw [itemLines, spread_commaSeparated _ someBlock (itemLines_ne_nil (d :: next :: more))]
        at enough ⊢
      simp only [List.length_append, List.length_cons] at enough
      have others := ih (List.cons_ne_nil next more) later (fuel + 1) (by omega)
      rw [← items?_congr (skip_append blanks.behindLineBreak _)] at others
      rw [List.append_assoc, List.cons_append, List.append_assoc, items?,
        first indent _ fuel blanks (.comma _) (by omega)]
      simp only [Option.bind_eq_bind, Option.bind_some, skip_comma, others]
      rfl

/-- The induction is on the fields, as it is on the items of an array. -/
theorem fields?_spread {fields : List (String × Datum)} (someField : fields ≠ [])
    (each : ∀ field ∈ fields, ReadsBack field.2) (blanks : IsBlank indent)
    (ends : EndsValue behind) (closing : skip behind = '\x7d' :: rest) (fuel : Nat)
    (enough : 2 * (spread indent (commaSeparated (fieldLines fields))).length + 1 < fuel) :
    fields? fuel (spread indent (commaSeparated (fieldLines fields)) ++ behind) =
      some (some fields, rest) := by
  induction fields generalizing fuel with
  | nil => exact absurd rfl someField
  | cons field others ih =>
    obtain ⟨first, later⟩ := List.forall_mem_cons.mp each
    obtain ⟨fuel, rfl⟩ : ∃ k, fuel = k + 2 := ⟨fuel - 2, by omega⟩
    have someLine := field.2.lines_ne_nil
    cases others with
    | nil =>
      rw [fieldLines, fieldLines, commaSeparated, spread_labelled _ _ someLine] at enough ⊢
      simp only [List.length_append, List.length_cons] at enough
      rw [List.append_assoc, List.cons_append, List.cons_append,
        fields?_label field.1 (first indent behind fuel blanks ends (by omega)), closing]
      rfl
    | cons next more =>
      have someBlock : fieldLines (next :: more) ≠ [] := by simp [fieldLines]
      rw [fieldLines, spread_commaSeparated _ someBlock (fieldLines_ne_nil (field :: next :: more)),
        spread_labelled _ _ someLine] at enough ⊢
      simp only [List.length_append, List.length_cons] at enough
      have others := ih (List.cons_ne_nil next more) later (fuel + 1) (by omega)
      rw [← fields?_congr (skip_append blanks.behindLineBreak _)] at others
      rw [List.append_assoc, List.append_assoc, List.cons_append, List.cons_append,
        List.cons_append, List.append_assoc,
        fields?_label field.1 (first indent _ fuel blanks (.comma _) (by omega)), skip_comma]
      simp only [others]
      rfl

end Members

/-- Behind the last member the reader finds the closing bracket. -/
theorem skip_closing (blanks : IsBlank indent) (noBlank : isBlank c = false) (rest : List Char) :
    skip ('\n' :: (indent ++ c :: rest)) = c :: rest :=
  (skip_append blanks.behindLineBreak (c :: rest)).trans (skip_cons noBlank)

/-- Inside of brackets the indentation is deeper. -/
theorem IsBlank.deeper (blanks : IsBlank indent) : IsBlank (indent ++ [' ', ' ']) := by
  have twoBlanks : IsBlank [' ', ' '] :=
    List.forall_mem_cons.mpr ⟨rfl, List.forall_mem_singleton.mpr rfl⟩
  exact List.forall_mem_append.mpr ⟨blanks, twoBlanks⟩

/-- **A tree is read back at every indentation.** -/
theorem readsBack {d : Datum} (written : d.IsWritten Fits) : ReadsBack d := by
  induction written with
  | null => exact fun _ _ _ _ _ _ => rfl
  | bool value =>
    intro indent rest fuel _ _ _
    cases value <;> rfl
  | @integer value fits =>
    intro indent rest fuel _ ends _
    have read := number?_signedDecimal fits ends
    obtain ⟨first, more, text, numeric⟩ := exists_cons_signedDecimal value
    rw [text, List.cons_append] at read
    rw [lines, spread_singleton, text, List.cons_append, value?_number numeric, read]
  | string value =>
    intro indent rest fuel _ _ _
    rw [lines, spread_singleton, value?_string]
  | @array items _ each =>
    intro indent rest fuel blanks _ enough
    cases items with
    | nil => rfl
    | cons d others =>
      have someItem := List.cons_ne_nil d others
      have someLine : commaSeparated (itemLines (d :: others)) ≠ [] :=
        commaSeparated_ne_nil (by simp [itemLines]) (itemLines_ne_nil _)
      rw [lines, spread_bracketed _ '[' ']' rfl rfl someLine] at enough ⊢
      simp only [List.length_cons, List.length_append] at enough
      have read := items?_spread someItem each blanks.deeper (.lineBreak _)
        (skip_closing blanks rfl rest) fuel (by omega)
      have whole := value?_array read blanks.deeper.behindLineBreak
      simpa using whole
  | @record fields _ each =>
    intro indent rest fuel blanks _ enough
    cases fields with
    | nil => rfl
    | cons field others =>
      have someField := List.cons_ne_nil field others
      have someLine : commaSeparated (fieldLines (field :: others)) ≠ [] :=
        commaSeparated_ne_nil (by simp [fieldLines]) (fieldLines_ne_nil _)
      rw [lines, spread_bracketed _ '\x7b' '\x7d' rfl rfl someLine] at enough ⊢
      simp only [List.length_cons, List.length_append] at enough
      have read := fields?_spread someField each blanks.deeper (.lineBreak _)
        (skip_closing blanks rfl rest) fuel (by omega)
      have whole := value?_record read blanks.deeper.behindLineBreak
      simpa using whole

end Json

/-- **The pretty form is read back.** -/
theorem ofJson?_pretty {d : Datum} (written : d.IsWritten Json.Fits) :
    ofJson? d.pretty = some d := by
  have read := Json.readsBack written [] [] (2 * (spread [] d.lines).length + 1)
    (fun _ none => absurd none List.not_mem_nil) .nil (by omega)
  rw [List.append_nil] at read
  rw [ofJson?, pretty, toList_joined_eq_spread]
  simp [read, Json.skip]

end Provisioning.Datum
