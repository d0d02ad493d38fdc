import Provisioning.Datum.Printer
import Provisioning.Proofs.Text.Decimal
import Provisioning.Proofs.Text.Separator

/-!
# The lines of pretty JSON

Every line of the pretty form is closed: there is no line break in it, and every string that
begins in it ends in it.  Line breaks in the text of a string are written as escapes.  So the
line breaks in the pretty form are the ones between its lines, and none of them is inside of a
string.  This is so for all trees but those with scalars that keep the text they were written
as, which may be any text.
-/

namespace Provisioning.Datum

set_option autoImplicit false

/-! ## Inside and outside of strings -/

/-- Where a reader of JSON text stands. -/
inductive Place where
  | outside
  /-- In a string. -/
  | inside
  /-- In a string, behind a backslash. -/
  | escaped
  deriving DecidableEq

namespace Place

/-- Where the next character leads. -/
def next : Place → Char → Place
  | outside, c => if c = '"' then inside else outside
  | inside, c => if c = '"' then outside else if c = '\\' then escaped else inside
  | escaped, _ => inside

/-- Where characters lead, one after another. -/
def after (place : Place) (cs : List Char) : Place :=
  cs.foldl next place

variable {place : Place} {c : Char} {cs more : List Char}

@[simp] theorem after_nil : place.after [] = place := rfl

@[simp] theorem after_cons : place.after (c :: cs) = (place.next c).after cs := rfl

@[simp] theorem after_append : place.after (cs ++ more) = (place.after cs).after more :=
  List.foldl_append

/-- Without a quotation mark one stays outside. -/
theorem outside_after (noMark : '"' ∉ cs) : outside.after cs = outside := by
  induction cs with
  | nil => rfl
  | cons c cs ih =>
    obtain ⟨differ, noMark⟩ := List.ne_and_not_mem_of_not_mem_cons noMark
    rw [after_cons, next, if_neg (Ne.symm differ), ih noMark]

end Place

/-! ## Closed pieces of a line -/

/-- There is no line break in the piece, and every string that begins in it ends in it. -/
structure IsClosed (piece : String) : Prop where
  noBreak : '\n' ∉ piece.toList
  outside : Place.outside.after piece.toList = .outside

namespace IsClosed

variable {first second : String}

theorem append (closedFirst : IsClosed first) (closedSecond : IsClosed second) :
    IsClosed (first ++ second) where
  noBreak := by
    rw [String.toList_append, List.mem_append, not_or]
    exact ⟨closedFirst.noBreak, closedSecond.noBreak⟩
  outside := by
    rw [String.toList_append, Place.after_append, closedFirst.outside, closedSecond.outside]

/-- A piece without quotation marks and line breaks. -/
theorem of_plain (noMark : '"' ∉ first.toList) (noBreak : '\n' ∉ first.toList) : IsClosed first :=
  ⟨noBreak, Place.outside_after noMark⟩

theorem decimal (n : Nat) : IsClosed (Text.decimal n) :=
  of_plain (Text.not_mem_decimal (by decide) n) (Text.not_mem_decimal (by decide) n)

theorem signedDecimal (n : Int) : IsClosed (Text.signedDecimal n) := by
  cases n with
  | ofNat n => exact decimal n
  | negSucc n => exact append (of_plain (by decide) (by decide)) (decimal (n + 1))

end IsClosed

/-! ## Strings -/

/-- What is written for a character of a string has no line break and stays in the string. -/
theorem escapeChar_closed (c : Char) :
    '\n' ∉ escapeChar c ∧ Place.inside.after (escapeChar c) = .inside := by
  unfold escapeChar
  split
  case h_8 notMark notBackslash _ _ notBreak _ _ =>
    split
    next control =>
      -- only the 32 control characters are written with their number
      have all : ∀ n < 32, '\n' ∉ controlEscape (Char.ofNat n) ∧
          Place.inside.after (controlEscape (Char.ofNat n)) = .inside := by decide
      have this := all c.toNat control
      rwa [Char.ofNat_toNat] at this
    next =>
      refine ⟨?_, ?_⟩
      · simpa using Ne.symm notBreak
      · rw [Place.after_cons, Place.next, if_neg notMark, if_neg notBackslash, Place.after_nil]
  all_goals decide

/-- A string is closed, whatever it holds. -/
theorem IsClosed.stringText (s : String) : IsClosed (stringText s) := by
  have inside (cs : List Char) : '\n' ∉ cs.flatMap escapeChar ∧
      Place.inside.after (cs.flatMap escapeChar) = .inside := by
    induction cs with
    | nil => exact ⟨List.not_mem_nil, rfl⟩
    | cons c cs ih =>
      obtain ⟨noBreak, stays⟩ := escapeChar_closed c
      rw [List.flatMap_cons, Place.after_append, stays, List.mem_append, not_or]
      exact ⟨⟨noBreak, ih.1⟩, ih.2⟩
  obtain ⟨noBreak, stays⟩ := inside s.toList
  refine ⟨?_, ?_⟩
  · simp [Datum.stringText, noBreak]
  · simp [Datum.stringText, Place.next, stays]

/-! ## Lines -/

/-- The members of an array, each by itself. -/
theorem itemLines_eq (items : List Datum) : itemLines items = items.map lines := by
  induction items with
  | nil => rfl
  | cons d rest ih => rw [itemLines, ih, List.map_cons]

/-- The members of a record, each by itself. -/
theorem fieldLines_eq (fields : List (String × Datum)) :
    fieldLines fields = fields.map fun field => labelled field.1 (lines field.2) := by
  induction fields with
  | nil => rfl
  | cons field rest ih => rw [fieldLines, ih, List.map_cons]

/-- A tree without scalars that keep the text they were written as, whose integers fit. -/
inductive IsWritten (fits : Int → Prop) : Datum → Prop where
  | null : IsWritten fits .null
  | bool (value : Bool) : IsWritten fits (.bool value)
  | integer {value : Int} (fit : fits value) : IsWritten fits (.integer value)
  | string (value : String) : IsWritten fits (.string value)
  | array {items : List Datum} (all : ∀ d ∈ items, IsWritten fits d) :
      IsWritten fits (.array items)
  | record {fields : List (String × Datum)} (all : ∀ field ∈ fields, IsWritten fits field.2) :
      IsWritten fits (.record fields)

attribute [simp] IsWritten.null IsWritten.bool IsWritten.string

section Written

variable {fits : Int → Prop} {value : Int} {items : List Datum} {fields : List (String × Datum)}

@[simp] theorem isWritten_integer : IsWritten fits (.integer value) ↔ fits value :=
  ⟨fun | .integer fit => fit, .integer⟩

@[simp] theorem isWritten_array :
    IsWritten fits (.array items) ↔ ∀ d ∈ items, d.IsWritten fits :=
  ⟨fun | .array all => all, .array⟩

@[simp] theorem isWritten_record :
    IsWritten fits (.record fields) ↔ ∀ field ∈ fields, field.2.IsWritten fits :=
  ⟨fun | .record all => all, .record⟩

end Written

section Closed

variable {block : List String} {blocks : List (List String)}

theorem isClosed_of_mem_withComma (closed : ∀ line ∈ block, IsClosed line) :
    ∀ line ∈ withComma block, IsClosed line := by
  induction block using withComma.induct with
  | case1 => exact closed
  | case2 last =>
    have closedLast := closed last List.mem_cons_self
    exact List.forall_mem_singleton.mpr (closedLast.append (.of_plain (by decide) (by decide)))
  | case3 line rest more ih =>
    rw [withComma, List.forall_mem_cons]
    · exact ⟨closed line List.mem_cons_self,
        ih fun other mem => closed other (List.mem_cons_of_mem line mem)⟩
    · exact more

theorem isClosed_of_mem_commaSeparated
    (closed : ∀ block ∈ blocks, ∀ line ∈ block, IsClosed line) :
    ∀ line ∈ commaSeparated blocks, IsClosed line := by
  induction blocks using commaSeparated.induct with
  | case1 => exact fun _ mem => absurd mem List.not_mem_nil
  | case2 last => exact closed last List.mem_cons_self
  | case3 block rest more ih =>
    rw [commaSeparated, List.forall_mem_append]
    · exact ⟨isClosed_of_mem_withComma (closed block List.mem_cons_self),
        ih fun other mem => closed other (List.mem_cons_of_mem block mem)⟩
    · exact more

theorem isClosed_of_mem_labelled (name : String) (closed : ∀ line ∈ block, IsClosed line) :
    ∀ line ∈ labelled name block, IsClosed line := by
  cases block with
  | nil => exact closed
  | cons line rest =>
    obtain ⟨closedLine, closedRest⟩ := List.forall_mem_cons.mp closed
    rw [labelled, List.forall_mem_cons]
    refine ⟨IsClosed.append ?_ closedLine, closedRest⟩
    exact (IsClosed.stringText name).append (.of_plain (by decide) (by decide))

theorem isClosed_of_mem_bracketed {opening closing : String} (closedOpening : IsClosed opening)
    (closedClosing : IsClosed closing) (closed : ∀ line ∈ block, IsClosed line) :
    ∀ line ∈ bracketed opening closing block, IsClosed line := by
  rw [bracketed, List.forall_mem_append, List.forall_mem_cons, List.forall_mem_map]
  refine ⟨⟨closedOpening, fun line mem => ?_⟩, List.forall_mem_singleton.mpr closedClosing⟩
  exact IsClosed.append (.of_plain (by decide) (by decide)) (closed line mem)

end Closed

/-- **Every line of the pretty form is closed.** -/
theorem IsWritten.isClosed {fits : Int → Prop} {d : Datum} (written : d.IsWritten fits) :
    ∀ line ∈ d.lines, IsClosed line := by
  induction written with
  | null => exact List.forall_mem_singleton.mpr (.of_plain (by decide) (by decide))
  | bool value =>
    cases value with
    | true => exact List.forall_mem_singleton.mpr (.of_plain (by decide) (by decide))
    | false => exact List.forall_mem_singleton.mpr (.of_plain (by decide) (by decide))
  | @integer value _ =>
    rw [lines]
    exact List.forall_mem_singleton.mpr (.signedDecimal value)
  | string value =>
    rw [lines]
    exact List.forall_mem_singleton.mpr (.stringText value)
  | @array items _ closed =>
    cases items with
    | nil => exact List.forall_mem_singleton.mpr (.of_plain (by decide) (by decide))
    | cons d rest =>
      rw [lines, itemLines_eq]
      refine isClosed_of_mem_bracketed (.of_plain (by decide) (by decide))
        (.of_plain (by decide) (by decide)) (isClosed_of_mem_commaSeparated ?_)
      exact List.forall_mem_map.mpr closed
  | @record fields _ closed =>
    cases fields with
    | nil => exact List.forall_mem_singleton.mpr (.of_plain (by decide) (by decide))
    | cons field rest =>
      rw [lines, fieldLines_eq]
      refine isClosed_of_mem_bracketed (.of_plain (by decide) (by decide))
        (.of_plain (by decide) (by decide)) (isClosed_of_mem_commaSeparated ?_)
      exact List.forall_mem_map.mpr fun field mem =>
        isClosed_of_mem_labelled field.1 (closed field mem)

/-! ## The pretty form as one text -/

theorem lines_ne_nil (d : Datum) : d.lines ≠ [] := by
  unfold lines
  split <;> simp [bracketed]

/-- The line breaks in the pretty form divide it into its lines. -/
theorem IsWritten.linesOf_pretty {fits : Int → Prop} {d : Datum} (written : d.IsWritten fits) :
    Text.linesOf d.pretty = d.lines :=
  Text.linesOf_joined d.lines_ne_nil fun line mem => (written.isClosed line mem).noBreak

/-- A line break between closed lines is outside of strings.  The induction is on the lines; the
line break is the one behind the first line, or between the others. -/
theorem outside_of_joined {closedLines : List String}
    (closed : ∀ line ∈ closedLines, IsClosed line) {before behind : List Char}
    (parts : (Text.joined "\n" closedLines).toList = before ++ '\n' :: behind) :
    Place.outside.after before = .outside := by
  induction closedLines generalizing before with
  | nil => simp [Text.joined] at parts
  | cons line rest ih =>
    obtain ⟨closedLine, closedRest⟩ := List.forall_mem_cons.mp closed
    cases rest with
    | nil =>
      have here : '\n' ∈ line.toList := by
        rw [Text.joined] at parts
        rw [parts]
        exact List.mem_append_right before List.mem_cons_self
      exact absurd here closedLine.noBreak
    | cons next others =>
      rw [Text.toList_joined_cons rfl line (List.cons_ne_nil next others)] at parts
      obtain rfl | ⟨more, rfl, later⟩ := Text.cut_append_cons closedLine.noBreak parts
      · exact closedLine.outside
      · rw [Place.after_append, closedLine.outside, Place.after_cons]
        exact ih closedRest later

/-- **No line break in the pretty form is inside of a string.** -/
theorem IsWritten.outside_of_lineBreak {fits : Int → Prop} {d : Datum}
    (written : d.IsWritten fits) {before behind : List Char}
    (parts : d.pretty.toList = before ++ '\n' :: behind) :
    Place.outside.after before = .outside :=
  outside_of_joined written.isClosed parts

end Provisioning.Datum
