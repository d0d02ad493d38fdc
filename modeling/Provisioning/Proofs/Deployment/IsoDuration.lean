import Provisioning.Options.Instance
import Provisioning.Proofs.Text.Decimal

/-!
# The window that is announced

The controller is told its window as an ISO 8601 duration, which it reads in hours, minutes and
whole seconds.  What it reads is the window without the fraction of a second, so windows with
different whole seconds have different texts.  A window of less than a second is accepted, for
it is not zero, and it is announced as no time at all; a window of at least one second never is.
-/

namespace Provisioning

set_option autoImplicit false

/-- An ISO 8601 duration of hours, minutes and seconds: the digits of each part that is there. -/
structure IsoDuration where
  hours : Option (List Char)
  minutes : Option (List Char)
  seconds : Option (List Char)
  deriving DecidableEq

namespace IsoDuration

variable {unit c : Char} {cs digits rest : List Char} {number : Option (List Char)}
  {d : IsoDuration}

/-! ## How a duration is written -/

/-- A part with the letter of its unit behind it; nothing when it is left out. -/
def written (unit : Char) : Option (List Char) → List Char
  | none => []
  | some digits => digits ++ [unit]

/-- A duration as it is written. -/
def chars (d : IsoDuration) : List Char :=
  'P' :: 'T' :: (written 'H' d.hours ++ (written 'M' d.minutes ++ written 'S' d.seconds))

/-- The number of a part; a part that is left out counts for nothing. -/
def value (number : Option (List Char)) : Nat :=
  number.elim 0 Text.decimalValue

/-- The duration in seconds. -/
def secs (d : IsoDuration) : Nat :=
  3600 * value d.hours + 60 * value d.minutes + value d.seconds

/-- A part that is there has at least one digit, and digits only. -/
def IsNumber (number : Option (List Char)) : Prop :=
  ∀ digits, number = some digits → digits ≠ [] ∧ ∀ c ∈ digits, c.isDigit = true

/-- At least one part is there, and there are less than sixty minutes and seconds. -/
structure IsSound (d : IsoDuration) : Prop where
  hours : IsNumber d.hours
  minutes : IsNumber d.minutes
  seconds : IsNumber d.seconds
  somePart : d ≠ ⟨none, none, none⟩
  minutes_lt : value d.minutes < 60
  seconds_lt : value d.seconds < 60

/-! ## How a duration is read -/

/-- The part of a unit in front of a text, if there is one, and the text behind it. -/
def part (unit : Char) (cs : List Char) : Option (List Char) × List Char :=
  match cs.dropWhile Char.isDigit with
  | c :: rest =>
    if c = unit ∧ cs.takeWhile Char.isDigit ≠ [] then (some (cs.takeWhile Char.isDigit), rest)
    else (none, cs)
  | [] => (none, cs)

/-- The duration that a text is: hours, minutes and seconds in this order, and nothing else. -/
def read? (text : String) : Option IsoDuration :=
  match text.toList with
  | 'P' :: 'T' :: cs =>
    let (hours, cs) := part 'H' cs
    let (minutes, cs) := part 'M' cs
    let (seconds, cs) := part 'S' cs
    let d : IsoDuration := ⟨hours, minutes, seconds⟩
    if cs = [] ∧ d ≠ ⟨none, none, none⟩ ∧ value minutes < 60 ∧ value seconds < 60 then some d
    else none
  | _ => none

/-! ### One part -/

/-- What is read of a text is a part of it, and the rest is what stands behind. -/
theorem of_part (read : part unit cs = (number, rest)) :
    IsNumber number ∧ written unit number ++ rest = cs := by
  rw [part] at read
  split at read
  next c behind stops =>
    split at read
    next isPart =>
      obtain ⟨rfl, someDigit⟩ := isPart
      cases read
      refine ⟨fun digits same => ?_, ?_⟩
      · cases same
        exact ⟨someDigit, List.all_eq_true.mp List.all_takeWhile⟩
      · rw [written, List.append_assoc, List.singleton_append, ← stops,
          List.takeWhile_append_dropWhile]
    next =>
      cases read
      exact ⟨nofun, rfl⟩
  next =>
    cases read
    exact ⟨nofun, rfl⟩

/-- A text without a part of the unit in front: behind its digits stands something else. -/
def Lacks (unit : Char) (cs : List Char) : Prop :=
  (cs.dropWhile Char.isDigit).head? ≠ some unit

theorem part_of_lacks (lacks : Lacks unit cs) : part unit cs = (none, cs) := by
  rw [part]
  split
  next c behind stops =>
    have other : c ≠ unit := fun same => lacks (by rw [stops, same, List.head?_cons])
    rw [if_neg fun isPart => other isPart.1]
  next => rfl

theorem dropWhile_numeric (numeric : ∀ c ∈ digits, c.isDigit = true) (noDigit : c.isDigit = false)
    (rest : List Char) : (digits ++ c :: rest).dropWhile Char.isDigit = c :: rest := by
  rw [List.dropWhile_append_of_pos numeric, List.dropWhile_cons_of_neg (by simp [noDigit])]

/-- A part is read from the text that begins with it. -/
theorem part_written (isNumber : IsNumber number) (noDigit : unit.isDigit = false)
    (lacks : Lacks unit rest) : part unit (written unit number ++ rest) = (number, rest) := by
  cases number with
  | none => exact part_of_lacks lacks
  | some digits =>
    obtain ⟨someDigit, numeric⟩ := isNumber digits rfl
    have front : (digits ++ unit :: rest).takeWhile Char.isDigit = digits := by
      rw [List.takeWhile_append_of_pos numeric, List.takeWhile_cons_of_neg (by simp [noDigit]),
        List.append_nil]
    rw [written, List.append_assoc, List.singleton_append, part]
    simp only [dropWhile_numeric numeric noDigit, front]
    exact if_pos ⟨trivial, someDigit⟩

theorem lacks_nil (unit : Char) : Lacks unit [] := nofun

theorem written_eq_nil_iff : written unit number = [] ↔ number = none := by
  cases number with
  | none => exact iff_of_true rfl rfl
  | some digits => simp [written]

/-- A part of another unit is none of this unit. -/
theorem lacks_written {other : Char} (isNumber : IsNumber number) (noDigit : other.isDigit = false)
    (differ : other ≠ unit) (lacks : Lacks unit rest) :
    Lacks unit (written other number ++ rest) := by
  cases number with
  | none => exact lacks
  | some digits =>
    rw [written, List.append_assoc, List.singleton_append, Lacks,
      dropWhile_numeric (isNumber digits rfl).2 noDigit, List.head?_cons]
    exact fun same => differ (Option.some.inj same)

/-! ### The whole text -/

/-- **A text is read as a sound duration exactly when it is written that way.** -/
theorem read?_eq_some_iff {text : String} :
    read? text = some d ↔ d.IsSound ∧ text.toList = d.chars := by
  constructor
  · intro read
    rw [read?] at read
    split at read
    next cs isText =>
      rcases first : part 'H' cs with ⟨hours, afterHours⟩
      rcases second : part 'M' afterHours with ⟨minutes, afterMinutes⟩
      rcases third : part 'S' afterMinutes with ⟨seconds, afterSeconds⟩
      simp only [first, second, third, Option.ite_none_right_eq_some, Option.some.injEq] at read
      obtain ⟨⟨rfl, somePart, minutes_lt, seconds_lt⟩, rfl⟩ := read
      obtain ⟨isHours, rfl⟩ := of_part first
      obtain ⟨isMinutes, rfl⟩ := of_part second
      obtain ⟨isSeconds, rfl⟩ := of_part third
      rw [List.append_nil] at isText
      exact ⟨⟨isHours, isMinutes, isSeconds, somePart, minutes_lt, seconds_lt⟩, isText⟩
    next => cases read
  · rintro ⟨sound, isText⟩
    have noUnit : ('H'.isDigit = false ∧ 'M'.isDigit = false) ∧ 'S'.isDigit = false := by decide
    have behindMinutes {unit : Char} (differ : 'S' ≠ unit) :
        Lacks unit (written 'S' d.seconds) := by
      have lacks := lacks_written sound.seconds noUnit.2 differ (lacks_nil unit)
      rwa [List.append_nil] at lacks
    have behindHours : Lacks 'H' (written 'M' d.minutes ++ written 'S' d.seconds) :=
      lacks_written sound.minutes noUnit.1.2 (by decide) (behindMinutes (by decide))
    have first := part_written sound.hours noUnit.1.1 behindHours
    have second := part_written sound.minutes noUnit.1.2 (behindMinutes (by decide))
    have third := part_written sound.seconds noUnit.2 (lacks_nil 'S')
    rw [List.append_nil] at third
    rw [read?, isText, chars]
    simp only [first, second, third]
    exact if_pos ⟨trivial, sound.somePart, sound.minutes_lt, sound.seconds_lt⟩

/-! ## The duration of a number of seconds -/

/-- The digits of a number; none when it is zero. -/
def numeral (n : Nat) : Option (List Char) :=
  if n = 0 then none else some (Text.decimal n).toList

theorem isNumber_numeral (n : Nat) : IsNumber (numeral n) := by
  rintro digits isNumeral
  rw [numeral, Option.ite_none_left_eq_some] at isNumeral
  obtain ⟨_, same⟩ := isNumeral
  cases same
  exact ⟨by simp, fun c mem => Text.isDigit_of_mem_decimal mem⟩

@[simp] theorem value_numeral (n : Nat) : value (numeral n) = n := by
  rw [numeral]
  split
  next none => exact none.symm
  next => exact Text.decimalValue_decimal n

/-- Whole seconds as hours, minutes and seconds.  One part is always there. -/
def ofSecs (secs : Nat) : IsoDuration :=
  if secs = 0 then ⟨none, none, some ['0']⟩
  else ⟨numeral (secs / 3600), numeral (secs % 3600 / 60), numeral (secs % 60)⟩

theorem secs_ofSecs (secs : Nat) : (ofSecs secs).secs = secs := by
  rw [ofSecs]
  split
  next none =>
    subst none
    rfl
  next =>
    simp only [IsoDuration.secs, value_numeral]
    omega

theorem isSound_ofSecs (secs : Nat) : (ofSecs secs).IsSound := by
  rw [ofSecs]
  split
  next =>
    refine ⟨nofun, nofun, fun digits same => ?_, nofun, by decide, by decide⟩
    cases same
    exact ⟨List.cons_ne_nil _ _, List.forall_mem_singleton.mpr rfl⟩
  next positive =>
    refine ⟨isNumber_numeral _, isNumber_numeral _, isNumber_numeral _, fun empty => ?_, ?_, ?_⟩
    · have total := congrArg IsoDuration.secs empty
      simp only [IsoDuration.secs, value_numeral] at total
      change _ = 0 at total
      omega
    · rw [value_numeral]
      omega
    · rw [value_numeral]
      omega

end IsoDuration

/-! ## The window of a signal -/

namespace CompletionSignal

open IsoDuration (written numeral)

theorem toList_part (n : Nat) (unit : Char) :
    (part n (String.singleton unit)).toList = written unit (numeral n) := by
  rw [part, numeral]
  split
  next => rfl
  next => simp [written]

/-- Whole seconds are written as their hours, minutes and seconds. -/
theorem toList_isoText (secs : Nat) : (isoText secs).toList = (IsoDuration.ofSecs secs).chars := by
  by_cases zero : secs = 0
  · subst zero
    decide
  have sound := IsoDuration.isSound_ofSecs secs
  have parts : (part (secs / 3600) "H" ++ part (secs % 3600 / 60) "M" ++
      part (secs % 60) "S").toList = written 'H' (numeral (secs / 3600)) ++
        (written 'M' (numeral (secs % 3600 / 60)) ++ written 'S' (numeral (secs % 60))) := by
    rw [← toList_part, ← toList_part, ← toList_part, String.toList_append, String.toList_append,
      List.append_assoc]
    rfl
  have somePart : part (secs / 3600) "H" ++ part (secs % 3600 / 60) "M" ++
      part (secs % 60) "S" ≠ "" := by
    intro none
    rw [none] at parts
    simp only [String.toList_empty, List.nil_eq_append_iff, List.append_eq_nil_iff,
      IsoDuration.written_eq_nil_iff] at parts
    obtain ⟨hours, minutes, seconds⟩ := parts
    refine sound.somePart ?_
    rw [IsoDuration.ofSecs, if_neg zero, hours, minutes, seconds]
  rw [isoText, IsoDuration.ofSecs, if_neg zero, if_neg somePart, String.toList_append, parts]
  rfl

/-- A window is read as the duration of its whole seconds. -/
theorem read?_timeoutText (s : CompletionSignal) :
    IsoDuration.read? s.timeoutText = some (.ofSecs s.timeout.secs) :=
  IsoDuration.read?_eq_some_iff.mpr
    ⟨IsoDuration.isSound_ofSecs s.timeout.secs, toList_isoText s.timeout.secs⟩

/-- A window is accepted when it is not empty and not too long. -/
theorem create_eq_ok_iff {timeout : Duration} {s : CompletionSignal} :
    create timeout = .ok s ↔
      0 < timeout.toNanos ∧ timeout.toNanos ≤ maxTimeout.toNanos ∧ s = { count := 1, timeout } := by
  rw [create]
  split
  next empty =>
    have notPositive : ¬ 0 < timeout.toNanos := by simpa [Duration.isZero] using empty
    exact iff_of_false nofun fun accepted => notPositive accepted.1
  next notEmpty =>
    have positive : 0 < timeout.toNanos := by
      simpa [Duration.isZero, Nat.pos_iff_ne_zero] using notEmpty
    split
    next long =>
      have tooLong : ¬ timeout.toNanos ≤ maxTimeout.toNanos :=
        Nat.not_le.mpr (of_decide_eq_true long)
      exact iff_of_false nofun fun accepted => tooLong accepted.2.1
    next short =>
      have fits : timeout.toNanos ≤ maxTimeout.toNanos :=
        Nat.not_lt.mp fun longer => short (decide_eq_true longer)
      rw [Except.ok.injEq, eq_comm]
      exact ⟨fun same => ⟨positive, fits, same⟩, fun accepted => accepted.2.2⟩

/-- **A window is announced in whole seconds.**  Whatever window is accepted, what is announced
is read as its whole seconds.  So the texts of two windows differ when their whole seconds do,
and the window that is announced is empty exactly when the accepted one is shorter than a second.
The window of an instance, which is given in seconds, is not. -/
theorem announced_in_whole_seconds {timeout : Duration} {s : CompletionSignal}
    (accepted : create timeout = .ok s) :
    (IsoDuration.read? s.timeoutText).map (·.secs) = some timeout.secs ∧
    (∀ timeout' s', create timeout' = .ok s' →
      (s.timeoutText = s'.timeoutText ↔ timeout.secs = timeout'.secs)) ∧
    ((IsoDuration.read? s.timeoutText).map (·.secs) = some 0 ↔ timeout.toNanos < 1000000000) ∧
    ∀ options : InstanceOptions, options.executionTimeout = timeout → 0 < timeout.secs := by
  have read {t : Duration} {s : CompletionSignal} (accepted : create t = .ok s) :
      (IsoDuration.read? s.timeoutText).map (·.secs) = some t.secs := by
    obtain ⟨_, _, rfl⟩ := create_eq_ok_iff.mp accepted
    rw [read?_timeoutText, Option.map_some, IsoDuration.secs_ofSecs]
  have fraction := timeout.nanos_lt
  refine ⟨read accepted, fun timeout' s' accepted' => ⟨fun same => ?_, fun same => ?_⟩, ?_, ?_⟩
  · have readSame := read accepted
    rw [same, read accepted'] at readSame
    exact (Option.some.inj readSame).symm
  · obtain ⟨_, _, rfl⟩ := create_eq_ok_iff.mp accepted
    obtain ⟨_, _, rfl⟩ := create_eq_ok_iff.mp accepted'
    rw [timeoutText, timeoutText, same]
  · rw [read accepted, Option.some.injEq, Duration.toNanos]
    omega
  · rintro options rfl
    obtain ⟨positive, _⟩ := create_eq_ok_iff.mp accepted
    rw [InstanceOptions.executionTimeout, Duration.toNanos_ofSecs] at positive
    have secs : options.executionTimeout.secs = options.executionTimeoutSecs := rfl
    omega

/-- Half a second. -/
def halfSecond : Duration where
  secs := 0
  nanos := 500000000

/-- An hour and a half, five seconds and a quarter of a second. -/
def ninetyMinutes : Duration where
  secs := 5405
  nanos := 250000000

/-- The quarter of a second is not announced, and of half a second nothing is. -/
theorem announced_in_whole_seconds_ninetyMinutes :
    create ninetyMinutes = .ok { count := 1, timeout := ninetyMinutes } ∧
    create halfSecond = .ok { count := 1, timeout := halfSecond } ∧
    isoText ninetyMinutes.secs = "PT1H30M5S" ∧
    (IsoDuration.read? (isoText ninetyMinutes.secs)).map (·.secs) = some 5405 ∧
    isoText ninetyMinutes.secs ≠ isoText halfSecond.secs ∧
    (IsoDuration.read? (isoText halfSecond.secs)).map (·.secs) = some 0 ∧
    (InstanceOptions.ofName "repository" ["subnet-1"]).executionTimeout = defaultTimeout ∧
    0 < defaultTimeout.secs := by
  have accepted : create ninetyMinutes = .ok { count := 1, timeout := ninetyMinutes } :=
    create_eq_ok_iff.mpr ⟨by decide, by decide, rfl⟩
  have acceptedHalf : create halfSecond = .ok { count := 1, timeout := halfSecond } :=
    create_eq_ok_iff.mpr ⟨by decide, by decide, rfl⟩
  have acceptedDefault : create defaultTimeout = .ok standard :=
    create_eq_ok_iff.mpr ⟨by decide, by decide, rfl⟩
  obtain ⟨read, differ, _⟩ := announced_in_whole_seconds accepted
  obtain ⟨_, _, empty, _⟩ := announced_in_whole_seconds acceptedHalf
  obtain ⟨_, _, _, ofOptions⟩ := announced_in_whole_seconds acceptedDefault
  refine ⟨accepted, acceptedHalf, by decide, read, fun same => ?_, empty.mpr (by decide), rfl,
    ofOptions (.ofName "repository" ["subnet-1"]) rfl⟩
  exact absurd ((differ halfSecond _ acceptedHalf).mp same) (by decide)

/-- **An accepted window can be announced as an empty one**: half a second is. -/
theorem announced_window_can_be_empty :
    ¬ ∀ (timeout : Duration) (s : CompletionSignal), create timeout = .ok s →
      (IsoDuration.read? s.timeoutText).map (·.secs) = some timeout.secs ∧
      (IsoDuration.read? s.timeoutText).map (·.secs) ≠ some 0 := by
  intro always
  have accepted : create halfSecond = .ok { count := 1, timeout := halfSecond } :=
    create_eq_ok_iff.mpr ⟨by decide, by decide, rfl⟩
  exact (always halfSecond _ accepted).2 (by decide)

end CompletionSignal

end Provisioning
