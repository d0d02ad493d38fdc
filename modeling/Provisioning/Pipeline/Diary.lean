import Provisioning.Pipeline
import Provisioning.Text.Decimal

/-!
# Tasks that keep a diary

A task that only writes down what happens to it shows when a pipeline lets it
run.  Its shared state is the diary of all such tasks: that a task began, that it
went on after a pause, that it was done.  A task that fails writes nothing more.
-/

namespace Provisioning

set_option autoImplicit false

/-- What happened to a task, by its name. -/
inductive DiaryEntry where
  | began (task : String)
  /-- The task went on after the pause with the given number. -/
  | resumed (task : String) (pause : Nat)
  | done (task : String)
  deriving DecidableEq

/-- The wording of an entry. -/
def DiaryEntry.text : DiaryEntry → String
  | began task => "start " ++ task
  | resumed task pause => "resume " ++ task ++ " " ++ Text.decimal pause
  | done task => "done " ++ task

/-- What happened to several tasks, from first to last. -/
abbrev Diary := List DiaryEntry

namespace Diary

/-- What a task writes when it runs after the given number of pauses. -/
def entry (task : String) : (pauses : Nat) → DiaryEntry
  | 0 => .began task
  | pause + 1 => .resumed task (pause + 1)

/-- A task that pauses the given number of times and then fails or is done. -/
def task (name : String) (pauses : Nat) (failure : Option Error) : PipelineTask Diary where
  name := name
  beforePauses := (List.range pauses).map fun pause diary => diary ++ [entry name pause]
  finish diary :=
    match failure with
    | some e => (.error e, diary ++ [entry name pauses])
    | none => (.ok (), diary ++ [entry name pauses, .done name])

end Diary

end Provisioning
