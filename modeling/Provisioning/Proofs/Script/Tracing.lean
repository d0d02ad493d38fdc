import Mathlib.Logic.Function.Basic
import Provisioning.Script.SensitiveBlock

/-!
# Tracing around a secret

A shell that traces shows every command that it runs, with the values of the variables in it.  So a
sensitive block stops the tracing before it fetches its secret, and it remembers in a variable of
the shell whether there is something to take up again once the secret is gone.

The variable is the same for all blocks.  Among the commands of a block there may be the lines of
further blocks, to any depth.  They all find the shell silent and note that in the variable, over
what the block around them has noted.  So no secret is ever shown, but a block takes the tracing up
again only if no other block is inside of it.
-/

namespace Provisioning

set_option autoImplicit false

/-! ## A shell that traces -/

namespace Shell

/-- Whether a shell traces, and the values of the variables that are set. -/
structure State where
  tracing : Bool
  valueOf : String → Option String

namespace State

/-- Starts or stops the tracing. -/
def trace (on : Bool) (s : State) : State :=
  { s with tracing := on }

/-- Sets a variable, or removes it. -/
def put (name : String) (value : Option String) (s : State) : State :=
  { s with valueOf := Function.update s.valueOf name value }

/-- While a variable is set the shell does not trace. -/
def Covers (name : String) (s : State) : Prop :=
  s.valueOf name ≠ none → s.tracing = false

variable {s : State} {name other : String} {value : Option String} {on : Bool}

@[simp] theorem tracing_trace : (s.trace on).tracing = on := rfl

@[simp] theorem valueOf_trace : (s.trace on).valueOf = s.valueOf := rfl

@[simp] theorem tracing_put : (s.put name value).tracing = s.tracing := rfl

@[simp] theorem valueOf_put : (s.put name value).valueOf name = value :=
  Function.update_self ..

theorem valueOf_put_of_ne (apart : other ≠ name) :
    (s.put name value).valueOf other = s.valueOf other :=
  Function.update_of_ne apart ..

theorem covers_of_silent (silent : s.tracing = false) : s.Covers name :=
  fun _ => silent

theorem covers_of_unset (unset : s.valueOf name = none) : s.Covers name :=
  fun present => absurd unset present

end State

/-- The commands that matter here, and all others. -/
inductive Command where
  | traceOn
  | traceOff
  | assign (name value : String)
  /-- Runs a command and puts what it prints into a variable. -/
  | capture (name command : String)
  | unset (name : String)
  | plain (text : String)

/-- A line of a script. -/
inductive Line where
  | command (c : Command)
  | ifTracing (yes no : List Command)
  | ifNonempty (name : String) (yes : List Command)

def Command.text : Command → String
  | traceOn => "set -x"
  | traceOff => "set +x"
  | assign name value => name ++ "=" ++ value
  | capture name command => name ++ "=$(" ++ command ++ ")"
  | unset name => "unset " ++ name
  | plain text => text

/-- Commands on one line. -/
def commandsText (cs : List Command) : String :=
  Text.joined "; " (cs.map Command.text)

def Line.text : Line → String
  | command c => c.text
  | ifTracing yes no =>
    "if [[ $- = *x* ]]; then " ++ commandsText yes ++ "; else " ++ commandsText no ++ "; fi"
  | ifNonempty name yes =>
    "if [[ -n \"$\x7b" ++ name ++ "\x7d\" ]]; then " ++ commandsText yes ++ "; fi"

/-- What commands print and what they do to the shell.  All of them succeed. -/
structure Machine where
  output : String → State → String
  effect : String → State → State

namespace Machine

variable (m : Machine)

/-- Runs a command. -/
def step (c : Command) (s : State) : State :=
  match c with
  | .traceOn => s.trace true
  | .traceOff => s.trace false
  | .assign name value => s.put name (some value)
  | .capture name command => s.put name (some (m.output command s))
  | .unset name => s.put name none
  | .plain text => m.effect text s

/-- The states behind each of some commands. -/
def states : List Command → State → List State
  | [], _ => []
  | c :: rest, s => m.step c s :: states rest (m.step c s)

/-- The state behind all of some commands. -/
def after (cs : List Command) (s : State) : State :=
  cs.foldl (fun s c => m.step c s) s

end Machine

/-- The commands of a line that run. -/
def Line.chosen : Line → State → List Command
  | command c, _ => [c]
  | ifTracing yes no, s => if s.tracing then yes else no
  | ifNonempty name yes, s => if (s.valueOf name).getD "" = "" then [] else yes

namespace Machine

variable (m : Machine)

/-- The state behind a program. -/
def outcome : List Line → State → State
  | [], s => s
  | line :: rest, s => outcome rest (m.after (line.chosen s) s)

/-- All states on the way through a program, between any two commands. -/
def moments : List Line → State → List State
  | [], s => [s]
  | line :: rest, s =>
    s :: m.states (line.chosen s) s ++ moments rest (m.after (line.chosen s) s)

/-- A command that neither starts nor stops the tracing, nor changes what is noted of it. -/
def LeavesTracing (text : String) : Prop :=
  ∀ s, (m.effect text s).tracing = s.tracing ∧
    (m.effect text s).valueOf SensitiveBlock.traceFlag = s.valueOf SensitiveBlock.traceFlag

/-- On the way through a program from one state to another something holds all the time. -/
structure Passes (P : State → Prop) (program : List Line) (s s' : State) : Prop where
  always : ∀ x ∈ m.moments program s, P x
  outcome_eq : m.outcome program s = s'

variable {m} {P Q : State → Prop} {line : Line} {program rest : List Line} {s s' s'' : State}

theorem Passes.nil (holds : P s) : m.Passes P [] s s :=
  ⟨fun _ mem => List.mem_singleton.mp mem ▸ holds, rfl⟩

theorem Passes.cons {cs : List Command} (chosen : line.chosen s = cs) (holds : P s)
    (within : ∀ x ∈ m.states cs s, P x) (later : m.Passes P rest (m.after cs s) s') :
    m.Passes P (line :: rest) s s' := by
  subst chosen
  refine ⟨?_, later.outcome_eq⟩
  rw [moments, List.cons_append, List.forall_mem_cons, List.forall_mem_append]
  exact ⟨holds, within, later.always⟩

theorem Passes.initial (passes : m.Passes P program s s') : P s :=
  passes.always s (by cases program <;> exact List.mem_cons_self)

theorem Passes.command {c : Command} (holds : P s) (later : m.Passes P rest (m.step c s) s') :
    m.Passes P (.command c :: rest) s s' :=
  .cons rfl holds (fun _ mem => List.mem_singleton.mp mem ▸ later.initial) later

theorem Passes.imp (passes : m.Passes P program s s') (weaker : ∀ x, P x → Q x) :
    m.Passes Q program s s' :=
  ⟨fun x mem => weaker x (passes.always x mem), passes.outcome_eq⟩

theorem Passes.final (passes : m.Passes P program s s') : P s' := by
  induction program generalizing s with
  | nil => exact passes.outcome_eq ▸ passes.always s (List.mem_singleton_self s)
  | cons line program ih =>
    obtain ⟨always, outcome_eq⟩ := passes
    rw [moments, List.cons_append, List.forall_mem_cons, List.forall_mem_append] at always
    exact ih ⟨always.2.2, outcome_eq⟩

theorem Passes.append (first : m.Passes P program s s') (second : m.Passes P rest s' s'') :
    m.Passes P (program ++ rest) s s'' := by
  induction program generalizing s with
  | nil =>
    have same : s = s' := first.outcome_eq
    exact same ▸ second
  | cons line program ih =>
    obtain ⟨always, outcome_eq⟩ := first
    rw [moments, List.cons_append, List.forall_mem_cons, List.forall_mem_append] at always
    obtain ⟨holds, within, later⟩ := always
    exact .cons rfl holds within (ih ⟨later, outcome_eq⟩)

end Machine

end Shell

/-! ## Blocks within blocks -/

namespace SensitiveBlock

open Shell (Command Line Machine State)

/-- Remembers whether the shell traces, and stops it. -/
def suspendLine : Line :=
  .ifTracing [.assign traceFlag "1", .traceOff] [.assign traceFlag ""]

/-- Lets the shell trace again if it is remembered to have done so. -/
def resumeLine : Line :=
  .ifNonempty traceFlag [.traceOn]

/-- The command that prints a secret. -/
def fetchCommand (secret : SecretReference) : String :=
  "aws --region " ++ secret.region ++ " secretsmanager get-secret-value --secret-id "
    ++ Shell.quote secret.arn ++ " --query SecretString --output text"

/-- What a block does before its commands. -/
def opening (secret : SecretReference) (name : String) : List Line :=
  [suspendLine, .command (.capture name (fetchCommand secret))]

/-- What a block does after its commands. -/
def closing (name : String) : List Line :=
  [.command (.unset name), resumeLine]

/-- A block around the program of its commands. -/
def around (secret : SecretReference) (name : String) (commands : List Line) : List Line :=
  opening secret name ++ commands ++ closing name

theorem text_suspendLine : suspendLine.text = suspendTrace := by decide

theorem text_resumeLine : resumeLine.text = resumeTrace := by decide

theorem text_fetch (b : SensitiveBlock) :
    (Line.command (.capture b.variableName (fetchCommand b.secret))).text = b.fetch := by
  unfold Line.text Command.text fetchCommand fetch
  generalize Shell.quote b.secret.arn = quoted
  apply String.toList_injective
  simp

theorem text_around (secret : SecretReference) (name : String) {program : List Line}
    {commands : List String} (same : program.map Line.text = commands) :
    (around secret name program).map Line.text =
      SensitiveBlock.lines { secret, variableName := name, commands } := by
  have fetched := text_fetch { secret, variableName := name, commands }
  simp only [around, opening, closing, List.map_append, List.map_cons, List.map_nil, same, fetched,
    text_suspendLine, text_resumeLine]
  rfl

/-! ### What the lines of a block do -/

section

variable (m : Machine) (secret : SecretReference) {name : String} {s : State}

theorem chosen_suspendLine :
    suspendLine.chosen s =
      if s.tracing then [.assign traceFlag "1", .traceOff] else [.assign traceFlag ""] := rfl

theorem chosen_resumeLine :
    resumeLine.chosen s = if (s.valueOf traceFlag).getD "" = "" then [] else [.traceOn] := rfl

/-- In a silent shell a block notes that there is nothing to take up again. -/
theorem opening_silent (silent : s.tracing = false) (apart : name ≠ traceFlag) :
    ∃ s', m.Passes (fun x => x.tracing = false) (opening secret name) s s' ∧
      s'.valueOf traceFlag = some "" := by
  have chosen : suspendLine.chosen s = [.assign traceFlag ""] := by
    rw [chosen_suspendLine, silent, if_neg Bool.false_ne_true]
  have within : ∀ x ∈ m.states [.assign traceFlag ""] s, x.tracing = false := by
    simpa [Machine.states, Machine.step] using silent
  refine ⟨_, .cons chosen silent within (.command silent (.nil silent)), ?_⟩
  exact (State.valueOf_put_of_ne apart.symm).trans State.valueOf_put

/-- A block that finds its variable unset stops the tracing before it sets the variable, and notes
whether there was any. -/
theorem opening_covers (unset : s.valueOf name = none) (apart : name ≠ traceFlag) :
    ∃ s', m.Passes (State.Covers name) (opening secret name) s s' ∧
      s'.tracing = false ∧ s'.valueOf traceFlag = some (if s.tracing then "1" else "") := by
  cases traced : s.tracing with
  | false =>
    obtain ⟨s', passes, noted⟩ := opening_silent m secret traced apart
    exact ⟨s', passes.imp fun _ => State.covers_of_silent, passes.final, noted⟩
  | true =>
    have chosen : suspendLine.chosen s = [.assign traceFlag "1", .traceOff] := by
      rw [chosen_suspendLine, if_pos traced]
    have stillUnset : (s.put traceFlag (some "1")).valueOf name = none :=
      (State.valueOf_put_of_ne apart).trans unset
    have silent : ((s.put traceFlag (some "1")).trace false).tracing = false :=
      State.tracing_trace
    have noted : ((s.put traceFlag (some "1")).trace false).valueOf traceFlag = some "1" := by
      rw [State.valueOf_trace, State.valueOf_put]
    have within : ∀ x ∈ m.states [.assign traceFlag "1", .traceOff] s, x.Covers name := by
      simpa [Machine.states, Machine.step] using
        ⟨State.covers_of_unset stillUnset, State.covers_of_silent silent⟩
    refine ⟨_, .cons chosen (State.covers_of_unset unset) within (.command
      (State.covers_of_silent silent) (.nil (State.covers_of_silent rfl))), rfl, ?_⟩
    exact (State.valueOf_put_of_ne apart.symm).trans noted

variable {m}

/-- At its end a block removes its variable, and takes the tracing up again if it is noted. -/
theorem closing_covers (silent : s.tracing = false) (apart : name ≠ traceFlag) :
    ∃ s', m.Passes (State.Covers name) (closing name) s s' ∧ s'.valueOf name = none ∧
      s'.tracing = decide ((s.valueOf traceFlag).getD "" ≠ "") := by
  have unset : (s.put name none).valueOf name = none := State.valueOf_put
  have same : (s.put name none).valueOf traceFlag = s.valueOf traceFlag :=
    State.valueOf_put_of_ne apart.symm
  have covered : (s.put name none).Covers name := State.covers_of_unset unset
  by_cases empty : (s.valueOf traceFlag).getD "" = ""
  · have chosen : resumeLine.chosen (s.put name none) = [] := by
      rw [chosen_resumeLine, same, if_pos empty]
    refine ⟨s.put name none, .command (State.covers_of_silent silent)
      (.cons chosen covered nofun (.nil covered)), unset, ?_⟩
    simpa [empty] using silent
  · have chosen : resumeLine.chosen (s.put name none) = [.traceOn] := by
      rw [chosen_resumeLine, same, if_neg empty]
    have covered' : ((s.put name none).trace true).Covers name := State.covers_of_unset unset
    have within : ∀ x ∈ m.states [.traceOn] (s.put name none), x.Covers name := by
      simpa [Machine.states, Machine.step] using covered'
    exact ⟨_, .command (State.covers_of_silent silent)
      (.cons chosen covered within (.nil covered')), unset, (decide_eq_true empty).symm⟩

/-- In a silent shell that has nothing to take up again a block ends silently. -/
theorem closing_silent (silent : s.tracing = false) (noted : s.valueOf traceFlag = some "")
    (apart : name ≠ traceFlag) :
    ∃ s', m.Passes (fun x => x.tracing = false) (closing name) s s' ∧
      s'.valueOf traceFlag = some "" := by
  have same : (s.put name none).valueOf traceFlag = some "" :=
    (State.valueOf_put_of_ne apart.symm).trans noted
  have chosen : resumeLine.chosen (s.put name none) = [] := by
    rw [chosen_resumeLine, same]
    rfl
  exact ⟨s.put name none, .command silent (.cons chosen silent nofun (.nil silent)), same⟩

end

end SensitiveBlock

/-- The commands of a block: plain commands, and the lines of further blocks, which have commands of
their own. -/
inductive BlockBody where
  | nil
  | plain (text : String) (rest : BlockBody)
  | block (secret : SecretReference) (name : String) (inner rest : BlockBody)

namespace BlockBody

open Shell (Line Machine State)
open SensitiveBlock (around closing_silent opening_silent traceFlag)

/-- The lines of the commands. -/
def lines : BlockBody → List String
  | nil => []
  | plain text rest => text :: rest.lines
  | block secret name inner rest =>
    SensitiveBlock.lines { secret, variableName := name, commands := inner.lines } ++ rest.lines

/-- What the lines stand for. -/
def program : BlockBody → List Line
  | nil => []
  | plain text rest => .command (.plain text) :: rest.program
  | block secret name inner rest =>
    around secret name inner.program ++ rest.program

/-- The plain commands, at any depth. -/
def plainTexts : BlockBody → List String
  | nil => []
  | plain text rest => text :: rest.plainTexts
  | block _ _ inner rest => inner.plainTexts ++ rest.plainTexts

/-- The variables of the blocks, at any depth. -/
def names : BlockBody → List String
  | nil => []
  | plain _ rest => rest.names
  | block _ name inner rest => name :: inner.names ++ rest.names

/-- Whether there is a block among the commands. -/
def hasBlock : BlockBody → Bool
  | nil => false
  | plain _ rest => rest.hasBlock
  | block .. => true

theorem text_program (body : BlockBody) : body.program.map Line.text = body.lines := by
  induction body with
  | nil => rfl
  | plain text rest ih => exact congrArg (text :: ·) ih
  | block secret name inner rest ihInner ihRest =>
    rw [program, List.map_append, SensitiveBlock.text_around secret name ihInner, ihRest, lines]

/-- Commands run silently in a silent shell.  If a block is among them, then nothing is left to take
up again: the block has noted that the shell was silent. -/
theorem program_silent {m : Machine} {body : BlockBody} {s : State} (silent : s.tracing = false)
    (plain : ∀ text ∈ body.plainTexts, m.LeavesTracing text)
    (apart : ∀ name ∈ body.names, name ≠ traceFlag) :
    ∃ s', m.Passes (fun x => x.tracing = false) body.program s s' ∧
      s'.valueOf traceFlag = if body.hasBlock then some "" else s.valueOf traceFlag := by
  induction body generalizing s with
  | nil => exact ⟨s, .nil silent, rfl⟩
  | plain text rest ih =>
    obtain ⟨left, others⟩ := List.forall_mem_cons.mp plain
    obtain ⟨tracing_eq, flag_eq⟩ := left s
    obtain ⟨s', passes, noted⟩ := ih (tracing_eq.trans silent) others apart
    exact ⟨s', .command silent passes, by rw [noted, hasBlock, flag_eq]⟩
  | block secret name inner rest ihInner ihRest =>
    obtain ⟨ofName, others⟩ := List.forall_mem_cons.mp apart
    obtain ⟨inApart, restApart⟩ := List.forall_mem_append.mp others
    obtain ⟨inPlain, restPlain⟩ := List.forall_mem_append.mp plain
    obtain ⟨s₁, opens, noted₁⟩ := opening_silent m secret silent ofName
    obtain ⟨s₂, runs, noted₂⟩ := ihInner opens.final inPlain inApart
    -- whatever is inside notes the same, so the end of this block takes nothing up again
    have noted : s₂.valueOf traceFlag = some "" := by
      rw [noted₂, noted₁, ite_self]
    obtain ⟨s₃, closes, noted₃⟩ := closing_silent runs.final noted ofName
    obtain ⟨s₄, follows, noted₄⟩ := ihRest closes.final restPlain restApart
    refine ⟨s₄, ((opens.append runs).append closes).append follows, ?_⟩
    rw [noted₄, noted₃, ite_self]
    rfl

end BlockBody

/-! ## The whole of a block -/

namespace SensitiveBlock

open Shell (Line Machine State)

/-- **A block shows its secret to nobody, and takes the tracing up again if there is no other block
inside of it.** -/
theorem tracing_around_secret (m : Machine) (secret : SecretReference) (name : String)
    (body : BlockBody) (s : State) (plain : ∀ text ∈ body.plainTexts, m.LeavesTracing text)
    (apart : ∀ other ∈ name :: body.names, other ≠ traceFlag) (unset : s.valueOf name = none) :
    (around secret name body.program).map Line.text =
        lines { secret, variableName := name, commands := body.lines } ∧
      (∀ x ∈ m.moments (around secret name body.program) s, x.Covers name) ∧
      (m.outcome (around secret name body.program) s).valueOf name = none ∧
      (m.outcome (around secret name body.program) s).tracing = (s.tracing && !body.hasBlock) := by
  obtain ⟨ofName, others⟩ := List.forall_mem_cons.mp apart
  obtain ⟨s₁, opens, silent, noted₁⟩ := opening_covers m secret unset ofName
  obtain ⟨s₂, runs, noted₂⟩ := BlockBody.program_silent silent plain others
  obtain ⟨s₃, closes, removed, tracing_eq⟩ := closing_covers runs.final ofName
  have passes := (opens.append (runs.imp fun _ => State.covers_of_silent)).append closes
  refine ⟨text_around secret name body.text_program, passes.always, ?_, ?_⟩
  · exact passes.outcome_eq ▸ removed
  · refine (congrArg State.tracing passes.outcome_eq).trans ?_
    rw [tracing_eq, noted₂, noted₁]
    cases s.tracing <;> cases body.hasBlock <;> rfl

/-- Credentials of an administrator. -/
def adminSecret : SecretReference where
  arn := "arn:aws:secretsmanager:us-west-2:123456789012:secret:farm/admin"
  region := "us-west-2"
  isReference := by decide

/-- Logs in to a database with a secret of its own. -/
def login : BlockBody :=
  .block adminSecret "DATABASE_LOGIN" (.plain "connect --stdin" .nil) .nil

/-- Every command prints the same and does nothing to the shell. -/
def idleMachine : Machine where
  output _ _ := "hunter2"
  effect _ s := s

/-- A shell that traces and has no variables. -/
def tracingShell : State where
  tracing := true
  valueOf _ := none

/-- The secret of the administrator is hidden also around the login, but afterwards the shell no
longer traces. -/
theorem tracing_around_secret_nested :
    (around adminSecret "ADMIN_LOGIN" login.program).map Line.text =
        lines { secret := adminSecret, variableName := "ADMIN_LOGIN", commands := login.lines } ∧
      (∀ x ∈ idleMachine.moments (around adminSecret "ADMIN_LOGIN" login.program) tracingShell,
        x.Covers "ADMIN_LOGIN") ∧
      (idleMachine.outcome (around adminSecret "ADMIN_LOGIN" login.program) tracingShell).valueOf
        "ADMIN_LOGIN" = none ∧
      (idleMachine.outcome (around adminSecret "ADMIN_LOGIN" login.program) tracingShell).tracing
        = false :=
  tracing_around_secret idleMachine adminSecret "ADMIN_LOGIN" login tracingShell
    (fun _ _ _ => ⟨rfl, rfl⟩) (by decide) rfl

/-- A block does not always leave the tracing as it was: the block inside of it has overwritten what
it has noted. -/
theorem tracing_not_always_resumed :
    ¬ ∀ (m : Machine) (secret : SecretReference) (name : String) (body : BlockBody) (s : State),
      (∀ text ∈ body.plainTexts, m.LeavesTracing text ∧
        ∀ other ∈ name :: body.names, ∀ s, (m.effect text s).valueOf other = s.valueOf other) →
      (∀ other ∈ body.names, other ≠ name) →
      (∀ other ∈ name :: body.names, other ≠ traceFlag) → s.valueOf name = none →
      (m.outcome (around secret name body.program) s).tracing = s.tracing := by
  intro restored
  have lost : (idleMachine.outcome (around adminSecret "ADMIN_LOGIN" login.program)
      tracingShell).tracing = false := by decide
  have kept := restored idleMachine adminSecret "ADMIN_LOGIN" login tracingShell
    (fun _ _ => ⟨fun _ => ⟨rfl, rfl⟩, fun _ _ _ => rfl⟩) (by decide) (by decide) rfl
  exact Bool.false_ne_true (lost.symm.trans kept)

end SensitiveBlock

end Provisioning
