import Provisioning.Script.LazyCommand

/-!
# Boot scripts

A command sequence gathers what runs at the first boot.  Commands keep the order
in which they were added and are never merged.  The main commands run until one
of them fails; then the commands for the exit run, whatever happened, and the
script ends with the exit code of the main commands.

Rendering asks every lazy command for its text, in order.  If all have one, the
sequence is sealed: nothing can be added, and it is not rendered a second time.
If one fails, all lazy commands are released and the sequence stays as it was.
-/

namespace Provisioning

set_option autoImplicit false

/-! ## Items -/

/-- A command in a sequence. -/
inductive ScriptItem where
  | line (text : String)
  | deferred (command : LazyCommand)
  deriving DecidableEq

namespace ScriptItem

/-- The item as a value; a lazy command has no text yet. -/
def inspect : ScriptItem → String
  | line text => "Line(" ++ Text.quoted text ++ ")"
  | deferred _ => "Lazy(..)"

/-- Items as a value. -/
def inspectAll (items : List ScriptItem) : String :=
  "[" ++ Text.joined ", " (items.map inspect) ++ "]"

/-- The text of an item. -/
def evaluate (item : ScriptItem) (env : Environment) : Result String × Environment :=
  match item with
  | line text => (.ok text, env)
  | deferred command => command.evaluate env

/-- The texts of items, in order, up to the first that fails. -/
def evaluateAll : List ScriptItem → Environment → Result (List String) × Environment
  | [], env => (.ok [], env)
  | item :: rest, env =>
    match item.evaluate env with
    | (.error e, env) => (.error e, env)
    | (.ok text, env) =>
      match evaluateAll rest env with
      | (.error e, env) => (.error e, env)
      | (.ok texts, env) => (.ok (text :: texts), env)

/-- Gives up the text of an item. -/
def release (item : ScriptItem) (env : Environment) : Environment :=
  match item with
  | line _ => env
  | deferred command => command.release env

/-- Gives up the texts of items, in order. -/
def releaseAll (items : List ScriptItem) (env : Environment) : Environment :=
  items.foldl (fun env item => item.release env) env

end ScriptItem

/-! ## Sequences -/

/-- Commands for the first boot. -/
structure CommandSequence where
  commands : List ScriptItem
  /-- What runs after the main commands, whether or not they succeed. -/
  onExit : List String
  isSealed : Bool
  deriving DecidableEq

namespace CommandSequence

/-- A sequence without commands. -/
def empty : CommandSequence where
  commands := []
  onExit := []
  isSealed := false

/-- The number of main commands. -/
def size (s : CommandSequence) : Nat :=
  s.commands.length

/-- Whether there are no commands of either kind. -/
def isEmpty (s : CommandSequence) : Bool :=
  s.commands.isEmpty && s.onExit.isEmpty

/-- Fails once the sequence is rendered. -/
def checkOpen (s : CommandSequence) : Result Unit :=
  if s.isSealed then .error (.state .sequenceRendered) else .ok ()

/-- Adds items. -/
def addItems (s : CommandSequence) (items : List ScriptItem) : Result CommandSequence := do
  s.checkOpen
  pure { s with commands := s.commands ++ items }

/-- Adds commands. -/
def addCommands (s : CommandSequence) (commands : List String) : Result CommandSequence :=
  s.addItems (commands.map .line)

/-- Adds commands for the exit. -/
def addOnExit (s : CommandSequence) (commands : List String) : Result CommandSequence := do
  s.checkOpen
  pure { s with onExit := s.onExit ++ commands }

/-! ## Rendering -/

/-- The shell variable that holds the exit code of the main commands. -/
def exitCodeVariable : String := "exitCode"

/-- The lines of a script in front of its main commands. -/
def header : List String := ["#!/bin/bash", "set +e", "(", "set -xeuo pipefail"]

/-- The lines of a script. -/
def scriptLines (commands onExit : List String) : List String :=
  header ++ commands ++ [")", exitCodeVariable ++ "=$?"] ++ onExit
    ++ ["exit $" ++ exitCodeVariable]

/-- The text of a script. -/
def script (commands onExit : List String) : String :=
  Text.terminated (scriptLines commands onExit)

/-- Renders the sequence and seals it. -/
def render (s : CommandSequence) (env : Environment) :
    Result (String × CommandSequence) × Environment :=
  match s.checkOpen with
  | .error e => (.error e, env)
  | .ok () =>
    match ScriptItem.evaluateAll s.commands env with
    | (.ok commands, env) => (.ok (script commands s.onExit, { s with isSealed := true }), env)
    | (.error e, env) => (.error e, ScriptItem.releaseAll s.commands env)

end CommandSequence

end Provisioning
