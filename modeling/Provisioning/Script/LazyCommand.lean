import Provisioning.Registration.Command

/-!
# Commands whose text comes late

The text of a lazy command is asked for when the script around it is rendered.
It may depend on the registrations made until then, and asking for the text of a
registration command seals its store.  When the script is given up, each of its
lazy commands is released, and a registration command then opens its store again.

The environment holds what lazy commands depend on: the stores, and the commands
that callers supply.  It also keeps a journal of what was asked of lazy commands.
-/

namespace Provisioning

set_option autoImplicit false

/-- Which of the commands that callers supply. -/
structure CallerId where
  index : Nat
  deriving DecidableEq

/-- A command whose text comes late. -/
inductive LazyCommand where
  | fixed (text : String)
  | registration (command : RegistrationCommand)
  | caller (id : CallerId)
  deriving DecidableEq

/-- The text of a command that a caller supplies, given the stores; or the reason
why there is none. -/
abbrev CallerText := List RegistrationStore → Result String

/-- What was asked of a lazy command. -/
inductive LazyCall where
  | evaluated (command : LazyCommand)
  | released (command : LazyCommand)
  deriving DecidableEq

/-- What lazy commands depend on. -/
structure Environment where
  stores : List RegistrationStore
  callers : List CallerText
  /-- What was asked of lazy commands, from first to last. -/
  journal : List LazyCall

namespace Environment

/-- No stores, no commands of callers. -/
def empty : Environment where
  stores := []
  callers := []
  journal := []

/-! ## Stores -/

/-- The store of an id. -/
def store? (env : Environment) (id : StoreId) : Option RegistrationStore :=
  env.stores[id.index]?

/-- Changes a store. -/
def modifyStore (env : Environment) (id : StoreId) (f : RegistrationStore → RegistrationStore) :
    Environment :=
  { env with stores := env.stores.modify id.index f }

/-- The id that the next store gets. -/
def nextStore (env : Environment) : StoreId :=
  ⟨env.stores.length⟩

/-- Adds a store. -/
def addStore (env : Environment) (s : RegistrationStore) : Environment :=
  { env with stores := env.stores ++ [s] }

/-- The registrations of a store; a store that was never made has none. -/
def sources (env : Environment) (id : StoreId) : List SourceSubnet :=
  ((env.store? id).map RegistrationStore.sources).getD []

/-! ## Commands of callers -/

/-- The command of an id. -/
def caller? (env : Environment) (id : CallerId) : Option CallerText :=
  env.callers[id.index]?

/-- The id that the next command gets. -/
def nextCaller (env : Environment) : CallerId :=
  ⟨env.callers.length⟩

/-- Adds a command. -/
def addCaller (env : Environment) (text : CallerText) : Environment :=
  { env with callers := env.callers ++ [text] }

/-- Changes a command. -/
def setCaller (env : Environment) (id : CallerId) (text : CallerText) : Environment :=
  { env with callers := env.callers.set id.index text }

/-- The present text of a command; a command that was never supplied is empty. -/
def callerText (env : Environment) (id : CallerId) : Result String :=
  match env.caller? id with
  | some text => text env.stores
  | none => .ok ""

/-- How often something was asked. -/
def count (env : Environment) (call : LazyCall) : Nat :=
  env.journal.count call

/-- Notes what was asked. -/
def note (env : Environment) (call : LazyCall) : Environment :=
  { env with journal := env.journal ++ [call] }

end Environment

namespace LazyCommand

/-- Asks for the text of a command.  A registration command whose subnets are in
order seals its store. -/
def evaluate (c : LazyCommand) (env : Environment) : Result String × Environment :=
  let env := env.note (.evaluated c)
  match c with
  | fixed text => (.ok text, env)
  | caller id => (env.callerText id, env)
  | registration command =>
    match command.check with
    | .error e => (.error e, env)
    | .ok () =>
      (.ok (command.text (env.sources command.store)),
        env.modifyStore command.store RegistrationStore.close)

/-- Gives up the text of a command. -/
def release (c : LazyCommand) (env : Environment) : Environment :=
  let env := env.note (.released c)
  match c with
  | registration command => env.modifyStore command.store RegistrationStore.reopen
  | _ => env

end LazyCommand

end Provisioning
