import Provisioning.Error

/-!
# Trails of boot stages

While a boot script is rendered, the stages that the boot will pass through are
recorded.  A stage is recorded only if it may follow the one before.
-/

namespace Provisioning

set_option autoImplicit false

/-- The stages recorded so far. -/
structure StageTrail where
  selfTerminate : Bool
  /-- The stages before the current one. -/
  passed : List BootStage
  current : BootStage
  deriving DecidableEq

namespace StageTrail

/-- The trail of an instance that has not booted. -/
def start (selfTerminate : Bool) : StageTrail where
  selfTerminate := selfTerminate
  passed := []
  current := .pendingBoot

/-- All recorded stages, in order. -/
def stages (t : StageTrail) : List BootStage :=
  t.passed ++ [t.current]

/-- Records the next stage. -/
def advance (t : StageTrail) (target : BootStage) : Result StageTrail :=
  if t.current.next t.selfTerminate = some target then
    .ok { t with passed := t.stages, current := target }
  else .error (.internal (.illegalTransition t.current target))

/-- The trail after a move was tried; a move that is refused changes nothing. -/
def tryAdvance (t : StageTrail) (target : BootStage) : StageTrail :=
  match t.advance target with
  | .ok advanced => advanced
  | .error _ => t

/-- The trails after each of several moves that are tried one after another. -/
def tryAll (t : StageTrail) : List BootStage → List StageTrail
  | [] => []
  | target :: rest => t.tryAdvance target :: (t.tryAdvance target).tryAll rest

end StageTrail

end Provisioning
