import Provisioning.Proofs.Script.Journal

/-!
# Lazy commands of any kind

A sequence knows nothing of its lazy commands but that each can be asked for a text, which may
fail, and can be released.  Here they are taken as just that.  A behaviour answers from a state
of which nothing is known and may change it, so a command may fail at one time and not at
another, even within one script.  Beside the state everything that was asked is recorded.

The commands of an environment are one such behaviour, and the journal of the environment is
the record (`render_recorded`).
-/

namespace Provisioning

set_option autoImplicit false

/-! ## Behaviours -/

/-- How lazy commands behave, in a state that they share. -/
structure LazyBehaviour (σ : Type) where
  evaluate : LazyCommand → σ → Result String × σ
  release : LazyCommand → σ → σ

/-- A state and what was asked of lazy commands, from first to last. -/
structure Recorded (σ : Type) where
  state : σ
  journal : List LazyCall

/-- The lazy commands among items, as often as they occur. -/
def ScriptItem.lazyCommands (items : List ScriptItem) : List LazyCommand :=
  items.filterMap fun
    | .line _ => none
    | .deferred command => some command

/-- All items of a sequence, first those of the main commands. -/
def CommandSequence.items (s : CommandSequence) : List ScriptItem :=
  s.commands ++ s.onExit.map .line

namespace LazyBehaviour

open ScriptItem

variable {σ : Type} (b : LazyBehaviour σ)

/-- The text of an item. -/
def evaluateItem (item : ScriptItem) (r : Recorded σ) : Result String × Recorded σ :=
  match item with
  | .line text => (.ok text, r)
  | .deferred c =>
    let (text, state) := b.evaluate c r.state
    (text, { state, journal := r.journal ++ [.evaluated c] })

/-- The texts of items, in order, up to the first that fails. -/
def evaluateAll : List ScriptItem → Recorded σ → Result (List String) × Recorded σ
  | [], r => (.ok [], r)
  | item :: rest, r =>
    match b.evaluateItem item r with
    | (.error e, r) => (.error e, r)
    | (.ok text, r) =>
      match evaluateAll rest r with
      | (.error e, r) => (.error e, r)
      | (.ok texts, r) => (.ok (text :: texts), r)

/-- Gives up the text of an item. -/
def releaseItem (item : ScriptItem) (r : Recorded σ) : Recorded σ :=
  match item with
  | .line _ => r
  | .deferred c => { state := b.release c r.state, journal := r.journal ++ [.released c] }

/-- Gives up the texts of items, in order. -/
def releaseAll (items : List ScriptItem) (r : Recorded σ) : Recorded σ :=
  items.foldl (fun r item => b.releaseItem item r) r

/-- Renders a sequence: asks for the texts of the main commands, then for those of the exit,
and gives up all of them when one fails. -/
def render (s : CommandSequence) (r : Recorded σ) :
    Result (String × CommandSequence) × Recorded σ :=
  match s.checkOpen with
  | .error e => (.error e, r)
  | .ok () =>
    match b.evaluateAll s.commands r with
    | (.error e, r) => (.error e, b.releaseAll s.items r)
    | (.ok commands, r) =>
      match b.evaluateAll (s.onExit.map .line) r with
      | (.error e, r) => (.error e, b.releaseAll s.items r)
      | (.ok onExit, r) =>
        (.ok (CommandSequence.script commands onExit, { s with isSealed := true }), r)

/-! ## What was asked -/

/-- Every item has a text, each in the state that the one before it left. -/
inductive Evaluates : List ScriptItem → σ → List String → σ → Prop
  | nil (t : σ) : Evaluates [] t [] t
  | line {text : String} {rest : List ScriptItem} {t t' : σ} {texts : List String}
      (others : Evaluates rest t texts t') : Evaluates (.line text :: rest) t (text :: texts) t'
  | deferred {c : LazyCommand} {text : String} {rest : List ScriptItem} {t t₁ t' : σ}
      {texts : List String} (head : b.evaluate c t = (.ok text, t₁))
      (others : Evaluates rest t₁ texts t') : Evaluates (.deferred c :: rest) t (text :: texts) t'

/-- A lazy command behind items that all have texts fails. -/
def FailsAfter (first : List ScriptItem) (c : LazyCommand) (t : σ) (e : Error) (t' : σ) : Prop :=
  ∃ texts t₁, b.Evaluates first t texts t₁ ∧ b.evaluate c t₁ = (.error e, t')

/-- The state after commands were released, one after another. -/
def releasedState (commands : List LazyCommand) (t : σ) : σ :=
  commands.foldl (fun t c => b.release c t) t

variable {b} {item : ScriptItem} {first rest : List ScriptItem} {r r' : Recorded σ}
  {text : String} {texts texts' : List String} {c : LazyCommand} {t t' t'' : σ} {e : Error}

theorem Evaluates.append (left : b.Evaluates first t texts t')
    (right : b.Evaluates rest t' texts' t'') :
    b.Evaluates (first ++ rest) t (texts ++ texts') t'' := by
  induction left with
  | nil t => exact right
  | line _ ih => exact .line (ih right)
  | deferred head _ ih => exact .deferred head (ih right)

theorem Evaluates.lines (b : LazyBehaviour σ) (lines : List String) (t : σ) :
    b.Evaluates (lines.map .line) t lines t := by
  induction lines with
  | nil => exact .nil t
  | cons line rest ih => exact .line ih

theorem evaluateAll_cons_ok (ran : b.evaluateItem item r = (.ok text, r')) :
    b.evaluateAll (item :: rest) r =
      ((b.evaluateAll rest r').1.map (text :: ·), (b.evaluateAll rest r').2) := by
  rw [evaluateAll, ran]
  dsimp only
  rcases b.evaluateAll rest r' with ⟨_ | texts, r''⟩
  · rfl
  · rfl

theorem evaluateAll_cons_error (ran : b.evaluateItem item r = (.error e, r')) :
    b.evaluateAll (item :: rest) r = (.error e, r') := by
  rw [evaluateAll, ran]

/-- Either all items have texts, or one of the lazy commands is the first that fails.  Each
lazy command up to there was asked once, in order, and none behind it was asked. -/
theorem evaluateAll_cases (b : LazyBehaviour σ) (items : List ScriptItem) (r : Recorded σ) :
    (∃ texts t', b.Evaluates items r.state texts t' ∧
      b.evaluateAll items r =
        (.ok texts, ⟨t', r.journal ++ (lazyCommands items).map .evaluated⟩)) ∨
    ∃ first c rest e t', items = first ++ .deferred c :: rest ∧
      b.FailsAfter first c r.state e t' ∧
      b.evaluateAll items r =
        (.error e, ⟨t', r.journal ++ (lazyCommands first ++ [c]).map .evaluated⟩) := by
  -- The record is generalized: each item leaves another one to the items behind it.
  induction items generalizing r with
  | nil =>
    refine .inl ⟨[], r.state, .nil _, ?_⟩
    rw [lazyCommands, List.filterMap_nil, List.map_nil, List.append_nil]
    rfl
  | cons item rest ih =>
    cases item with
    | line text =>
      have ran : b.evaluateItem (.line text) r = (.ok text, r) := rfl
      rw [evaluateAll_cons_ok ran]
      rcases ih r with ⟨texts, t', evaluates, others⟩ |
        ⟨first, c, behind, e, t', rfl, ⟨texts, t₁, before, failed⟩, others⟩
      · rw [others]
        exact .inl ⟨text :: texts, t', .line evaluates, rfl⟩
      · rw [others]
        exact .inr ⟨.line text :: first, c, behind, e, t', rfl,
          ⟨text :: texts, t₁, .line before, failed⟩, rfl⟩
    | deferred c =>
      -- Only a lazy command can fail, and then it is the first that does.
      rcases head : b.evaluate c r.state with ⟨e | text, t₁⟩
      · have ran : b.evaluateItem (.deferred c) r =
            (.error e, ⟨t₁, r.journal ++ [.evaluated c]⟩) := by
          rw [evaluateItem, head]
        rw [evaluateAll_cons_error ran]
        exact .inr ⟨[], c, rest, e, t₁, rfl, ⟨[], r.state, .nil _, head⟩, rfl⟩
      · have ran : b.evaluateItem (.deferred c) r =
            (.ok text, ⟨t₁, r.journal ++ [.evaluated c]⟩) := by
          rw [evaluateItem, head]
        rw [evaluateAll_cons_ok ran]
        rcases ih ⟨t₁, r.journal ++ [.evaluated c]⟩ with ⟨texts, t', evaluates, others⟩ |
          ⟨first, c', behind, e, t', rfl, ⟨texts, t₂, before, failed⟩, others⟩
        · rw [others, List.append_assoc]
          exact .inl ⟨text :: texts, t', .deferred head evaluates, rfl⟩
        · rw [others, List.append_assoc]
          exact .inr ⟨.deferred c :: first, c', behind, e, t', rfl,
            ⟨text :: texts, t₂, .deferred head before, failed⟩, rfl⟩

/-- Each lazy command is released once, in order. -/
theorem releaseAll_eq (b : LazyBehaviour σ) (items : List ScriptItem) (r : Recorded σ) :
    b.releaseAll items r =
      ⟨b.releasedState (lazyCommands items) r.state,
        r.journal ++ (lazyCommands items).map .released⟩ := by
  induction items generalizing r with
  | nil =>
    rw [lazyCommands, List.filterMap_nil, List.map_nil, List.append_nil]
    rfl
  | cons item rest ih =>
    cases item with
    | line text => exact ih r
    | deferred c =>
      have others := ih (b.releaseItem (.deferred c) r)
      rw [releaseItem, List.append_assoc] at others
      exact others

theorem lazyCommands_append (first second : List ScriptItem) :
    lazyCommands (first ++ second) = lazyCommands first ++ lazyCommands second :=
  List.filterMap_append

theorem lazyCommands_lines (lines : List String) : lazyCommands (lines.map .line) = [] := by
  induction lines with
  | nil => rfl
  | cons line rest ih => exact ih

theorem evaluateAll_lines (b : LazyBehaviour σ) (lines : List String) (r : Recorded σ) :
    b.evaluateAll (lines.map .line) r = (.ok lines, r) := by
  induction lines with
  | nil => rfl
  | cons line rest ih =>
    have ran : b.evaluateItem (.line line) r = (.ok line, r) := rfl
    rw [List.map_cons, evaluateAll_cons_ok ran, ih]
    rfl

/-- A sequence that is sealed is not rendered, and nothing is asked.  One that is open is
rendered when all its items have texts; otherwise the first failure is the error, and then
all lazy commands are released. -/
theorem render_cases (b : LazyBehaviour σ) (s : CommandSequence) (r : Recorded σ) :
    (s.isSealed = true ∧ b.render s r = (.error (.state .sequenceRendered), r)) ∨
    (s.isSealed = false ∧ ∃ texts t', b.Evaluates s.items r.state (texts ++ s.onExit) t' ∧
      b.render s r =
        (.ok (CommandSequence.script texts s.onExit, { s with isSealed := true }),
          ⟨t', r.journal ++ (lazyCommands s.items).map .evaluated⟩)) ∨
    (s.isSealed = false ∧ ∃ first c rest e t', s.items = first ++ .deferred c :: rest ∧
      b.FailsAfter first c r.state e t' ∧
      b.render s r =
        (.error e, ⟨b.releasedState (lazyCommands s.items) t',
          r.journal ++ (lazyCommands first ++ [c]).map .evaluated ++
            (lazyCommands s.items).map .released⟩)) := by
  rw [render]
  cases isSealed : s.isSealed with
  | true =>
    rw [CommandSequence.checkOpen, if_pos isSealed]
    exact .inl ⟨rfl, rfl⟩
  | false =>
    rw [CommandSequence.checkOpen_eq_ok_iff.mpr isSealed]
    dsimp only
    rcases b.evaluateAll_cases s.commands r with ⟨texts, t', evaluates, ran⟩ |
      ⟨first, c, rest, e, t', split, failsAfter, ran⟩
    · rw [ran]
      dsimp only
      rw [evaluateAll_lines, CommandSequence.items, lazyCommands_append, lazyCommands_lines,
        List.append_nil]
      exact .inr (.inl ⟨rfl, texts, t', evaluates.append (.lines b s.onExit t'), rfl⟩)
    · rw [ran]
      dsimp only
      rw [releaseAll_eq]
      refine .inr (.inr ⟨rfl, first, c, rest ++ s.onExit.map .line, e, t', ?_, failsAfter, rfl⟩)
      rw [CommandSequence.items, split, List.append_assoc, List.cons_append]

end LazyBehaviour

/-! ## The commands of an environment -/

namespace Environment

/-- What the commands of an environment share: the stores, and the commands of callers. -/
abbrev Shared : Type := List RegistrationStore × List CallerText

/-- What the commands share, with the journal as the record. -/
def recorded (env : Environment) : Recorded Shared where
  state := (env.stores, env.callers)
  journal := env.journal

/-- An environment in which nothing was asked so far. -/
def ofShared (shared : Shared) : Environment where
  stores := shared.1
  callers := shared.2
  journal := []

/-- How the commands of an environment behave. -/
def behaviour : LazyBehaviour Shared where
  evaluate c shared :=
    let (text, env) := c.evaluate (ofShared shared)
    (text, (env.stores, env.callers))
  release c shared :=
    let env := c.release (ofShared shared)
    (env.stores, env.callers)

theorem agrees_ofShared (env : Environment) : env.Agrees (ofShared (env.stores, env.callers)) :=
  ⟨rfl, rfl⟩

theorem recorded_of_agrees {env env' : Environment} (agrees : env.Agrees env') :
    env.recorded = ⟨(env'.stores, env'.callers), env.journal⟩ := by
  rw [recorded, agrees.stores, agrees.callers]

theorem journal_evaluate (c : LazyCommand) (env : Environment) :
    (c.evaluate env).2.journal = env.journal ++ [.evaluated c] := by
  cases c with
  | fixed text => rfl
  | caller id => rfl
  | registration command =>
    rw [LazyCommand.evaluate]
    cases command.check with
    | error e => rfl
    | ok passed => rfl

theorem journal_release (c : LazyCommand) (env : Environment) :
    (c.release env).journal = env.journal ++ [.released c] := by
  cases c with
  | fixed text => rfl
  | caller id => rfl
  | registration command => rfl

theorem evaluateItem_recorded (item : ScriptItem) (env : Environment) :
    behaviour.evaluateItem item env.recorded =
      ((item.evaluate env).1, (item.evaluate env).2.recorded) := by
  cases item with
  | line text => rfl
  | deferred c =>
    obtain ⟨sameText, agrees⟩ := env.agrees_ofShared.evaluate c
    refine Prod.ext sameText ?_
    rw [ScriptItem.evaluate, recorded_of_agrees agrees, journal_evaluate]
    rfl

theorem evaluateAll_recorded (items : List ScriptItem) (env : Environment) :
    behaviour.evaluateAll items env.recorded =
      ((ScriptItem.evaluateAll items env).1, (ScriptItem.evaluateAll items env).2.recorded) := by
  induction items generalizing env with
  | nil => rfl
  | cons item rest ih =>
    have head := evaluateItem_recorded item env
    rcases ran : item.evaluate env with ⟨e | text, env₁⟩
    · rw [ran] at head
      rw [LazyBehaviour.evaluateAll_cons_error head, ScriptItem.evaluateAll_cons_error ran]
    · rw [ran] at head
      rw [LazyBehaviour.evaluateAll_cons_ok head, ScriptItem.evaluateAll_cons_ok ran, ih]

theorem releaseAll_recorded (items : List ScriptItem) (env : Environment) :
    behaviour.releaseAll items env.recorded = (ScriptItem.releaseAll items env).recorded := by
  induction items generalizing env with
  | nil => rfl
  | cons item rest ih =>
    have head : behaviour.releaseItem item env.recorded = (item.release env).recorded := by
      cases item with
      | line text => rfl
      | deferred c =>
        have agrees := env.agrees_ofShared.release c
        rw [ScriptItem.release, recorded_of_agrees agrees, journal_release]
        rfl
    change behaviour.releaseAll rest (behaviour.releaseItem item env.recorded) = _
    rw [head, ih]
    rfl

/-- A sequence is rendered in an environment as it is with the behaviour of its commands. -/
theorem render_recorded (s : CommandSequence) (env : Environment) :
    behaviour.render s env.recorded = ((s.render env).1, (s.render env).2.recorded) := by
  rw [LazyBehaviour.render, CommandSequence.render]
  rcases s.checkOpen with e | ⟨⟩
  · rfl
  · dsimp only
    rw [evaluateAll_recorded]
    rcases ScriptItem.evaluateAll s.commands env with ⟨e | texts, env₁⟩
    · dsimp only
      rw [releaseAll_recorded, CommandSequence.items, ScriptItem.releaseAll_append,
        ScriptItem.releaseAll_lines]
    · dsimp only
      rw [LazyBehaviour.evaluateAll_lines]

end Environment

end Provisioning
