import Provisioning.Proofs.Script.LazyCommand
import Provisioning.Script.Sequence

/-!
# Evaluating the items of a script

Items are evaluated in order, each in the environment that those before it left,
and the first failure ends the evaluation.  What the items yield is described
here without regard to that end, as the list of all results: the evaluation
succeeds exactly when the list holds texts only, and otherwise its error is the
first one in the list.
-/

namespace Provisioning

set_option autoImplicit false

namespace ScriptItem

/-! ## One item after another -/

section Steps

variable {item : ScriptItem} {rest first second : List ScriptItem} {env env' : Environment}
  {text : String} {texts : List String} {e : Error}

theorem evaluateAll_cons_ok (ran : item.evaluate env = (.ok text, env')) :
    evaluateAll (item :: rest) env =
      ((evaluateAll rest env').1.map (text :: ·), (evaluateAll rest env').2) := by
  rw [evaluateAll, ran]
  dsimp only
  rcases evaluateAll rest env' with ⟨_ | texts, env''⟩
  · rfl
  · rfl

theorem evaluateAll_cons_error (ran : item.evaluate env = (.error e, env')) :
    evaluateAll (item :: rest) env = (.error e, env') := by
  rw [evaluateAll, ran]

/-- Items have texts when the first has one and the others have theirs in what it leaves. -/
theorem evaluateAll_cons_eq_ok_iff :
    evaluateAll (item :: rest) env = (.ok texts, env') ↔
      ∃ text others env₁, item.evaluate env = (.ok text, env₁) ∧
        evaluateAll rest env₁ = (.ok others, env') ∧ texts = text :: others := by
  constructor
  · intro ran
    rcases head : item.evaluate env with ⟨e | text, env₁⟩
    · rw [evaluateAll_cons_error head] at ran
      cases ran
    · rw [evaluateAll_cons_ok head] at ran
      obtain ⟨result, rfl⟩ := Prod.mk.inj ran
      obtain ⟨others, tail, rfl⟩ := Result.map_eq_ok_iff.mp result
      exact ⟨text, others, env₁, rfl, Prod.ext tail rfl, rfl⟩
  · rintro ⟨text, others, env₁, head, tail, rfl⟩
    rw [evaluateAll_cons_ok head, tail]
    rfl

/-- Items behind others that succeed are evaluated in what those leave. -/
theorem evaluateAll_append_ok (ran : evaluateAll first env = (.ok texts, env')) :
    evaluateAll (first ++ second) env =
      ((evaluateAll second env').1.map (texts ++ ·), (evaluateAll second env').2) := by
  induction first generalizing env texts with
  | nil =>
    cases ran
    rw [List.nil_append]
    rcases evaluateAll second env' with ⟨_ | others, env''⟩
    · rfl
    · rfl
  | cons item rest ih =>
    obtain ⟨text, others, env₁, head, tail, rfl⟩ := evaluateAll_cons_eq_ok_iff.mp ran
    rw [List.cons_append, evaluateAll_cons_ok head, ih tail]
    rcases evaluateAll second env' with ⟨_ | more, env''⟩
    · rfl
    · rfl

/-- What holds of an environment and survives every item survives all of them. -/
theorem evaluateAll_preserves {P : Environment → Prop} {items : List ScriptItem}
    (step : ∀ item ∈ items, ∀ env, P env → P (item.evaluate env).2) (holds : P env) :
    P (evaluateAll items env).2 := by
  induction items generalizing env with
  | nil => exact holds
  | cons item rest ih =>
    have next : P (item.evaluate env).2 := step item List.mem_cons_self env holds
    rcases head : item.evaluate env with ⟨e | text, env₁⟩
    · rw [head] at next
      rw [evaluateAll_cons_error head]
      exact next
    · rw [head] at next
      rw [evaluateAll_cons_ok head]
      exact ih (fun other mem => step other (List.mem_cons_of_mem _ mem)) next

end Steps

/-! ## Lines -/

/-- Lines are their own texts. -/
theorem evaluateAll_lines (lines : List String) (env : Environment) :
    evaluateAll (lines.map .line) env = (.ok lines, env) := by
  induction lines with
  | nil => rfl
  | cons text rest ih =>
    have head : (line text).evaluate env = (.ok text, env) := rfl
    rw [List.map_cons, evaluateAll_cons_ok head, ih]
    rfl

theorem releaseAll_append (first second : List ScriptItem) (env : Environment) :
    releaseAll (first ++ second) env = releaseAll second (releaseAll first env) :=
  List.foldl_append

/-- There is nothing to give up about lines. -/
theorem releaseAll_lines (lines : List String) (env : Environment) :
    releaseAll (lines.map .line) env = env := by
  induction lines with
  | nil => rfl
  | cons text rest ih => exact ih

/-! ## All results -/

/-- What the items yield when they are evaluated one after another, whether or not
those before them succeed. -/
def results : List ScriptItem → Environment → List (Result String)
  | [], _ => []
  | item :: rest, env => (item.evaluate env).1 :: results rest (item.evaluate env).2

section Results

variable {items : List ScriptItem} {env : Environment} {texts : List String} {e : Error}

/-- The results of the first item and of those behind it, put together. -/
theorem fst_evaluateAll_cons (item : ScriptItem) (rest : List ScriptItem) (env : Environment) :
    (evaluateAll (item :: rest) env).1 =
      (item.evaluate env).1 >>= fun text =>
        (evaluateAll rest (item.evaluate env).2).1.map (text :: ·) := by
  rcases head : item.evaluate env with ⟨e | text, env'⟩
  · rw [evaluateAll_cons_error head]
    rfl
  · rw [evaluateAll_cons_ok head]
    rfl

/-- Items have texts exactly when each of them yields its text. -/
theorem evaluateAll_eq_ok_iff :
    (evaluateAll items env).1 = .ok texts ↔ results items env = texts.map .ok := by
  induction items generalizing env texts with
  | nil =>
    constructor
    · rintro ⟨⟩
      rfl
    · intro same
      rw [List.map_eq_nil_iff.mp same.symm]
      rfl
  | cons item rest ih =>
    rw [fst_evaluateAll_cons, results, Result.bind_eq_ok_iff]
    constructor
    · rintro ⟨text, head, tail⟩
      obtain ⟨others, ran, rfl⟩ := Result.map_eq_ok_iff.mp tail
      rw [head, ih.mp ran, List.map_cons]
    · intro same
      obtain ⟨text, others, rfl, head, tail⟩ := List.map_eq_cons_iff.mp same.symm
      exact ⟨text, head.symm, Result.map_eq_ok_iff.mpr ⟨others, ih.mpr tail.symm, rfl⟩⟩

/-- The error of items is the first one that any of them yields. -/
theorem evaluateAll_eq_error_iff :
    (evaluateAll items env).1 = .error e ↔
      ∃ (texts : List String) (rest : List (Result String)),
        results items env = texts.map .ok ++ .error e :: rest := by
  induction items generalizing env with
  | nil => simp [evaluateAll, results]
  | cons item rest ih =>
    rw [fst_evaluateAll_cons, results, Result.bind_eq_error_iff]
    constructor
    · rintro (head | ⟨text, head, tail⟩)
      · exact ⟨[], _, by rw [head]; rfl⟩
      · obtain ⟨texts, later, same⟩ := ih.mp (Result.map_eq_error_iff.mp tail)
        exact ⟨text :: texts, later, by rw [head, same]; rfl⟩
    · rintro ⟨texts, later, same⟩
      cases texts with
      | nil => exact .inl (List.cons.inj same).1
      | cons text others =>
        obtain ⟨head, tail⟩ := List.cons.inj same
        exact .inr ⟨text, head, Result.map_eq_error_iff.mpr (ih.mpr ⟨others, later, tail⟩)⟩

/-- Items have texts when nothing that they yield is an error. -/
theorem exists_texts_iff :
    (∃ texts, (evaluateAll items env).1 = .ok texts) ↔
      ∀ outcome ∈ results items env, ∃ text, outcome = .ok text := by
  constructor
  · rintro ⟨texts, ran⟩ outcome mem
    rw [evaluateAll_eq_ok_iff.mp ran] at mem
    obtain ⟨text, _, rfl⟩ := List.mem_map.mp mem
    exact ⟨text, rfl⟩
  · intro all
    cases ran : (evaluateAll items env).1 with
    | ok texts => exact ⟨texts, rfl⟩
    | error e =>
      obtain ⟨texts, later, first⟩ := evaluateAll_eq_error_iff.mp ran
      have mem : Except.error e ∈ results items env := by
        rw [first]
        simp
      obtain ⟨_, impossible⟩ := all _ mem
      cases impossible

end Results

/-! ## What items do to a store -/

/-- Evaluating items changes nothing in a store but its seal. -/
theorem map_reopen_store?_evaluateAll (items : List ScriptItem) (env : Environment)
    (id : StoreId) :
    ((evaluateAll items env).2.store? id).map RegistrationStore.reopen =
      (env.store? id).map RegistrationStore.reopen := by
  refine evaluateAll_preserves (P := fun env' => (env'.store? id).map RegistrationStore.reopen =
    (env.store? id).map RegistrationStore.reopen) (fun item _ env₁ same => ?_) rfl
  cases item with
  | line text => exact same
  | deferred command => exact (command.map_reopen_store?_evaluate env₁ id).trans same

/-- The item holds no registration command of the store. -/
def Spares (id : StoreId) : ScriptItem → Prop
  | line _ => True
  | deferred command => command.Spares id

section Sparing

variable {id : StoreId} {items later : List ScriptItem} {lines : List String}
  {c : RegistrationCommand} {env env' : Environment} {texts : List String}

theorem store?_evaluateAll_of_spares (spares : ∀ item ∈ items, item.Spares id)
    (env : Environment) : (evaluateAll items env).2.store? id = env.store? id := by
  refine evaluateAll_preserves (P := fun env' => env'.store? id = env.store? id)
    (fun item mem env₁ same => ?_) rfl
  have spared := spares item mem
  cases item with
  | line text => exact same
  | deferred command => exact (LazyCommand.store?_evaluate_of_spares spared env₁).trans same

theorem store?_releaseAll_of_spares (spares : ∀ item ∈ items, item.Spares id)
    (env : Environment) : (releaseAll items env).store? id = env.store? id := by
  induction items generalizing env with
  | nil => rfl
  | cons item rest ih =>
    have same : (item.release env).store? id = env.store? id := by
      cases item with
      | line text => rfl
      | deferred command =>
        exact LazyCommand.store?_release_of_spares (spares _ List.mem_cons_self) env
    exact (ih (fun other mem => spares other (List.mem_cons_of_mem _ mem)) _).trans same

/-! ## Items with one registration command -/

/-- When the items of a sequence have texts, the text of its one registration command
lists the registrations as they are, and their store is sealed. -/
theorem evaluateAll_registration_ok (spares : ∀ item ∈ later, item.Spares c.store)
    (ran : evaluateAll (lines.map .line ++ .deferred (.registration c) :: later) env =
      (.ok texts, env')) :
    c.check = .ok () ∧ (∃ others, texts = lines ++ c.text (env.sources c.store) :: others) ∧
      env'.store? c.store = (env.store? c.store).map RegistrationStore.close := by
  rw [evaluateAll_append_ok (evaluateAll_lines lines env)] at ran
  obtain ⟨result, isLast⟩ := Prod.mk.inj ran
  obtain ⟨found, some, rfl⟩ := Result.map_eq_ok_iff.mp result
  obtain ⟨text, others, env₁, head, tail, rfl⟩ :=
    evaluateAll_cons_eq_ok_iff.mp (Prod.ext some isLast)
  obtain ⟨passed, rfl, rfl⟩ := LazyCommand.evaluate_registration_eq_ok_iff.mp head
  refine ⟨passed, ⟨others, rfl⟩, ?_⟩
  have after := store?_evaluateAll_of_spares spares ((env.note (.evaluated
    (.registration c))).modifyStore c.store RegistrationStore.close)
  rw [tail] at after
  rw [after, Environment.store?_modifyStore_self, Environment.store?_note]

/-- Giving up items with one registration command opens its store. -/
theorem store?_releaseAll_registration (spares : ∀ item ∈ later, item.Spares c.store)
    (lines : List String) (env : Environment) :
    (releaseAll (lines.map .line ++ .deferred (.registration c) :: later) env).store? c.store =
      (env.store? c.store).map RegistrationStore.reopen := by
  rw [releaseAll_append, releaseAll_lines]
  change (releaseAll later ((LazyCommand.registration c).release env)).store? c.store = _
  rw [store?_releaseAll_of_spares spares, LazyCommand.store?_release_registration]

end Sparing

end ScriptItem

/-! ## Sequences -/

namespace CommandSequence

variable {s s' : CommandSequence} {items : List ScriptItem} {commands : List String}

theorem checkOpen_eq_ok_iff : s.checkOpen = .ok () ↔ s.isSealed = false := by
  rw [checkOpen, Result.refuse_eq_ok_iff, Bool.not_eq_true]

theorem addItems_eq_ok_iff :
    s.addItems items = .ok s' ↔
      s.isSealed = false ∧ s' = { s with commands := s.commands ++ items } := by
  rw [addItems, ← checkOpen_eq_ok_iff]
  exact Result.guarded_eq_ok_iff

theorem addOnExit_eq_ok_iff :
    s.addOnExit commands = .ok s' ↔
      s.isSealed = false ∧ s' = { s with onExit := s.onExit ++ commands } := by
  rw [addOnExit, ← checkOpen_eq_ok_iff]
  exact Result.guarded_eq_ok_iff

/-- A render is refused, or it is given texts for the commands, or it gives up the
commands. -/
theorem render_cases (s : CommandSequence) (env : Environment) :
    (∃ e, s.checkOpen = .error e ∧ s.render env = (.error e, env)) ∨
    (s.isSealed = false ∧ ∃ texts env',
      ScriptItem.evaluateAll s.commands env = (.ok texts, env') ∧
      s.render env = (.ok (script texts s.onExit, { s with isSealed := true }), env')) ∨
    (s.isSealed = false ∧ ∃ e env',
      ScriptItem.evaluateAll s.commands env = (.error e, env') ∧
      s.render env = (.error e, ScriptItem.releaseAll s.commands env')) := by
  rw [render]
  match isOpen : s.checkOpen with
  | .error e => exact .inl ⟨e, rfl, rfl⟩
  | .ok () =>
    have unsealed := checkOpen_eq_ok_iff.mp isOpen
    match ScriptItem.evaluateAll s.commands env with
    | (.ok texts, env') => exact .inr (.inl ⟨unsealed, texts, env', rfl, rfl⟩)
    | (.error e, env') => exact .inr (.inr ⟨unsealed, e, env', rfl, rfl⟩)

end CommandSequence

end Provisioning
