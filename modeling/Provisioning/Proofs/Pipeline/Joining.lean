import Provisioning.Proofs.Pipeline.Mirrors

/-!
# What stages tell

A stage tells of its tasks in the order in which they are declared, whichever of them is done
first.  Each task of a parallel stage has a slot of its own, in which nothing but its name is
ever put.  Round after round, every slot is filled or its task is among those that are left.
When none is left, all slots are filled.
-/

namespace Provisioning

set_option autoImplicit false

variable {σ : Type}

namespace PipelineTask

/-! ## Telling tasks -/

theorem mirrors_telling {κ : Type} (keep : κ → κ) (t : PipelineTask σ) :
    (t.telling keep).Mirrors Prod.fst t where
  acts := by
    rw [telling, List.forall₂_map_left_iff, List.forall₂_same]
    exact fun _ _ _ => rfl
  finish s := by
    rw [telling]
    dsimp only
    rcases t.finish s.1 with ⟨_ | ⟨⟩, s'⟩
    · rfl
    · rfl

/-! ## Slots -/

/-- The task fills the slot at the given place, and no other, once it has ended well. -/
structure Fills (names : List String) (place : Nat)
    (u : PipelineTask (σ × List (Option String))) : Prop where
  acts : ∀ act ∈ u.beforePauses, ∀ s, (act s).2 = s.2
  finish_ok : ∀ s s', u.finish s = (.ok (), s') → s'.2 = s.2.set place names[place]?
  finish_error : ∀ s s' e, u.finish s = (.error e, s') → s'.2 = s.2

/-- Tasks that are to fill the slots with the given names, apart from slots that are seen to
elsewhere. -/
structure Filling (names : List String) (elsewhere : Nat → Prop)
    (us : List (PipelineTask (σ × List (Option String)))) (slots : List (Option String)) :
    Prop where
  enough : slots.length = names.length
  fills : ∀ u ∈ us, ∃ place, u.Fills names place
  filled : ∀ place, elsewhere place ∨ slots[place]? = names[place]?.map some ∨
    ∃ u ∈ us, u.Fills names place

section Filling

variable {names : List String} {place : Nat} {elsewhere : Nat → Prop}
  {u u' : PipelineTask (σ × List (Option String))}
  {us left : List (PipelineTask (σ × List (Option String)))}
  {slots : List (Option String)} {s s' : σ × List (Option String)}

theorem fills_inSlot {t : PipelineTask σ} (named : names[place]? = some t.name) :
    (t.inSlot place).Fills names place where
  acts := by
    rw [inSlot, telling, List.forall_mem_map]
    exact fun _ _ _ => rfl
  finish_ok s s' ends := by
    rw [inSlot, telling] at ends
    dsimp only at ends
    split at ends
    · cases ends
      rw [named]
    · cases ends
  finish_error s s' e ends := by
    rw [inSlot, telling] at ends
    dsimp only at ends
    split at ends
    · cases ends
    · cases ends
      rfl

theorem Fills.later {act : σ × List (Option String) → σ × List (Option String)}
    {later : List (σ × List (Option String) → σ × List (Option String))}
    (fills : u.Fills names place) (acts : u.beforePauses = act :: later) :
    Fills names place { u with beforePauses := later } where
  acts act' mem := fills.acts act' (acts ▸ List.mem_cons_of_mem act mem)
  finish_ok := fills.finish_ok
  finish_error := fills.finish_error

theorem Fills.failed (_ : u.Fills names place) (e : Error) : (u.failed e).Fills names place where
  acts := List.forall_mem_nil _
  finish_ok s s' ends := by cases ends
  finish_error s s' e' ends := by
    cases ends
    rfl

/-- A slot that holds the right name holds it still when any slot is given its name. -/
theorem getElem?_set_of_filled (filled : slots[place]? = names[place]?.map some) (other : Nat) :
    (slots.set other names[other]?)[place]? = names[place]?.map some := by
  by_cases same : other = place
  · subst same
    rw [List.getElem?_set_self', filled]
    cases names[other]? with
    | none => rfl
    | some name => rfl
  · rw [List.getElem?_set_ne same, filled]

theorem getElem?_set_own (enough : slots.length = names.length) (place : Nat) :
    (slots.set place names[place]?)[place]? = names[place]?.map some := by
  by_cases bound : place < names.length
  · rw [List.getElem?_set_self (enough ▸ bound), List.getElem?_eq_getElem bound]
    rfl
  · rw [List.getElem?_eq_none (by rw [List.length_set]; omega),
      List.getElem?_eq_none (Nat.not_lt.mp bound)]
    rfl

theorem Filling.tail (filling : Filling names elsewhere (u :: us) slots) :
    Filling names (fun place => elsewhere place ∨ u.Fills names place) us slots where
  enough := filling.enough
  fills := (List.forall_mem_cons.mp filling.fills).2
  filled place := by
    rcases filling.filled place with away | filled | ⟨v, mem, fills⟩
    · exact .inl (.inl away)
    · exact .inr (.inl filled)
    · rcases List.mem_cons.mp mem with rfl | mem
      · exact .inl (.inr fills)
      · exact .inr (.inr ⟨v, mem, fills⟩)

theorem Filling.cons
    (filling : Filling names (fun place => elsewhere place ∨ u.Fills names place) us slots)
    (own : ∃ place, u.Fills names place)
    (stays : ∀ place, u.Fills names place → u'.Fills names place) :
    Filling names elsewhere (u' :: us) slots where
  enough := filling.enough
  fills := List.forall_mem_cons.mpr ⟨own.imp stays, filling.fills⟩
  filled place := by
    rcases filling.filled place with (away | fills) | filled | ⟨v, mem, fills⟩
    · exact .inl away
    · exact .inr (.inr ⟨u', List.mem_cons_self, stays place fills⟩)
    · exact .inr (.inl filled)
    · exact .inr (.inr ⟨v, List.mem_cons_of_mem u' mem, fills⟩)

theorem Filling.done (filling : Filling names elsewhere (u :: us) s.2)
    (ends : u.finish s = (.ok (), s')) : Filling names elsewhere us s'.2 where
  enough := by
    obtain ⟨own, fills⟩ := filling.fills u List.mem_cons_self
    rw [fills.finish_ok s s' ends, List.length_set, filling.enough]
  fills := (List.forall_mem_cons.mp filling.fills).2
  filled place := by
    obtain ⟨own, ownFills⟩ := filling.fills u List.mem_cons_self
    rcases filling.filled place with away | filled | ⟨v, mem, fills⟩
    · exact .inl away
    · rw [ownFills.finish_ok s s' ends]
      exact .inr (.inl (getElem?_set_of_filled filled own))
    · rcases List.mem_cons.mp mem with rfl | mem
      · rw [fills.finish_ok s s' ends]
        exact .inr (.inl (getElem?_set_own filling.enough place))
      · exact .inr (.inr ⟨v, mem, fills⟩)

/-- What a round leaves goes on to fill the slots that are still to be filled. -/
theorem round_filling {prompt clear : Bool} (filling : Filling names elsewhere us s.2)
    (ran : round prompt clear us s = (.ok left, s')) : Filling names elsewhere left s'.2 := by
  -- The slots of the tasks in front are seen to elsewhere, so that changes from task to task.
  fun_induction round prompt clear us s generalizing elsewhere left s' with
  | case1 =>
    cases ran
    exact filling
  | case2 clear u us s act later acts others s₁ run ih =>
    cases ran
    obtain ⟨place, fills⟩ := filling.fills u List.mem_cons_self
    have kept : (act s).2 = s.2 := fills.acts act (acts ▸ List.mem_cons_self) s
    have rest := filling.tail
    rw [← kept] at rest
    exact (ih rest run).cons ⟨place, fills⟩ fun _ fills => fills.later acts
  | case3 => cases ran
  | case4 clear u us s acts s₁ ends ih => exact ih (filling.done ends) ran
  | case5 => cases ran
  | case6 clear u us s acts e s₁ ends blocked others s₂ run ih =>
    cases ran
    obtain ⟨place, fills⟩ := filling.fills u List.mem_cons_self
    have rest := filling.tail
    rw [← fills.finish_error s s₁ e ends] at rest
    exact (ih rest run).cons ⟨place, fills⟩ fun _ fills => fills.failed e
  | case7 => cases ran

/-- When all tasks are done, all slots are filled. -/
theorem slots_of_takeTurns {prompt : Bool} (filling : Filling names (fun _ => False) us s.2)
    (ran : takeTurns prompt us s = (.ok (), s')) : s'.2 = names.map some := by
  fun_induction takeTurns prompt us s with
  | case1 s =>
    cases ran
    refine List.ext_getElem? fun place => ?_
    rw [List.getElem?_map]
    rcases filling.filled place with away | filled | ⟨u, mem, -⟩
    · exact away.elim
    · exact filled
    · cases mem
  | case2 s u us left s₁ run ih => exact ih (round_filling filling run) ran
  | case3 s u us e s₁ run => cases ran

end Filling

/-! ## Joining -/

/-- The slots are empty at first, and each task has its own. -/
theorem filling_inSlot (tasks : List (PipelineTask σ)) :
    Filling (tasks.map (·.name)) (fun _ => False)
      (tasks.zipIdx.map fun t => t.1.inSlot t.2) (tasks.map fun _ => none) where
  enough := by rw [List.length_map, List.length_map]
  fills := by
    rw [List.forall_mem_map]
    intro t mem
    refine ⟨t.2, fills_inSlot ?_⟩
    rw [List.getElem?_map, List.mem_zipIdx_iff_getElem?.mp mem]
    rfl
  filled place := by
    rcases found : tasks[place]? with _ | t
    · rw [List.getElem?_map, List.getElem?_map, found]
      exact .inr (.inl rfl)
    · have mem : (t, place) ∈ tasks.zipIdx := List.mem_zipIdx_iff_getElem?.mpr found
      refine .inr (.inr ⟨_, List.mem_map_of_mem mem, fills_inSlot ?_⟩)
      rw [List.getElem?_map, found]
      rfl

/-- Tasks that take turns are told of in the order in which they are declared. -/
theorem joinTogether_eq (limit : Nat) (tasks : List (PipelineTask σ)) (s : σ) :
    joinTogether limit tasks s =
      ((runTogether limit tasks s).1.map fun _ => tasks.map (·.name),
        (runTogether limit tasks s).2) := by
  have mirrors := mirrors_zipIdx (f := fun e => e.1.inSlot e.2)
    (fun e => mirrors_telling _ e.1) tasks 0
  have same := takeTurns_of_mirrors mirrors (tasks.length ≤ limit) (s, tasks.map fun _ => none)
  have filling := filling_inSlot tasks
  rw [joinTogether, runTogether, runTogether, mirrors.length_eq, same]
  rcases ran : takeTurns (tasks.length ≤ limit) (tasks.zipIdx.map fun e => e.1.inSlot e.2)
    (s, tasks.map fun _ => none) with ⟨e | ⟨⟩, s', slots⟩ <;> rw [ran]
  · rfl
  · have all : slots = (tasks.map (·.name)).map some := slots_of_takeTurns filling ran
    dsimp only
    rw [all, List.filterMap_map]
    exact Prod.ext (congrArg Except.ok (List.filterMap_some)) rfl

theorem run_telling_ok {κ : Type} {keep : κ → κ} {t : PipelineTask σ} {s s' : σ}
    (ran : t.run s = (.ok (), s')) (kept : κ) :
    (t.telling keep).run (s, kept) = (.ok (), s', keep kept) := by
  have before : ∀ (acts : List (σ → σ)) (s : σ),
      (acts.map fun act (s : σ × κ) => (act s.1, s.2)).foldl (fun s act => act s) (s, kept) =
        (acts.foldl (fun s act => act s) s, kept) := by
    intro acts
    induction acts with
    | nil => exact fun _ => rfl
    | cons act acts ih => exact fun s => ih (act s)
  rw [run] at ran
  rw [run, telling, before]
  dsimp only
  rw [ran]

theorem runInOrder_telling {tasks : List (PipelineTask σ)} {s s' : σ}
    (ran : runInOrder tasks s = (.ok (), s')) (names : List String) :
    runInOrder (tasks.map fun t => t.telling (· ++ [t.name])) (s, names) =
      (.ok (), s', names ++ tasks.map (·.name)) := by
  induction tasks generalizing s names with
  | nil =>
    cases ran
    rw [List.map_nil, List.map_nil, List.append_nil]
    rfl
  | cons t tasks ih =>
    rcases first : t.run s with ⟨e | ⟨⟩, s₁⟩
    · rw [runInOrder_cons_error first] at ran
      cases ran
    · rw [runInOrder_cons_ok first] at ran
      rw [List.map_cons, runInOrder_cons_ok (run_telling_ok first names), ih ran,
        List.append_assoc]
      rfl

/-- Tasks that run one after another are told of in this order. -/
theorem joinInOrder_eq (tasks : List (PipelineTask σ)) (s : σ) :
    joinInOrder tasks s =
      ((runInOrder tasks s).1.map fun _ => tasks.map (·.name), (runInOrder tasks s).2) := by
  rcases ran : runInOrder tasks s with ⟨e | ⟨⟩, s'⟩
  · have mirrors : List.Forall₂ (Mirrors (σ := σ) (τ := σ × List String) Prod.fst)
        (tasks.map fun t => t.telling (· ++ [t.name])) tasks := by
      rw [List.forall₂_map_left_iff, List.forall₂_same]
      exact fun t _ => mirrors_telling _ t
    have same := runInOrder_of_mirrors mirrors (s, [])
    rw [ran] at same
    rw [joinInOrder]
    rcases told : runInOrder (tasks.map fun t => t.telling (· ++ [t.name])) (s, []) with ⟨v, w⟩
    rw [told] at same ⊢
    cases same
    rfl
  · rw [joinInOrder, runInOrder_telling ran []]
    rfl

end PipelineTask

/-! ## Stages -/

namespace PipelineStage

variable {limit index : Nat} {stage : PipelineStage σ} {rest : List (PipelineStage σ)} {s s' : σ}

/-- A stage tells of its tasks in the order in which they are declared. -/
theorem run_eq (limit : Nat) (stage : PipelineStage σ) (s : σ) :
    stage.run limit s =
      ((stage.perform limit s).1.map fun _ => stage.tasks.map (·.name),
        (stage.perform limit s).2) := by
  rw [run, perform]
  cases stage.mode with
  | parallel => exact PipelineTask.joinTogether_eq limit stage.tasks s
  | sequential => exact PipelineTask.joinInOrder_eq stage.tasks s

theorem runAll_cons_ok (done : stage.perform limit s = (.ok (), s')) :
    runAll limit index (stage :: rest) s =
      ((runAll limit (index + 1) rest s').1.map
          ({ index := index, label := stage.label, mode := stage.mode,
             tasks := stage.tasks.map (·.name) } :: ·),
        (runAll limit (index + 1) rest s').2) := by
  rw [runAll, run_eq, done]
  dsimp only [Except.map]
  rcases runAll limit (index + 1) rest s' with ⟨_ | reports, s''⟩
  · rfl
  · rfl

theorem runAll_cons_error {e : Error} (failed : stage.perform limit s = (.error e, s')) :
    runAll limit index (stage :: rest) s = (.error e, s') := by
  rw [runAll, run_eq, failed]
  rfl

end PipelineStage

end Provisioning
