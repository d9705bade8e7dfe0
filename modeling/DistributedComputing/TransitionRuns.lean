import Mathlib.Data.List.Basic

/-!
# Runs of labelled transition systems

A deterministic transition system is a step function whose action carries every
choice of the environment.  This file packages the inductions over finite runs:
invariants conditional on what each step finds, the step at which a property that
held at the start was lost, and systems that answer alike.
-/

namespace DistributedComputing

namespace TransitionRuns

variable {State Action : Type*} (step : State → Action → State)

/-- The state after a finite sequence of actions. -/
def run (start : State) (actions : List Action) : State :=
  actions.foldl step start

@[simp]
theorem run_nil (start : State) : run step start [] = start :=
  rfl

@[simp]
theorem run_cons (start : State) (action : Action) (actions : List Action) :
    run step start (action :: actions) = run step (step start action) actions :=
  rfl

@[simp]
theorem run_append (start : State) (first second : List Action) :
    run step start (first ++ second) = run step (run step start first) second := by
  simp [run]

/-- Every action of a run is allowed in the state in which it is taken. -/
def Along (allowed : State → Action → Prop) : State → List Action → Prop
  | _, [] => True
  | state, action :: actions =>
      allowed state action ∧ Along allowed (step state action) actions

theorem along_append (allowed : State → Action → Prop) (start : State)
    (first second : List Action) :
    Along step allowed start (first ++ second) ↔
      Along step allowed start first ∧
        Along step allowed (run step start first) second := by
  induction first generalizing start with
  | nil => simp [Along]
  | cons action actions ih => simp [Along, ih, and_assoc]

/-- The pointwise reading of `Along`. -/
theorem along_iff (allowed : State → Action → Prop) (start : State)
    (actions : List Action) :
    Along step allowed start actions ↔
      ∀ before action after, actions = before ++ action :: after →
        allowed (run step start before) action := by
  constructor
  · rintro along before action after rfl
    exact ((along_append step allowed start before (action :: after)).mp along).2.1
  · intro pointwise
    induction actions generalizing start with
    | nil => trivial
    | cons action actions ih =>
        refine ⟨pointwise [] action actions rfl, ih _ ?_⟩
        rintro before next after rfl
        exact pointwise (action :: before) next after rfl

/-- Actions that are allowed in every state. -/
theorem along_of_forall {allowed : Action → Prop} {actions : List Action}
    (each : ∀ action ∈ actions, allowed action) (start : State) :
    Along step (fun _ => allowed) start actions := by
  induction actions generalizing start with
  | nil => trivial
  | cons action actions ih =>
      rw [List.forall_mem_cons] at each
      exact ⟨each.1, ih each.2 _⟩

theorem Along.mono {allowed permitted : State → Action → Prop}
    (weaker : ∀ state action, allowed state action → permitted state action)
    {start : State} {actions : List Action}
    (along : Along step allowed start actions) :
    Along step permitted start actions := by
  rw [along_iff] at along ⊢
  intro before action after split
  exact weaker _ _ (along before action after split)

theorem Along.and {first second : State → Action → Prop} {start : State}
    {actions : List Action} (along : Along step first start actions)
    (alongToo : Along step second start actions) :
    Along step (fun state action => first state action ∧ second state action) start actions := by
  induction actions generalizing start with
  | nil => trivial
  | cons action actions ih => exact ⟨⟨along.1, alongToo.1⟩, ih along.2 alongToo.2⟩

/-- An invariant that steps preserve only when they are allowed holds at the
end of every run whose steps all are. -/
theorem run_invariant_along {holds : State → Prop}
    {allowed : State → Action → Prop}
    (preserved : ∀ state action, allowed state action → holds state →
      holds (step state action))
    {start : State} (initially : holds start) {actions : List Action}
    (along : Along step allowed start actions) :
    holds (run step start actions) := by
  induction actions generalizing start with
  | nil => exact initially
  | cons action actions ih =>
      exact ih (preserved start action along.1 initially) along.2

/-- A property lost by the end of a run was lost by one of its steps. -/
theorem exists_breaking_step (holds : State → Prop) {start : State}
    {actions : List Action} (initially : holds start)
    (lost : ¬ holds (run step start actions)) :
    ∃ before action after, actions = before ++ action :: after ∧
      holds (run step start before) ∧
        ¬ holds (step (run step start before) action) := by
  induction actions generalizing start with
  | nil => exact (lost initially).elim
  | cons action actions ih =>
      by_cases kept : holds (step start action)
      · obtain ⟨before, next, after, rfl, held, broken⟩ := ih kept lost
        exact ⟨action :: before, next, after, rfl, held, broken⟩
      · exact ⟨[], action, actions, rfl, initially, kept⟩

/-- The actions of a run, each with the state in which it is taken. -/
def visits : State → List Action → List (State × Action)
  | _, [] => []
  | state, action :: actions => (state, action) :: visits (step state action) actions

theorem visits_append (start : State) (first second : List Action) :
    visits step start (first ++ second) =
      visits step start first ++ visits step (run step start first) second := by
  induction first generalizing start with
  | nil => rfl
  | cons action actions ih => simp [visits, ih]

/-- An entry of a history with one more entry is the new one, or was there before. -/
theorem split_concat {Entry : Type*} {history earlier later : List Entry} {newest entry : Entry}
    (split : history ++ [newest] = earlier ++ entry :: later) :
    (later = [] ∧ entry = newest ∧ earlier = history) ∨
      ∃ between, later = between ++ [newest] ∧ history = earlier ++ entry :: between := by
  rcases List.eq_nil_or_concat later with rfl | ⟨between, last, rfl⟩
  · obtain ⟨older, same⟩ := List.append_inj' split rfl
    exact .inl ⟨rfl, (List.head_eq_of_cons_eq same).symm, older.symm⟩
  · rw [List.concat_eq_append, ← List.cons_append, ← List.append_assoc] at split
    obtain ⟨older, same⟩ := List.append_inj' split rfl
    have sameLast : newest = last := List.head_eq_of_cons_eq same
    exact .inr ⟨between, by rw [sameLast, List.concat_eq_append], older⟩

section Outputs

variable {Abstract Output : Type*}

/-- What a system that answers every action answers along a run. -/
def outputs (answer : State → Action → Output × State) : State → List Action → List Output
  | _, [] => []
  | state, action :: actions =>
      (answer state action).1 :: outputs answer (answer state action).2 actions

section Simulation

variable {rel : State → Abstract → Prop} {concrete : State → Action → Output × State}
  {abstract : Abstract → Action → Output × Abstract}

/-- Systems in states that allowed actions keep related answer alike. -/
theorem outputs_eq_along {allowed : State → Action → Prop}
    (simulates : ∀ state image action, allowed state action → rel state image →
      (concrete state action).1 = (abstract image action).1 ∧
        rel (concrete state action).2 (abstract image action).2)
    {state : State} {image : Abstract} (related : rel state image) {actions : List Action}
    (along : Along (fun state action => (concrete state action).2) allowed state actions) :
    outputs concrete state actions = outputs abstract image actions := by
  induction actions generalizing state image with
  | nil => rfl
  | cons action actions ih =>
      obtain ⟨same, still⟩ := simulates state image action along.1 related
      rw [outputs, outputs, same, ih still along.2]

/-- Systems in states that stay related answer alike. -/
theorem outputs_eq_of_simulation
    (simulates : ∀ state image action, rel state image →
      (concrete state action).1 = (abstract image action).1 ∧
        rel (concrete state action).2 (abstract image action).2)
    {state : State} {image : Abstract} (related : rel state image) (actions : List Action) :
    outputs concrete state actions = outputs abstract image actions := by
  exact outputs_eq_along (fun state image action _ => simulates state image action) related
    (along_of_forall _ (fun _ _ => trivial) state)

end Simulation

end Outputs

end TransitionRuns

end DistributedComputing
