import DistributedComputing.CallProgram

/-!
# Finished runs of a program

A finished run is the list of the calls that a program made, each with its reply.  A
handler answers the calls of one program with programs over another service, and keeps a
state of its own between them.
-/

namespace DistributedComputing

namespace CallProgram

variable {Call : Type} {Reply : Call → Type} {Error Result Next : Type}

/-- The program returns the result after exactly these calls with these replies. -/
inductive Finishes : CallProgram Call Reply Error Result → List (Sigma Reply) → Result → Prop
  | done (result : Result) : Finishes (.done result) [] result
  | call {request : Call} {next : Reply request → CallProgram Call Reply Error Result}
      {reply : Reply request} {events : List (Sigma Reply)} {result : Result}
      (rest : Finishes (next reply) events result) :
      Finishes (.call request next) (⟨request, reply⟩ :: events) result

@[simp]
theorem finishes_done_iff {result other : Result} {events : List (Sigma Reply)} :
    (.done result : CallProgram Call Reply Error Result).Finishes events other ↔
      events = [] ∧ other = result := by
  constructor
  · rintro ⟨⟩
    exact ⟨rfl, rfl⟩
  · rintro ⟨rfl, rfl⟩
    exact .done _

theorem finishes_call_iff {request : Call}
    {next : Reply request → CallProgram Call Reply Error Result} {events : List (Sigma Reply)}
    {result : Result} :
    (CallProgram.call request next).Finishes events result ↔
      ∃ reply rest, events = ⟨request, reply⟩ :: rest ∧ (next reply).Finishes rest result := by
  constructor
  · rintro ⟨⟩
    exact ⟨_, _, rfl, by assumption⟩
  · rintro ⟨reply, rest, rfl, finished⟩
    exact .call finished

theorem finishes_perform_bind_iff {request : Call}
    {next : Reply request → CallProgram Call Reply Error Result} {events : List (Sigma Reply)}
    {result : Result} :
    (perform request >>= next).Finishes events result ↔
      ∃ reply rest, events = ⟨request, reply⟩ :: rest ∧ (next reply).Finishes rest result :=
  finishes_call_iff

/-- A run of two programs is a run of the first and then one of the second. -/
theorem finishes_bind_iff {program : CallProgram Call Reply Error Result}
    {after : Result → CallProgram Call Reply Error Next} {events : List (Sigma Reply)}
    {result : Next} :
    (program >>= after).Finishes events result ↔
      ∃ middle first second, events = first ++ second ∧ program.Finishes first middle ∧
        (after middle).Finishes second result := by
  induction program generalizing events with
  | done middle =>
      constructor
      · exact fun finished => ⟨middle, [], events, rfl, .done middle, finished⟩
      · rintro ⟨_, _, _, rfl, ⟨⟩, finished⟩
        exact finished
  | raise error =>
      constructor
      · rintro ⟨⟩
      · rintro ⟨_, _, _, _, ⟨⟩, _⟩
  | call request next ih =>
      constructor
      · intro finished
        obtain ⟨reply, rest, rfl, restFinished⟩ := finishes_call_iff.mp finished
        obtain ⟨middle, first, second, rfl, firstFinished, secondFinished⟩ :=
          (ih reply).mp restFinished
        exact ⟨middle, _, second, rfl, .call firstFinished, secondFinished⟩
      · rintro ⟨middle, _, second, rfl, firstFinished, secondFinished⟩
        obtain ⟨reply, rest, rfl, restFinished⟩ := finishes_call_iff.mp firstFinished
        exact .call ((ih reply).mpr ⟨middle, rest, second, rfl, restFinished, secondFinished⟩)

/-- Every call of a run is one that the program may issue. -/
theorem Issues.allowed_of_finishes {allowed : Call → Prop}
    {program : CallProgram Call Reply Error Result} (issues : program.Issues allowed)
    {events : List (Sigma Reply)} {result : Result} (finished : program.Finishes events result) :
    ∀ event ∈ events, allowed event.1 := by
  induction finished with
  | done result => simp
  | call rest ih =>
      rintro event (_ | ⟨_, member⟩)
      · exact issues.1
      · exact ih (issues.2 _) event member

section Handlers

variable {Target : Type} {TargetReply : Target → Type} {State : Type}
  (handler : (request : Call) → State →
    CallProgram Target TargetReply Error (Reply request × State))

/-- The program with every call answered by the handler. -/
def handled : CallProgram Call Reply Error Result → State →
    CallProgram Target TargetReply Error Result
  | .done result, _ => .done result
  | .raise error, _ => .raise error
  | .call request next, state =>
      handler request state >>= fun answer => (next answer.1).handled answer.2

@[simp]
theorem handled_done (result : Result) (state : State) :
    (.done result : CallProgram Call Reply Error Result).handled handler state = .done result :=
  rfl

theorem handled_call (request : Call)
    (next : Reply request → CallProgram Call Reply Error Result) (state : State) :
    (CallProgram.call request next).handled handler state =
      handler request state >>= fun answer => (next answer.1).handled handler answer.2 :=
  rfl

/-- What the program returns when it is handled, it returns for some replies. -/
theorem exists_finishes_of_handled {program : CallProgram Call Reply Error Result} {state : State}
    {events : List (Sigma TargetReply)} {result : Result}
    (finished : (program.handled handler state).Finishes events result) :
    ∃ calls, program.Finishes calls result := by
  induction program generalizing state events with
  | done other =>
      obtain ⟨rfl, rfl⟩ := finishes_done_iff.mp finished
      exact ⟨[], .done _⟩
  | raise error => cases finished
  | call request next ih =>
      rw [handled_call, finishes_bind_iff] at finished
      obtain ⟨answer, first, second, rfl, _, rest⟩ := finished
      obtain ⟨calls, restFinished⟩ := ih answer.1 rest
      exact ⟨_, .call restFinished⟩

end Handlers

end CallProgram

end DistributedComputing
