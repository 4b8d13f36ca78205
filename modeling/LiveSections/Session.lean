import LiveSections.Text.Basic

/-!
# Sessions

A computation that changes a state, leaves a trace of events and ends with a result or an error.
The trace is kept also when the computation fails.

- `Sink`: what takes in warnings.
- `Event`: what a compilation reports while it runs.
- `Session σ ε α`: computations over a state `σ` that end with an `α` or an `ε`.
- `Session.emit`: reports one event.
-/

namespace LiveSections

/-- What takes in warnings. Sinks are told apart by a number. -/
structure Sink where
  number : Nat
  deriving DecidableEq, Repr

/-- The sink of those who name none. -/
def Sink.standard : Sink := ⟨0⟩

/-- What is reported while documents are compiled. -/
inductive Event where
  /-- A diagnostic for a warning sink. -/
  | warning (sink : Sink) (message : String)
  /-- A log message, shown from a verbosity on. -/
  | log (level : Int) (message : String)
  /-- A section's program is handed to the evaluator. -/
  | evaluation (name program stale : Text)
  deriving DecidableEq, Repr

/-- The end of a computation: the state it left, what it reported, its result. -/
structure Ending (σ ε α : Type) where
  state : σ
  events : List Event
  result : Except ε α

/-- A computation over a state `σ` that reports events and ends with an `α` or an `ε`. -/
def Session (σ ε α : Type) : Type := σ → Ending σ ε α

namespace Session

variable {σ ε ε' α β : Type}

/-- Runs a computation from a state. -/
def run (x : Session σ ε α) (s : σ) : Ending σ ε α := x s

/-- Ends at once with a result. -/
protected def pure (a : α) : Session σ ε α := fun s => ⟨s, [], .ok a⟩

/-- Goes on with the result of `x`; an error ends the computation. -/
protected def bind (x : Session σ ε α) (f : α → Session σ ε β) : Session σ ε β := fun s =>
  match x s with
  | ⟨s', events, .ok a⟩ =>
    let next := f a s'
    ⟨next.state, events ++ next.events, next.result⟩
  | ⟨s', events, .error e⟩ => ⟨s', events, .error e⟩

instance : Monad (Session σ ε) where
  pure := Session.pure
  bind := Session.bind

/-- Ends at once with an error. -/
def fail (e : ε) : Session σ ε α := fun s => ⟨s, [], .error e⟩

/-- Reports an event. -/
def emit (e : Event) : Session σ ε Unit := fun s => ⟨s, [e], .ok ()⟩

/-- Reports events in order. -/
def emitAll (es : List Event) : Session σ ε Unit := fun s => ⟨s, es, .ok ()⟩

/-- Reports a log message. -/
def log (level : Int) (message : String) : Session σ ε Unit := emit (.log level message)

/-- The state. -/
def get : Session σ ε σ := fun s => ⟨s, [], .ok s⟩

/-- Replaces the state. -/
def set (s : σ) : Session σ ε Unit := fun _ => ⟨s, [], .ok ()⟩

/-- Ends with a result that is already known. -/
def ofExcept (r : Except ε α) : Session σ ε α := fun s => ⟨s, [], r⟩

/-- Changes the error of a computation that fails. -/
def mapError (f : ε → ε') (x : Session σ ε α) : Session σ ε' α := fun s =>
  let e := x s
  ⟨e.state, e.events, e.result.mapError f⟩

/-- Goes on with the result whatever it is. -/
def attempt (x : Session σ ε α) : Session σ ε' (Except ε α) := fun s =>
  let e := x s
  ⟨e.state, e.events, .ok e.result⟩

/-- The result together with what was reported on the way to it. -/
def listen (x : Session σ ε α) : Session σ ε (α × List Event) := fun s =>
  let e := x s
  ⟨e.state, e.events, e.result.map (·, e.events)⟩

/-- Runs a computation over a part of the state. -/
def zoom {τ : Type} (view : τ → σ) (put : σ → τ → τ) (x : Session σ ε α) :
    Session τ ε α := fun s =>
  let e := x (view s)
  ⟨put e.state s, e.events, e.result⟩

theorem bind_pure' (x : Session σ ε α) : Session.bind x Session.pure = x := by
  funext s
  unfold Session.bind Session.pure
  rcases x s with ⟨s', es, r | a⟩ <;> simp

theorem pure_bind' (a : α) (f : α → Session σ ε β) : Session.bind (Session.pure a) f = f a := by
  funext s
  simp [Session.bind, Session.pure]

theorem bind_assoc' {γ : Type} (x : Session σ ε α) (f : α → Session σ ε β)
    (g : β → Session σ ε γ) :
    Session.bind (Session.bind x f) g = Session.bind x fun a => Session.bind (f a) g := by
  funext s
  unfold Session.bind
  rcases x s with ⟨s₁, es₁, r | a⟩
  · rfl
  · dsimp only
    rcases f a s₁ with ⟨s₂, es₂, r | b⟩ <;> simp

instance : LawfulMonad (Session σ ε) :=
  LawfulMonad.mk' _ bind_pure' pure_bind' bind_assoc'

end Session

/-! ## Views of a trace -/

/-- The messages that reached a warning sink, whichever it is. -/
def warningsOf (events : List Event) : List String :=
  events.filterMap fun
    | .warning _ message => some message
    | _ => none

/-- The messages that reached one sink. -/
def warningsTo (sink : Sink) (events : List Event) : List String :=
  events.filterMap fun
    | .warning s message => if s = sink then some message else none
    | _ => none

/-- The calls of the evaluator: name, program filled in, previous output. -/
def callsOf (events : List Event) : List (Text × Text × Text) :=
  events.filterMap fun
    | .evaluation name program stale => some (name, program, stale)
    | _ => none

end LiveSections
