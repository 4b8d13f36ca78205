import LiveSections.Proofs.Workers

/-!
# Computations that follow others

A computation can keep more in its state than another, and report in other words, and still go the
same way: with the other's state somewhere in its own, the same events but for their words, and the
same end.

- `Session.Follows`: such a computation, by a view of its states and what becomes of events.
- `Follows.bind`, `Follows.mapM`: steps that follow steps make a computation that follows another.
- `Compiler.Follows.compile`: **a compiler whose placeholders and evaluations follow those of
  another compiles every document as the other does.**
-/

namespace LiveSections

section Computations

variable {σ τ ε ε' α β : Type} {view : τ → σ} {f : Event → Event}

/-- The second ending is the first, in a state that holds more and in other words. -/
structure Ending.Retold (view : τ → σ) (f : Event → Event) (e : Ending σ ε α)
    (e' : Ending τ ε α) : Prop where
  state_eq : view e'.state = e.state
  events_eq : e'.events = e.events.map f
  result_eq : e'.result = e.result

namespace Session

/-- From every state the second computation ends as the first does from what is seen of the
state. -/
def Follows (view : τ → σ) (f : Event → Event) (x : Session σ ε α) (x' : Session τ ε α) : Prop :=
  ∀ t, (x.run (view t)).Retold view f (x'.run t)

namespace Follows

theorem pure (a : α) :
    Follows view f (Pure.pure a : Session σ ε α) (Pure.pure a : Session τ ε α) :=
  fun _ => ⟨rfl, rfl, rfl⟩

theorem fail (e : ε) :
    Follows view f (Session.fail e : Session σ ε α) (Session.fail e : Session τ ε α) :=
  fun _ => ⟨rfl, rfl, rfl⟩

theorem ofExcept (r : Except ε α) :
    Follows view f (Session.ofExcept r : Session σ ε α) (Session.ofExcept r : Session τ ε α) :=
  fun _ => ⟨rfl, rfl, rfl⟩

theorem emit {e e' : Event} (h : f e = e') :
    Follows view f (Session.emit e : Session σ ε Unit) (Session.emit e' : Session τ ε Unit) := by
  subst h
  exact fun _ => ⟨rfl, rfl, rfl⟩

theorem emitAll {es : List Event} (h : es.map f = es) :
    Follows view f (Session.emitAll es : Session σ ε Unit)
      (Session.emitAll es : Session τ ε Unit) :=
  fun _ => ⟨rfl, h.symm, rfl⟩

theorem mapError {x : Session σ ε α} {x' : Session τ ε α} (h : Follows view f x x')
    (g : ε → ε') : Follows view f (x.mapError g) (x'.mapError g) :=
  fun t => ⟨(h t).state_eq, (h t).events_eq, congrArg (Except.mapError g) (h t).result_eq⟩

theorem attempt {x : Session σ ε α} {x' : Session τ ε α} (h : Follows view f x x') :
    Follows view f (x.attempt : Session σ ε' (Except ε α)) x'.attempt :=
  fun t => ⟨(h t).state_eq, (h t).events_eq, congrArg Except.ok (h t).result_eq⟩

theorem bind {x : Session σ ε α} {x' : Session τ ε α} {g : α → Session σ ε β}
    {g' : α → Session τ ε β} (hx : Follows view f x x') (hg : ∀ a, Follows view f (g a) (g' a)) :
    Follows view f (x >>= g) (x' >>= g') := by
  intro t
  obtain ⟨hstate, hevents, hresult⟩ := hx t
  cases h : (x.run (view t)).result with
  | error e =>
    rw [run_bind_of_error h, run_bind_of_error (hresult.trans h)]
    exact ⟨hstate, hevents, rfl⟩
  | ok a =>
    -- the rest of the first computation starts from what is seen of the other's state
    rw [run_bind_of_ok h, run_bind_of_ok (hresult.trans h), ← hstate]
    obtain ⟨hstate', hevents', hresult'⟩ := hg a (x'.run t).state
    refine ⟨hstate', ?_, hresult'⟩
    rw [List.map_append, hevents, hevents']

/-- Lists of computations follow each other if they do so one by one. -/
theorem mapM {γ : Type} {g : γ → Session σ ε α} {g' : γ → Session τ ε α}
    (hg : ∀ a, Follows view f (g a) (g' a)) (l : List γ) :
    Follows view f (l.mapM g) (l.mapM g') := by
  induction l with
  | nil => exact .pure []
  | cons a l ih =>
    rw [List.mapM_cons, List.mapM_cons]
    exact (hg a).bind fun b => ih.bind fun bs => .pure (b :: bs)

end Follows

end Session

open Session

theorem Template.fillHolesM_follows {g : Text → Session σ ε Text} {g' : Text → Session τ ε Text}
    (hg : ∀ key, Follows view f (g key) (g' key)) (holes : List (Text × Text)) :
    Follows view f (fillHolesM g holes) (fillHolesM g' holes) := by
  induction holes with
  | nil => exact .pure []
  | cons hole rest ih =>
    exact (hg hole.1).bind fun value => ih.bind fun tail => .pure (value ++ hole.2 ++ tail)

end Computations

namespace Compiler

variable {σ τ : Type} {view : τ → σ} {f : Event → Event}

/-- A compiler set up as another, whose placeholders and evaluations follow those of the other. -/
structure Follows (view : τ → σ) (f : Event → Event) (c : Compiler σ) (c' : Compiler τ) :
    Prop where
  log : ∀ level message, f (.log level message) = .log level message
  evaluation : ∀ name program stale,
    f (.evaluation name program stale) = .evaluation name program stale
  resolve : ∀ name key, Session.Follows view f (c.resolve name key) (c'.resolve name key)
  evaluator : ∀ name program stale,
    Session.Follows view f (c.evaluator name program stale) (c'.evaluator name program stale)
  delimiters : c'.delimiters = c.delimiters
  style : c'.style = c.style
  workers : c'.workers = c.workers
  schedule : c'.schedule = c.schedule
  traced : c'.traced = c.traced

namespace Follows

variable {c : Compiler σ} {c' : Compiler τ} (h : Compiler.Follows view f c c')

include h

/-- A document is read with the same log messages. -/
theorem read (d : Delimiters) (traced : Bool) (document : Text) :
    Session.Follows view f (Compiler.read d traced document : Session σ CompileError (List Part))
      (Compiler.read d traced document) := by
  unfold Compiler.read
  obtain ⟨parts, fault⟩ := readParts d 0 document
  -- the reader itself is the same, and reports nothing but log messages
  have htrace : (if traced then trace parts else []).map f =
      if traced then trace parts else [] := by
    refine (List.map_congr_left fun e he => ?_).trans (List.map_id _)
    obtain ⟨level, message, rfl⟩ := quiet_trace traced parts e he
    exact h.log level message
  cases fault with
  | none => exact (Session.Follows.emitAll htrace).bind fun _ => .pure parts
  | some e => exact (Session.Follows.emitAll htrace).bind fun _ => .fail _

theorem fillProgram (name program : Text) :
    Session.Follows view f (c.fillProgram name program) (c'.fillProgram name program) :=
  (Template.fillHolesM_follows (h.resolve name) _).bind fun _ => .pure _

theorem evaluateSection (s : Section) :
    Session.Follows view f (c.evaluateSection s) (c'.evaluateSection s) := by
  refine (Session.Follows.emit (h.log _ _)).bind fun _ => ?_
  refine (h.fillProgram s.name s.program).bind fun program => ?_
  refine (Session.Follows.emit (h.evaluation _ _ _)).bind fun _ => ?_
  refine ((h.evaluator s.name program s.stale).mapError _).bind fun produced => ?_
  exact (Session.Follows.ofExcept _).bind fun output => .pure _

theorem evaluateAll (sections : List Section) (order : List Nat) :
    Session.Follows view f (c.evaluateAll sections order) (c'.evaluateAll sections order) := by
  induction order with
  | nil => exact .pure []
  | cons i order ih =>
    rw [Compiler.evaluateAll, Compiler.evaluateAll]
    cases sections[i]? with
    | none => exact ih
    | some s => exact (h.evaluateSection s).attempt.bind fun r => ih.bind fun more => .pure _

/-- Workers get to the sections in the same order, so either all is the same or all is in turn. -/
theorem evaluateSections (sections : List Section) :
    Session.Follows view f (c.evaluateSections sections) (c'.evaluateSections sections) := by
  unfold Compiler.evaluateSections
  rw [h.workers, h.schedule]
  split
  · exact .mapM h.evaluateSection sections
  · refine (Session.Follows.emit (h.log _ _)).bind fun _ => ?_
    exact (h.evaluateAll _ _).bind fun results => .ofExcept _

/-- **A compiler that follows another at placeholders and evaluations follows it at documents.** -/
theorem compile (document : Text) :
    Session.Follows view f (c.compile document) (c'.compile document) := by
  unfold Compiler.compile
  rw [h.delimiters, h.style, h.traced]
  refine (h.read _ _ _).bind fun parts => (Session.Follows.emit (h.log _ _)).bind fun _ => ?_
  exact ((h.evaluateSections _).mapError _).bind fun rendered => .pure _

end Follows

end Compiler

end LiveSections
