import LiveSections.Proofs.Simulation

/-!
# What a compilation asks for

To tell which calls a compilation makes, its resolver and its evaluator take note of each. With the
notes it goes as it does without them.

- `Call`: what the evaluator was given for a section, and how it answered.
- `CallRecord`: the keys that were looked up and the calls of the evaluator, in order.
- `Compiler.recording`: the compiler that takes notes.
- `Blames`: the error that an answer calls for if it is no text.
- `compile_ends_as_called`: **one worker ends with the fault of the document before it asks for
  anything, or with the first answer that is no text, or after one answer for each section.**
-/

namespace LiveSections

/-- A call of the evaluator: what it was given, and how it answered. -/
structure Call where
  name : Text
  program : Text
  stale : Text
  answer : Except Failure Produced

/-- What resolver and evaluator were asked for, in order. A key is looked up for a section. -/
structure CallRecord where
  lookups : List (Text × Text) := []
  calls : List Call := []

/-- A failure stands for one of the program, and not for the wish to stop, and is modelled. -/
def Failure.IsFailure : Failure → Prop
  | evaluation _ => True
  | raised x => x.isFailure = true
  | unmodelled _ => False

/-- The error that an answer for a section calls for. An error of evaluation is kept, and the
section is named only if it names none. Any other exception is told of with its class and its text,
and is the cause. A text calls for no error, and neither does what is not modelled. -/
def Blames (error : EvaluationError) (name : Text) : Except Failure Produced → Prop
  | .error (.evaluation e) => error.fault = e.fault ∧ error.origin = e.origin.or (some name)
  | .error (.raised x) => error.origin = some name ∧ error.fault.cause? = some x ∧
      error.fault.message = s!"{x.className}: {x.text}"
  | .ok (.other type) => error.origin = some name ∧ error.fault.cause? = none ∧
      error.fault.message = s!"Evaluator returned {type}, expected str"
  | .ok (.text _) | .error (.unmodelled _) => False

namespace Compiler

variable {σ : Type} {c : Compiler σ}

/-- The compiler, taking note of what it asks for. -/
def recording (c : Compiler σ) : Compiler (σ × CallRecord) where
  delimiters := c.delimiters
  resolver name key s :=
    let e := (c.resolver name key).run s.1
    let record := { s.2 with lookups := s.2.lookups ++ [(name, key)] }
    ⟨(e.state, record), e.events, e.result⟩
  evaluator name program stale s :=
    let e := (c.evaluator name program stale).run s.1
    let record := { s.2 with calls := s.2.calls ++ [⟨name, program, stale, e.result⟩] }
    ⟨(e.state, record), e.events, e.result⟩
  unknownSuffix := c.unknownSuffix
  workers := c.workers
  style := c.style
  traced := c.traced
  schedule := c.schedule
  sink := c.sink

/-- Notes do not change the way of a compilation. -/
theorem recording_follows (c : Compiler σ) : Compiler.Follows Prod.fst id c c.recording where
  log _ _ := rfl
  evaluation _ _ _ := rfl
  resolve name key := by
    have hresolver : Session.Follows Prod.fst id (c.resolver name key)
        (c.recording.resolver name key) := fun _ => ⟨rfl, (List.map_id _).symm, rfl⟩
    refine hresolver.bind fun found => ?_
    cases found with
    | some value => exact .pure value
    | none => exact (Session.Follows.emit rfl).bind fun _ => .pure _
  evaluator name program stale := fun _ => ⟨rfl, (List.map_id _).symm, rfl⟩
  delimiters := rfl
  style := rfl
  workers := rfl
  schedule := rfl
  traced := rfl

/-! ## Filling in a program -/

/-- From every state the computation comes to a result, and makes no call of the evaluator. -/
def Uncalling {ε α : Type} (x : Session (σ × CallRecord) ε α) : Prop :=
  ∀ s, ∃ a, (x.run s).result = .ok a ∧ (x.run s).state.2.calls = s.2.calls

namespace Uncalling

variable {ε α β : Type}

theorem pure (a : α) : Uncalling (Pure.pure a : Session (σ × CallRecord) ε α) :=
  fun _ => ⟨a, rfl, rfl⟩

theorem emit (e : Event) : Uncalling (Session.emit e : Session (σ × CallRecord) ε Unit) :=
  fun _ => ⟨(), rfl, rfl⟩

theorem bind {x : Session (σ × CallRecord) ε α} {f : α → Session (σ × CallRecord) ε β}
    (hx : Uncalling x) (hf : ∀ a, Uncalling (f a)) : Uncalling (x >>= f) := by
  intro s
  obtain ⟨a, ha, hcalls⟩ := hx s
  obtain ⟨b, hb, hcalls'⟩ := hf a (x.run s).state
  rw [Session.run_bind_of_ok ha]
  exact ⟨b, hb, hcalls'.trans hcalls⟩

end Uncalling

/-- The resolver finds a value or finds none for each key, and does not fail. -/
def Total (c : Compiler σ) : Prop :=
  ∀ name key st, ∃ found, ((c.resolver name key).run st).result = .ok found

/-- Exceptions of the evaluator stand for failures, and none for the wish to stop. -/
def OnlyFails (c : Compiler σ) : Prop :=
  ∀ name program stale st e,
    ((c.evaluator name program stale).run st).result = .error e → e.IsFailure

theorem Total.fillProgram (hc : c.Total) (name program : Text) :
    Uncalling (c.recording.fillProgram name program) := by
  have hresolve (key : Text) : Uncalling (c.recording.resolve name key) := by
    refine Uncalling.bind (fun s => ?_) fun found => ?_
    · obtain ⟨found, h⟩ := hc name key s.1
      exact ⟨found, h, rfl⟩
    · cases found with
      | some value => exact .pure value
      | none => exact (Uncalling.emit _).bind fun _ => .pure _
  refine Uncalling.bind ?_ fun _ => .pure _
  exact Template.fillHolesM_induction .pure (fun _ _ => Uncalling.bind) fun key _ => hresolve key

/-! ## Calls for sections -/

/-- The evaluator was called for the section: with its name, its program filled in and its previous
output. -/
structure CalledFor (c : Compiler σ) (s : Section) (call : Call) : Prop where
  name_eq : call.name = s.name
  stale_eq : call.stale = s.stale
  program : (c.fillProgram s.name s.program).Ends (.ok call.program)
  answer : (c.evaluator s.name call.program s.stale).Ends call.answer

/-- The call for the section was answered with a text. -/
def Answered (c : Compiler σ) (s : Section) (call : Call) : Prop :=
  c.CalledFor s call ∧ ∃ t, call.answer = .ok (.text t)

/-- What a section comes to by the answer of the evaluator. -/
def rendering (s : Section) (answer : Except Failure Produced) : Except Failure Rendered := do
  let produced ← answer.mapError (failureIn s.name)
  let output ← outputOf s.name produced
  return ⟨s, normalizeOutput output⟩

/-- An answer is a text, or calls for an error that the section fails with. -/
theorem rendering_cases (s : Section) {answer : Except Failure Produced}
    (h : ∀ e, answer = .error e → e.IsFailure) :
    (∃ t, answer = .ok (.text t) ∧ rendering s answer = .ok ⟨s, normalizeOutput t⟩) ∨
      ∃ error, Blames error s.name answer ∧ rendering s answer = .error (.evaluation error) := by
  match answer with
  | .ok (.text t) => exact .inl ⟨t, rfl, rfl⟩
  | .ok (.other type) => exact .inr ⟨⟨some s.name, .returned type⟩, ⟨rfl, rfl, rfl⟩, rfl⟩
  | .error (.evaluation e) =>
    refine .inr ⟨e.within s.name, ⟨rfl, ?_⟩, rfl⟩
    show some (e.origin.getD s.name) = _
    cases e.origin <;> rfl
  | .error (.raised x) =>
    refine .inr ⟨⟨some s.name, .wrapped x⟩, ⟨rfl, rfl, rfl⟩, ?_⟩
    have hfailure : x.isFailure = true := h _ rfl
    show Except.error (failureIn s.name (.raised x)) = _
    rw [failureIn, if_pos hfailure]
  | .error (.unmodelled u) => exact (h _ rfl).elim

/-- Once the program is filled in, the answer of the evaluator tells what the section comes to. -/
theorem run_evaluateSection_of_filled (c : Compiler σ) (s : Section) {program : Text} {st : σ}
    (h : ((c.fillProgram s.name s.program).run st).result = .ok program) :
    let run := (c.evaluateSection s).run st
    let called := (c.evaluator s.name program s.stale).run
      ((c.fillProgram s.name s.program).run st).state
    run.state = called.state ∧ run.result = rendering s called.result := by
  intro run called
  have hmapped : ((c.evaluator s.name program s.stale).mapError (failureIn s.name)).run
      ((c.fillProgram s.name s.program).run st).state =
        ⟨called.state, called.events, called.result.mapError (failureIn s.name)⟩ := rfl
  dsimp only [run, evaluateSection, rendering, Session.log]
  rw [Session.run_emit_bind, Session.run_bind_of_ok h, Session.run_emit_bind]
  dsimp only
  -- from here on it matters only whether the answer is an error
  generalize called.result.mapError (failureIn s.name) = answer at hmapped ⊢
  cases answer with
  | error e =>
    rw [Session.run_bind_of_error (congrArg Ending.result hmapped)]
    exact ⟨rfl, rfl⟩
  | ok produced =>
    rw [Session.run_bind_of_ok (congrArg Ending.result hmapped)]
    cases produced <;> exact ⟨rfl, rfl⟩

/-- For a section the evaluator is called once, and its answer tells what the section comes to. -/
theorem run_evaluateSection_recording (hc : c.Total) (s : Section) (st : σ × CallRecord) :
    let run := (c.recording.evaluateSection s).run st
    ∃ call, c.CalledFor s call ∧ run.state.2.calls = st.2.calls ++ [call] ∧
      run.result = rendering s call.answer := by
  intro run
  obtain ⟨program, hprogram, hcalls⟩ := hc.fillProgram s.name s.program st
  have hfollows := c.recording_follows.fillProgram s.name s.program st
  obtain ⟨hstate, hresult⟩ := c.recording.run_evaluateSection_of_filled s hprogram
  refine ⟨⟨s.name, program, s.stale, _⟩,
    ⟨rfl, rfl, ⟨st.1, hfollows.result_eq.symm.trans hprogram⟩, ⟨_, rfl⟩⟩, ?_, hresult⟩
  rw [hstate, ← hcalls]
  rfl

/-! ## Calls in turn -/

/-- The calls were for the sections up to one of them, each once and in order. All but the last were
answered with a text, and the answer to the last calls for the error. -/
def StopsAt (c : Compiler σ) (sections : List Section) (calls : List Call)
    (error : EvaluationError) : Prop :=
  ∃ before s behind answered call, sections = before ++ s :: behind ∧
    calls = answered ++ [call] ∧ List.Forall₂ c.Answered before answered ∧
    c.CalledFor s call ∧ Blames error s.name call.answer

theorem StopsAt.cons {sections : List Section} {calls : List Call} {error : EvaluationError}
    (h : c.StopsAt sections calls error) {s : Section} {call : Call} (hs : c.Answered s call) :
    c.StopsAt (s :: sections) (call :: calls) error := by
  obtain ⟨before, s', behind, answered, call', rfl, rfl, hbefore, hcalled, hblames⟩ := h
  exact ⟨s :: before, s', behind, call :: answered, call', rfl, rfl, .cons hs hbefore, hcalled,
    hblames⟩

/-- In turn the evaluator is called for one section after another, until an answer is no text. -/
theorem run_mapM_recording (hc : c.Total) (hfails : c.OnlyFails) (sections : List Section)
    (st : σ × CallRecord) :
    let run := (sections.mapM c.recording.evaluateSection).run st
    ∃ calls, run.state.2.calls = st.2.calls ++ calls ∧
      ((∃ error, c.StopsAt sections calls error ∧ run.result = .error (.evaluation error)) ∨
        ∃ rendered, List.Forall₂ c.Answered sections calls ∧ run.result = .ok rendered) := by
  induction sections generalizing st with
  | nil => exact ⟨[], (List.append_nil _).symm, .inr ⟨[], .nil, rfl⟩⟩
  | cons s sections ih =>
    rw [List.mapM_cons]
    obtain ⟨call, hcalled, hcalls, hresult⟩ := run_evaluateSection_recording hc s st
    have hfailure (e : Failure) (he : call.answer = .error e) : e.IsFailure := by
      obtain ⟨st', hanswer⟩ := hcalled.answer
      exact hfails _ _ _ st' e (hanswer.trans he)
    obtain ⟨t, ht, hrendered⟩ | ⟨error, hblames, herror⟩ := rendering_cases s hfailure
    · -- the section has its output, so the run goes on with the others
      obtain ⟨calls, hmore, hends⟩ := ih ((c.recording.evaluateSection s).run st).state
      rw [hcalls, List.append_assoc] at hmore
      rw [Session.run_bind_of_ok (hresult.trans hrendered)]
      refine ⟨call :: calls, ?_⟩
      obtain ⟨error, hstops, herror⟩ | ⟨rendered, hanswered, hrest⟩ := hends
      · rw [Session.run_bind_of_error herror]
        exact ⟨hmore, .inl ⟨error, hstops.cons ⟨hcalled, t, ht⟩, rfl⟩⟩
      · rw [Session.run_bind_of_ok hrest]
        exact ⟨hmore, .inr ⟨_, .cons ⟨hcalled, t, ht⟩ hanswered, rfl⟩⟩
    · -- the section fails, and the evaluator is not called again
      rw [Session.run_bind_of_error (hresult.trans herror)]
      exact ⟨[call], hcalls,
        .inl ⟨error, ⟨[], s, sections, [], call, rfl, rfl, .nil, hcalled, hblames⟩, rfl⟩⟩

/-- A document without a fault is compiled as its sections are evaluated in turn. -/
theorem run_compile_recording (hw : c.workers.val = 1) (hc : c.Total) (hfails : c.OnlyFails)
    {document : Text} {parts : List Part} (hp : parse c.delimiters document = .ok parts) (st : σ) :
    let noted := (c.recording.compile document).run (st, {})
    (∃ error, c.StopsAt (sectionsOf parts) noted.state.2.calls error ∧
        noted.result = .error (.failed (.evaluation error))) ∨
      ∃ out, List.Forall₂ c.Answered (sectionsOf parts) noted.state.2.calls ∧
        noted.result = .ok out := by
  intro noted
  have hnoted : noted = _ := c.recording.run_compile_of_ok hp (st, {})
  rw [c.recording.evaluateSections_of_few (.inl hw)] at hnoted
  obtain ⟨calls, hcalls, hends⟩ := run_mapM_recording hc hfails (sectionsOf parts) (st, {})
  have hnotes : noted.state.2.calls = calls :=
    (congrArg (fun e => e.state.2.calls) hnoted).trans hcalls
  have hresult := congrArg Ending.result hnoted
  rw [hnotes, hresult]
  obtain ⟨error, hstops, herror⟩ | ⟨rendered, hanswered, hok⟩ := hends
  · rw [herror]
    exact .inl ⟨error, hstops, rfl⟩
  · rw [hok]
    exact .inr ⟨_, hanswered, rfl⟩

/-- **One worker ends with the fault of the document before it asks for anything, or with the first
answer that is no text, or after one answer for each section.** The notes have no part in it. -/
theorem compile_ends_as_called (hw : c.workers.val = 1) (hc : c.Total) (hfails : c.OnlyFails)
    (document : Text) (st : σ) :
    let run := (c.compile document).run st
    let noted := (c.recording.compile document).run (st, {})
    (noted.state.1 = run.state ∧ noted.events = run.events ∧ noted.result = run.result) ∧
    (∀ source e, run.result = .error (.malformed source e) ↔
      source = document ∧ parse c.delimiters document = .error e) ∧
    (∀ e, parse c.delimiters document = .error e →
      noted.state = (st, {}) ∧ warningsOf run.events = [] ∧ callsOf run.events = []) ∧
    ∀ parts, parse c.delimiters document = .ok parts →
      (∃ error, c.StopsAt (sectionsOf parts) noted.state.2.calls error ∧
        run.result = .error (.failed (.evaluation error))) ∨
      ∃ out, List.Forall₂ c.Answered (sectionsOf parts) noted.state.2.calls ∧
        run.result = .ok out := by
  intro run noted
  obtain ⟨hstate, hevents, hresult⟩ := c.recording_follows.compile document (st, {})
  refine ⟨⟨hstate, hevents.trans (List.map_id _), hresult⟩, ?_⟩
  cases hp : parse c.delimiters document with
  | error e =>
    -- the compilation is over before it begins, with notes or without
    obtain ⟨logs, hlogs, hrun⟩ := run_compile_of_error hp st
    obtain ⟨_, _, hnoted⟩ := run_compile_of_error (c := c.recording) hp (st, {})
    have hend : run.result = .error (.malformed document e) := congrArg Ending.result hrun
    have hquiet : run.events = logs := congrArg Ending.events hrun
    refine ⟨fun source e' => ?_, fun _ _ => ?_, nofun⟩
    · rw [hend]
      constructor
      · intro h
        cases h
        exact ⟨rfl, rfl⟩
      · rintro ⟨rfl, h⟩
        rw [Except.error.inj h]
    · rw [hquiet]
      exact ⟨congrArg Ending.state hnoted, hlogs.warningsOf_eq, hlogs.callsOf_eq⟩
  | ok parts =>
    have hends := run_compile_recording hw hc hfails hp st
    dsimp only at hends
    rw [hresult] at hends
    refine ⟨fun source e => iff_of_false ?_ nofun, nofun, fun parts' hparts => ?_⟩
    · -- a failure of a section is told apart from a fault of the document
      obtain ⟨_, _, hend⟩ | ⟨_, _, hend⟩ := hends
      · rw [show run.result = _ from hend]
        nofun
      · rw [show run.result = _ from hend]
        nofun
    · obtain rfl := Except.ok.inj hparts
      exact hends

/-- The second of three sections fails with an exception of the evaluator. Its placeholder stands
for nothing, and the third section is not asked for. -/
theorem compile_ends_as_called_sample :
    let c : Compiler Nat := { counting.inTurn with
      evaluator := fun name program _ n =>
        ⟨n + 1, [], if name = ['b'] then .error (.raised ⟨"ValueError", "nope", none⟩)
          else .ok (.text program)⟩ }
    let document :=
      "<<a\n\x7b\x7bk\x7d\x7d>><</a>><<b\n\x7b\x7bx\x7d\x7d>>old<</b>><<c\n>><</c>>".toList
    let noted := (c.recording.compile document).run (0, {})
    let error : EvaluationError := ⟨some ['b'], .wrapped ⟨"ValueError", "nope", none⟩⟩
    c.workers.val = 1 ∧ c.Total ∧ c.OnlyFails ∧
      ((c.compile document).run 0).result = .error (.failed (.evaluation error)) ∧
      noted.state.2.lookups = [(['a'], ['k']), (['b'], ['x'])] ∧
      noted.state.2.calls.map (fun call => (call.name, call.program, call.stale)) =
        [(['a'], ['v'], []), (['b'], ['x', '?'], "old".toList)] ∧
      ∃ parts, parse .angled document = .ok parts ∧
        c.StopsAt (sectionsOf parts) noted.state.2.calls error := by
  intro c document noted error
  have htotal : c.Total := fun _ key _ => ⟨if key = ['k'] then some ['v'] else none, rfl⟩
  have honly : c.OnlyFails := by
    intro name program stale st e h
    change (if name = ['b'] then _ else _) = Except.error e at h
    split at h
    · cases h
      show Raised.isFailure _ = true
      decide
    · cases h
  have hend : ((c.compile document).run 0).result = .error (.failed (.evaluation error)) := by
    decide +kernel
  refine ⟨rfl, htotal, honly, hend, by decide +kernel, by decide +kernel, ?_⟩
  obtain ⟨-, hmalformed, -, hends⟩ := compile_ends_as_called rfl htotal honly document 0
  have hread : (parse .angled document).isOk = true := by decide +kernel
  cases hp : parse .angled document with
  | error e =>
    rw [hp] at hread
    cases hread
  | ok parts =>
    obtain ⟨error', hstops, herror⟩ | ⟨out, -, hok⟩ := hends parts hp
    · cases hend.symm.trans herror
      exact ⟨parts, rfl, hstops⟩
    · cases hend.symm.trans hok

end Compiler

end LiveSections
