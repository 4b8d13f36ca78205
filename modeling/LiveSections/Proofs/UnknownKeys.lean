import LiveSections.Proofs.Simulation
import LiveSections.Proofs.Warnings

/-!
# Keys that stand for nothing

A key without a value can be noticed in two places: the table that is asked for it, or the compiler
that asked. Either puts the same sentinel in and warns in the same words, and where the table has
done so the compiler finds nothing left to do.

- `Ending.redirect`: a run in which all warnings went to one sink.
- `Session.Warns`: the warnings of all runs that succeed, in order.
- `Properties.unknownMessages`: the warnings that the placeholders of a program call for.
- `unknownKeys_noticed_once`: **whoever notices unknown keys, the run is the same, and there is one
  warning for each of their placeholders.**
-/

namespace LiveSections

/-! ## Warnings that go elsewhere -/

/-- The event, but a warning goes to another sink. -/
def Event.redirect (sink : Sink) : Event → Event
  | .warning _ message => .warning sink message
  | .log level message => .log level message
  | .evaluation name program stale => .evaluation name program stale

/-- The ending, but all warnings went to one sink. -/
def Ending.redirect {σ ε α : Type} (sink : Sink) (e : Ending σ ε α) : Ending σ ε α :=
  { e with events := e.events.map (Event.redirect sink) }

/-- Without a warning there is nothing to redirect. -/
theorem map_redirect_of_warningsOf_eq_nil {sink : Sink} {es : List Event}
    (h : warningsOf es = []) : es.map (Event.redirect sink) = es := by
  refine (List.map_congr_left fun e he => ?_).trans es.map_id
  have hnone := List.filterMap_eq_nil_iff.mp h e he
  cases e with
  | warning => cases hnone
  | log => rfl
  | evaluation => rfl

/-- A run that retells another in the same state and for another sink is that run, redirected. -/
theorem Ending.Retold.eq_redirect {σ ε α : Type} {sink : Sink} {e e' : Ending σ ε α}
    (h : e.Retold id (Event.redirect sink) e') : e' = e.redirect sink := by
  obtain ⟨hstate, hevents, hresult⟩ := h
  rw [redirect, ← hevents, ← hresult, ← hstate]
  rfl

/-- A computation without a warning is the same for any sink. -/
theorem Session.Warnless.follows {σ ε α : Type} {x : Session σ ε α} (h : x.Warnless)
    (sink : Sink) : Session.Follows id (Event.redirect sink) x x :=
  fun s => ⟨rfl, (map_redirect_of_warningsOf_eq_nil (h s)).symm, rfl⟩

/-! ## What is warned of -/

/-- A warning with the sink that it reached. -/
def Event.warning? : Event → Option (Sink × String)
  | .warning sink message => some (sink, message)
  | _ => none

/-- The warnings of a trace, each with the sink that it reached. -/
def sentWarnings (events : List Event) : List (Sink × String) := events.filterMap Event.warning?

theorem sentWarnings_append (es es' : List Event) :
    sentWarnings (es ++ es') = sentWarnings es ++ sentWarnings es' := List.filterMap_append

/-- What a sink received are the warnings that were sent to it. -/
theorem warningsTo_eq (sink : Sink) (events : List Event) :
    warningsTo sink events =
      (sentWarnings events).filterMap fun w => if w.1 = sink then some w.2 else none := by
  rw [warningsTo, sentWarnings, List.filterMap_filterMap]
  refine List.filterMap_congr fun e _ => ?_
  cases e <;> rfl

namespace Session

variable {σ ε ε' α β : Type} {sink : Sink} {ms ms' : List String}

/-- Every run that succeeds sends these warnings to the sink, in this order, and no others to
anyone. -/
def Warns (sink : Sink) (ms : List String) (x : Session σ ε α) : Prop :=
  ∀ s a, (x.run s).result = .ok a → sentWarnings (x.run s).events = ms.map (sink, ·)

namespace Warns

theorem of_warnless {x : Session σ ε α} (h : x.Warnless) : Warns sink [] x := by
  intro s a _
  refine List.filterMap_eq_nil_iff.mpr fun e he => ?_
  have hnone := List.filterMap_eq_nil_iff.mp (h s) e he
  cases e with
  | warning => cases hnone
  | log => rfl
  | evaluation => rfl

theorem pure (a : α) : Warns sink [] (Pure.pure a : Session σ ε α) := of_warnless (.pure a)

theorem mapError {x : Session σ ε α} (hx : Warns sink ms x) (f : ε → ε') :
    Warns sink ms (x.mapError f) :=
  fun s a ha => hx s a (result_mapError_eq_ok_iff.mp ha)

theorem bind {x : Session σ ε α} {f : α → Session σ ε β} (hx : Warns sink ms x)
    (hf : ∀ a, Warns sink ms' (f a)) : Warns sink (ms ++ ms') (x >>= f) := by
  intro s b hb
  obtain ⟨a, ha, hb⟩ := result_bind_eq_ok_iff.mp hb
  rw [run_bind_of_ok ha, sentWarnings_append, hx s a ha, hf a _ b hb, List.map_append]

/-- A computation without warnings in front. -/
theorem bind_of_warnless {x : Session σ ε α} {f : α → Session σ ε β} (hx : x.Warnless)
    (hf : ∀ a, Warns sink ms (f a)) : Warns sink ms (x >>= f) :=
  (Warns.of_warnless hx).bind hf

/-- A computation without warnings behind. -/
theorem bind_warnless {x : Session σ ε α} {f : α → Session σ ε β} (hx : Warns sink ms x)
    (hf : ∀ a, (f a).Warnless) : Warns sink ms (x >>= f) := by
  have hrest (a : α) : Warns sink [] (f a) := .of_warnless (hf a)
  have h := hx.bind hrest
  rwa [List.append_nil] at h

/-- A list of computations warns of what each of them warns of, one after another. -/
theorem mapM {γ : Type} {f : γ → Session σ ε α} {g : γ → List String}
    (hf : ∀ a, Warns sink (g a) (f a)) (l : List γ) : Warns sink (l.flatMap g) (l.mapM f) := by
  induction l with
  | nil => exact .pure []
  | cons a l ih =>
    rw [List.mapM_cons, List.flatMap_cons]
    exact (hf a).bind fun b => ih.bind_warnless fun bs => .pure _

end Warns

end Session

/-! ## Unknown keys of programs -/

open Session

instance (p : Properties) (key : Text) : Decidable (p.Unmapped key) :=
  decidable_of_iff (p.get? key = none ∨ (p.get? key).any (· matches .none) = true) (by
    refine or_congr_right ⟨fun h => ?_, fun h => by rw [h]; rfl⟩
    obtain ⟨v, hv, hnone⟩ := (Option.any_eq_true _ _).mp h
    cases v <;> first | exact hv | cases hnone)

namespace Properties

variable {p : Properties} {sink : Sink}

/-- The warnings that the placeholders of a program call for: one for each whose key stands for
nothing, from left to right. -/
def unknownMessages (p : Properties) (program : Text) : List String :=
  ((Template.ofText program).keys.filter fun key => p.Unmapped key).map unknownKeyMessage

/-- A key is warned of when it is looked up, if it stands for nothing. -/
theorem lookup_warns (suffix key : Text) :
    Warns sink (if p.Unmapped key then [unknownKeyMessage key] else [])
      (p.lookup suffix key sink) := by
  split
  · next hu =>
    intro h t _
    rw [run_lookup, text?_of_unmapped hu h]
    rfl
  · next hu => exact .of_warnless (lookup_warnless hu suffix sink)

end Properties

theorem Template.fillHolesM_warns {σ ε : Type} {sink : Sink} {f : Text → Session σ ε Text}
    {g : Text → List String} (hf : ∀ key, Warns sink (g key) (f key))
    (holes : List (Text × Text)) :
    Warns sink ((holes.map Prod.fst).flatMap g) (fillHolesM f holes) := by
  induction holes with
  | nil => exact .pure []
  | cons hole rest ih =>
    rw [List.map_cons, List.flatMap_cons]
    exact (hf hole.1).bind fun value => ih.bind_warnless fun tail => .pure _

namespace Compiler

variable {c : Compiler Heap} {suffix : Text} {p : Properties} {sink : Sink}

/-- A key that the table is asked for is answered by the table, with its warning or its value. The
compiler has nothing to add. -/
theorem resolve_warns (hc : c.resolver = propertyResolver suffix p sink) (name key : Text) :
    Warns sink (if p.Unmapped key then [unknownKeyMessage key] else []) (c.resolve name key) := by
  rw [resolve, hc, propertyResolver, map_eq_pure_bind, bind_assoc]
  exact ((Properties.lookup_warns suffix key).mapError _).bind_warnless fun t => .pure t

theorem fillProgram_warns (hc : c.resolver = propertyResolver suffix p sink)
    (name program : Text) :
    Warns sink (p.unknownMessages program) (c.fillProgram name program) := by
  have hkeys (keys : List Text) :
      keys.flatMap (fun key => if p.Unmapped key then [unknownKeyMessage key] else []) =
        (keys.filter fun key => p.Unmapped key).map unknownKeyMessage := by
    induction keys with
    | nil => rfl
    | cons key keys ih =>
      rw [List.flatMap_cons, ih, List.filter_cons]
      split <;> simp_all
  rw [Properties.unknownMessages, ← hkeys]
  exact (Template.fillHolesM_warns (resolve_warns hc name) _).bind_warnless fun t => .pure _

theorem evaluateSection_warns (hc : c.resolver = propertyResolver suffix p sink)
    (he : ∀ name program stale, (c.evaluator name program stale).Warnless) (s : Section) :
    Warns sink (p.unknownMessages s.program) (c.evaluateSection s) := by
  refine .bind_of_warnless (.log _ _) fun _ => ?_
  refine (fillProgram_warns hc s.name s.program).bind_warnless fun program => ?_
  refine Warnless.bind (fun _ => rfl) fun _ => ((he _ _ _).mapError _).bind fun produced => ?_
  exact (Warnless.ofExcept _).bind fun output => .pure _

/-- One worker that comes to the end of a document has warned of the unknown keys of all sections,
in order. -/
theorem compile_warns (hc : c.resolver = propertyResolver suffix p sink)
    (he : ∀ name program stale, (c.evaluator name program stale).Warnless)
    (hw : c.workers.val = 1) {document : Text} {parts : List Part}
    (hp : parse c.delimiters document = .ok parts) :
    Warns sink ((sectionsOf parts).flatMap fun s => p.unknownMessages s.program)
      (c.compile document) := by
  intro h out ho
  obtain ⟨rendered, hr, -⟩ := evaluate_of_compile_ok hp ho
  have hsections := Warns.mapM (evaluateSection_warns hc he) (sectionsOf parts)
  rw [← evaluateSections_of_few (.inl hw)] at hsections
  have hpreamble : sentWarnings (c.preamble parts) = [] := by
    refine List.filterMap_eq_nil_iff.mpr fun e he => ?_
    obtain ⟨level, message, rfl⟩ := quiet_preamble c parts e he
    rfl
  rw [run_compile_of_ok hp, sentWarnings_append, hpreamble, hsections h rendered hr]
  rfl

/-! ## Who notices -/

/-- What comes of a placeholder: the text of its key, or a sentinel and a warning. -/
def placeholder (p : Properties) (suffix key : Text) (sink : Sink) : Session Heap Failure Text :=
  fun h =>
    match p.text? h key with
    | .error e => ⟨h, [], .error (.ofTooManyDigits e)⟩
    | .ok (some t) => ⟨h, [], .ok t⟩
    | .ok none => ⟨h, [unknownKey key sink], .ok (sentinel suffix key)⟩

theorem placeholder_follows (p : Properties) (suffix key : Text) (sink sink' : Sink) :
    Session.Follows id (Event.redirect sink') (placeholder p suffix key sink)
      (placeholder p suffix key sink') := by
  intro h
  simp only [Session.run, placeholder, id]
  split <;> exact ⟨rfl, rfl, rfl⟩

/-- The table notices that it has no value for a key. -/
theorem resolve_of_propertyResolver (hc : c.resolver = propertyResolver suffix p sink)
    (name key : Text) : c.resolve name key = placeholder p suffix key sink := by
  have hresolve : c.resolve name key =
      (p.lookup suffix key sink).mapError Failure.ofTooManyDigits := by
    rw [resolve, hc, propertyResolver, map_eq_pure_bind, bind_assoc]
    exact bind_pure _
  funext h
  rw [hresolve]
  show Ending.mk ((p.lookup suffix key sink).run h).state ((p.lookup suffix key sink).run h).events
    (((p.lookup suffix key sink).run h).result.mapError Failure.ofTooManyDigits) = _
  rw [Properties.run_lookup, placeholder]
  cases p.text? h key with
  | error e => rfl
  | ok found => cases found <;> rfl

/-- The compiler notices that the table has no value for a key. -/
theorem resolve_of_tableResolver (c : Compiler Heap) (hc : c.resolver = tableResolver p)
    (name key : Text) :
    c.resolve name key = placeholder p c.unknownSuffix key c.sink := by
  funext h
  have htable : (tableResolver p name key).run h =
      ⟨h, [], (p.text? h key).mapError Failure.ofTooManyDigits⟩ := rfl
  show (c.resolve name key).run h = _
  rw [resolve, hc, placeholder]
  cases ht : p.text? h key with
  | error e =>
    rw [ht] at htable
    rw [run_bind_of_error (congrArg Ending.result htable), htable]
  | ok found =>
    rw [ht] at htable
    rw [run_bind_of_ok (congrArg Ending.result htable), htable]
    cases found <;> rfl

/-- **Whoever notices unknown keys, the run is the same, and there is one warning for each of their
placeholders.** A table that the usual compiler is given notices them itself, with the compiler's
sink in place of its own; a compiler over the bare table does it in the table's stead. -/
theorem unknownKeys_noticed_once {settings : Settings} {options : CompileOptions}
    {source : PropertySource} (hc : ofSource settings options source = .ok c) (document : Text)
    (h : Heap) :
    let run := (c.compile document).run h
    (∀ sink,
      let plain : Compiler Heap := {
        delimiters := c.delimiters, workers := c.workers, schedule := c.schedule, style := c.style
        resolver := tableResolver source.properties
        evaluator := programEvaluator
          { properties := source.properties, registry := options.registry }
        unknownSuffix := settings.unknownSuffix, sink }
      (plain.compile document).run h = run.redirect sink) ∧
    (c.workers.val = 1 → ∀ out, run.result = .ok out →
      ∃ parts, parse c.delimiters document = .ok parts ∧
        warningsTo options.sink run.events =
          (sectionsOf parts).flatMap (fun s => source.properties.unknownMessages s.program) ∧
        ∀ sink, sink ≠ options.sink → warningsTo sink run.events = []) := by
  intro run
  obtain ⟨delimiters, workers, -, -, hspec⟩ := exists_of_ofSource hc
  have hresolver : c.resolver =
      propertyResolver settings.unknownSuffix source.properties options.sink := by rw [hspec]
  have hevaluator : c.evaluator = programEvaluator
      { properties := source.properties, registry := options.registry } := by rw [hspec]
  have hwarnless (name program stale : Text) : (c.evaluator name program stale).Warnless := by
    rw [hevaluator]
    exact programEvaluator_warnless _ name program stale
  constructor
  · -- both compilers fill placeholders in the same way, but for the sink that hears of them
    intro sink plain
    have hsame : Compiler.Follows id (Event.redirect sink) c plain := by
      refine { log := fun _ _ => rfl, evaluation := fun _ _ _ => rfl,
               resolve := fun name key => ?_, evaluator := fun name program stale => ?_,
               delimiters := rfl, style := rfl, workers := rfl, schedule := rfl,
               traced := by rw [hspec] }
      · rw [resolve_of_propertyResolver hresolver, plain.resolve_of_tableResolver rfl]
        exact placeholder_follows _ _ _ _ _
      · show Session.Follows id _ _ (programEvaluator _ name program stale)
        rw [← hevaluator]
        exact (hwarnless name program stale).follows sink
    exact (hsame.compile document h).eq_redirect
  · -- all warnings go to one sink, so it has all of them and any other has none
    intro hw out ho
    obtain ⟨parts, hp⟩ := exists_parts_of_compile_ok ho
    have hwarned := compile_warns hresolver hwarnless hw hp h out ho
    refine ⟨parts, hp, ?_, fun sink hne => ?_⟩
    · rw [warningsTo_eq, hwarned, List.filterMap_map]
      simp
    · rw [warningsTo_eq, hwarned, List.filterMap_map]
      simp [hne.symm]

/-- A table with a sink of its own, in which one key has no value and the empty key is missing. The
compiler's sink hears of three placeholders in two sections, the table's sink of none. -/
theorem unknownKeys_noticed_once_sample :
    let options : CompileOptions := { delimiters := some .angled, sink := ⟨3⟩ }
    let source : PropertySource := .table ⟨[(['k'], .none), (['v'], .int 7)], ⟨5⟩⟩
    let document := ("<<a\noutput='\x7b\x7bk\x7d\x7d\x7b\x7bv\x7d\x7d\x7b\x7b\x7d\x7d'>>" ++
      "old<</a>><<b\noutput='\x7b\x7bk\x7d\x7d'>><</b>>").toList
    ∃ c, ofSource {} options source = .ok c ∧
      let run := (c.compile document).run .empty
      let plain : Compiler Heap := {
        delimiters := c.delimiters, workers := c.workers, schedule := c.schedule, style := c.style
        resolver := tableResolver source.properties
        evaluator := programEvaluator { properties := source.properties }
        unknownSuffix := ({} : Settings).unknownSuffix, sink := ⟨5⟩ }
      c.workers.val = 1 ∧ (∃ out, run.result = .ok out) ∧
        (plain.compile document).run .empty = run.redirect ⟨5⟩ ∧
        (∃ parts, parse .angled document = .ok parts ∧
          warningsTo ⟨3⟩ run.events =
            (sectionsOf parts).flatMap fun s => source.properties.unknownMessages s.program) ∧
        warningsTo ⟨3⟩ run.events = ["Unknown key 'k'", "Unknown key ''", "Unknown key 'k'"] ∧
        warningsTo ⟨5⟩ run.events = [] := by
  intro options source document
  obtain ⟨c, hc⟩ : ∃ c, ofSource {} options source = .ok c := ⟨_, rfl⟩
  refine ⟨c, hc, ?_⟩
  intro run plain
  obtain ⟨hsame, hwarned⟩ := unknownKeys_noticed_once hc document .empty
  obtain rfl := Except.ok.inj hc
  have hrun : run.result = .ok
      (("<<a\noutput='\x7b\x7bk\x7d\x7d\x7b\x7bv\x7d\x7d\x7b\x7b\x7d\x7d'>>\nk=UNKNOWN" ++
        "7=UNKNOWN\n<</a>><<b\noutput='\x7b\x7bk\x7d\x7d'>>\nk=UNKNOWN\n<</b>>").toList) := by
    decide +kernel
  obtain ⟨parts, hp, hlist, hnone⟩ := hwarned rfl _ hrun
  exact ⟨rfl, ⟨_, hrun⟩, hsame ⟨5⟩, ⟨parts, hp, hlist⟩, by decide +kernel, hnone ⟨5⟩ (by decide)⟩

end Compiler

end LiveSections
