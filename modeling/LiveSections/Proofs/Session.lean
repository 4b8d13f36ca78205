import LiveSections.Session
import Mathlib.Data.List.Forall2
import Mathlib.Data.List.Perm.Subperm

/-!
# Runs of sessions

- `Session.Ends x r`: some run of `x` ends with `r`.
- `Session.Steady x`: what a run of `x` reports and how it ends do not hang on the state.
- `Steady.bind`: steady steps make a steady computation.
- `mapM_ends`: **a computation over a list ends as the first failure among its items says,** also
  if the items do hang on the state.
- `mapM_events_isPrefix`: what it reports is a beginning of what all items report.
- `SameReports`, `FewerReports`: traces compared by their warnings and calls, in any order.
-/

namespace LiveSections

namespace Session

variable {σ ε ε' α β : Type}

/-! ## Runs step by step -/

@[simp] theorem run_pure (a : α) (s : σ) :
    (pure a : Session σ ε α).run s = ⟨s, [], .ok a⟩ := rfl

theorem run_bind_of_ok {x : Session σ ε α} {f : α → Session σ ε β} {s : σ} {a : α}
    (h : (x.run s).result = .ok a) :
    (x >>= f).run s = ⟨((f a).run (x.run s).state).state,
      (x.run s).events ++ ((f a).run (x.run s).state).events,
      ((f a).run (x.run s).state).result⟩ := by
  show Session.bind x f s = _
  unfold Session.bind run at *
  generalize x s = ending at h ⊢
  obtain ⟨s', es, e | b⟩ := ending
  · cases h
  · cases h
    rfl

theorem run_bind_of_error {x : Session σ ε α} {f : α → Session σ ε β} {s : σ} {e : ε}
    (h : (x.run s).result = .error e) :
    (x >>= f).run s = ⟨(x.run s).state, (x.run s).events, .error e⟩ := by
  show Session.bind x f s = _
  unfold Session.bind run at *
  generalize x s = ending at h ⊢
  obtain ⟨s', es, e' | b⟩ := ending
  · cases h
    rfl
  · cases h

theorem run_attempt_bind (x : Session σ ε α) (f : Except ε α → Session σ ε' β) (s : σ) :
    (x.attempt >>= f).run s = ⟨((f (x.run s).result).run (x.run s).state).state,
      (x.run s).events ++ ((f (x.run s).result).run (x.run s).state).events,
      ((f (x.run s).result).run (x.run s).state).result⟩ :=
  run_bind_of_ok rfl

theorem run_emit_bind (e : Event) (f : Unit → Session σ ε β) (s : σ) :
    (emit e >>= f).run s =
      ⟨((f ()).run s).state, e :: ((f ()).run s).events, ((f ()).run s).result⟩ :=
  run_bind_of_ok rfl

theorem result_mapError_eq_ok_iff {x : Session σ ε α} {f : ε → ε'} {s : σ} {a : α} :
    ((x.mapError f).run s).result = .ok a ↔ (x.run s).result = .ok a := by
  show Except.mapError f (x.run s).result = .ok a ↔ _
  cases (x.run s).result <;> simp [Except.mapError]

theorem run_mapError_bind_pure (x : Session σ ε α) (f : ε → ε') (g : α → β) (s : σ) :
    (x.mapError f >>= fun a => pure (g a)).run s =
      ⟨(x.run s).state, (x.run s).events, ((x.run s).result.mapError f).map g⟩ := by
  cases h : (x.run s).result with
  | error e =>
    have hf : ((x.mapError f).run s).result = .error (f e) := congrArg (Except.mapError f) h
    rw [run_bind_of_error hf]
    rfl
  | ok a =>
    rw [run_bind_of_ok (result_mapError_eq_ok_iff.mpr h), run_pure, List.append_nil]
    rfl

/-- A sequence that succeeds has a first step that succeeds, and a second from where it left. -/
theorem result_bind_eq_ok_iff {x : Session σ ε α} {f : α → Session σ ε β} {s : σ} {b : β} :
    ((x >>= f).run s).result = .ok b ↔
      ∃ a, (x.run s).result = .ok a ∧ ((f a).run (x.run s).state).result = .ok b := by
  cases h : (x.run s).result with
  | error e =>
    rw [run_bind_of_error h]
    simp
  | ok a =>
    rw [run_bind_of_ok h]
    simp

/-- Some run of `x` ends with `r`. -/
def Ends (x : Session σ ε α) (r : Except ε α) : Prop := ∃ s, (x.run s).result = r

/-! ## Computations that do not hang on the state -/

/-- What a run reports and how it ends is the same from every state. The state itself may
change. -/
def Steady (x : Session σ ε α) : Prop :=
  ∀ s s', (x.run s).events = (x.run s').events ∧ (x.run s).result = (x.run s').result

namespace Steady

theorem result_of_ends {x : Session σ ε α} (hx : x.Steady) {r : Except ε α} (h : x.Ends r)
    (s : σ) : (x.run s).result = r := by
  obtain ⟨s', rfl⟩ := h
  exact (hx s s').2

theorem pure (a : α) : (Pure.pure a : Session σ ε α).Steady := fun _ _ => ⟨rfl, rfl⟩

theorem emit (e : Event) : (Session.emit e : Session σ ε Unit).Steady := fun _ _ => ⟨rfl, rfl⟩

theorem ofExcept (r : Except ε α) : (Session.ofExcept r : Session σ ε α).Steady :=
  fun _ _ => ⟨rfl, rfl⟩

theorem mapError {x : Session σ ε α} (hx : x.Steady) (f : ε → ε') : (x.mapError f).Steady :=
  fun s s' => ⟨(hx s s').1, congrArg (Except.mapError f) (hx s s').2⟩

theorem bind {x : Session σ ε α} {f : α → Session σ ε β} (hx : x.Steady)
    (hf : ∀ a, (f a).Steady) : (x >>= f).Steady := by
  intro s s'
  obtain ⟨hevents, hresult⟩ := hx s s'
  cases h : (x.run s').result with
  | error e =>
    rw [h] at hresult
    rw [run_bind_of_error h, run_bind_of_error hresult]
    exact ⟨hevents, rfl⟩
  | ok a =>
    rw [h] at hresult
    obtain ⟨hevents', hresult'⟩ := hf a (x.run s).state (x.run s').state
    rw [run_bind_of_ok h, run_bind_of_ok hresult]
    exact ⟨by rw [hevents, hevents'], hresult'⟩

end Steady

/-! ## Lists of computations -/

/-- **A computation over a list ends as the first failure among its items says.** -/
theorem mapM_ends (f : α → Session σ ε β) (l : List α) (s : σ) :
    ∃ results, List.Forall₂ (fun a r => (f a).Ends r) l results ∧
      ((l.mapM f).run s).result = results.mapM id := by
  induction l generalizing s with
  | nil => exact ⟨[], .nil, rfl⟩
  | cons a l ih =>
    rw [List.mapM_cons]
    cases h : ((f a).run s).result with
    | error e =>
      -- the items behind a failure are not run; any run of theirs will do
      obtain ⟨results, hends, -⟩ := ih s
      refine ⟨.error e :: results, .cons ⟨s, h⟩ hends, ?_⟩
      rw [run_bind_of_error h]
      rfl
    | ok b =>
      obtain ⟨results, hends, hresult⟩ := ih ((f a).run s).state
      refine ⟨.ok b :: results, .cons ⟨s, h⟩ hends, ?_⟩
      rw [run_bind_of_ok h, List.mapM_cons]
      show ((l.mapM f >>= fun bs => pure (b :: bs)).run ((f a).run s).state).result = _
      cases hrest : results.mapM id with
      | error e =>
        rw [hrest] at hresult
        rw [run_bind_of_error hresult]
        rfl
      | ok bs =>
        rw [hrest] at hresult
        rw [run_bind_of_ok hresult]
        rfl

/-- What is reported is a beginning of what all items report, and all of it if nothing fails. -/
theorem mapM_events_isPrefix {f : α → Session σ ε β} (hf : ∀ a, (f a).Steady) (l : List α)
    (s t : σ) :
    ((l.mapM f).run s).events <+: l.flatMap (fun a => ((f a).run t).events) ∧
      ∀ bs, ((l.mapM f).run s).result = .ok bs →
        ((l.mapM f).run s).events = l.flatMap fun a => ((f a).run t).events := by
  induction l generalizing s with
  | nil => exact ⟨List.prefix_refl [], fun _ _ => rfl⟩
  | cons a l ih =>
    obtain ⟨hevents, -⟩ := hf a s t
    rw [List.mapM_cons, List.flatMap_cons, ← hevents]
    cases h : ((f a).run s).result with
    | error e =>
      -- the first item has reported, the ones behind it do not
      rw [run_bind_of_error h]
      exact ⟨List.prefix_append _ _, fun _ hok => nomatch hok⟩
    | ok b =>
      obtain ⟨hbegins, hall⟩ := ih ((f a).run s).state
      rw [run_bind_of_ok h]
      cases hrest : ((l.mapM f).run ((f a).run s).state).result with
      | error e =>
        rw [run_bind_of_error hrest]
        exact ⟨(List.prefix_append_right_inj _).mpr hbegins, fun _ hok => nomatch hok⟩
      | ok bs =>
        rw [run_bind_of_ok hrest, hall bs hrest, run_pure, List.append_nil]
        exact ⟨List.prefix_refl _, fun _ _ => rfl⟩

/-- With one item nothing can be left out, whatever its end. -/
theorem mapM_events_of_length_lt_two {f : α → Session σ ε β} (hf : ∀ a, (f a).Steady)
    {l : List α} (h : l.length < 2) (s t : σ) :
    ((l.mapM f).run s).events = l.flatMap fun a => ((f a).run t).events := by
  match l with
  | [] => rfl
  | [a] =>
    rw [List.mapM_cons, List.flatMap_singleton, ← (hf a s t).1]
    cases hr : ((f a).run s).result with
    | error e => rw [run_bind_of_error hr]
    | ok b =>
      rw [run_bind_of_ok hr]
      exact List.append_nil _
  | _ :: _ :: _ => exact absurd h (by simp)

end Session

/-! ## Traces without their order -/

/-- The same warnings and the same calls, each as often, in any order. -/
structure SameReports (es es' : List Event) : Prop where
  warnings : (warningsOf es).Perm (warningsOf es')
  calls : (callsOf es).Perm (callsOf es')

/-- Each warning and each call of the first trace is in the second, at least as often. -/
structure FewerReports (es es' : List Event) : Prop where
  warnings : (warningsOf es).Subperm (warningsOf es')
  calls : (callsOf es).Subperm (callsOf es')

/-- Nothing but log messages. -/
def Quiet (es : List Event) : Prop := ∀ e ∈ es, ∃ level message, e = .log level message

variable {es es' es'' : List Event}

theorem SameReports.of_perm (h : es.Perm es') : SameReports es es' :=
  ⟨h.filterMap _, h.filterMap _⟩

theorem Quiet.log (level : Int) (message : String) : Quiet [.log level message] := fun _ he =>
  ⟨level, message, List.mem_singleton.mp he⟩

theorem Quiet.warningsOf_eq (h : Quiet es) : warningsOf es = [] := by
  refine List.filterMap_eq_nil_iff.mpr fun e he => ?_
  obtain ⟨level, message, rfl⟩ := h e he
  rfl

theorem Quiet.callsOf_eq (h : Quiet es) : callsOf es = [] := by
  refine List.filterMap_eq_nil_iff.mpr fun e he => ?_
  obtain ⟨level, message, rfl⟩ := h e he
  rfl

theorem Quiet.append (h : Quiet es) (h' : Quiet es') : Quiet (es ++ es') := fun e he =>
  (List.mem_append.mp he).elim (h e) (h' e)

/-- Log messages in front are not counted. -/
theorem Quiet.sameReports_append (h : Quiet es) (es' : List Event) :
    SameReports (es ++ es') es' := by
  refine ⟨.of_eq ?_, .of_eq ?_⟩
  · rw [warningsOf, List.filterMap_append]
    exact congrArg (· ++ warningsOf es') h.warningsOf_eq
  · rw [callsOf, List.filterMap_append]
    exact congrArg (· ++ callsOf es') h.callsOf_eq

theorem FewerReports.of_sublist (h : es.Sublist es') : FewerReports es es' :=
  ⟨(h.filterMap _).subperm, (h.filterMap _).subperm⟩

theorem FewerReports.trans_same (h : FewerReports es es') (h' : SameReports es' es'') :
    FewerReports es es'' :=
  ⟨h.warnings.trans h'.warnings.subperm, h.calls.trans h'.calls.subperm⟩

theorem FewerReports.same_trans (h : SameReports es es') (h' : FewerReports es' es'') :
    FewerReports es es'' :=
  ⟨h.warnings.subperm.trans h'.warnings, h.calls.subperm.trans h'.calls⟩

theorem SameReports.symm (h : SameReports es es') : SameReports es' es :=
  ⟨h.warnings.symm, h.calls.symm⟩

theorem SameReports.trans (h : SameReports es es') (h' : SameReports es' es'') :
    SameReports es es'' :=
  ⟨h.warnings.trans h'.warnings, h.calls.trans h'.calls⟩

end LiveSections
