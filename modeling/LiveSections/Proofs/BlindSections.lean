import LiveSections.Properties.Compiler
import LiveSections.Proofs.Names
import LiveSections.Proofs.Recompile

/-!
# Sections that do not look back

The outputs of sections hang on their previous outputs only by way of the evaluator. If no program
uses the name of the previous output, the sections render blindly, however many workers there are
and whatever the programs do to values that they share.

- `SameEnd`: two ends with related results, or the same error.
- `Session.Alike`: two computations that lead to the same state, with the same end.
- `evaluateSections_alike`: sections that are evaluated alike one by one are evaluated alike.
- `rendersBlindly_of_names`: **sections whose programs do not use the name of the previous output
  render blindly.**
-/

namespace LiveSections

/-! ## Computations side by side -/

section Relations

variable {σ ε ε' α α' β β' : Type} {R : α → α' → Prop} {S : β → β' → Prop}

/-- Both are the same error, or both are results and these are related. -/
inductive SameEnd (R : α → α' → Prop) : Except ε α → Except ε α' → Prop where
  | error (e : ε) : SameEnd R (.error e) (.error e)
  | ok {a : α} {a' : α'} (h : R a a') : SameEnd R (.ok a) (.ok a')

theorem SameEnd.mapError {r : Except ε α} {r' : Except ε α'} (h : SameEnd R r r') (f : ε → ε') :
    SameEnd R (r.mapError f) (r'.mapError f) := by
  cases h with
  | error e => exact .error (f e)
  | ok h => exact .ok h

/-- Lists of related ends are related as a whole. -/
theorem SameEnd.mapM_id {ends : List (Except ε α)} {ends' : List (Except ε α')}
    (h : List.Forall₂ (SameEnd R) ends ends') :
    SameEnd (List.Forall₂ R) (ends.mapM id) (ends'.mapM id) := by
  induction h with
  | nil => exact .ok .nil
  | @cons r r' rs rs' hr _ ih =>
    rw [List.mapM_cons, List.mapM_cons]
    cases hr with
    | error e => exact .error e
    | ok hR =>
      show SameEnd _ (rs.mapM id >>= fun as => .ok (_ :: as))
        (rs'.mapM id >>= fun as => .ok (_ :: as))
      generalize rs.mapM id = all, rs'.mapM id = all' at ih ⊢
      cases ih with
      | error e => exact .error e
      | ok hRs => exact .ok (.cons hR hRs)

/-- Lists that are related item by item are related at every place. -/
theorem forall₂_getElem? {l : List α} {l' : List α'} (h : List.Forall₂ R l l') (i : Nat) :
    Option.Rel R l[i]? l'[i]? := by
  induction h generalizing i with
  | nil => exact .none
  | cons hR _ ih =>
    cases i with
    | zero => exact .some hR
    | succ i => exact ih i

namespace Session

/-- From every state both lead to the same state, and have the same end. -/
def Alike (R : α → α' → Prop) (x : Session σ ε α) (x' : Session σ ε α') : Prop :=
  ∀ s, (x.run s).state = (x'.run s).state ∧ SameEnd R (x.run s).result (x'.run s).result

namespace Alike

/-- A computation goes like itself. The result is one that it can have. -/
theorem self (x : Session σ ε α) : Alike (fun a a' => a = a' ∧ x.Ends (.ok a)) x x := by
  intro s
  refine ⟨rfl, ?_⟩
  cases hr : (x.run s).result with
  | error e => exact .error e
  | ok a => exact .ok ⟨rfl, s, hr⟩

theorem pure {a : α} {a' : α'} (h : R a a') :
    Alike R (Pure.pure a : Session σ ε α) (Pure.pure a') := fun _ => ⟨rfl, .ok h⟩

theorem emit (e e' : Event) : Alike Eq (Session.emit e : Session σ ε Unit) (Session.emit e') :=
  fun _ => ⟨rfl, .ok rfl⟩

theorem ofExcept {r : Except ε α} {r' : Except ε α'} (h : SameEnd R r r') :
    Alike R (Session.ofExcept r : Session σ ε α) (Session.ofExcept r') := fun _ => ⟨rfl, h⟩

theorem mapError {x : Session σ ε α} {x' : Session σ ε α'} (h : Alike R x x') (f : ε → ε') :
    Alike R (x.mapError f) (x'.mapError f) := fun s => ⟨(h s).1, (h s).2.mapError f⟩

theorem attempt {x : Session σ ε α} {x' : Session σ ε α'} (h : Alike R x x') :
    Alike (SameEnd R) (x.attempt : Session σ ε' (Except ε α)) x'.attempt :=
  fun s => ⟨(h s).1, .ok (h s).2⟩

theorem bind {x : Session σ ε α} {x' : Session σ ε α'} {f : α → Session σ ε β}
    {f' : α' → Session σ ε β'} (hx : Alike R x x') (hf : ∀ a a', R a a' → Alike S (f a) (f' a')) :
    Alike S (x >>= f) (x' >>= f') := by
  intro s
  obtain ⟨hstate, hend⟩ := hx s
  generalize hr : (x.run s).result = r at hend
  generalize hr' : (x'.run s).result = r' at hend
  cases hend with
  | error e =>
    rw [run_bind_of_error hr, run_bind_of_error hr']
    exact ⟨hstate, .error e⟩
  | ok hR =>
    rw [run_bind_of_ok hr, run_bind_of_ok hr', hstate]
    exact hf _ _ hR (x'.run s).state

/-- Lists of computations that go alike one by one go alike. -/
theorem mapM {γ γ' : Type} {f : γ → Session σ ε α} {f' : γ' → Session σ ε α'} {l : List γ}
    {l' : List γ'} (h : List.Forall₂ (fun c c' => Alike R (f c) (f' c')) l l') :
    Alike (List.Forall₂ R) (l.mapM f) (l'.mapM f') := by
  induction h with
  | nil => exact .pure .nil
  | cons hf _ ih =>
    rw [List.mapM_cons, List.mapM_cons]
    exact hf.bind fun _ _ hR => ih.bind fun _ _ hRs => .pure (.cons hR hRs)

end Alike

end Session

end Relations

/-! ## Sections side by side -/

namespace Compiler

open Session

variable {σ : Type} {c : Compiler σ}

/-- Two sections with the same fresh output. -/
def SameOutput (r r' : Rendered) : Prop := r.output = r'.output

/-- Sections of the same name and program are evaluated alike if the evaluator gives them the
same. -/
theorem evaluateSection_alike {s s' : Section} (hg : s.gist = s'.gist)
    (he : ∀ program, (c.fillProgram s.name s.program).Ends (.ok program) →
      c.evaluator s.name program s.stale = c.evaluator s.name program s'.stale) :
    Alike SameOutput (c.evaluateSection s) (c.evaluateSection s') := by
  obtain ⟨hname, -, hprogram, -⟩ := Section.mk.inj hg
  have hname : s.name = s'.name := hname
  have hprogram : s.program = s'.program := hprogram
  unfold evaluateSection
  rw [← hname, ← hprogram]
  refine (Alike.emit _ _).bind fun _ _ _ => ?_
  refine (Alike.self _).bind fun program _ ⟨heq, hends⟩ => ?_
  subst heq
  refine (Alike.emit _ _).bind fun _ _ _ => ?_
  rw [← he program hends]
  refine (Alike.self _).bind fun produced _ ⟨heq, _⟩ => ?_
  subst heq
  exact (Alike.self _).bind fun output _ ⟨heq, _⟩ => .pure (congrArg normalizeOutput heq)

/-- Results that stand for the same places, with related ends. -/
def SameResults (results results' : Table Nat (Except Failure Rendered)) : Prop :=
  List.Forall₂ (fun p p' => p.1 = p'.1 ∧ SameEnd SameOutput p.2 p'.2) results results'

theorem evaluateAll_alike {sections sections' : List Section}
    (h : List.Forall₂ (fun s s' => Alike SameOutput (c.evaluateSection s) (c.evaluateSection s'))
      sections sections') (order : List Nat) :
    Alike SameResults (c.evaluateAll sections order) (c.evaluateAll sections' order) := by
  induction order with
  | nil => exact .pure .nil
  | cons i order ih =>
    rw [evaluateAll, evaluateAll]
    have hplace := forall₂_getElem? h i
    generalize sections[i]? = s, sections'[i]? = s' at hplace ⊢
    cases hplace with
    | none => exact ih
    | some halike =>
      exact halike.attempt.bind fun _ _ hend => ih.bind fun _ _ hresults =>
        .pure (.cons ⟨rfl, hend⟩ hresults)

/-- The results are collected alike. -/
theorem collect_sameEnd {results results' : Table Nat (Except Failure Rendered)}
    (h : SameResults results results') (count : Nat) :
    SameEnd (List.Forall₂ SameOutput) (collect results count) (collect results' count) := by
  have hplace (i : Nat) : Option.Rel (SameEnd SameOutput) (results.get? i) (results'.get? i) := by
    induction h with
    | nil => exact .none
    | cons hp _ ih =>
      rw [Table.get?, Table.get?, ← hp.1]
      split
      · exact .some hp.2
      · exact ih
  have hsame : Relator.LiftFun (· = ·) (Option.Rel (SameEnd SameOutput))
      (fun i => results.get? i) (fun i => results'.get? i) := fun i _ heq => heq ▸ hplace i
  have hplaces : List.Forall₂ (· = ·) (List.range count) (List.range count) :=
    List.forall₂_same.mpr fun _ _ => rfl
  exact SameEnd.mapM_id (List.rel_filterMap hsame hplaces)

/-- Sections that are evaluated alike one by one are evaluated alike, in turn or by workers. -/
theorem evaluateSections_alike {sections sections' : List Section}
    (h : List.Forall₂ (fun s s' => Alike SameOutput (c.evaluateSection s) (c.evaluateSection s'))
      sections sections') :
    Alike (List.Forall₂ SameOutput) (c.evaluateSections sections)
      (c.evaluateSections sections') := by
  have hlength : sections.length = sections'.length := h.length_eq
  unfold evaluateSections evaluateInTurn
  rw [← hlength]
  split
  · exact .mapM h
  · refine (Alike.emit _ _).bind fun _ _ _ => ?_
    refine (evaluateAll_alike h _).bind fun results results' hresults => ?_
    exact .ofExcept (collect_sameEnd hresults _)

/-! ## Programs that do not use the previous output -/

/-- **Sections whose programs do not use the name of the previous output render blindly:** whatever
stands there, they have the outputs that they have once. -/
theorem rendersBlindly_of_names {c : Compiler Heap} {e : ProgramEvaluator}
    (he : c.evaluator = programEvaluator e) {sections : List Section}
    (hn : ∀ s ∈ sections, ∀ program, (c.fillProgram s.name s.program).Ends (.ok program) →
      ∀ p, Program.parse program = .ok p → ProgramEvaluator.inputName ∉ p.names)
    {h : Heap} {rs : List Rendered}
    (hr : ((c.evaluateSections sections).run h).result = .ok rs) :
    c.RendersBlindly h sections (rs.map Rendered.output) := by
  intro sections' hg
  have hgists : List.Forall₂ (fun s s' => Section.gist s = Section.gist s') sections sections' := by
    have heq : List.Forall₂ (· = ·) (sections.map Section.gist) (sections'.map Section.gist) := by
      rw [hg]
      exact List.forall₂_same.mpr fun _ _ => rfl
    exact List.forall₂_map_right_iff.mp (List.forall₂_map_left_iff.mp heq)
  have hsections : List.Forall₂ (fun s s' => Alike SameOutput (c.evaluateSection s)
      (c.evaluateSection s')) sections sections' := by
    refine ((List.forall₂_and_left _ _).mpr ⟨hn, hgists⟩).imp fun s s' ⟨hnames, hgist⟩ => ?_
    refine evaluateSection_alike hgist fun program hends => ?_
    rw [he, programEvaluator, programEvaluator,
      ProgramEvaluator.evaluate_eq_of_names e (hnames program hends) s.name s.stale s'.stale]
  obtain ⟨-, hend⟩ := evaluateSections_alike hsections h
  rw [hr] at hend
  generalize hr' : ((c.evaluateSections sections').run h).result = r' at hend
  cases hend with
  | ok hsame =>
    exact ⟨_, rfl, (map_eq_map_of_forall₂ hsame fun r r' heq => heq).symm⟩

end Compiler

end LiveSections
