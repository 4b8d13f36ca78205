import LiveSections.Proofs.Evaluation
import LiveSections.Proofs.Grounding
import LiveSections.Proofs.MovedPrograms

/-!
# Sections side by side

One evaluator runs the programs of many sections. Each gets names of its own, but the collections
among the properties are the same for all, and a program can change them. Nothing else goes from one
program to the next.

- `ProgramEvaluator.Grounded`: the properties lead to cells of a heap, and so do these. Those of a file
  do (`grounded_of_ofYaml`).
- `ProgramEvaluator.Spares`: an evaluation that, made alone, stays inside what is modelled and
  leaves the cells of a heap as they were. One without updates that stays inside does
  (`spares_of_isQuiet`).
- `ProgramEvaluator.extends_after`: evaluations that spare these cells still do one after another.
- `ProgramEvaluator.observe_after`: **what is seen of an evaluation is what is seen of it alone,** if
  the ones before it spare the properties.
- `ProgramEvaluator.observe_after_plain`: **with no collections among the properties it is so behind
  all evaluations that stay inside what is modelled.**

What does not hold: that evaluations never hang on those before. One program can add to a list that
the next one looks at.

What is left open: evaluations behind one that goes beyond what is modelled (`Unmodelled`). Such a
program may change a collection by a method of it, leave an attribute on a helper, which all
sections share, or change the built-in names.
-/

namespace LiveSections

/-! ## Grounded heaps -/

/-- What comes before the room stays where it is. -/
theorem Value.moved_of_within {m : Relocation} {v : Value} (h : v.Within m.base) : v.moved m = v := by
  have href {r : Nat} (hr : v.cell? = some r) : m.ref r = r := if_pos (h r hr)
  cases v
  case list r => exact congrArg _ (href rfl)
  case tuple r => exact congrArg _ (href rfl)
  case dict r => exact congrArg _ (href rfl)
  case set r => exact congrArg _ (href rfl)
  case exception c r => exact congrArg _ (href rfl)
  all_goals rfl

theorem Cell.moved_of_within {m : Relocation} {c : Cell} (h : c.Within m.base) : c.moved m = c := by
  cases c with
  | sequence items =>
    refine congrArg sequence ((List.map_congr_left fun v hv => ?_).trans (List.map_id _))
    exact Value.moved_of_within (h v hv)
  | mapping entries =>
    refine congrArg mapping ((List.map_congr_left fun e he => ?_).trans (List.map_id _))
    exact Prod.ext (Value.moved_of_within (h e he).1) (Value.moved_of_within (h e he).2)

/-- The room for the cells that a heap has behind those of another one. -/
def Heap.room (h h' : Heap) : Relocation := ⟨h.cells.size, h'.cells.size - h.cells.size⟩

variable {h h' : Heap}

theorem Heap.Extends.size_le (he : h.Extends h') : h.cells.size ≤ h'.cells.size := by
  by_contra hlt
  have hr : h'.cells.size < h.cells.size := by omega
  have hcell := he h'.cells.size _ (Array.getElem?_eq_getElem hr)
  rw [Array.getElem?_eq_none (Nat.le_refl _)] at hcell
  cases hcell

/-- A closed heap with further cells behind it is displaced. -/
theorem Heap.Extends.displaced (he : h.Extends h') (hc : h.Closed) : (h.room h').Displaced h h' := by
  have hsize := he.size_le
  refine ⟨Nat.le_refl _, (Nat.add_sub_cancel' hsize).symm, fun r => ?_⟩
  by_cases hr : r < h.cells.size
  · have hcell := Array.getElem?_eq_getElem hr
    have href : (h.room h').ref r = r := if_pos hr
    rw [href, he r _ hcell, hcell, Option.map_some, Cell.moved_of_within (hc r _ hcell)]
  · have href : (h.room h').ref r = r + (h'.cells.size - h.cells.size) := if_neg hr
    rw [href, Array.getElem?_eq_none (by omega), Array.getElem?_eq_none (by omega)]
    rfl

/-- Cells in front of the room stay if they do on the other heap. -/
theorem Relocation.Displaced.extends {m : Relocation} {k k' : Heap} (hd : m.Displaced k k')
    (hbase : m.base = h.cells.size) (hc : h.Closed) (he : h.Extends k) : h.Extends k' := by
  intro r c hr
  have hlt : r < h.cells.size := (Array.getElem?_eq_some_iff.mp hr).1
  have href : m.ref r = r := if_pos (hbase ▸ hlt)
  have hcell := hd.cell_eq r
  rw [href, he r c hr, Option.map_some, Cell.moved_of_within (hbase ▸ hc r c hr)] at hcell
  exact hcell

/-! ## Evaluations one after another -/

/-- One use of an evaluator. -/
structure SectionCall where
  name : Text
  program : Text
  stale : Text

/-- The place of the arguments of what was raised. -/
def Failure.place? : Failure → Option Ref
  | .evaluation ⟨_, .faulted (.raised _ _ r)⟩ => some r
  | .raised e => e.arguments
  | _ => none

/-- What is seen of an evaluation: what it has reported, and its output or failure. Places in the
heap are not seen, but what a raised exception was made with is. -/
structure Observation where
  events : List Event
  result : Except Failure Text
  arguments : List (Except TooManyDigits Text)

/-- What is seen of the end of an evaluation. -/
def Ending.observed (x : Ending Heap Failure Text) : Observation where
  events := x.events
  result := x.result.mapError (Failure.mapRef fun _ => 0)
  arguments := match x.result with
    | .ok _ => []
    | .error e => (e.place?.elim [] x.state.items).map x.state.quoted

theorem Failure.mapRef_const_mapRef (r : Ref) (f : Ref → Ref) (e : Failure) :
    (e.mapRef f).mapRef (fun _ => r) = e.mapRef fun _ => r := by
  match e with
  | .evaluation ⟨_, .faulted fault⟩ => cases fault <;> rfl
  | .evaluation ⟨_, .malformed _⟩ | .evaluation ⟨_, .unassigned⟩ | .evaluation ⟨_, .notText _⟩
  | .evaluation ⟨_, .returned _⟩ | .evaluation ⟨_, .wrapped _⟩ | .evaluation ⟨_, .stated _⟩ => rfl
  | .raised ⟨_, _, r⟩ => cases r <;> rfl
  | .unmodelled _ => rfl

theorem Failure.place?_mapRef (f : Ref → Ref) (e : Failure) :
    (e.mapRef f).place? = e.place?.map f := by
  match e with
  | .evaluation ⟨_, .faulted fault⟩ => cases fault <;> rfl
  | .evaluation ⟨_, .malformed _⟩ | .evaluation ⟨_, .unassigned⟩ | .evaluation ⟨_, .notText _⟩
  | .evaluation ⟨_, .returned _⟩ | .evaluation ⟨_, .wrapped _⟩ | .evaluation ⟨_, .stated _⟩ => rfl
  | .raised _ | .unmodelled _ => rfl

/-- Nothing is seen of where cells have gone. -/
theorem Ending.Displaced.observed {m : Relocation} {x x' : Ending Heap Failure Text}
    (hd : Ending.Displaced m x x') : x'.observed = x.observed := by
  have hresult := hd.result
  unfold Ending.observed
  rw [hd.events]
  cases h : x.result with
  | ok t =>
    rw [h] at hresult
    rw [hresult]
    rfl
  | error e =>
    rw [h] at hresult
    have hresult : x'.result = .error (e.mapRef m.ref) := hresult
    -- the arguments are elsewhere, but are quoted alike
    have harguments : ((e.mapRef m.ref).place?.elim [] x'.state.items).map x'.state.quoted =
        (e.place?.elim [] x.state.items).map x.state.quoted := by
      rw [e.place?_mapRef]
      cases e.place? with
      | none => rfl
      | some r =>
        rw [Option.map_some, Option.elim_some, Option.elim_some, hd.state.items, List.map_map]
        exact List.map_congr_left fun v _ => hd.state.quoted v
    rw [hresult]
    dsimp only
    rw [harguments]
    exact congrArg (fun e => Observation.mk _ (.error e) _) (e.mapRef_const_mapRef 0 m.ref)

namespace ProgramEvaluator

/-- The end of an evaluation. -/
def ending (e : ProgramEvaluator) (call : SectionCall) (h : Heap) : Ending Heap Failure Text :=
  (e.evaluate call.name call.program call.stale).run h

/-- What is seen of an evaluation. -/
def observe (e : ProgramEvaluator) (call : SectionCall) (h : Heap) : Observation :=
  (e.ending call h).observed

/-- The heap behind evaluations one after another. -/
def after (e : ProgramEvaluator) (calls : List SectionCall) (h : Heap) : Heap :=
  calls.foldl (fun h call => (e.ending call h).state) h

/-- The properties and the bindings of sections lead to cells of a heap, and these do so too. -/
structure Grounded (e : ProgramEvaluator) (h : Heap) : Prop where
  properties : ∀ p ∈ e.properties, p.2.Within h.cells.size
  bindings : ∀ name, ∀ p ∈ e.bindings name, p.2.Within h.cells.size
  closed : h.Closed

/-- The properties of a file are grounded in the heap that they are read into. -/
theorem grounded_of_ofYaml {path : Path} {t : Text} {p : Properties}
    (hp : Properties.ofYaml path t .empty = .ok (h, p)) (registry : Registry) :
    Grounded { properties := p, registry } h := by
  obtain ⟨hclosed, hwithin⟩ := Properties.ofYaml_closed Heap.closed_empty hp
  exact ⟨hwithin, fun _ => List.forall_mem_nil _, hclosed⟩

/-- An evaluation that, made alone, stays inside what is modelled and leaves the cells of a heap as
they were. Of one that goes beyond, nothing is known of what it leaves. -/
structure Spares (e : ProgramEvaluator) (h : Heap) (call : SectionCall) : Prop where
  inside : e.Inside call.name call.program call.stale h
  kept : h.Extends (e.ending call h).state

variable {e : ProgramEvaluator}

/-- All that a section's program finds under a name leads to cells of the heap. -/
theorem Grounded.within_context (hg : e.Grounded h) (name stale : Text) :
    ∀ p ∈ Table.put inputName (.text stale) (e.context name), p.2.Within h.cells.size := by
  have hfunctions : ∀ p ∈ e.registry.functions.map (fun f => (f.1, Value.helper f.2)),
      p.2.Within h.cells.size := by
    intro p hp
    obtain ⟨f, -, rfl⟩ := List.mem_map.mp hp
    exact Value.within_of_cell? rfl
  have hproperties : ∀ p ∈ e.properties.filter (fun p => Text.isIdentifier p.1),
      p.2.Within h.cells.size :=
    fun p hp => hg.properties p (List.mem_of_mem_filter hp)
  exact Table.forall_put (Table.forall_putAll (Table.forall_putAll hproperties hfunctions)
    (hg.bindings name)) (Value.within_of_cell? rfl)

/-- What the names of a section lead to stays where it is. -/
theorem Grounded.scope_moved {m : Relocation} (hg : e.Grounded h) (hbase : m.base = h.cells.size)
    (name stale : Text) : (e.scope name stale).moved m = e.scope name stale := by
  have hwithin := hg.within_context name stale
  rw [← hbase] at hwithin
  have hbindings : Table.moved m (Table.put inputName (.text stale) (e.context name)) =
      Table.put inputName (.text stale) (e.context name) := by
    refine (List.map_congr_left fun p hp => ?_).trans (List.map_id _)
    exact Prod.ext rfl (Value.moved_of_within (hwithin p hp))
  have houter : (Table.get? BuiltIn.tableName
        (Table.put inputName (.text stale) (e.context name))).map (Value.moved m) =
      Table.get? BuiltIn.tableName (Table.put inputName (.text stale) (e.context name)) := by
    rw [← Table.get?_moved, hbindings]
  unfold scope Scope.ofBindings Scope.moved
  rw [hbindings, houter]

/-- On a heap with further cells an evaluation goes as it goes without them. -/
theorem Grounded.ending_displaced (hg : e.Grounded h) (he : h.Extends h') (call : SectionCall) :
    Ending.Displaced (h.room h') (e.ending call h) (e.ending call h') := by
  have hmoves := e.evaluate_moves (w := True) call.name call.program call.stale
    (hg.scope_moved rfl _ _) (fun _ _ _ _ _ => trivial) (he.displaced hg.closed)
  exact hmoves.2

/-- Whether a text is no program, or one without updates. -/
def isQuiet (program : Text) : Bool :=
  match Program.parse program with
  | .ok p => p.all fun s => !s.isUpdate
  | .error _ => true

/-- A program without updates spares everything, if it stays inside what is modelled. -/
theorem spares_of_isQuiet (hg : e.Grounded h) {call : SectionCall}
    (hinside : e.Inside call.name call.program call.stale h)
    (hq : isQuiet call.program = true) : e.Spares h call := by
  have hquiet (p : Program) (hp : Program.parse call.program = .ok p) :
      ∀ s ∈ p, s.isUpdate = true → False := by
    rw [isQuiet, hp] at hq
    intro s hs hupdate
    have hno := List.all_eq_true.mp hq s hs
    rw [hupdate] at hno
    cases hno
  -- the program is run beside itself, on heaps with no room between, and none of its steps may write
  have hmoves := e.evaluate_moves (w := False) call.name call.program call.stale
    (hg.scope_moved (m := h.room h) rfl _ _) hquiet
    ((Heap.Extends.refl h).displaced hg.closed)
  exact ⟨hinside, hmoves.1.resolve_left not_false⟩

/-- One evaluation after others keeps what it keeps alone. -/
theorem extends_ending (hg : e.Grounded h) {call : SectionCall} (hs : e.Spares h call)
    (he : h.Extends h') : h.Extends (e.ending call h').state :=
  (hg.ending_displaced he call).state.extends rfl hg.closed hs.kept

/-- Evaluations one after another keep what each of them keeps alone. -/
theorem extends_after (hg : e.Grounded h) {calls : List SectionCall}
    (hs : ∀ call ∈ calls, e.Spares h call) (he : h.Extends h') : h.Extends (e.after calls h') := by
  induction calls generalizing h' with
  | nil => exact he
  | cons call calls ih =>
    have hcall := extends_ending hg (hs call List.mem_cons_self) he
    exact ih (fun c hc => hs c (List.mem_cons_of_mem call hc)) hcall

/-- What is seen of an evaluation hangs on the cells of the properties alone. -/
theorem observe_of_extends (hg : e.Grounded h) (he : h.Extends h') (call : SectionCall) :
    e.observe call h' = e.observe call h :=
  (hg.ending_displaced he call).observed

/-- **What is seen of an evaluation after others is what is seen of it alone,** if each of the others
spares the properties when it is made alone. -/
theorem observe_after (hg : e.Grounded h) {before : List SectionCall}
    (hs : ∀ call ∈ before, e.Spares h call) (call : SectionCall) :
    e.observe call (e.after before h) = e.observe call h :=
  observe_of_extends hg (extends_after hg hs (.refl h)) call

/-- **With no collections among the properties evaluations do not hang on those before,** as long as
these stay inside what is modelled. -/
theorem observe_after_plain (hp : ∀ p ∈ e.properties, p.2.cell? = none)
    (hb : ∀ name, ∀ p ∈ e.bindings name, p.2.cell? = none) {before : List SectionCall}
    (hinside : ∀ call ∈ before, e.Inside call.name call.program call.stale .empty)
    (call : SectionCall) : e.observe call (e.after before .empty) = e.observe call .empty := by
  have hg : e.Grounded .empty :=
    ⟨fun p hmem => Value.within_of_cell? (hp p hmem),
      fun name p hmem => Value.within_of_cell? (hb name p hmem), Heap.closed_empty⟩
  have hkept (h : Heap) : Heap.empty.Extends h := by
    intro r c hc
    rw [Heap.empty, Array.getElem?_empty] at hc
    cases hc
  have hspares : ∀ call ∈ before, e.Spares .empty call :=
    fun c hc => ⟨hinside c hc, hkept _⟩
  exact observe_of_extends hg (extends_after hg hspares (.refl .empty)) call

/-! ### A list among the properties -/

/-- An evaluator with a list among its properties, in the first cell of `sharedHeap`. -/
def shared : ProgramEvaluator := { properties := [("xs".toList, .list 0)] }

/-- The list with one item. -/
def sharedHeap : Heap := ⟨#[.sequence [.text ['a']]]⟩

/-- A program that tells how long the list is. -/
def counting : SectionCall := ⟨['b'], "output = str(len(xs))\n".toList, []⟩

theorem shared_grounded : shared.Grounded sharedHeap := by
  refine ⟨?_, fun _ => List.forall_mem_nil _, ?_⟩
  · refine List.forall_mem_singleton.mpr fun r hr => ?_
    cases hr
    exact Nat.zero_lt_one
  · intro r c hr
    obtain ⟨hlt, rfl⟩ := Array.getElem?_eq_some_iff.mp hr
    obtain rfl : r = 0 := Nat.lt_one_iff.mp hlt
    exact List.forall_mem_singleton.mpr (Value.within_of_cell? rfl)

/-- To put a longer list together does not make the list longer that is there. -/
theorem observe_counting_after_joining :
    let joining : SectionCall := ⟨['a'], "ys = xs + ['b']\noutput = str(ys)\n".toList, []⟩
    shared.Grounded sharedHeap ∧ (∀ call ∈ [joining], shared.Spares sharedHeap call) ∧
      shared.observe counting (shared.after [joining] sharedHeap) =
        shared.observe counting sharedHeap ∧
      (shared.observe counting sharedHeap).result = .ok ['1'] := by
  intro joining
  have hjoining : (shared.ending joining sharedHeap).result = .ok "['a', 'b']".toList := by
    decide +kernel
  have hspares : shared.Spares sharedHeap joining :=
    spares_of_isQuiet shared_grounded (.of_ok hjoining) (by decide +kernel)
  have hspares : ∀ call ∈ [joining], shared.Spares sharedHeap call :=
    List.forall_mem_singleton.mpr hspares
  exact ⟨shared_grounded, hspares, observe_after shared_grounded hspares counting,
    by decide +kernel⟩

/-- A program that makes the list longer is seen by the next one, though it stays inside what is
modelled. -/
theorem observe_counting_after_adding :
    let adding : SectionCall := ⟨['a'], "xs += ['b']\noutput = ''\n".toList, []⟩
    shared.Grounded sharedHeap ∧
      shared.Inside adding.name adding.program adding.stale sharedHeap ∧
      (shared.observe counting (shared.after [adding] sharedHeap)).result = .ok ['2'] ∧
      (shared.observe counting sharedHeap).result = .ok ['1'] ∧
      shared.observe counting (shared.after [adding] sharedHeap) ≠
        shared.observe counting sharedHeap := by
  intro adding
  have hafter : (shared.observe counting (shared.after [adding] sharedHeap)).result = .ok ['2'] := by
    decide +kernel
  have halone : (shared.observe counting sharedHeap).result = .ok ['1'] := by
    decide +kernel
  have hadding : (shared.ending adding sharedHeap).result = .ok [] := by
    decide +kernel
  refine ⟨shared_grounded, .of_ok hadding, hafter, halone, fun heq => ?_⟩
  have hresult := congrArg Observation.result heq
  rw [hafter, halone] at hresult
  cases hresult

end ProgramEvaluator

end LiveSections
