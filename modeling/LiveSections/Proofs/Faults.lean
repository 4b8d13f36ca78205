import LiveSections.Evaluation.Error
import LiveSections.Proofs.Names

/-!
# Faults of the language

A fault is one of the language, or an exception that a statement of the program raises, or the mark
of what is not modelled. All faults of the language stand for failures. An exception of the
program's own can stand for anything, also for the wish to stop. Operators, attributes and calls
have faults of the language only, or go beyond what is modelled.

- `RunFault.isRaised`: whether the program raised the fault itself.
- `RunFault.isFailure_of_not_isRaised`: **what a program did not raise itself is a failure.**
- `UnraisedResult`, `Computation.Unraised`: no fault that the program raised itself.
- `Value.binary_unraised`, `Value.update_unraised`, `Value.unary_unraised`: no operator raises one.
- `Value.call_unraised`: **no call raises one,** whatever is called.
-/

namespace LiveSections

/-- Whether the program raised the fault itself. -/
@[simp] def RunFault.isRaised : RunFault → Bool
  | raised .. => true
  | _ => false

/-- The faults of the language stand for failures. What is not modelled counts with them. -/
theorem RunFault.isFailure_of_not_isRaised {fault : RunFault} (h : fault.isRaised = false) :
    ExceptionClass.isFailure ⟨fault.className⟩ = true := by
  cases fault with
  | raised => cases h
  | calendar f => cases f <;> rfl
  | _ => rfl

/-- What does not stand for a failure is an exception that the program raised. -/
theorem RunFault.exists_raised_of_isFailure {fault : RunFault}
    (h : ExceptionClass.isFailure ⟨fault.className⟩ = false) :
    ∃ c text r, fault = raised c text r := by
  cases hraised : fault.isRaised with
  | false => cases h.symm.trans (isFailure_of_not_isRaised hraised)
  | true =>
    cases fault with
    | raised c text r => exact ⟨c, text, r, rfl⟩
    | _ => cases hraised

/-! ## Results -/

/-- A result that is no fault that the program raised itself. -/
def UnraisedResult {α : Type} (r : Except RunFault α) : Prop :=
  ∀ e, r = .error e → e.isRaised = false

namespace UnraisedResult

variable {α β : Type}

@[simp] theorem ok (a : α) : UnraisedResult (.ok a) := nofun

@[simp] theorem pure (a : α) : UnraisedResult (Pure.pure a) := nofun

@[simp] theorem error_iff {e : RunFault} :
    UnraisedResult (.error e : Except RunFault α) ↔ e.isRaised = false := by
  constructor
  · exact fun h => h e rfl
  · rintro h _ ⟨⟩
    exact h

@[simp] theorem throw_iff {e : RunFault} :
    UnraisedResult (throw e : Except RunFault α) ↔ e.isRaised = false :=
  error_iff

theorem bind {x : Except RunFault α} {f : α → Except RunFault β} (hx : UnraisedResult x)
    (hf : ∀ a, UnraisedResult (f a)) : UnraisedResult (x >>= f) := by
  cases x with
  | error e => exact error_iff.mpr (error_iff.mp hx)
  | ok a => exact hf a

theorem map {x : Except RunFault α} (f : α → β) (hx : UnraisedResult x) :
    UnraisedResult (f <$> x) := by
  cases x with
  | error e => exact error_iff.mpr (error_iff.mp hx)
  | ok a => exact ok _

theorem mapError {ε : Type} {f : ε → RunFault} (hf : ∀ e, (f e).isRaised = false)
    (x : Except ε α) : UnraisedResult (x.mapError f) := by
  cases x with
  | error e => exact error_iff.mpr (hf e)
  | ok a => exact ok a

@[simp] theorem throw_bind_iff {e : RunFault} {f : β → Except RunFault α} :
    UnraisedResult (throw e >>= f) ↔ e.isRaised = false :=
  error_iff

/-- A check before what comes next. -/
theorem guard {c : Prop} [Decidable c] {e : RunFault} (he : e.isRaised = false)
    {f : Unit → Except RunFault α} (hf : UnraisedResult (f ())) :
    UnraisedResult (if c then throw e >>= f else f ()) := by
  split
  · exact throw_bind_iff.mpr he
  · exact hf

theorem mapM {f : α → Except RunFault β} (hf : ∀ a, UnraisedResult (f a)) (l : List α) :
    UnraisedResult (l.mapM f) := by
  induction l with
  | nil => exact ok _
  | cons a l ih =>
    rw [List.mapM_cons]
    exact (hf a).bind fun _ => ih.bind fun _ => ok _

theorem foldlM {f : β → α → Except RunFault β} (hf : ∀ b a, UnraisedResult (f b a)) (l : List α)
    (b : β) : UnraisedResult (l.foldlM f b) := by
  induction l generalizing b with
  | nil => exact ok _
  | cons a l ih =>
    rw [List.foldlM_cons]
    exact (hf b a).bind ih

theorem filterMapM {f : α → Except RunFault (Option β)} (hf : ∀ a, UnraisedResult (f a))
    (l : List α) : UnraisedResult (l.filterMapM f) := by
  induction l with
  | nil => exact ok _
  | cons a l ih =>
    rw [List.filterMapM_cons]
    exact (hf a).bind fun b => by
      cases b with
      | none => exact ih
      | some b => exact ih.bind fun _ => ok _

end UnraisedResult

/-! ## Computations -/

namespace Computation

variable {α β : Type}

/-- From no heap the computation ends with a fault that the program raised itself. -/
def Unraised (x : Computation α) : Prop := ∀ h, UnraisedResult (x h).1

namespace Unraised

@[simp] theorem pure (a : α) : Unraised (Pure.pure a) := fun _ => .ok a

@[simp] theorem throw_iff {e : RunFault} :
    Unraised (throw e : Computation α) ↔ e.isRaised = false := by
  constructor
  · exact fun h => UnraisedResult.error_iff.mp (h default)
  · exact fun h _ => UnraisedResult.error_iff.mpr h

theorem bind {x : Computation α} {f : α → Computation β} (hx : Unraised x)
    (hf : ∀ a, Unraised (f a)) : Unraised (x >>= f) := by
  intro h
  rcases hr : x h with ⟨e | a, h'⟩
  · rw [run_bind_of_error hr]
    have he := hx h
    rw [hr] at he
    exact UnraisedResult.error_iff.mpr (UnraisedResult.error_iff.mp he)
  · rw [run_bind_of_ok hr]
    exact hf a h'

@[simp] theorem throw_bind_iff {e : RunFault} {f : β → Computation α} :
    Unraised (throw e >>= f) ↔ e.isRaised = false :=
  throw_iff

/-- A check before what comes next. -/
theorem guard {c : Prop} [Decidable c] {e : RunFault} (he : e.isRaised = false)
    {f : Unit → Computation α} (hf : Unraised (f ())) :
    Unraised (if c then throw e >>= f else f ()) := by
  split
  · exact throw_bind_iff.mpr he
  · exact hf

theorem forIn {f : α → β → Computation (ForInStep β)} (hf : ∀ a b, Unraised (f a b))
    (items : List α) (b : β) : Unraised (forIn items b f) := by
  induction items generalizing b with
  | nil => exact pure b
  | cons a items ih =>
    rw [List.forIn_cons]
    refine (hf a b).bind fun step => ?_
    cases step with
    | done b => exact pure b
    | yield b => exact ih b

/-- To look at the heap raises nothing. -/
theorem get_bind {f : Heap → Computation α} (hf : ∀ h, Unraised (f h)) :
    Unraised (getThe Heap >>= f) :=
  bind (fun _ => .ok _) hf

theorem ofExcept {r : Except RunFault α} (hr : UnraisedResult r) : Unraised (ofExcept r) := by
  cases r with
  | error e => exact throw_iff.mpr (UnraisedResult.error_iff.mp hr)
  | ok a => exact pure a

end Unraised

theorem alloc_unraised (c : Cell) : Unraised (alloc c) :=
  .get_bind fun _ => .bind (fun _ => .ok _) fun _ => .pure _

theorem itemsOf_unraised (r : Ref) : Unraised (itemsOf r) := .get_bind fun _ => .pure _

theorem setItems_unraised (r : Ref) (items : List Value) : Unraised (setItems r items) :=
  fun _ => .ok _

theorem display_unraised (v : Value) : Unraised (display v) := by
  refine .get_bind fun h => .guard rfl ?_
  dsimp only
  split <;> simp

theorem elementsOf_unraised (v : Value) : Unraised (elementsOf v) :=
  .get_bind fun _ => .guard rfl (.pure _)

theorem checkCapacity_unraised (length : Nat) : Unraised (checkCapacity length) := by
  unfold checkCapacity
  split <;> simp

theorem refuseKeywords_unraised (function : String) (keywords : Keywords) :
    Unraised (refuseKeywords function keywords) := by
  unfold refuseKeywords
  split <;> simp

theorem indexOf_unraised (v : Value) : Unraised (indexOf v) := by
  unfold indexOf
  split
  · split <;> simp
  · simp

end Computation

open LiveSections.Computation

/-! ## Operators -/

theorem Number.toDouble_unraised (n : Number) : UnraisedResult n.toDouble := by
  cases n with
  | int n =>
    rw [toDouble]
    split <;> simp
  | float x => exact .ok x

theorem Number.combine_unraised (op : BinaryOp) (a b : Number) :
    UnraisedResult (Number.combine op a b) := by
  unfold combine
  split
  · simp
  · simp
  · simp
  · split
    · simp
    · dsimp only
      split <;> simp
  · refine (toDouble_unraised _).bind fun x => (toDouble_unraised _).bind fun y => ?_
    split
    · simp
    · simp
    · simp
    · split <;> simp

@[simp] theorem ofCalendar_unraised {α : Type} (f : α → Value) (r : Except CalendarFault α) :
    UnraisedResult (ofCalendar f r) := by
  cases r <;> simp [ofCalendar]

namespace Value

theorem onCalendar?_unraised (op : BinaryOp) (left right : Value) :
    ∀ r ∈ onCalendar? op left right, UnraisedResult r := by
  unfold onCalendar?
  split <;> simp

theorem repetitions_unraised (count : Value) : Unraised (repetitions count) := by
  unfold repetitions
  split
  · simp
  · split <;> simp

theorem repeatItems_unraised {α : Type} (items : List α) (n : Nat) :
    Unraised (repeatItems items n) :=
  (checkCapacity_unraised _).bind fun _ => .pure _

theorem joined?_unraised (left right : Value) : ∀ x ∈ joined? left right, Unraised x := by
  have hjoin (f : Ref → Value) (r s : Ref) : Unraised do
      return f (← alloc (.sequence ((← itemsOf r) ++ (← itemsOf s)))) :=
    (itemsOf_unraised r).bind fun _ => (itemsOf_unraised s).bind fun _ =>
      (alloc_unraised _).bind fun _ => .pure _
  unfold joined?
  rintro x hx
  split at hx <;> cases hx
  case h_3 => exact hjoin list _ _
  case h_4 => exact hjoin tuple _ _
  all_goals simp

theorem repeated?_unraised (sequence count : Value) :
    ∀ x ∈ repeated? sequence count, Unraised x := by
  have hcount := repetitions_unraised count
  have hrepeat (f : Ref → Value) (r : Ref) : Unraised do
      return f (← alloc (.sequence (← repeatItems (← itemsOf r) (← repetitions count)))) :=
    (itemsOf_unraised r).bind fun _ => hcount.bind fun _ =>
      (repeatItems_unraised _ _).bind fun _ => (alloc_unraised _).bind fun _ => .pure _
  unfold repeated?
  rintro x hx
  split at hx <;> cases hx
  case h_1 t =>
    refine hcount.bind fun n => ?_
    split
    · simp
    · exact (repeatItems_unraised _ _).bind fun _ => .pure _
  case h_2 => exact hcount.bind fun _ => (repeatItems_unraised _ _).bind fun _ => .pure _
  case h_3 => exact hrepeat list _
  case h_4 => exact hrepeat tuple _

theorem combine?_unraised (op : BinaryOp) (left right : Value) (swapped : Bool) :
    ∀ x ∈ combine? op left right swapped, Unraised x := by
  unfold combine?
  rintro x hx
  split at hx
  case h_1 =>
    cases hx
    exact .ofExcept (Number.combine_unraised _ _ _)
  case h_2 =>
    cases hx
    exact .ofExcept (onCalendar?_unraised _ _ _ _ ‹_›)
  case h_3 =>
    split at hx
    case h_1 => exact joined?_unraised _ _ x hx
    case h_2 =>
      rw [Option.orElse_eq_or, Option.mem_def, Option.or_eq_some_iff] at hx
      obtain hleft | ⟨-, hright⟩ := hx
      · exact repeated?_unraised _ _ x hleft
      · split at hright
        · exact repeated?_unraised _ _ x hright
        · cases hright
    case h_3 =>
      cases hx
      exact .get_bind fun _ => (alloc_unraised _).bind fun _ => .pure _
    case h_4 => cases hx

theorem binary_unraised (op : BinaryOp) (left right : Value) : Unraised (left.binary op right) := by
  unfold binary
  cases h : combine? op left right true with
  | some x => exact combine?_unraised op left right true x h
  | none => exact Unraised.throw_iff.mpr rfl

theorem update_unraised (op : BinaryOp) (left right : Value) : Unraised (left.update op right) := by
  unfold update
  split
  · refine (elementsOf_unraised _).bind fun items? => ?_
    split
    · exact (itemsOf_unraised _).bind fun _ => (setItems_unraised _ _).bind fun _ => .pure _
    · simp
  · exact (itemsOf_unraised _).bind fun _ => (repetitions_unraised _).bind fun _ =>
      (repeatItems_unraised _ _).bind fun _ => (setItems_unraised _ _).bind fun _ => .pure _
  · exact .get_bind fun _ => (setItems_unraised _ _).bind fun _ => .pure _
  · cases h : combine? op left right !left.hasItems with
    | some x => exact combine?_unraised op left right _ x h
    | none => exact Unraised.throw_iff.mpr rfl

theorem unary_unraised (op : UnaryOp) (v : Value) : Unraised (v.unary op) := by
  unfold unary
  split
  case h_6 => exact .ofExcept (ofCalendar_unraised _ _)
  all_goals simp

end Value

/-! ## Attributes and calls -/

theorem bindArguments_unraised (function : String) (parameters : List String)
    (arguments : List Value) (keywords : Keywords) :
    UnraisedResult (bindArguments function parameters arguments keywords) := by
  unfold bindArguments
  refine .bind (.foldlM (fun bound e => ?_) _ _) fun bound => ?_
  · split
    · simp
    · split <;> simp
  · split
    · simp
    · split <;> simp

theorem fieldOf_unraised (v : Value) : UnraisedResult (fieldOf v) := by
  unfold fieldOf
  split
  · simp
  · split
    · simp
    · split
      · simp
      · split <;> simp

theorem partArguments_unraised {α : Type} (parts : List String) (positional : Nat)
    (arguments : List Value) (keywords : Keywords)
    {read : String → Value → Except RunFault α} (hread : ∀ part v, UnraisedResult (read part v)) :
    UnraisedResult (partArguments parts positional arguments keywords read) := by
  unfold partArguments
  refine .guard rfl ?_
  dsimp only
  refine .guard rfl (.bind (.filterMapM (fun e => ?_) _) fun given => ?_)
  · split
    · exact (hread _ _).bind fun _ => .ok _
    · exact .ok _
  · split
    · simp
    · split <;> simp

theorem givenOffset_unraised (given : Table String (Int ⊕ Value)) (d : DateTime) :
    UnraisedResult (givenOffset given d) := by
  unfold givenOffset
  split <;> simp

theorem Date.replaced_unraised (d : Date) (arguments : List Value) (keywords : Keywords) :
    UnraisedResult (d.replaced arguments keywords) :=
  (partArguments_unraised _ _ _ _ fun _ _ => fieldOf_unraised _).bind fun _ =>
    .mapError (fun _ => rfl) _

theorem DateTime.replaced_unraised (d : DateTime) (arguments : List Value) (keywords : Keywords) :
    UnraisedResult (d.replaced arguments keywords) := by
  unfold replaced
  refine (partArguments_unraised _ _ _ _ fun name v => ?_).bind fun given => ?_
  · split
    · exact .ok _
    · exact .map _ (fieldOf_unraised v)
  · refine .guard rfl (.bind (.mapError (fun _ => rfl) _) fun date =>
      .bind (.mapError (fun _ => rfl) _) fun time =>
        (givenOffset_unraised given d).bind fun _ => .guard rfl (.ok _))

namespace Value

theorem attributeFault_not_isRaised (v : Value) (name : Text) :
    (v.attributeFault name).isRaised = false := by
  unfold attributeFault
  split
  · split
    · rfl
    · rfl
    · split <;> rfl
    · rfl
  · rfl

theorem missingFault_not_isRaised (v : Value) (name : Text) :
    (v.missingFault name).isRaised = false := by
  unfold missingFault
  split
  · rfl
  · exact v.attributeFault_not_isRaised name

theorem givingFault_not_isRaised (v : Value) (name : Text) :
    (v.givingFault name).isRaised = false := by
  have hfault := v.attributeFault_not_isRaised name
  unfold givingFault
  repeat' split
  all_goals first | rfl | exact hfault

theorem attribute_unraised (v : Value) (name : Text) : Unraised (v.attribute name) := by
  unfold Value.attribute
  split
  · simp
  · exact Unraised.throw_iff.mpr (v.missingFault_not_isRaised name)

theorem setAttribute_unraised (v : Value) (name : Text) : Unraised (v.setAttribute name) :=
  Unraised.throw_iff.mpr (v.givingFault_not_isRaised name)

end Value

theorem badgeField_unraised (v : Value) : Unraised (badgeField v) := by
  unfold badgeField
  split
  case h_6 => exact Unraised.throw_iff.mpr (Value.missingFault_not_isRaised _ _)
  all_goals simp

theorem markText_unraised (v : Value) : Unraised (markText v) := by
  unfold markText
  split <;> simp

theorem replaceBetweenValues_unraised (input lead closer new : Value) :
    Unraised (replaceBetweenValues input lead closer new) := by
  refine (markText_unraised _).bind fun lead => (markText_unraised _).bind fun closer => ?_
  split
  · split
    · simp
    · split <;> simp
  · simp
  · simp

theorem HelperFunction.apply_unraised (f : HelperFunction) (arguments : List Value) :
    Unraised (f.apply arguments) := by
  unfold HelperFunction.apply
  split
  case h_1 | h_2 =>
    exact (display_unraised _).bind fun _ => (display_unraised _).bind fun _ => .pure _
  case h_3 =>
    exact (badgeField_unraised _).bind fun _ => (badgeField_unraised _).bind fun _ =>
      (badgeField_unraised _).bind fun _ => (display_unraised _).bind fun _ => .pure _
  case h_4 => exact replaceBetweenValues_unraised _ _ _ _
  all_goals simp

theorem HelperFunction.call_unraised (f : HelperFunction) (arguments : List Value)
    (keywords : Keywords) : Unraised (f.call arguments keywords) := by
  unfold HelperFunction.call
  have hbound := bindArguments_unraised f.name f.parameters arguments keywords
  split
  · exact f.apply_unraised _
  · exact Unraised.throw_iff.mpr (hbound _ ‹_›)

theorem joinableTexts_unraised (items : List Value) : UnraisedResult (joinableTexts items) := by
  refine .mapM (fun item => ?_) _
  split <;> simp

theorem replaceText_unraised (position : Nat) (v : Value) : Unraised (replaceText position v) := by
  unfold replaceText
  split <;> simp

theorem replaceCount_unraised (v : Value) : Unraised (replaceCount v) :=
  (indexOf_unraised _).bind fun _ => .pure _

namespace Method

theorem applyTo_unraised (m : Method) (self : Text) (arguments : List Value) :
    Unraised (m.applyTo self arguments) := by
  unfold applyTo
  dsimp only
  split
  case h_10 =>
    refine (elementsOf_unraised _).bind fun items? => ?_
    split
    · simp
    · split
      · simp
      · exact Unraised.throw_iff.mpr (joinableTexts_unraised _ _ ‹_›)
  case h_12 =>
    exact (replaceText_unraised _ _).bind fun _ => (replaceText_unraised _ _).bind fun _ => .pure _
  case h_13 =>
    exact (replaceText_unraised _ _).bind fun _ => (replaceText_unraised _ _).bind fun _ =>
      (replaceCount_unraised _).bind fun _ => .pure _
  case h_14 => split <;> simp
  all_goals simp

theorem callOn_unraised (m : Method) (self : Text) (arguments : List Value)
    (keywords : Keywords) : Unraised (m.callOn self arguments keywords) :=
  (refuseKeywords_unraised _ _).bind fun _ => (m.applyTo_unraised _ _).bind fun _ => .pure _

theorem call_unraised (m : Method) (self : Receiver) (arguments : List Value)
    (keywords : Keywords) : Unraised (m.call self arguments keywords) := by
  cases self with
  | text t => exact m.callOn_unraised t arguments keywords
  | date d => exact .ofExcept (.map _ (d.replaced_unraised arguments keywords))
  | datetime d => exact .ofExcept (.map _ (d.replaced_unraised arguments keywords))

theorem callLoose_unraised (m : Method) (arguments : List Value) (keywords : Keywords) :
    Unraised (m.callLoose arguments keywords) := by
  unfold callLoose
  split
  · exact m.callOn_unraised _ _ keywords
  · simp
  · simp

end Method

/-! ## Built-ins -/

namespace ExceptionClass

theorem checkKeywords_unraised (c : ExceptionClass) (keywords : Keywords) :
    Unraised (c.checkKeywords keywords) := by
  unfold checkKeywords
  split
  · exact refuseKeywords_unraised _ _
  · refine .guard rfl ?_
    dsimp only
    split <;> simp

theorem checkText_unraised (function : String) (position : Nat) (v : Value) :
    Unraised (checkText function position v) := by
  unfold checkText
  split <;> simp

theorem checkCount_unraised (function : String) (count : Nat) (arguments : List Value) :
    Unraised (checkCount function count arguments) := by
  unfold checkCount
  split <;> simp

theorem checkMembers_unraised (members : Value) : Unraised (checkMembers members) := by
  unfold checkMembers
  extract_lets check
  have hcheck (items : List Value) : Unraised (check items) := by
    refine .guard rfl ?_
    dsimp only
    split <;> simp
  split
  · exact (itemsOf_unraised _).bind hcheck
  · exact (itemsOf_unraised _).bind hcheck
  · exact Unraised.bind (.pure _) hcheck
  · exact Unraised.bind (.pure _) hcheck
  · simp

theorem checkGroup_unraised (c : ExceptionClass) (arguments : List Value) :
    Unraised (c.checkGroup arguments) := by
  refine (checkCount_unraised _ _ _).bind fun _ => ?_
  split
  · refine (checkText_unraised _ _ _).bind fun _ => (checkMembers_unraised _).bind fun members => ?_
    split
    · simp
    · split <;> simp
  · simp

theorem checkSystem_unraised (c : ExceptionClass) (arguments : List Value) :
    Unraised (c.checkSystem arguments) := by
  unfold checkSystem
  dsimp only
  split
  · exact .guard rfl (.pure _)
  · simp

theorem checkDetails_unraised (arguments : List Value) : Unraised (checkDetails arguments) := by
  unfold checkDetails
  split
  · refine (elementsOf_unraised _).bind fun items? => ?_
    split
    · simp
    · refine .guard rfl (.guard rfl ?_)
      split <;> simp
  · simp

theorem checkSpan_unraised (c : ExceptionClass) (leads : Nat) (arguments : List Value) :
    Unraised (c.checkSpan leads arguments) := by
  refine (checkCount_unraised _ _ _).bind fun _ =>
    (Unraised.forIn (fun item _ => ?_) _ _).bind fun _ => ?_
  · obtain ⟨v, i⟩ := item
    dsimp only
    split
    · split
      · exact (checkText_unraised _ _ _).bind fun _ => .pure _
      · simp
    · split
      · exact (indexOf_unraised _).bind fun _ => .pure _
      · exact (checkText_unraised _ _ _).bind fun _ => .pure _
  · split <;> simp

theorem checkArguments_unraised (c : ExceptionClass) (arguments : List Value) :
    Unraised (c.checkArguments arguments) := by
  unfold checkArguments
  split
  case h_1 => exact c.checkGroup_unraised arguments
  case h_2 => exact c.checkSystem_unraised arguments
  case h_3 => exact (checkDetails_unraised arguments).bind fun _ => .pure _
  case h_4 | h_5 => exact (c.checkSpan_unraised 2 arguments).bind fun _ => .pure _
  case h_6 => exact (c.checkSpan_unraised 1 arguments).bind fun _ => .pure _
  all_goals simp

theorem make_unraised (c : ExceptionClass) (arguments : List Value) (keywords : Keywords) :
    Unraised (c.make arguments keywords) := by
  unfold make
  extract_lets build
  have hbuild (u : Unit) : Unraised (build u) :=
    (c.checkArguments_unraised arguments).bind fun c => (c.checkKeywords_unraised keywords).bind
      fun _ => (alloc_unraised _).bind fun _ => .pure _
  split
  · exact (c.checkKeywords_unraised keywords).bind hbuild
  · exact hbuild ()

end ExceptionClass

namespace BuiltIn

theorem checkOthers_unraised (others : List (Nat × Value)) :
    Unraised (callStr.checkOthers others) := by
  unfold callStr.checkOthers
  split <;> simp

theorem callStr_unraised (arguments : List Value) (keywords : Keywords) :
    Unraised (callStr arguments keywords) := by
  refine .guard rfl ?_
  dsimp only
  split
  · simp
  · split
    · simp
    · split
      · simp
      · exact (display_unraised _).bind fun _ => .pure _
      · refine (checkOthers_unraised _).bind fun _ => ?_
        split <;> simp

theorem callLen_unraised (arguments : List Value) (keywords : Keywords) :
    Unraised (callLen arguments keywords) := by
  refine (refuseKeywords_unraised _ _).bind fun _ => ?_
  split
  · refine .get_bind fun h => ?_
    split <;> simp
  · simp

theorem call_unraised (b : BuiltIn) (arguments : List Value) (keywords : Keywords) :
    Unraised (b.call arguments keywords) := by
  cases b with
  | str => exact callStr_unraised arguments keywords
  | len => exact callLen_unraised arguments keywords
  | exceptionClass c => exact c.make_unraised arguments keywords
  | other name type =>
    rw [call]
    split <;> simp

end BuiltIn

theorem Value.call_unraised (f : Value) (arguments : List Value) (keywords : Keywords) :
    Unraised (f.call arguments keywords) := by
  unfold Value.call
  split
  · exact (HelperFunction.call_unraised _ _ _).bind fun _ => .pure _
  · exact Method.call_unraised _ _ _ _
  · exact Method.callLoose_unraised _ _ _
  · exact BuiltIn.call_unraised _ _ _
  · simp

end LiveSections
