import LiveSections.Proofs.Faults
import LiveSections.Proofs.Relocation

/-!
# Computations on displaced heaps

What operators do hangs on what values lead to, but not on the place where that is. On two heaps of
which one is displaced from the other they do the same, and leave two such heaps.

- `RunFault.moved`: a fault whose arguments have gone elsewhere.
- `Computation.Moves`: a computation on a displaced heap that goes as another one.
- `PlainResult`: results of arithmetic, which lead to no cell.
- `Value.binary_moves`, `Value.update_moves`, `Value.unary_moves`: **operators on moved values.**
-/

namespace LiveSections

variable {m : Relocation} {w : Prop}

/-- A fault with another place of its arguments. -/
def RunFault.mapRef (f : Ref → Ref) : RunFault → RunFault
  | raised c text r => raised c text (f r)
  | e => e

/-- A fault whose arguments have gone elsewhere. -/
abbrev RunFault.moved (m : Relocation) : RunFault → RunFault := mapRef m.ref

/-- Only what a program raised itself leads to a cell. -/
theorem RunFault.moved_of_not_isRaised {e : RunFault} (he : e.isRaised = false) : e.moved m = e := by
  cases e <;> first | rfl | cases he

/-! ## Computations side by side -/

namespace Computation

variable {α β : Type}

/-- On a displaced heap the second computation goes as the first one: it ends with the same fault, or
with what `f` makes of the result, but for the places of cells. Unless `w` allows to write, the first
one keeps its cells. -/
def Moves (m : Relocation) (w : Prop) (f : α → α) (x x' : Computation α) : Prop :=
  ∀ h h', m.Displaced h h' → (w ∨ h.Extends (x h).2) ∧
    ((∃ e k k', x h = (.error e, k) ∧ x' h' = (.error (e.moved m), k') ∧ m.Displaced k k') ∨
      ∃ a k k', x h = (.ok a, k) ∧ x' h' = (.ok (f a), k') ∧ m.Displaced k k')

namespace Moves

variable {f : α → α} {g : β → β}

theorem pure {a a' : α} (ha : a' = f a) : Moves m w f (Pure.pure a) (Pure.pure a') :=
  fun h h' hd => ⟨.inr (.refl h), .inr ⟨a, h, h', rfl, ha ▸ rfl, hd⟩⟩

theorem throw (e : RunFault) : Moves m w f (MonadExcept.throw e) (MonadExcept.throw (e.moved m)) :=
  fun h h' hd => ⟨.inr (.refl h), .inl ⟨e, h, h', rfl, rfl, hd⟩⟩

/-- A fault of the language stays. -/
theorem fail {e : RunFault} (he : e.isRaised = false) :
    Moves m w f (MonadExcept.throw e) (MonadExcept.throw e) := by
  have hthrow := throw (m := m) (w := w) (f := f) e
  rwa [RunFault.moved_of_not_isRaised he] at hthrow

theorem bind {x x' : Computation α} {k k' : α → Computation β} (hx : Moves m w f x x')
    (hk : ∀ a, Moves m w g (k a) (k' (f a))) : Moves m w g (x >>= k) (x' >>= k') := by
  intro h h' hd
  obtain ⟨hkeep, hcourse⟩ := hx h h' hd
  -- a fault of the first part is that of the whole; else what it leaves is displaced again
  rcases hcourse with ⟨e, l, l', hl, hr, hd⟩ | ⟨a, l, l', hl, hr, hd⟩
  · rw [hl] at hkeep
    rw [run_bind_of_error hl]
    exact ⟨hkeep, .inl ⟨e, l, l', rfl, run_bind_of_error hr, hd⟩⟩
  · rw [hl] at hkeep
    rw [run_bind_of_ok hl, run_bind_of_ok hr]
    obtain ⟨hkeep', hcourse⟩ := hk a l l' hd
    exact ⟨hkeep.elim .inl fun hkeep => hkeep'.imp id hkeep.trans, hcourse⟩

theorem ite {c : Prop} [Decidable c] {x x' y y' : Computation α} (hx : Moves m w f x x')
    (hy : Moves m w f y y') : Moves m w f (if c then x else y) (if c then x' else y') := by
  split
  · exact hx
  · exact hy

/-- A check before what comes next. -/
theorem guard {c : Prop} [Decidable c] {e : RunFault} (he : e.isRaised = false)
    {k k' : Unit → Computation α} (hk : Moves m w f (k ()) (k' ())) :
    Moves m w f (if c then MonadExcept.throw e >>= k else k ())
      (if c then MonadExcept.throw e >>= k' else k' ()) :=
  ite (fail he) hk

/-- Both look at their heap first. -/
theorem get_bind {k k' : Heap → Computation α}
    (hk : ∀ h h', m.Displaced h h' → Moves m w f (k h) (k' h')) :
    Moves m w f (getThe Heap >>= k) (getThe Heap >>= k') :=
  fun h h' hd => hk h h' hd h h' hd

theorem forIn {γ : Type} {k k' : γ → β → Computation (ForInStep β)} {move : γ → γ}
    (hk : ∀ c b, Moves m w id (k c b) (k' (move c) b)) (items : List γ) (b : β) :
    Moves m w id (forIn items b k) (forIn (items.map move) b k') := by
  induction items generalizing b with
  | nil => exact .pure rfl
  | cons c items ih =>
    rw [List.map_cons, List.forIn_cons, List.forIn_cons]
    refine (hk c b).bind fun step => ?_
    cases step with
    | done b => exact .pure rfl
    | yield b => exact ih b

/-- A computation that there may be, or else another one. -/
theorem getD {o o' : Option (Computation α)} (ho : Option.Rel (Moves m w f) o o')
    {x x' : Computation α} (hx : Moves m w f x x') : Moves m w f (o.getD x) (o'.getD x') := by
  cases ho with
  | some ho => exact ho
  | none => exact hx

theorem orElse {o o' p p' : Option (Computation α)} (ho : Option.Rel (Moves m w f) o o')
    (hp : Option.Rel (Moves m w f) p p') :
    Option.Rel (Moves m w f) (o.orElse fun _ => p) (o'.orElse fun _ => p') := by
  cases ho with
  | some ho => exact .some ho
  | none => exact hp

end Moves

theorem alloc_moves (c : Cell) : Moves m w m.ref (alloc c) (alloc (c.moved m)) := by
  intro h h' hd
  obtain ⟨hd, hr⟩ := hd.alloc c
  refine ⟨.inr (h.extends_alloc c), .inr ?_⟩
  refine ⟨(h.alloc c).2, (h.alloc c).1, (h'.alloc (c.moved m)).1, rfl, ?_, hd⟩
  rw [← hr]
  rfl

theorem itemsOf_moves (r : Ref) :
    Moves m w (List.map (Value.moved m)) (itemsOf r) (itemsOf (m.ref r)) :=
  .get_bind fun _ _ hd => .pure (hd.items r)

/-- Only this changes a cell. -/
theorem setItems_moves (hw : w) (r : Ref) (items : List Value) :
    Moves m w id (setItems r items) (setItems (m.ref r) (items.map (Value.moved m))) :=
  fun _ _ hd => ⟨.inl hw, .inr ⟨(), _, _, rfl, rfl, hd.put r (.sequence items)⟩⟩

theorem display_moves (v : Value) : Moves m w id (display v) (display (v.moved m)) := by
  refine .get_bind fun h h' hd => ?_
  rw [hd.isUntold, hd.display, Value.typeName_moved]
  refine .guard rfl ?_
  dsimp only
  split
  · exact .pure rfl
  · exact .fail rfl

theorem elementsOf_moves (v : Value) :
    Moves m w (Option.map (List.map (Value.moved m))) (elementsOf v) (elementsOf (v.moved m)) := by
  refine .get_bind fun h h' hd => ?_
  rw [hd.isUnordered]
  exact .guard rfl (.pure (hd.elements? v))

theorem checkCapacity_moves (length : Nat) :
    Moves m w id (checkCapacity length) (checkCapacity length) :=
  .ite (.fail rfl) (.pure rfl)

end Computation

open LiveSections.Computation

/-- A table whose values lead to where cells have gone. -/
def Table.moved {κ : Type} (m : Relocation) (t : Table κ Value) : Table κ Value :=
  t.map fun e => (e.1, e.2.moved m)

namespace Table

variable {κ : Type} (t : Table κ Value)

@[simp] theorem length_moved : (t.moved m).length = t.length := List.length_map _

@[simp] theorem isEmpty_moved : (t.moved m).isEmpty = t.isEmpty := List.isEmpty_map

@[simp] theorem get?_moved [BEq κ] (k : κ) :
    get? k (t.moved m) = (get? k t).map (Value.moved m) :=
  get?_map _ k t

@[simp] theorem has_moved [BEq κ] (k : κ) : has k (t.moved m) = has k t := has_map _ k t

theorem put_moved [BEq κ] (k : κ) (v : Value) :
    put k (v.moved m) (t.moved m) = (put k v t).moved m :=
  put_map _ k v t

/-- Entries are found by their keys as before. -/
theorem find?_moved (p : κ → Bool) :
    (t.moved m).find? (fun e => p e.1) = (t.find? fun e => p e.1).map fun e => (e.1, e.2.moved m) := by
  rw [moved, List.find?_map]
  rfl

end Table

namespace Computation

theorem refuseKeywords_moves (function : String) (keywords : Keywords) :
    Moves m w id (refuseKeywords function keywords) (refuseKeywords function (keywords.moved m)) := by
  unfold refuseKeywords
  rw [Table.isEmpty_moved]
  exact .ite (.pure rfl) (.fail rfl)

theorem indexOf_moves (v : Value) : Moves m w id (indexOf v) (indexOf (v.moved m)) := by
  unfold indexOf
  rw [Value.toInt?_moved, Value.fullTypeName_moved]
  split
  · exact .ite (.pure rfl) (.fail rfl)
  · exact .fail rfl

end Computation

/-! ## Operators -/

namespace Value

@[simp] theorem number?_moved (v : Value) : (v.moved m).number? = v.number? := by
  cases v <;> rfl

@[simp] theorem argumentName_moved (v : Value) : (v.moved m).argumentName = v.argumentName := by
  cases v <;> rfl

/-- Collections are no numbers. -/
theorem number?_of_cell? {v : Value} {r : Ref} (h : v.cell? = some r) : v.number? = .none := by
  cases v <;> first | rfl | cases h

/-- Collections take no part in sums of dates. -/
theorem onCalendar?_of_cell? {op : BinaryOp} {left right : Value} {r : Ref}
    (h : left.cell? = some r ∨ right.cell? = some r) : onCalendar? op left right = .none := by
  unfold onCalendar?
  split
  case h_15 => rfl
  all_goals
    rcases h with h | h
  all_goals
    first
      | cases h
      | rw [number?_of_cell? h]
        rfl

theorem onCalendar?_moved (op : BinaryOp) (left right : Value) :
    onCalendar? op (left.moved m) (right.moved m) = onCalendar? op left right := by
  -- a collection on either side makes both none; without one nothing moves
  cases hleft : left.cell? with
  | some r =>
    have hmoved : (left.moved m).cell? = some (m.ref r) := by rw [cell?_moved, hleft]; rfl
    rw [onCalendar?_of_cell? (.inl hleft), onCalendar?_of_cell? (.inl hmoved)]
  | none =>
    cases hright : right.cell? with
    | some r =>
      have hmoved : (right.moved m).cell? = some (m.ref r) := by rw [cell?_moved, hright]; rfl
      rw [onCalendar?_of_cell? (.inr hright), onCalendar?_of_cell? (.inr hmoved)]
    | none => rw [moved_of_cell? hleft, moved_of_cell? hright]

end Value

/-- A result that is a fault of the language, or a value that leads to no cell. -/
structure PlainResult (r : Except RunFault Value) : Prop where
  unraised : UnraisedResult r
  cell?_eq : ∀ v, r = .ok v → v.cell? = none

namespace PlainResult

@[simp] theorem ok_iff {v : Value} : PlainResult (.ok v) ↔ v.cell? = none := by
  constructor
  · exact fun h => h.cell?_eq v rfl
  · exact fun h => ⟨.ok v, fun _ hv => Except.ok.inj hv ▸ h⟩

@[simp] theorem error_iff {e : RunFault} : PlainResult (.error e) ↔ e.isRaised = false :=
  ⟨fun h => UnraisedResult.error_iff.mp h.unraised, fun h => ⟨UnraisedResult.error_iff.mpr h, nofun⟩⟩

theorem bind {α : Type} {x : Except RunFault α} {f : α → Except RunFault Value}
    (hx : UnraisedResult x) (hf : ∀ a, PlainResult (f a)) : PlainResult (x >>= f) := by
  cases x with
  | error e => exact error_iff.mpr (UnraisedResult.error_iff.mp hx)
  | ok a => exact hf a

theorem map {α : Type} {x : Except RunFault α} {f : α → Value} (hx : UnraisedResult x)
    (hf : ∀ a, (f a).cell? = none) : PlainResult (f <$> x) := by
  cases x with
  | error e => exact error_iff.mpr (UnraisedResult.error_iff.mp hx)
  | ok a => exact ok_iff.mpr (hf a)

/-- Nothing in the result is to be moved. -/
theorem moves {r : Except RunFault Value} (hr : PlainResult r) :
    Moves m w (Value.moved m) (Computation.ofExcept r) (Computation.ofExcept r) := by
  cases r with
  | error e => exact .fail (error_iff.mp hr)
  | ok v => exact .pure (Value.moved_of_cell? (ok_iff.mp hr)).symm

end PlainResult

theorem Number.combine_plain (op : BinaryOp) (a b : Number) :
    PlainResult (Number.combine op a b) := by
  unfold combine
  split
  · exact PlainResult.ok_iff.mpr rfl
  · exact PlainResult.ok_iff.mpr rfl
  · exact PlainResult.ok_iff.mpr rfl
  · split
    · simp
    · dsimp only
      split
      · simp
      · exact PlainResult.ok_iff.mpr rfl
  · refine .bind (toDouble_unraised _) fun x => .bind (toDouble_unraised _) fun y => ?_
    split
    · exact PlainResult.ok_iff.mpr rfl
    · exact PlainResult.ok_iff.mpr rfl
    · exact PlainResult.ok_iff.mpr rfl
    · split
      · simp
      · exact PlainResult.ok_iff.mpr rfl

theorem ofCalendar_plain {α : Type} {f : α → Value} (hf : ∀ a, (f a).cell? = none)
    (r : Except CalendarFault α) : PlainResult (ofCalendar f r) := by
  cases r with
  | error e => exact PlainResult.error_iff.mpr rfl
  | ok a => exact PlainResult.ok_iff.mpr (hf a)

namespace Value

theorem onCalendar?_plain {op : BinaryOp} {left right : Value} {r : Except RunFault Value}
    (hr : onCalendar? op left right = some r) : PlainResult r := by
  unfold onCalendar? at hr
  split at hr
  case h_1 =>
    cases hr
    exact PlainResult.ok_iff.mpr rfl
  case h_15 => cases hr
  case h_12 | h_13 | h_14 =>
    obtain ⟨n, -, rfl⟩ := Option.map_eq_some_iff.mp hr
    exact ofCalendar_plain (fun _ => rfl) _
  all_goals
    cases hr
    exact ofCalendar_plain (fun _ => rfl) _

/-! ### Joining and repeating -/

theorem repetitions_moves (count : Value) :
    Moves m w id (repetitions count) (repetitions (count.moved m)) := by
  unfold repetitions
  rw [toInt?_moved, fullTypeName_moved]
  split
  · exact .fail rfl
  · exact .ite (.pure rfl) (.fail rfl)

theorem repeatItems_moves {α : Type} (f : α → α) (items : List α) (n : Nat) :
    Moves m w (List.map f) (repeatItems items n) (repeatItems (items.map f) n) := by
  unfold repeatItems
  rw [List.length_map, List.isEmpty_map]
  refine (checkCapacity_moves _).bind fun _ => .pure ?_
  split
  · rfl
  · rw [List.map_flatten, List.map_replicate]

theorem joined?_moves (left right : Value) :
    Option.Rel (Moves m w (moved m)) (joined? left right) (joined? (left.moved m) (right.moved m)) := by
  have hjoin (f : Ref → Value) (hf : ∀ r, f (m.ref r) = (f r).moved m) (r s : Ref) :
      Moves m w (moved m) (do return f (← alloc (.sequence ((← itemsOf r) ++ (← itemsOf s)))))
        (do return f (← alloc (.sequence ((← itemsOf (m.ref r)) ++ (← itemsOf (m.ref s)))))) := by
    refine (itemsOf_moves r).bind fun xs => (itemsOf_moves s).bind fun ys => ?_
    rw [← List.map_append]
    exact (alloc_moves (.sequence (xs ++ ys))).bind fun r => .pure (hf r)
  cases left
  case text s =>
    cases right
    case text t => exact .some (.pure rfl)
    all_goals exact .some (.fail rfl)
  case bytes s =>
    cases right
    case bytes t => exact .some (.pure rfl)
    all_goals exact .some (.fail rfl)
  case list r =>
    cases right
    case list s => exact .some (hjoin list (fun _ => rfl) r s)
    all_goals exact .some (.fail rfl)
  case tuple r =>
    cases right
    case tuple s => exact .some (hjoin tuple (fun _ => rfl) r s)
    all_goals exact .some (.fail rfl)
  all_goals exact .none

theorem repeated?_moves (sequence count : Value) :
    Option.Rel (Moves m w (moved m)) (repeated? sequence count)
      (repeated? (sequence.moved m) (count.moved m)) := by
  have hcount := repetitions_moves (m := m) (w := w) count
  have hrepeat (f : Ref → Value) (hf : ∀ r, f (m.ref r) = (f r).moved m) (r : Ref) :
      Moves m w (moved m)
        (do return f (← alloc (.sequence (← repeatItems (← itemsOf r) (← repetitions count)))))
        (do return f (← alloc (.sequence
          (← repeatItems (← itemsOf (m.ref r)) (← repetitions (count.moved m)))))) :=
    (itemsOf_moves r).bind fun items => hcount.bind fun n =>
      (repeatItems_moves (moved m) items n).bind fun items =>
        (alloc_moves (.sequence items)).bind fun r => .pure (hf r)
  have hplain {α : Type} (items : List α) (n : Nat) :
      Moves m w id (repeatItems items n) (repeatItems items n) := by
    simpa using repeatItems_moves (m := m) (w := w) id items n
  cases sequence
  case text t =>
    refine .some (hcount.bind fun n => ?_)
    exact .guard rfl ((hplain t n).bind fun _ => .pure rfl)
  case bytes bs => exact .some (hcount.bind fun n => (hplain bs n).bind fun _ => .pure rfl)
  case list r => exact .some (hrepeat list (fun _ => rfl) r)
  case tuple r => exact .some (hrepeat tuple (fun _ => rfl) r)
  all_goals exact .none

/-! ### The operators -/

theorem itemsLeft_moved {h h' : Heap} (hd : m.Displaced h h') (r s : Ref) :
    itemsLeft h' (m.ref r) (m.ref s) = (itemsLeft h r s).map (moved m) := by
  unfold itemsLeft
  rw [hd.items, hd.items, List.filter_map]
  refine congrArg _ (List.filter_congr fun v _ => ?_)
  rw [Function.comp_apply, List.any_map]
  simp only [Function.comp_def, hd.sameKey]

theorem combine?_moves (op : BinaryOp) (left right : Value) (swapped : Bool) :
    Option.Rel (Moves m w (moved m)) (combine? op left right swapped)
      (combine? op (left.moved m) (right.moved m) swapped) := by
  unfold combine?
  rw [number?_moved, number?_moved, onCalendar?_moved]
  split
  next => exact .some (Number.combine_plain _ _ _).moves
  next => exact .some (onCalendar?_plain ‹_›).moves
  next hdates hnumbers =>
    clear hdates hnumbers
    cases op
    case add => exact joined?_moves left right
    case mul =>
      refine Moves.orElse (repeated?_moves left right) ?_
      cases swapped with
      | true => exact repeated?_moves right left
      | false => exact .none
    case sub =>
      cases left
      case set r =>
        cases right
        case set s =>
          refine .some (.get_bind fun h h' hd => ?_)
          rw [itemsLeft_moved hd]
          exact (alloc_moves (.sequence (itemsLeft h r s))).bind fun _ => .pure rfl
        all_goals exact .none
      all_goals exact .none
    case div => exact .none

theorem binary_moves (op : BinaryOp) (left right : Value) :
    Moves m w (moved m) (left.binary op right) ((left.moved m).binary op (right.moved m)) := by
  unfold binary
  rw [fullTypeName_moved, fullTypeName_moved]
  exact .getD (combine?_moves op left right true) (.fail rfl)

@[simp] theorem hasItems_moved (v : Value) : (v.moved m).hasItems = v.hasItems := by
  cases v <;> rfl

theorem update_moves (hw : w) (op : BinaryOp) (left right : Value) :
    Moves m w (moved m) (left.update op right) ((left.moved m).update op (right.moved m)) := by
  have hcombine : Moves m w (moved m)
      ((combine? op left right !left.hasItems).getD
        (throw (.operands (op.sign ++ "=") left.fullTypeName right.fullTypeName)))
      ((combine? op (left.moved m) (right.moved m) !(left.moved m).hasItems).getD
        (throw (.operands (op.sign ++ "=") (left.moved m).fullTypeName
          (right.moved m).fullTypeName))) := by
    rw [hasItems_moved, fullTypeName_moved, fullTypeName_moved]
    exact .getD (combine?_moves op left right _) (.fail rfl)
  -- lists and sets are changed in place; all else is combined to something new
  cases op
  case add =>
    cases left
    case list r =>
      refine (elementsOf_moves right).bind fun items? => ?_
      cases items? with
      | none =>
        rw [fullTypeName_moved]
        exact .fail rfl
      | some items =>
        refine (itemsOf_moves r).bind fun olds => ?_
        rw [← List.map_append]
        exact (setItems_moves hw r _).bind fun _ => .pure rfl
    all_goals exact hcombine
  case mul =>
    cases left
    case list r =>
      exact (itemsOf_moves r).bind fun items => (repetitions_moves right).bind fun n =>
        (repeatItems_moves (moved m) items n).bind fun items =>
          (setItems_moves hw r items).bind fun _ => .pure rfl
    all_goals exact hcombine
  case sub =>
    cases left
    case set r =>
      cases right
      case set s =>
        refine .get_bind fun h h' hd => ?_
        rw [itemsLeft_moved hd]
        exact (setItems_moves hw r _).bind fun _ => .pure rfl
      all_goals exact hcombine
    all_goals exact hcombine
  case div => exact hcombine

theorem unary_moves (op : UnaryOp) (v : Value) :
    Moves m w (moved m) (v.unary op) ((v.moved m).unary op) := by
  cases v
  case duration d =>
    cases op with
    | plus => exact .pure rfl
    | minus => exact (ofCalendar_plain (fun _ => rfl) _).moves
  case bool b => cases op <;> exact .pure rfl
  case int n => cases op <;> exact .pure rfl
  case float x => cases op <;> exact .pure rfl
  all_goals cases op <;> exact .fail rfl

end Value

end LiveSections
