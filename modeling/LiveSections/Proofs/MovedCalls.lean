import LiveSections.Proofs.Moves

/-!
# Calls on displaced heaps

What attributes and calls do hangs on what values lead to, but not on the place where that is.

- `bindArguments_moved`, `partArguments_moved`: parameters get the arguments where they have gone.
- `Value.attribute_moves`, `Value.setAttribute_moves`: attributes of moved values.
- `HelperFunction.call_moves`, `Method.call_moves`, `BuiltIn.call_moves`: calls with moved arguments.
- `Value.call_moves`: **calls of any values.**
-/

namespace LiveSections

open LiveSections.Computation

variable {m : Relocation} {w : Prop}

/-! ## Results -/

section Results

variable {ε κ α β : Type} {f : α → α} {g : β → β}

/-- What comes of a moved result moves too. -/
theorem bind_moved {x x' : Except ε α} {k k' : α → Except ε β} (hx : x' = f <$> x)
    (hk : ∀ a, k' (f a) = g <$> k a) : x' >>= k' = g <$> (x >>= k) := by
  cases hx
  cases x with
  | error e => rfl
  | ok a => exact hk a

/-- A check before what comes next. -/
theorem guard_moved {c : Prop} [Decidable c] {e : ε} {k k' : Unit → Except ε β}
    (hk : k' () = g <$> k ()) :
    (if c then throw e >>= k' else k' ()) = g <$> (if c then throw e >>= k else k ()) := by
  split
  · rfl
  · exact hk

/-- What is done with moved entries one after another moves what has come of the entries. -/
theorem Table.foldlM_moved {step step' : β → κ × Value → Except ε β}
    (h : ∀ b e, step' (g b) (e.1, e.2.moved m) = g <$> step b e) (t : Table κ Value) (b : β) :
    (t.moved m).foldlM step' (g b) = g <$> t.foldlM step b := by
  induction t generalizing b with
  | nil => rfl
  | cons e t ih =>
    show (_ :: Table.moved m t).foldlM step' (g b) = _
    rw [List.foldlM_cons, List.foldlM_cons]
    exact bind_moved (h b e) ih

theorem filterMapM_moved {k k' : α → Except ε (Option β)} (h : ∀ a, k' a = Option.map g <$> k a)
    (l : List α) : l.filterMapM k' = List.map g <$> l.filterMapM k := by
  induction l with
  | nil => rfl
  | cons a l ih =>
    rw [List.filterMapM_cons, List.filterMapM_cons]
    refine bind_moved (h a) fun b => ?_
    cases b with
    | none => exact ih
    | some b => exact bind_moved ih fun _ => rfl

end Results

/-! ## Parameters -/

theorem bindArguments_moved (function : String) (parameters : List String)
    (arguments : List Value) (keywords : Keywords) :
    bindArguments function parameters (arguments.map (Value.moved m)) (keywords.moved m) =
      List.map (Value.moved m) <$> bindArguments function parameters arguments keywords := by
  -- what is given by position is a table by the names of the parameters, and moves as such
  have hgiven : (parameters.map String.toList).zip (arguments.map (Value.moved m)) =
      Table.moved m ((parameters.map String.toList).zip arguments) :=
    List.zip_map_right
  unfold bindArguments
  dsimp only
  rw [hgiven, List.length_map]
  refine bind_moved (Table.foldlM_moved (fun bound e => ?_) _ _) fun bound => ?_
  · rw [Table.has_moved, Table.put_moved]
    split
    · rfl
    · split <;> rfl
  · split
    · rfl
    · simp only [Table.has_moved, Table.get?_moved]
      split
      · rw [← List.map_filterMap]
        rfl
      · rfl

theorem fieldOf_moved (v : Value) : fieldOf (v.moved m) = fieldOf v := by
  unfold fieldOf
  rw [Value.toInt?_moved, Value.fullTypeName_moved]

/-- The arguments for parts move if what is read from them does. -/
theorem partArguments_moved {α : Type} (parts : List String) (positional : Nat)
    (arguments : List Value) (keywords : Keywords) {read : String → Value → Except RunFault α}
    {f : α → α} (hread : ∀ part v, read part (v.moved m) = f <$> read part v) :
    partArguments parts positional (arguments.map (Value.moved m)) (keywords.moved m) read =
      List.map (Prod.map id f) <$> partArguments parts positional arguments keywords read := by
  unfold partArguments
  rw [List.length_map, Table.length_moved]
  refine guard_moved ?_
  dsimp only
  refine guard_moved (bind_moved (filterMapM_moved (g := Prod.map id f) (fun e => ?_) _)
    fun given => ?_)
  · rw [List.getElem?_map, Table.get?_moved]
    cases arguments[e.2]? with
    | some v => exact bind_moved (hread e.1 v) fun _ => rfl
    | none =>
      cases keywords.get? e.1.toList with
      | some v => exact bind_moved (hread e.1 v) fun _ => rfl
      | none => rfl
  · simp only [Table.has_moved]
    split
    · rfl
    · have hfind := Table.find?_moved (m := m) keywords fun k =>
        !(parts.any fun part => part.toList == k)
      rw [hfind]
      cases keywords.find? fun e => !(parts.any fun part => part.toList == e.1) <;> rfl

theorem Date.replaced_moved (d : Date) (arguments : List Value) (keywords : Keywords) :
    d.replaced (arguments.map (Value.moved m)) (keywords.moved m) = d.replaced arguments keywords := by
  have hread (part : String) (v : Value) : fieldOf (v.moved m) = id <$> fieldOf v :=
    (fieldOf_moved v).trans (id_map _).symm
  unfold replaced
  rw [partArguments_moved _ _ _ _ hread, Prod.map_id, List.map_id_fun, id_map]

theorem get?_given_moved (given : Table String (Int ⊕ Value)) (name : String) :
    Table.get? name (given.map (Prod.map id (Sum.map id (Value.moved m)))) =
      (Table.get? name given).map (Sum.map id (Value.moved m)) :=
  Table.get?_map _ name given

theorem givenField_moved (given : Table String (Int ⊕ Value)) :
    givenField (given.map (Prod.map id (Sum.map id (Value.moved m)))) = givenField given := by
  funext name n
  unfold givenField
  rw [get?_given_moved]
  rcases Table.get? name given with _ | n | v <;> rfl

/-- Of a distance from universal time only its type is told. -/
theorem givenOffset_moved (given : Table String (Int ⊕ Value)) (d : DateTime) :
    givenOffset (given.map (Prod.map id (Sum.map id (Value.moved m)))) d = givenOffset given d := by
  unfold givenOffset
  rw [get?_given_moved]
  rcases Table.get? "tzinfo" given with _ | n | v
  · rfl
  · rfl
  · rw [Option.map_some, Sum.map_inr]
    cases v <;> rfl

theorem DateTime.replaced_moved (d : DateTime) (arguments : List Value) (keywords : Keywords) :
    d.replaced (arguments.map (Value.moved m)) (keywords.moved m) = d.replaced arguments keywords := by
  unfold replaced
  rw [partArguments_moved (f := Sum.map id (Value.moved m)), bind_map_left]
  · refine bind_congr fun given => ?_
    rw [givenField_moved, givenOffset_moved]
  · intro part v
    rw [fieldOf_moved]
    split
    · rfl
    · cases fieldOf v <;> rfl

/-! ## Attributes -/

namespace Value

@[simp] theorem attributeFault_moved (v : Value) (name : Text) :
    (v.moved m).attributeFault name = v.attributeFault name := by
  cases v <;> rfl

@[simp] theorem part?_moved (v : Value) (name : Text) : (v.moved m).part? name = v.part? name := by
  cases v <;> rfl

@[simp] theorem attribute?_moved (v : Value) (name : Text) :
    (v.moved m).attribute? name = v.attribute? name := by
  cases v <;> rfl

@[simp] theorem partOwner_moved (v : Value) : (v.moved m).partOwner = v.partOwner := by
  cases v <;> rfl

@[simp] theorem keepsAttributes_moved (v : Value) :
    (v.moved m).keepsAttributes = v.keepsAttributes := by
  cases v <;> rfl

@[simp] theorem mayHave_moved (v : Value) (name : Text) :
    (v.moved m).mayHave name = v.mayHave name := by
  cases v <;> rfl

@[simp] theorem missingFault_moved (v : Value) (name : Text) :
    (v.moved m).missingFault name = v.missingFault name := by
  simp [missingFault]

theorem givingFault_moved (v : Value) (name : Text) :
    (v.moved m).givingFault name = v.givingFault name := by
  unfold givingFault
  rw [keepsAttributes_moved, typeName_moved, attributeFault_moved]
  cases v <;> rfl

/-- The parts of a value are numbers. -/
theorem cell?_of_part? {v v' : Value} {name : Text} (hv : v.part? name = some v') :
    v'.cell? = .none := by
  rw [part?, Option.orElse_eq_or, Option.or_eq_some_iff] at hv
  obtain hv | ⟨-, hv⟩ := hv
  · obtain ⟨e, he, rfl⟩ := Option.map_eq_some_iff.mp hv
    have hmem := List.mem_of_find?_eq_some he
    split at hmem
    · simp only [List.mem_cons, List.not_mem_nil, or_false] at hmem
      obtain rfl | rfl | rfl | rfl := hmem <;> rfl
    · simp only [List.mem_cons, List.not_mem_nil, or_false] at hmem
      obtain rfl | rfl := hmem <;> rfl
    · cases hmem
  · obtain ⟨e, -, rfl⟩ := Option.map_eq_some_iff.mp hv
    rfl

/-- No attribute of a value is a collection. -/
theorem cell?_of_attribute? {v v' : Value} {name : Text} (hv : v.attribute? name = some v') :
    v'.cell? = .none := by
  unfold attribute? at hv
  split at hv
  case h_5 => exact cell?_of_part? hv
  all_goals
    cases hv
    rfl

theorem attribute_moves (v : Value) (name : Text) :
    Moves m w (moved m) (v.attribute name) ((v.moved m).attribute name) := by
  unfold Value.attribute
  rw [attribute?_moved, missingFault_moved]
  cases h : v.attribute? name with
  | some v' => exact .pure (moved_of_cell? (cell?_of_attribute? h)).symm
  | none => exact .fail (v.missingFault_not_isRaised name)

theorem setAttribute_moves (v : Value) (name : Text) :
    Moves m w id (v.setAttribute name) ((v.moved m).setAttribute name) := by
  unfold setAttribute
  rw [givingFault_moved]
  exact .fail (v.givingFault_not_isRaised name)

end Value

/-! ## Helper functions -/

theorem badgeField_moves (v : Value) : Moves m w id (badgeField v) (badgeField (v.moved m)) := by
  cases v
  case text t => exact .pure rfl
  case builtIn b =>
    cases b with
    | str => exact .fail rfl
    | _ => exact .fail (Value.missingFault_not_isRaised _ _)
  all_goals exact .fail rfl

theorem markText_moves (v : Value) : Moves m w id (markText v) (markText (v.moved m)) := by
  cases v
  case text t => exact .pure rfl
  all_goals exact .fail rfl

theorem replaceBetweenValues_moves (input lead closer new : Value) :
    Moves m w id (replaceBetweenValues input lead closer new)
      (replaceBetweenValues (input.moved m) (lead.moved m) (closer.moved m) (new.moved m)) := by
  refine (markText_moves _).bind fun lead => (markText_moves _).bind fun closer => ?_
  cases input
  case text t =>
    cases new
    case text u => exact .pure rfl
    all_goals exact .ite (.fail rfl) (.pure rfl)
  all_goals exact .fail rfl

theorem HelperFunction.apply_moves (f : HelperFunction) (arguments : List Value) :
    Moves m w id (f.apply arguments) (f.apply (arguments.map (Value.moved m))) := by
  have htooMany : Moves m w id
      (throw (.tooManyArguments f.name f.parameters.length arguments.length) : Computation Text)
      (throw (.tooManyArguments f.name f.parameters.length
        (arguments.map (Value.moved m)).length)) := by
    rw [List.length_map]
    exact .fail rfl
  have htwo (g : Text → Text → Text) (v v' : Value) :
      Moves m w id (do return g (← display v) (← display v'))
        (do return g (← display (v.moved m)) (← display (v'.moved m))) :=
    (display_moves v).bind fun _ => (display_moves v').bind fun _ => .pure rfl
  cases f
  case link =>
    match arguments with
    | [text, url] => exact htwo Markdown.link text url
    | [] | [_] | _ :: _ :: _ :: _ => exact htooMany
  case image =>
    match arguments with
    | [alt, url] => exact htwo Markdown.image alt url
    | [] | [_] | _ :: _ :: _ :: _ => exact htooMany
  case shield =>
    match arguments with
    | [alt, subject, status, color] =>
      exact (badgeField_moves subject).bind fun _ => (badgeField_moves status).bind fun _ =>
        (badgeField_moves color).bind fun _ => (display_moves alt).bind fun _ => .pure rfl
    | [] | [_] | [_, _] | [_, _, _] | _ :: _ :: _ :: _ :: _ :: _ => exact htooMany
  case replaceBetween =>
    match arguments with
    | [input, lead, closer, new] => exact replaceBetweenValues_moves input lead closer new
    | [] | [_] | [_, _] | [_, _, _] | _ :: _ :: _ :: _ :: _ :: _ => exact htooMany
  case surround before after =>
    match arguments with
    | [v] =>
      cases v
      case text t => exact .pure rfl
      all_goals exact .fail rfl
    | [] => exact htooMany
    | v :: _ :: _ => cases v <;> exact htooMany

theorem HelperFunction.call_moves (f : HelperFunction) (arguments : List Value)
    (keywords : Keywords) :
    Moves m w id (f.call arguments keywords)
      (f.call (arguments.map (Value.moved m)) (keywords.moved m)) := by
  unfold HelperFunction.call
  rw [bindArguments_moved]
  have hbound := bindArguments_unraised f.name f.parameters arguments keywords
  cases h : bindArguments f.name f.parameters arguments keywords with
  | ok arguments => exact f.apply_moves arguments
  | error e => exact .fail (hbound e h)

/-! ## Methods -/

theorem joinableTexts_moved (items : List Value) :
    joinableTexts (items.map (Value.moved m)) = joinableTexts items := by
  unfold joinableTexts
  rw [List.zipIdx_map]
  refine mapM_moved fun e _ => ?_
  obtain ⟨v, i⟩ := e
  cases v <;> rfl

theorem replaceText_moves (position : Nat) (v : Value) :
    Moves m w id (replaceText position v) (replaceText position (v.moved m)) := by
  cases v
  case text t => exact .pure rfl
  all_goals exact .fail rfl

theorem replaceCount_moves (v : Value) :
    Moves m w id (replaceCount v) (replaceCount (v.moved m)) :=
  (indexOf_moves v).bind fun _ => .pure rfl

namespace Method

theorem join_moves (self : Text) (v : Value) :
    Moves m w id (join.applyTo self [v]) (join.applyTo self [v.moved m]) := by
  refine (elementsOf_moves v).bind fun items? => ?_
  cases items? with
  | none => exact .fail rfl
  | some items =>
    dsimp only [Option.map_some]
    rw [joinableTexts_moved]
    have hjoinable := joinableTexts_unraised items
    cases h : joinableTexts items with
    | ok texts => exact .pure rfl
    | error e => exact .fail (hjoinable e h)

theorem applyTo_moves (k : Method) (self : Text) (arguments : List Value) :
    Moves m w id (k.applyTo self arguments) (k.applyTo self (arguments.map (Value.moved m))) := by
  unfold applyTo
  rw [List.length_map]
  cases k
  case upper => cases arguments with
    | nil => exact .pure rfl
    | cons => exact .fail rfl
  case lower => cases arguments with
    | nil => exact .pure rfl
    | cons => exact .fail rfl
  case strip =>
    match arguments with
    | [] => exact .pure rfl
    | [v] =>
      cases v
      case none => exact .pure rfl
      case text chars => exact .pure rfl
      all_goals exact .fail rfl
    | v :: _ :: _ => cases v <;> exact .fail rfl
  case join =>
    match arguments with
    | [] => exact .fail rfl
    | [v] => exact join_moves self v
    | _ :: _ :: _ => exact .fail rfl
  case replace =>
    match arguments with
    | [] => exact .ite (.fail rfl) (.fail rfl)
    | [_] => exact .ite (.fail rfl) (.fail rfl)
    | [old, new] =>
      exact (replaceText_moves 1 old).bind fun _ => (replaceText_moves 2 new).bind fun _ =>
        .pure rfl
    | [old, new, n] =>
      exact (replaceText_moves 1 old).bind fun _ => (replaceText_moves 2 new).bind fun _ =>
        (replaceCount_moves n).bind fun _ => .pure rfl
    | _ :: _ :: _ :: _ :: _ => exact .ite (.fail rfl) (.fail rfl)

theorem callOn_moves (k : Method) (self : Text) (arguments : List Value) (keywords : Keywords) :
    Moves m w (Value.moved m) (k.callOn self arguments keywords)
      (k.callOn self (arguments.map (Value.moved m)) (keywords.moved m)) :=
  (refuseKeywords_moves _ keywords).bind fun _ => (k.applyTo_moves self arguments).bind fun _ =>
    .pure rfl

theorem call_moves (k : Method) (self : Receiver) (arguments : List Value) (keywords : Keywords) :
    Moves m w (Value.moved m) (k.call self arguments keywords)
      (k.call self (arguments.map (Value.moved m)) (keywords.moved m)) := by
  cases self with
  | text t => exact k.callOn_moves t arguments keywords
  | date d =>
    rw [Method.call, Method.call, d.replaced_moved]
    exact (PlainResult.map (d.replaced_unraised arguments keywords) fun _ => rfl).moves
  | datetime d =>
    rw [Method.call, Method.call, d.replaced_moved]
    exact (PlainResult.map (d.replaced_unraised arguments keywords) fun _ => rfl).moves

theorem callLoose_moves (k : Method) (arguments : List Value) (keywords : Keywords) :
    Moves m w (Value.moved m) (k.callLoose arguments keywords)
      (k.callLoose (arguments.map (Value.moved m)) (keywords.moved m)) := by
  match arguments with
  | [] => exact .fail rfl
  | v :: arguments =>
    cases v
    case text t => exact k.callOn_moves t arguments keywords
    all_goals exact .fail rfl

end Method

/-! ## Exceptions -/

namespace ExceptionClass

theorem checkKeywords_moves (c : ExceptionClass) (keywords : Keywords) :
    Moves m w id (c.checkKeywords keywords) (c.checkKeywords (keywords.moved m)) := by
  unfold checkKeywords
  split
  · exact refuseKeywords_moves _ keywords
  · next function names _ =>
    rw [Table.length_moved]
    refine .guard rfl ?_
    have hfind := Table.find?_moved (m := m) keywords fun k => !(names.map String.toList).contains k
    dsimp only
    rw [hfind]
    cases keywords.find? fun e => !(names.map String.toList).contains e.1 with
    | some e => exact .fail rfl
    | none => exact .pure rfl

theorem checkText_moves (function : String) (position : Nat) (v : Value) :
    Moves m w id (checkText function position v) (checkText function position (v.moved m)) := by
  cases v
  case text t => exact .pure rfl
  all_goals exact .fail rfl

theorem checkCount_moves (function : String) (count : Nat) (arguments : List Value) :
    Moves m w id (checkCount function count arguments)
      (checkCount function count (arguments.map (Value.moved m))) := by
  unfold checkCount
  rw [List.length_map]
  exact .ite (.pure rfl) (.fail rfl)

@[simp] theorem isExceptionValue_moved (v : Value) :
    isExceptionValue (v.moved m) = isExceptionValue v := by
  cases v <;> rfl

@[simp] theorem isFailureValue_moved (v : Value) :
    isFailureValue (v.moved m) = isFailureValue v := by
  cases v <;> rfl

theorem checkMembers_moves (members : Value) :
    Moves m w (List.map (Value.moved m)) (checkMembers members) (checkMembers (members.moved m)) := by
  unfold checkMembers
  extract_lets check
  have hcheck (items : List Value) :
      Moves m w (List.map (Value.moved m)) (check items) (check (items.map (Value.moved m))) := by
    unfold check
    rw [List.isEmpty_map, List.findIdx?_map]
    simp only [Function.comp_def, isExceptionValue_moved]
    refine .guard rfl ?_
    cases items.findIdx? fun v => !isExceptionValue v with
    | some i => exact .fail rfl
    | none => exact .pure rfl
  cases members
  case list r => exact (itemsOf_moves r).bind hcheck
  case tuple r => exact (itemsOf_moves r).bind hcheck
  case text t =>
    have h := hcheck (t.map fun c => .text [c])
    rwa [List.map_map] at h
  case bytes bs =>
    have h := hcheck (bs.map fun b => .int b.toNat)
    rwa [List.map_map] at h
  all_goals exact .fail rfl

theorem checkGroup_moves (c : ExceptionClass) (arguments : List Value) :
    Moves m w id (c.checkGroup arguments) (c.checkGroup (arguments.map (Value.moved m))) := by
  refine (checkCount_moves _ _ arguments).bind fun _ => ?_
  match arguments with
  | [message, members] =>
    refine (checkText_moves _ _ message).bind fun _ => (checkMembers_moves members).bind fun vs => ?_
    rw [List.all_map]
    simp only [Function.comp_def, isFailureValue_moved]
    exact .ite (.pure rfl) (.ite (.fail rfl) (.pure rfl))
  | [] | [_] | _ :: _ :: _ :: _ => exact .pure rfl

theorem checkSystem_moves (c : ExceptionClass) (arguments : List Value) :
    Moves m w id (c.checkSystem arguments) (c.checkSystem (arguments.map (Value.moved m))) := by
  match arguments with
  | [] | [_] => exact .pure rfl
  | number :: words :: rest =>
    unfold checkSystem
    rw [List.map_cons, List.map_cons]
    dsimp only
    rw [List.length_map, Value.toInt?_moved]
    match rest with
    | [] => exact .pure rfl
    | v :: rest =>
      cases v
      case float x =>
        rw [List.map_cons, Value.moved_float]
        dsimp only
        rw [List.length_map]
        exact .guard rfl (.pure rfl)
      all_goals exact .pure rfl

theorem checkDetails_moves (arguments : List Value) :
    Moves m w id (checkDetails arguments) (checkDetails (arguments.map (Value.moved m))) := by
  match arguments with
  | [_, details] =>
    refine (elementsOf_moves details).bind fun ds? => ?_
    cases ds? with
    | none =>
      rw [Value.fullTypeName_moved]
      exact .fail rfl
    | some ds =>
      dsimp only [Option.map_some]
      rw [List.length_map]
      exact .guard rfl (.guard rfl (.ite (.fail rfl) (.pure rfl)))
  | [] | [_] | _ :: _ :: _ :: _ => exact .pure rfl

theorem checkSpan_moves (c : ExceptionClass) (leads : Nat) (arguments : List Value) :
    Moves m w id (c.checkSpan leads arguments)
      (c.checkSpan leads (arguments.map (Value.moved m))) := by
  refine (checkCount_moves _ _ arguments).bind fun _ => ?_
  rw [List.zipIdx_map]
  refine (Moves.forIn (fun e _ => ?_) _ _).bind fun _ => ?_
  · obtain ⟨v, i⟩ := e
    refine .ite ?_ ?_
    · exact .ite ((checkText_moves _ _ v).bind fun _ => .pure rfl) (.pure rfl)
    · refine .ite ?_ ?_
      · exact (indexOf_moves v).bind fun _ => .pure rfl
      · exact (checkText_moves _ _ v).bind fun _ => .pure rfl
  · cases c.family
    case decoding =>
      match arguments with
      | [] | [_] => exact .pure rfl
      | _ :: v :: _ =>
        cases v
        case bytes bs => exact .pure rfl
        all_goals exact .fail rfl
    all_goals exact .pure rfl

theorem checkArguments_moves (c : ExceptionClass) (arguments : List Value) :
    Moves m w id (c.checkArguments arguments) (c.checkArguments (arguments.map (Value.moved m))) := by
  unfold checkArguments
  split
  case h_1 => exact c.checkGroup_moves arguments
  case h_2 => exact c.checkSystem_moves arguments
  case h_3 => exact (checkDetails_moves arguments).bind fun _ => .pure rfl
  case h_4 | h_5 => exact (c.checkSpan_moves 2 arguments).bind fun _ => .pure rfl
  case h_6 => exact (c.checkSpan_moves 1 arguments).bind fun _ => .pure rfl
  all_goals exact .pure rfl

theorem make_moves (c : ExceptionClass) (arguments : List Value) (keywords : Keywords) :
    Moves m w (Value.moved m) (c.make arguments keywords)
      (c.make (arguments.map (Value.moved m)) (keywords.moved m)) := by
  have hbuild : Moves m w (Value.moved m)
      (do
        let c ← c.checkArguments arguments
        c.checkKeywords keywords
        return .exception c (← alloc (.sequence arguments)))
      (do
        let c ← c.checkArguments (arguments.map (Value.moved m))
        c.checkKeywords (keywords.moved m)
        return .exception c (← alloc (.sequence (arguments.map (Value.moved m))))) :=
    (c.checkArguments_moves arguments).bind fun c => (c.checkKeywords_moves keywords).bind fun _ =>
      (alloc_moves (.sequence arguments)).bind fun _ => .pure rfl
  exact .ite ((c.checkKeywords_moves keywords).bind fun _ => hbuild) hbuild

end ExceptionClass

/-! ## Built-ins -/

namespace BuiltIn

theorem isText_moved (v : Value) : callStr.isText (v.moved m) = callStr.isText v := by
  cases v <;> rfl

theorem bindStr_moved (arguments : List Value) (keywords : Keywords) :
    callStr.bindStr (arguments.map (Value.moved m)) (keywords.moved m) =
      ((callStr.bindStr arguments keywords).1.map (Value.moved m),
        Table.moved m (callStr.bindStr arguments keywords).2) := by
  have hall : (strParameters.zipIdx.filterMap fun e =>
        ((arguments.map (Value.moved m))[e.2]?.orElse fun _ => (keywords.moved m).get? e.1).map
          fun v => (e.2, v)) =
      Table.moved m (strParameters.zipIdx.filterMap fun e =>
        (arguments[e.2]?.orElse fun _ => keywords.get? e.1).map fun v => (e.2, v)) := by
    show _ = List.map _ (List.filterMap _ _)
    rw [List.map_filterMap]
    refine List.filterMap_congr fun e _ => ?_
    rw [List.getElem?_map, Table.get?_moved]
    cases arguments[e.2]? <;> cases keywords.get? e.1 <;> rfl
  unfold callStr.bindStr
  dsimp only
  rw [hall, Table.find?_moved _ fun i => i == 0, Option.map_map, Option.map_map]
  refine Prod.ext rfl ?_
  show List.filter _ (List.map _ _) = List.map _ _
  rw [List.filter_map]
  rfl

theorem checkOthers_moves (others : Table Nat Value) :
    Moves m w id (callStr.checkOthers others) (callStr.checkOthers (others.moved m)) := by
  have hfind : (others.moved m).find? (fun e => !callStr.isText e.2) =
      (others.find? fun e => !callStr.isText e.2).map fun e => (e.1, e.2.moved m) := by
    rw [Table.moved, List.find?_map]
    simp only [Function.comp_def, isText_moved]
  unfold callStr.checkOthers
  rw [hfind]
  cases others.find? fun e => !callStr.isText e.2 with
  | none => exact .pure rfl
  | some e =>
    dsimp only [Option.map_some]
    rw [Value.argumentName_moved]
    exact .fail rfl

theorem callStr_moves (arguments : List Value) (keywords : Keywords) :
    Moves m w (Value.moved m) (callStr arguments keywords)
      (callStr (arguments.map (Value.moved m)) (keywords.moved m)) := by
  unfold callStr
  rw [List.length_map, Table.length_moved, bindStr_moved]
  refine .guard rfl ?_
  simp only [Table.has_moved]
  split
  · exact .fail rfl
  · have hfind := Table.find?_moved (m := m) keywords fun k => !strParameters.contains k
    rw [hfind]
    cases keywords.find? fun e => !strParameters.contains e.1 with
    | some e => exact .fail rfl
    | none =>
      rcases callStr.bindStr arguments keywords with ⟨v, rest⟩
      cases rest with
      | nil =>
        cases v with
        | none => exact .pure rfl
        | some v => exact (display_moves v).bind fun _ => .pure rfl
      | cons e rest =>
        have hothers := checkOthers_moves (m := m) (w := w) (e :: rest)
        cases v with
        | none => exact hothers.bind fun _ => .pure rfl
        | some v => exact hothers.bind fun _ => by cases v <;> exact .fail rfl

theorem length?_moved {h h' : Heap} (hd : m.Displaced h h') (v : Value) :
    (v.moved m).length? h' = v.length? h := by
  cases v
  case dict r => simp [Value.length?, Value.moved, hd.entries]
  case list r | tuple r | set r => simp [Value.length?, Value.moved, hd.items]
  all_goals rfl

theorem callLen_moves (arguments : List Value) (keywords : Keywords) :
    Moves m w (Value.moved m) (callLen arguments keywords)
      (callLen (arguments.map (Value.moved m)) (keywords.moved m)) := by
  refine (refuseKeywords_moves _ keywords).bind fun _ => ?_
  match arguments with
  | [v] =>
    refine .get_bind fun h h' hd => ?_
    rw [length?_moved hd, Value.fullTypeName_moved]
    cases v.length? h with
    | some n => exact .pure rfl
    | none => exact .fail rfl
  | [] => exact .fail rfl
  | _ :: _ :: _ =>
    rw [List.length_map]
    exact .fail rfl

theorem call_moves (b : BuiltIn) (arguments : List Value) (keywords : Keywords) :
    Moves m w (Value.moved m) (b.call arguments keywords)
      (b.call (arguments.map (Value.moved m)) (keywords.moved m)) := by
  cases b with
  | str => exact callStr_moves arguments keywords
  | len => exact callLen_moves arguments keywords
  | exceptionClass c => exact c.make_moves arguments keywords
  | other name type => exact .ite (.fail rfl) (.fail rfl)

end BuiltIn

/-- **A call of a value goes the same way wherever its cells are.** -/
theorem Value.call_moves (f : Value) (arguments : List Value) (keywords : Keywords) :
    Moves m w (Value.moved m) (f.call arguments keywords)
      ((f.moved m).call (arguments.map (Value.moved m)) (keywords.moved m)) := by
  cases f
  case helper f => exact (f.call_moves arguments keywords).bind fun _ => .pure rfl
  case method k self => exact k.call_moves self arguments keywords
  case looseMethod k => exact k.callLoose_moves arguments keywords
  case builtIn b => exact b.call_moves arguments keywords
  all_goals exact .fail rfl

end LiveSections
