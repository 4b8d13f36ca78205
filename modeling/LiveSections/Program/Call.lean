import LiveSections.Helper.Badge
import LiveSections.Program.BuiltIns
import LiveSections.Program.Exception
import LiveSections.Program.Operation
import LiveSections.Text.Between
import LiveSections.Text.Blank
import LiveSections.Text.LetterCase
import LiveSections.Value.Member

/-!
# Calls and attributes

- `bindArguments`: gives the parameters of a function their arguments, or says what is wrong with
  the call.
- `HelperFunction.apply`: the helper functions.
- `Method.call`: the methods of texts and dates.
- `Value.attribute`, `Value.setAttribute`, `Value.call`: attributes and calls of any value.

Attributes and calls that are not modelled are told from those that are known to fail.
-/

namespace LiveSections

open LiveSections.Computation

/-! ## Parameters -/

/-- The arguments of a function, one for each parameter. Faults of keywords come before those of
positions. -/
def bindArguments (function : String) (parameters : List String) (arguments : List Value)
    (keywords : Keywords) : Except RunFault (List Value) := do
  let names := parameters.map String.toList
  let given := names.zip arguments
  let bound ← keywords.foldlM
    (fun (bound : Table Text Value) (e : Text × Value) =>
      if !names.contains e.1 then .error (.unexpectedKeyword function e.1)
      else if bound.has e.1 then .error (.repeatedArgument function e.1)
      else .ok (bound.put e.1 e.2)) given
  if parameters.length < arguments.length then
    .error (.tooManyArguments function parameters.length arguments.length)
  else
    match parameters.filter fun p => !bound.has p.toList with
    | [] => .ok (names.filterMap fun n => bound.get? n)
    | missing => .error (.missingArguments function missing)

/-! ## Attributes -/

/-- The fault of an attribute that a value does not have. -/
def Value.attributeFault (v : Value) (name : Text) : RunFault :=
  match v with
  | .builtIn b =>
    match b with
    | .str => .noClassAttribute "str" name
    | .exceptionClass c => .noClassAttribute c.name name
    | .other n type => if type = "type" then .noClassAttribute n name else .noAttribute type name
    | .len => .noAttribute v.fullTypeName name
  | v => .noAttribute v.fullTypeName name

/-- The parts of a number: it is its own real part, and an integer is a fraction over one. -/
def Value.numberPart? (v : Value) (name : Text) : Option Value :=
  let parts : Table String Value :=
    match v.number? with
    | some (.int n) =>
      [("real", .int n), ("imag", .int 0), ("numerator", .int n), ("denominator", .int 1)]
    | some (.float x) => [("real", .float x), ("imag", .float 0.0)]
    | .none => []
  (parts.find? fun e => e.1.toList == name).map Prod.snd

/-- The parts of a value, which nothing can change. -/
def Value.part? (v : Value) (name : Text) : Option Value :=
  (v.numberPart? name).orElse fun _ => v.calendarPart? name

/-- The name of the type that the parts of a value belong to: truth values have those of
integers. -/
def Value.partOwner : Value → String
  | .bool _ => "int"
  | v => v.fullTypeName

/-- The attributes of a value that are modelled: methods of texts, parts of numbers, dates and
durations, and one method of dates. -/
def Value.attribute? (v : Value) (name : Text) : Option Value :=
  match v, Method.ofName? name with
  | .text t, some m => some (.method m (.text t))
  | .builtIn .str, some m => some (.looseMethod m)
  | .date d, some .replace => some (.method .replace (.date d))
  | .datetime d, some .replace => some (.method .replace (.datetime d))
  | v, _ => v.part? name

/-- How it ends if an attribute is asked for that is not modelled: the value may have it all the
same, or does not. -/
def Value.missingFault (v : Value) (name : Text) : RunFault :=
  if v.mayHave name then .unmodelled (.attribute v.typeName name) else v.attributeFault name

/-- An attribute of a value. -/
def Value.attribute (v : Value) (name : Text) : Computation Value :=
  match v.attribute? name with
  | .some found => return found
  | .none => throw (v.missingFault name)

/-- Whether a value may keep whatever is given to it as an attribute. One class of exceptions
does. -/
def Value.keepsAttributes : Value → Bool
  | .helper _ | .exception .. => true
  | .builtIn (.exceptionClass c) => c.name == "ExceptionGroup"
  | .builtIn b => b.isForeign
  | _ => false

/-- How it ends if an attribute of a value is to be given another value. Most values refuse that;
what those do that may keep it is not modelled. -/
def Value.givingFault (v : Value) (name : Text) : RunFault :=
  if v.keepsAttributes then .unmodelled (.giving v.typeName name)
  else match v, v.attributeFault name with
    | .builtIn _, .noClassAttribute c _ => .fixedClass c name
    | v, fault =>
      if (v.part? name).isSome then .unwritableAttribute v.partOwner name
      else if (v.attribute? name).isSome then .fixedAttribute v.fullTypeName name
      else if v.mayHave name then .unmodelled (.giving v.typeName name)
      else fault

/-- Gives an attribute of a value another value, which never comes to an end that is modelled. -/
def Value.setAttribute (v : Value) (name : Text) : Computation Unit := throw (v.givingFault name)

/-! ## Helper functions -/

/-- A field of a badge, which has to be a text. -/
def badgeField (v : Value) : Computation Text :=
  match v with
  | .text t => return Markdown.badgeEscape t
  | .date _ | .datetime _ =>
    throw (.argumentType "'str' object cannot be interpreted as an integer")
  | .builtIn .str => throw (.argumentType "replace expected at least 2 arguments, got 1")
  | .bytes _ => throw (.argumentType "a bytes-like object is required, not 'str'")
  | v => throw (v.missingFault "replace".toList)

/-- A text that is looked for. -/
def markText (v : Value) : Computation Text :=
  match v with
  | .text t => return t
  | .bytes _ => beyond (.argument HelperFunction.replaceBetween.name v.typeName)
  | v =>
    throw (.argumentType s!"decoding to str: need a bytes-like object, {v.fullTypeName} found")

/-- The replacement between each lead and the next closer. The new text is looked at only if there
is something to replace. -/
def replaceBetweenValues (input lead closer new : Value) : Computation Text := do
  let lead ← markText lead
  let closer ← markText closer
  match input with
  | .text t =>
    match new with
    | .text u => return replaceBetween lead closer u t
    | new =>
      if ((GapPattern.mk lead closer).search false t).isSome then
        throw (.concatenation "str" new.fullTypeName)
      else return t
  | .bytes _ => throw (.argumentType "cannot use a string pattern on a bytes-like object")
  | v => throw (.argumentType s!"expected string or bytes-like object, got '{v.fullTypeName}'")

/-- What a helper function makes of its arguments, one for each parameter. -/
def HelperFunction.apply (f : HelperFunction) (arguments : List Value) : Computation Text :=
  match f, arguments with
  | link, [text, url] => return Markdown.link (← display text) (← display url)
  | image, [alt, url] => return Markdown.image (← display alt) (← display url)
  | shield, [alt, subject, status, color] => do
    let subject ← badgeField subject
    let status ← badgeField status
    let color ← badgeField color
    return Markdown.image (← display alt) (Markdown.badgeAddress subject status color)
  | replaceBetween, [input, lead, closer, new] => replaceBetweenValues input lead closer new
  | surround before after, [.text t] => return before ++ t ++ after
  | surround .., [v] => throw (.concatenation "str" v.fullTypeName)
  | f, arguments => throw (.tooManyArguments f.name f.parameters.length arguments.length)

/-- A call of a helper function. -/
def HelperFunction.call (f : HelperFunction) (arguments : List Value) (keywords : Keywords) :
    Computation Text :=
  match bindArguments f.name f.parameters arguments keywords with
  | .ok arguments => f.apply arguments
  | .error e => throw e

/-! ## Methods of texts -/

/-- The texts that are joined. -/
def joinableTexts (items : List Value) : Except RunFault (List Text) :=
  items.zipIdx.mapM fun
    | (.text t, _) => .ok t
    | (v, i) => .error (.joinedItem i v.fullTypeName)

/-- An argument of `replace`, which has to be a text. -/
def replaceText (position : Nat) (v : Value) : Computation Text :=
  match v with
  | .text t => return t
  | v => throw (.argumentType s!"replace() argument {position} must be str, not {v.argumentName}")

/-- How many occurrences `replace` replaces; all, if the number is negative. -/
def replaceCount (v : Value) : Computation (Option Nat) := do
  let n ← indexOf v
  return if n < 0 then none else some n.toNat

/-- Puts `new` before each character and behind the last one, `n` times at most. -/
def interleave (n : Nat) (new : Text) : Text → Text
  | [] => if n = 0 then [] else new
  | c :: cs =>
    match n with
    | 0 => c :: cs
    | n + 1 => new ++ c :: interleave n new cs

/-- Replaces at most `count` occurrences; the empty text occurs around every character. -/
def replaceOccurrences (old new : Text) (count : Option Nat) (t : Text) : Text :=
  let n := count.getD (t.length + 1)
  if old.isEmpty then interleave n new t else Text.replaceFirst n old new t

namespace Method

/-- The result of a method without its keywords. -/
def applyTo (m : Method) (self : Text) (arguments : List Value) : Computation Text :=
  let count := arguments.length
  match m, arguments with
  | upper, [] => return Text.upper self
  | lower, [] => return Text.lower self
  | upper, _ | lower, _ => throw (.argumentCount s!"str.{m.name}()" "takes no arguments" count)
  | strip, [] | strip, [.none] => return Text.strip self
  | strip, [.text chars] => return Text.trim (fun c => decide (c ∈ chars)) self
  | strip, [_] => throw (.argumentType "strip arg must be None or str")
  | strip, _ => throw (.argumentType s!"strip expected at most 1 argument, got {count}")
  | join, [v] => do
    match ← elementsOf v with
    | none => throw .notJoinable
    | some items =>
      match joinableTexts items with
      | .ok texts => return Text.join self texts
      | .error e => throw e
  | join, _ => throw (.argumentCount "str.join()" "takes exactly one argument" count)
  | replace, [old, new] => do
    return replaceOccurrences (← replaceText 1 old) (← replaceText 2 new) none self
  | replace, [old, new, n] => do
    let old ← replaceText 1 old
    let new ← replaceText 2 new
    return replaceOccurrences old new (← replaceCount n) self
  | replace, _ =>
    if count < 2 then
      throw (.argumentType s!"replace expected at least 2 arguments, got {count}")
    else throw (.argumentType s!"replace expected at most 3 arguments, got {count}")

/-- A call of a method of a text. -/
def callOn (m : Method) (self : Text) (arguments : List Value) (keywords : Keywords) :
    Computation Value := do
  refuseKeywords s!"str.{m.name}()" keywords
  return .text (← m.applyTo self arguments)

/-- A call of a method. -/
def call (m : Method) (self : Receiver) (arguments : List Value) (keywords : Keywords) :
    Computation Value :=
  match self with
  | .text t => m.callOn t arguments keywords
  | .date d => Computation.ofExcept (Value.date <$> d.replaced arguments keywords)
  | .datetime d => Computation.ofExcept (Value.datetime <$> d.replaced arguments keywords)

/-- A call of a method of texts whose text is the first argument. -/
def callLoose (m : Method) (arguments : List Value) (keywords : Keywords) : Computation Value :=
  match arguments with
  | .text t :: arguments => m.callOn t arguments keywords
  | v :: _ => throw (.foreignReceiver m v.fullTypeName)
  | [] => throw (.noReceiver m)

end Method

/-! ## Built-ins -/

/-- The length of a value, if it has one. -/
def Value.length? (h : Heap) : Value → Option Nat
  | .text t => some t.length
  | .bytes bs => some bs.length
  | .list r | .tuple r | .set r => some (h.items r).length
  | .dict r => some (h.entries r).length
  | _ => .none

namespace BuiltIn

/-- The parameters of the text of a value. -/
def strParameters : List Text := ["object", "encoding", "errors"].map String.toList

/-- The text of a value. A second argument asks to decode bytes, which is not modelled. -/
def callStr (arguments : List Value) (keywords : Keywords) : Computation Value := do
  let given := arguments.length + keywords.length
  if 3 < given then
    throw (.argumentCount "str()" "takes at most 3 arguments" given)
  match strParameters.zipIdx.find? fun (n, i) => i < arguments.length && keywords.has n with
  | some (n, i) => throw (.argumentType
      s!"argument for str() given by name ('{n.str}') and position ({i + 1})")
  | none => pure ()
  match keywords.find? fun e => !strParameters.contains e.1 with
  | some e => throw (.argumentType s!"'{e.1.str}' is an invalid keyword argument for str()")
  | none =>
    match bindStr arguments keywords with
    | (none, []) => return .text []
    | (some v, []) => return .text (← display v)
    | (v, rest) => do
      checkOthers rest
      match v with
      | none => return .text []
      | some (.text _) => throw (.argumentType "decoding str is not supported")
      | some (.bytes _) => beyond (.argument "str()" "bytes")
      | some v => throw (.argumentType
          s!"decoding to str: need a bytes-like object, {v.fullTypeName} found")
where
  isText : Value → Bool
    | .text _ => true
    | _ => false
  /-- Insists on texts as the other arguments. -/
  checkOthers (others : List (Nat × Value)) : Computation Unit :=
    match others.find? fun e => !isText e.2 with
    | some (position, w) =>
      let name := if position = 1 then "'encoding'" else "'errors'"
      throw (.argumentType s!"str() argument {name} must be str, not {w.argumentName}")
    | none => return
  /-- The value, and the other arguments with their positions. -/
  bindStr (arguments : List Value) (keywords : Keywords) : Option Value × List (Nat × Value) :=
    let all := strParameters.zipIdx.filterMap fun (name, i) =>
      ((arguments[i]?).orElse fun _ => keywords.get? name).map fun v => (i, v)
    ((all.find? fun e => e.1 == 0).map Prod.snd, all.filter fun e => e.1 != 0)

/-- The length of a value. -/
def callLen (arguments : List Value) (keywords : Keywords) : Computation Value := do
  refuseKeywords "len()" keywords
  match arguments with
  | [v] =>
    match v.length? (← getThe Heap) with
    | some n => return .int n
    | none => throw (.noLength v.fullTypeName)
  | _ => throw (.argumentCount "len()" "takes exactly one argument" arguments.length)

/-- A call of a built-in. -/
def call (b : BuiltIn) (arguments : List Value) (keywords : Keywords) : Computation Value :=
  match b with
  | str => callStr arguments keywords
  | len => callLen arguments keywords
  | exceptionClass c => c.make arguments keywords
  | other name type =>
    if type = "ellipsis" ∨ type = "NotImplementedType" then throw (.notCallable type)
    else beyond (.call name)

end BuiltIn

/-! ## Calls of any value -/

/-- A call of a value. -/
def Value.call (f : Value) (arguments : List Value) (keywords : Keywords) : Computation Value :=
  match f with
  | .helper h => return .text (← h.call arguments keywords)
  | .method m self => m.call self arguments keywords
  | .looseMethod m => m.callLoose arguments keywords
  | .builtIn b => b.call arguments keywords
  | v => throw (.notCallable v.fullTypeName)

end LiveSections
