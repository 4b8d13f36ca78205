import LiveSections.Text.Basic

/-!
# What is left open

Section programs are written in a large language, and property files in another one. A part of
each is modelled. Where a program or a file asks for more, it has no result here: it comes to
`Unmodelled`, which is neither a value nor a failure and says nothing of what happens then.

- Programs have the statements and terms of `Statement` and `Term`: assignments, updates, exceptions
  that are raised, and terms of literals, names, displays, four operators, attributes and calls. Any
  other text that follows the grammar of the whole language (`Form`) is left open, also where the
  language refuses it by rules beyond its grammar. So are literals of other kinds.
- Texts are sequences of characters, so half of a surrogate pair is left open wherever an escape
  stands for one.
- Of the attributes of values, texts have `join`, `lower`, `replace`, `strip` and `upper`, dates
  have `replace`, and numbers, dates and durations have their parts. All others that a value may
  have (`Value.mayHave`) are left open, among them every method of lists, tuples, mappings, sets
  and bytes.
- Helpers, exceptions and some built-in values keep whatever attribute they are given. To give them
  one is left open.
- Of the built-in values, `str`, `len` and the classes of exceptions can be called. Calls of all
  others are left open: they may change collections, stop the run or run other programs.
- Bytes as text, moments that come up twice, the order in which a set is gone through, texts that
  tell where a value is stored, and sets whose items are told apart by the place where they are
  stored are left open.

What takes more memory or a deeper stack than there is goes beyond all this. Only programs whose
phrases and files whose collections are nested very deep, and values nested too deep to be shown,
are noticed.
-/

namespace LiveSections

/-- What a program or a property file asks for that is not modelled. -/
inductive Unmodelled where
  /-- The text is a program, but not one of statements and terms that are modelled. -/
  | phrase
  /-- A literal of another kind: bytes, a text with holes, an imaginary number, a character by its
  name. -/
  | literal
  /-- An escape stands for half of a surrogate pair. -/
  | surrogate (code : Nat)
  /-- Phrases of a program, or collections of a file, are nested very deep. -/
  | nesting
  /-- An attribute that the values of a type may have. -/
  | attribute (type : String) (name : Text)
  /-- An attribute that is given to a value of a type, which may keep it. -/
  | giving (type : String) (name : Text)
  /-- A call of a built-in value. -/
  | call (name : String)
  /-- An argument of a type for which a function does something of its own. -/
  | argument (function type : String)
  /-- The text of a value tells where it is stored, or hangs on the order of a set. -/
  | shown (type : String)
  /-- A set of several items is gone through. -/
  | order
  /-- A set has an item that is told apart by the place where it is stored. -/
  | identity
  deriving DecidableEq, Repr

/-- The words for what is not modelled. -/
def Unmodelled.message : Unmodelled → String
  | .phrase => "not modelled: the phrases of the program"
  | .literal => "not modelled: a literal"
  | .surrogate code => s!"not modelled: half of a surrogate pair, {code}"
  | .nesting => "not modelled: what is nested very deep"
  | .attribute type name => s!"not modelled: attribute {name.str} of {type}"
  | .giving type name => s!"not modelled: to give {type} the attribute {name.str}"
  | .call name => s!"not modelled: a call of {name}"
  | .argument function type => s!"not modelled: {type} as an argument of {function}"
  | .shown type => s!"not modelled: the text of {type}"
  | .order => "not modelled: the order of a set"
  | .identity => "not modelled: a set of items with an identity"

end LiveSections
