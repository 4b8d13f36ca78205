import LiveSections.Value.Basic

/-!
# Terms and statements of section programs

- `Term`: expressions.
- `Holder`, `Target`: what values are bound to.
- `Statement`: assignments, updates, expressions on their own, raised exceptions.
- `Program`: statements in order.
- `Program.isDeep`: whether terms of a program are nested deeper than they may be.
-/

namespace LiveSections

/-- The operators between two terms. -/
inductive BinaryOp where
  | add
  | sub
  | mul
  | div
  deriving DecidableEq, Repr

/-- The sign of an operator. -/
def BinaryOp.sign : BinaryOp → String
  | add => "+"
  | sub => "-"
  | mul => "*"
  | div => "/"

/-- The operators before a term. -/
inductive UnaryOp where
  | plus
  | minus
  deriving DecidableEq, Repr

/-- The sign of an operator. -/
def UnaryOp.sign : UnaryOp → String
  | plus => "+"
  | minus => "-"

/-- The kinds of displays: items between brackets. -/
inductive DisplayKind where
  | list
  | tuple
  | set
  deriving DecidableEq, Repr

/-- A term. -/
inductive Term where
  | name (n : Text)
  | none
  | bool (b : Bool)
  | int (n : Nat)
  | float (x : Float)
  | text (t : Text)
  | display (kind : DisplayKind) (items : List Term)
  | emptyDict
  | binary (op : BinaryOp) (left right : Term)
  | unary (op : UnaryOp) (operand : Term)
  | call (function : Term) (arguments : List Term) (keywords : List (Text × Term))
  | attribute (value : Term) (name : Text)

/-- What holds one value: a name, or an attribute of a value. -/
inductive Holder where
  | name (n : Text)
  | attribute (value : Term) (name : Text)

/-- What values are bound to: one holder, or several between which a value is shared out. -/
inductive Target where
  | holder (h : Holder)
  | items (targets : List Target)

/-- A statement. -/
inductive Statement where
  /-- Binds every target to the value of the term, from left to right. -/
  | assign (targets : List Target) (value : Term)
  /-- Updates a holder by an operator. -/
  | update (holder : Holder) (op : BinaryOp) (value : Term)
  | evaluate (term : Term)
  | raise (exception : Option Term)
  | pass

/-- Statements, run in order. -/
abbrev Program : Type := List Statement

/-! ## Nesting -/

mutual

/-- How deep terms are nested in a term. -/
def Term.depth : Term → Nat
  | .display _ items => depthOfAll items + 1
  | .binary _ left right => max left.depth right.depth + 1
  | .unary _ operand => operand.depth + 1
  | .call function arguments keywords =>
    max function.depth (max (depthOfAll arguments) (depthOfNamed keywords)) + 1
  | .attribute value _ => value.depth + 1
  | _ => 1

/-- How deep the deepest of some terms is. -/
def depthOfAll : List Term → Nat
  | [] => 0
  | term :: terms => max term.depth (depthOfAll terms)

/-- How deep the deepest of some terms with names is. -/
def depthOfNamed : List (Text × Term) → Nat
  | [] => 0
  | (_, term) :: terms => max term.depth (depthOfNamed terms)

end

/-- How deep the terms in a holder are. -/
def Holder.depth : Holder → Nat
  | name _ => 1
  | .attribute value _ => value.depth + 1

mutual

/-- How deep the terms and targets in a target are. -/
def Target.depth : Target → Nat
  | .holder h => h.depth
  | .items targets => depthOfTargets targets + 1

/-- How deep the deepest of some targets is. -/
def depthOfTargets : List Target → Nat
  | [] => 0
  | target :: targets => max target.depth (depthOfTargets targets)

end

/-- How deep the terms of a statement are. -/
def Statement.depth : Statement → Nat
  | assign targets value => max (depthOfTargets targets) value.depth
  | update holder _ value => max holder.depth value.depth
  | evaluate term => term.depth
  | raise exception => exception.elim 0 Term.depth
  | pass => 0

/-- How deep terms may be nested. -/
def maxNesting : Nat := 2500

/-- Whether terms of a program are nested deeper than they may be. -/
def Program.isDeep (p : Program) : Bool := p.any fun s => decide (maxNesting < s.depth)

end LiveSections
