import LiveSections.Text.Basic

/-!
# Helper functions

The functions that section programs can call: markdown links and images, badges, the replacement
between a lead and the next closer, and functions that surround their argument.

- `HelperFunction`: the functions.
- `HelperFunction.name`, `HelperFunction.parameters`: how they are called.
-/

namespace LiveSections

/-- A function that a section program can call. -/
inductive HelperFunction where
  | link
  | image
  | shield
  | replaceBetween
  /-- Puts a text before and a text behind its argument. -/
  | surround (before after : Text)
  deriving DecidableEq, Repr

namespace HelperFunction

/-- The name that a function has in messages. -/
def name : HelperFunction → String
  | link => "link"
  | image => "image"
  | shield => "shield"
  | replaceBetween => "prefix_delimiter_replace"
  | surround .. => "handler"

/-- The names of a function's parameters, all of them required. -/
def parameters : HelperFunction → List String
  | link => ["text", "url"]
  | image => ["alt_text", "url"]
  | shield => ["alt_text", "subject", "status", "color"]
  | replaceBetween => ["input", "prefix", "delimiter", "replacement"]
  | surround .. => ["text"]

end HelperFunction

end LiveSections
