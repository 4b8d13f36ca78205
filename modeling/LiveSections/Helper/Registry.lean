import LiveSections.Helper.Function
import LiveSections.Table

/-!
# The registry of helpers

A helper is described once and bound to its name and its aliases. A later helper takes over the
names that it shares with earlier ones; a name that is bound again keeps its place.

- `Helper`: a function with its name, category, description, examples and aliases.
- `Registry.register`: binds a new helper; `Registry.bind` binds one again that is known already.
- `Registry.ofCategory`: the helpers of a category that still have a name, each once, at the place
  of its first one.
- `Registry.describe`: one line for each helper, below the heading of its category.
- `Registry.standard`: the registry of the built-in helpers.
-/

namespace LiveSections

/-- What a helper is for. -/
inductive HelperCategory where
  | markdown
  | badge
  | text
  deriving DecidableEq, Repr

namespace HelperCategory

/-- All categories, in the order of listings. -/
def all : List HelperCategory := [markdown, badge, text]

/-- The name of a category. -/
def name : HelperCategory → Text
  | markdown => "markdown".toList
  | badge => "badge".toList
  | text => "text".toList

/-- The category with a name. -/
def ofName? (name : Text) : Option HelperCategory := all.find? fun c => c.name == name

end HelperCategory

/-- The description of a helper. -/
structure Helper where
  name : Text
  category : HelperCategory
  description : Text
  function : HelperFunction
  examples : List Text
  aliases : List Text
  deriving DecidableEq, Repr

namespace Helper

/-- Every name that a helper is bound to. -/
def names (h : Helper) : List Text := h.name :: h.aliases

/-- Whether a name is one of a helper's names. -/
def answersTo (h : Helper) (name : Text) : Bool := h.names.contains name

/-- One line: name, aliases, description, first example. -/
def summary (h : Helper) : Text :=
  h.name
    ++ (if h.aliases.isEmpty then []
        else ' ' :: '(' :: Text.join [',', ' '] h.aliases ++ [')'])
    ++ ':' :: ' ' :: h.description
    ++ (h.examples.head?.elim [] fun e => " | e.g. ".toList ++ e)

end Helper

/-- A helper with the number of its registration, which tells it from helpers that look alike. -/
structure Registered where
  serial : Nat
  helper : Helper
  deriving DecidableEq, Repr

/-- The bound names, in the order in which they were first bound. -/
structure Registry where
  bindings : Table Text Registered
  count : Nat
  deriving Repr

namespace Registry

/-- The registry without a helper. -/
def empty : Registry := ⟨[], 0⟩

/-- Binds a helper that has its number already to all its names. -/
def bind (r : Registry) (e : Registered) : Registry :=
  { r with bindings := e.helper.names.foldl (fun t name => t.put name e) r.bindings }

/-- Binds a new helper to all its names. -/
def register (r : Registry) (h : Helper) : Registry :=
  { r.bind ⟨r.count, h⟩ with count := r.count + 1 }

/-- The helper bound to a name. -/
def get? (r : Registry) (name : Text) : Option Registered := r.bindings.get? name

/-- The function bound to a name. -/
def function? (r : Registry) (name : Text) : Option HelperFunction :=
  (r.get? name).map fun e => e.helper.function

/-- Every bound name with its function. -/
def functions (r : Registry) : Table Text HelperFunction :=
  r.bindings.map fun (name, e) => (name, e.helper.function)

/-- The helpers that still have a name, each once, at the place of its first one. -/
def helpers (r : Registry) : List Registered :=
  (r.bindings.map Prod.snd).eraseDupsBy fun a b => a.serial == b.serial

/-- The helpers of a category. -/
def ofCategory (r : Registry) (c : HelperCategory) : List Helper :=
  (r.helpers.map Registered.helper).filter fun h => h.category == c

/-- The lines of a listing: each category that has helpers, and below it their summaries. -/
def describe (r : Registry) : List Text :=
  HelperCategory.all.flatMap fun c =>
    match r.ofCategory c with
    | [] => []
    | hs => ('[' :: c.name ++ [']']) :: hs.map fun h => ' ' :: ' ' :: h.summary

/-- Whether two names lead to one helper, or both to none. -/
def same (r : Registry) (a b : Text) : Bool :=
  (r.get? a).map Registered.serial == (r.get? b).map Registered.serial

/-- The built-in helpers. -/
def builtIns : List Helper :=
  [{ name := "link".toList, category := .markdown, description := "Markdown link".toList,
     function := .link, examples := ["link('docs', 'https://example.com/docs')".toList],
     aliases := [] },
   { name := "image".toList, category := .markdown, description := "Markdown image".toList,
     function := .image, examples := ["image('logo', 'images/logo.png')".toList], aliases := [] },
   { name := "shield".toList, category := .badge,
     description := "shields.io badge image (alt text, subject, status, color)".toList,
     function := .shield,
     examples := [("shield('Latest version', 'latest', '\x7b\x7bversion\x7d\x7d', ".toList
       ++ "'brightgreen')".toList)],
     aliases := [] },
   { name := "prefix_delimiter_replace".toList, category := .text,
     description :=
       "Replace the text between each prefix and the following delimiter".toList,
     function := .replaceBetween,
     examples := ["output = prefix_delimiter_replace(input, 'version ', '\\n', ".toList
       ++ "'\x7b\x7bversion\x7d\x7d')".toList],
     aliases := ["prefixDelimiterReplace".toList] }]

/-- The registry of the built-in helpers. -/
def standard : Registry := builtIns.foldl register empty

end Registry

end LiveSections
