import LiveSections.Program.Token

/-!
# The grammar of programs

Programs are written in a language of which only a part is modelled. To tell a program beyond that
part from a text that is no program, the grammar of the whole language is given as data. It admits
all programs; of the other texts it admits those that the language refuses by rules beyond its
grammar.

- `Form`: what tokens in a row can look like. A choice takes the first form that fits.
- `Phrase`, `Phrase.form`: the phrases of the language.
- `Form.after?`: the tokens behind a beginning that has a form.
- `mayBeProgram`: whether tokens can be a program of the whole language.
-/

namespace LiveSections

/-- The words that cannot be names. -/
def reservedWords : List Text :=
  ["False", "None", "True", "and", "as", "assert", "async", "await", "break", "class", "continue",
   "def", "del", "elif", "else", "except", "finally", "for", "from", "global", "if", "import",
   "in", "is", "lambda", "nonlocal", "not", "or", "pass", "raise", "return", "try", "while", "with",
   "yield"].map String.toList

/-! ## Forms -/

/-- What one token can look like. -/
inductive TokenKind where
  /-- This word or sign. -/
  | mark (s : String)
  | name
  | text
  | number
  | lineEnd
  | indent
  | dedent
  /-- Anything inside of a line but brackets, colons and the word before a condition. -/
  | filler

/-- Whether a token is of a kind. -/
def TokenKind.admits : TokenKind → Token → Bool
  | mark s, .name t | mark s, .sign t => t == s.toList
  | name, .name t => !reservedWords.contains t
  | text, .text _ | text, .foreign true _ => true
  | number, .int _ | number, .float _ | number, .foreign false _ => true
  | lineEnd, .lineEnd | indent, .indent | dedent, .dedent => true
  | filler, .lineEnd | filler, .indent | filler, .dedent => false
  | filler, .name t => t != "if".toList
  | filler, .sign t => t != [':'] && (Token.closerOf t).isNone && !Token.isCloser t
  | filler, _ => true
  | _, _ => false

/-- The phrases of the language: statements and their parts, then terms, from those that bind
loosest on, and their parts. -/
inductive Phrase where
  | statement
  | line
  | simple
  | block
  | otherwise
  | content
  | moduleName
  | imported
  | loop
  | attempt
  | guarded
  | definition
  | parameter
  | bareParameter
  | typed
  | selection
  | pattern
  | terms
  | term
  | item
  | boundTerm
  | target
  | disjunction
  | inversion
  | comparison
  | comparator
  | arithmetic
  | factor
  | primary
  | atom
  | yielding
  | items
  | entries
  | entry
  | clause
  | arguments
  | argument
  | keyword
  | slice

/-- What tokens in a row can look like. -/
inductive Form where
  | nothing
  | one (k : TokenKind)
  | phrase (p : Phrase)
  | followed (first second : Form)
  | choice (first second : Form)
  /-- As often as the form fits; it has to take a token each time. -/
  | repeated (f : Form)
  /-- Nothing, where the form does not fit. -/
  | absent (f : Form)

namespace Form

instance : Coe String Form := ⟨fun s => one (.mark s)⟩

instance : Coe Phrase Form := ⟨phrase⟩

/-- A word that can be a name. -/
def name : Form := one .name

/-- One form after another. -/
def all (fs : List Form) : Form := fs.foldr followed nothing

/-- The first of several forms that fits. -/
def any (fs : List Form) : Form := fs.foldr choice (absent nothing)

/-- One form after another, or nothing. -/
def maybe (fs : List Form) : Form := choice (all fs) nothing

/-- A form once or more often. -/
def several (f : Form) : Form := followed f (repeated f)

/-- A form once or more often, with commas between. -/
def listed (f : Form) : Form := followed f (repeated (all [",", f]))

/-- A form once or more often, with commas between and maybe one behind. -/
def series (f : Form) : Form := followed (listed f) (maybe [","])

end Form

/-! ## Phrases -/

open Form in
/-- What a phrase can look like. -/
def Phrase.form : Phrase → Form
  | statement => any [
      all ["if", boundTerm, ":", block, repeated (all ["elif", boundTerm, ":", block]),
        maybe [otherwise]],
      all ["while", boundTerm, ":", block, maybe [otherwise]],
      loop, attempt, guarded, definition, selection, line]
  | line => all [simple, repeated (all [";", simple]), maybe [";"], one .lineEnd]
  | simple => any [
      "pass", "break", "continue",
      all ["return", maybe [terms]],
      all ["raise", maybe [term, maybe ["from", term]]],
      all ["global", listed name],
      all ["nonlocal", listed name],
      all ["del", series target],
      all ["assert", term, maybe [",", term]],
      all ["import", listed (all [moduleName, maybe ["as", name]])],
      all ["from", any [all [several (any [".", "..."]), maybe [moduleName]], moduleName],
        "import", imported],
      yielding,
      all [terms, any [
        all [":", term, maybe ["=", content]],
        all [any ["+=", "-=", "*=", "/=", "//=", "%=", "@=", "&=", "|=", "^=", ">>=", "<<=", "**="],
          content],
        repeated (all ["=", content])]]]
  | block => any [
      all [one .lineEnd, one .indent, several statement, one .dedent],
      line]
  | otherwise => all ["else", ":", block]
  | content => any [yielding, terms]
  | moduleName => all [name, repeated (all [".", name])]
  | imported =>
    let single := all [name, maybe ["as", name]]
    any ["*", all ["(", series single, ")"], listed single]
  | loop => all [maybe ["async"], "for", series target, "in", terms, ":", block, maybe [otherwise]]
  | attempt =>
    let handler := all ["except", maybe ["*"], maybe [term, maybe ["as", name]], ":", block]
    let final := all ["finally", ":", block]
    all ["try", ":", block, any [all [several handler, maybe [otherwise], maybe [final]], final]]
  | guarded =>
    let resource := all [term, maybe ["as", target]]
    all [maybe ["async"], "with",
      any [all ["(", series resource, ")", ":"], all [listed resource, ":"]], block]
  | definition =>
    all [repeated (all ["@", boundTerm, one .lineEnd]), any [
      all ["class", name, maybe ["(", arguments, ")"], ":", block],
      all [maybe ["async"], "def", name, "(", maybe [series parameter], ")", maybe ["->", term],
        ":", block]]]
  | parameter => any [
      "/",
      all ["**", name, maybe [typed]],
      all ["*", maybe [name, maybe [typed]]],
      all [name, maybe [typed], maybe ["=", term]]]
  | bareParameter => any [
      "/",
      all ["**", name],
      all ["*", maybe [name]],
      all [name, maybe ["=", term]]]
  | typed => all [":", any [all ["*", arithmetic], term]]
  | selection =>
    all ["match", series item, ":", one .lineEnd, one .indent,
      several (all ["case", several pattern, maybe ["if", boundTerm], ":", block]), one .dedent]
  | pattern =>
    let inside := repeated (any [pattern, ":", "if"])
    any [all ["(", inside, ")"], all ["[", inside, "]"], all ["\x7b", inside, "\x7d"],
      one .filler]
  | terms => series (any [all ["*", arithmetic], term])
  | term => any [
      all ["lambda", maybe [series bareParameter], ":", term],
      all [disjunction, maybe ["if", disjunction, "else", term]]]
  | item => any [all ["*", arithmetic], boundTerm]
  | boundTerm => any [all [name, ":=", term], term]
  | target => any [all ["*", arithmetic], arithmetic]
  | disjunction => all [inversion, repeated (all [any ["and", "or"], inversion])]
  | inversion => any [all ["not", inversion], comparison]
  | comparison => all [arithmetic, repeated (all [comparator, arithmetic])]
  | comparator => any [
      "==", "!=", "<=", ">=", "<", ">", "in", all ["not", "in"], all ["is", maybe ["not"]]]
  | arithmetic =>
    all [factor, repeated (all [
      any ["+", "-", "*", "/", "//", "%", "@", "<<", ">>", "&", "^", "|"], factor])]
  | factor => any [
      all [any ["+", "-", "~"], factor],
      all [maybe ["await"], primary, maybe ["**", factor]]]
  | primary =>
    all [atom, repeated (any [
      all [".", name],
      all ["(", arguments, ")"],
      all ["[", series slice, "]"]])]
  | atom => any [
      name, several (one .text), one .number, "None", "True", "False", "...",
      all ["(", any [yielding, items, nothing], ")"],
      all ["[", maybe [items], "]"],
      all ["\x7b", maybe [entries], "\x7d"]]
  | yielding => all ["yield", any [all ["from", term], maybe [terms]]]
  | items => all [item, any [several clause, all [repeated (all [",", item]), maybe [","]]]]
  | entries =>
    let others := all [repeated (all [",", entry]), maybe [","]]
    any [
      all ["**", arithmetic, others],
      all [item, any [
        all [":", term, any [several clause, others]],
        several clause,
        all [repeated (all [",", item]), maybe [","]]]]]
  | entry => any [all ["**", arithmetic], all [term, ":", term]]
  | clause =>
    all [maybe ["async"], "for", series target, "in", disjunction,
      repeated (all ["if", disjunction])]
  | arguments => any [
      all [argument, repeated (all [",", argument]), repeated (all [",", keyword]), maybe [","]],
      series keyword,
      nothing]
  | argument => any [
      all ["*", term],
      all [boundTerm, repeated clause, absent "="]]
  | keyword => any [all [name, "=", term], all ["**", term], all ["*", term]]
  | slice =>
    let others := all [":", maybe [term], maybe [":", maybe [term]]]
    any [all ["*", arithmetic], others, all [boundTerm, maybe [others]]]

/-! ## Sentences -/

/-- The tokens behind the beginning that has a form, if there is one. -/
def Form.after? : Nat → Form → List Token → Option (List Token)
  | 0, _, _ => none
  | fuel + 1, f, ts =>
    match f with
    | nothing => some ts
    | one k =>
      match ts with
      | t :: ts => if k.admits t then some ts else none
      | [] => none
    | phrase p => after? fuel p.form ts
    | followed first second => (after? fuel first ts).bind (after? fuel second)
    | choice first second => (after? fuel first ts).orElse fun _ => after? fuel second ts
    | repeated f =>
      match after? fuel f ts with
      | some ts => after? fuel (repeated f) ts
      | none => some ts
    | absent f => if (after? fuel f ts).isSome then none else some ts

/-- Words that have to stand inside of what other words begin. -/
def innerWords : List (String × List String) :=
  [("return", ["def"]), ("yield", ["def", "lambda"]), ("await", ["def"]), ("async", ["def"]),
   ("nonlocal", ["def"]), ("break", ["for", "while"]), ("continue", ["for", "while"])]

/-- Whether tokens can be a program of the whole language. Between two tokens fewer than 256 forms
are entered. -/
def mayBeProgram (ts : List Token) : Bool :=
  let has (word : String) : Bool := ts.any (TokenKind.mark word).admits
  innerWords.all (fun e => !has e.1 || e.2.any has) &&
    ((Form.repeated Phrase.statement).after? (256 * (ts.length + 1)) ts).any List.isEmpty

end LiveSections
