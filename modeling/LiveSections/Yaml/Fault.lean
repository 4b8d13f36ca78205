import LiveSections.Unmodelled

/-!
# Faults of YAML files

- `Yaml.Fault`: why a text is no file of properties.
- `Yaml.Fault.message`: the words of a fault.
-/

namespace LiveSections.Yaml

/-- Why a text cannot be read. -/
inductive Fault where
  /-- A control character that no text may hold. -/
  | unacceptable (c : Char)
  /-- No token begins with this character. -/
  | noToken (c : Char)
  /-- A quoted text does not end before the text or the document does. -/
  | unfinishedQuote
  | unknownEscape
  /-- The number behind an escape is no code point. -/
  | noCodePoint (n : Nat)
  /-- The indicators behind `|` or `>` are none. -/
  | badBlockHeader
  | badName
  | badTag
  | badDirective
  /-- A key stands where a colon has to follow, but none does. -/
  | missingColon
  | entryNotAllowed
  | keyNotAllowed
  | valueNotAllowed
  /-- Something else stands where a node should. -/
  | noContent
  | unfinishedBlock
  | unfinishedFlow
  | missingDocumentStart
  | undefinedHandle (handle : Text)
  | undefinedAlias (name : Text)
  | repeatedAnchor (name : Text)
  | severalDocuments
  | undefinedTag (tag : Text)
  /-- A node is not of the kind that its tag says. -/
  | wrongKind
  /-- What is merged into a mapping is no mapping. -/
  | mergeOfNoMapping
  | unhashableKey
  /-- The text asks for something that is not modelled, so it need not be at fault. -/
  | unmodelled (u : Unmodelled)
  deriving DecidableEq, Repr

/-- The words of a fault. -/
def Fault.message : Fault → String
  | unacceptable _ => "special characters are not allowed"
  | noToken c => s!"found character {c} that cannot start any token"
  | unfinishedQuote => "found unexpected end of stream"
  | unknownEscape => "found unknown escape character"
  | noCodePoint _ => "found no code point"
  | badBlockHeader => "expected chomping or indentation indicators"
  | badName => "expected alphabetic or numeric character"
  | badTag => "expected a tag"
  | badDirective => "found an invalid directive"
  | missingColon => "could not find expected ':'"
  | entryNotAllowed => "sequence entries are not allowed here"
  | keyNotAllowed => "mapping keys are not allowed here"
  | valueNotAllowed => "mapping values are not allowed here"
  | noContent => "expected the node content"
  | unfinishedBlock => "expected <block end>"
  | unfinishedFlow => "expected ',' or a closing bracket"
  | missingDocumentStart => "expected '<document start>'"
  | undefinedHandle handle => s!"found undefined tag handle {handle.str}"
  | undefinedAlias name => s!"found undefined alias {name.str}"
  | repeatedAnchor name => s!"found duplicate anchor {name.str}"
  | severalDocuments => "expected a single document in the stream"
  | undefinedTag tag => s!"could not determine a constructor for the tag {tag.str}"
  | wrongKind => "expected a node of another kind"
  | mergeOfNoMapping => "expected a mapping or list of mappings for merging"
  | unhashableKey => "found unhashable key"
  | unmodelled u => u.message

end LiveSections.Yaml
