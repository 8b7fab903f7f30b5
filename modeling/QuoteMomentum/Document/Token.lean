import QuoteMomentum.Document.Cursor

/-!
# Tokens of a configuration document

Scanning cuts a document into tokens: the markers of documents, the starts
and ends of collections, the indicators of keys, values and entries, anchors,
aliases, tags and scalars. Block collections are marked by their indentation
in the text and get explicit start and end tokens here, so the grammar that
reads tokens is free of indentation.
-/

namespace QuoteMomentum.Document

/-- What a directive line says. -/
inductive Directive where
  /-- `%YAML major.minor`. -/
  | version (major minor : Nat)
  /-- `%TAG handle uri`: tags written with the handle stand for the URI
  followed by their suffix. -/
  | tag (handle uri : String)
  /-- Any other directive, which is ignored. -/
  | other (name : String)
  deriving Repr, DecidableEq

/-- A token of a document. -/
inductive Token where
  | directive (d : Directive)
  | documentStart
  | documentEnd
  | blockSequenceStart
  | blockMappingStart
  | blockEnd
  | flowSequenceStart
  | flowMappingStart
  | flowSequenceEnd
  | flowMappingEnd
  | key
  | value
  | blockEntry
  | flowEntry
  | alias (name : String)
  | anchor (name : String)
  /-- A tag: its handle, none for a verbatim tag or a lone `!`, and its suffix. -/
  | tag (handle : Option String) (suffix : String)
  /-- A scalar and whether it was written plain, without quotes or a block
  indicator: only plain scalars are typed by their text. -/
  | scalar (text : String) (plain : Bool)
  | streamEnd
  deriving Repr, DecidableEq, Inhabited

end QuoteMomentum.Document
