import StructuralEditing.Scope.Basic
import StructuralEditing.Document.Surroundings
import StructuralEditing.Token.Word
import StructuralEditing.Pattern.Matcher

/-!
# Scopes of plain text

Characters, words, tokens, matches of a pattern, lines, paragraphs and the document itself. None of them contains another of
its type. What lies within a line is found line by line, from the line of a position on, so a walk that ends early does not
look at the rest of the document.
-/

namespace StructuralEditing

/-- The lines from a number on in a direction. -/
def Document.linesFrom (d : Document) (number : Nat) : Direction → List Line
  | .forward => d.lines.drop number
  | .backward => (d.lines.take (number + 1)).reverse

namespace ScopeSource

/-- Of scopes in document order, those that a walk may meet, in the order of the walk: forward those that end at or after its
start, and backward, in reverse, those that begin at or before it. -/
def ahead (scopes : List Scope) (p : Position) : Direction → List Scope
  | .forward => scopes.filter fun s => decide (p ≤ s.domain.stop)
  | .backward => (scopes.filter fun s => decide (s.domain.start ≤ p)).reverse

/-- The source of scopes that are given in document order. -/
def ofList (scopeType iterationType : ScopeType) (scopes : List Scope) (prefers : Scope → Scope → Option Bool) :
    ScopeSource :=
  { scopeType, iterationType, isHierarchical := false, candidates := fun p d _ => ahead scopes p d, prefers }

/-- The source of the scopes that each line of a document holds. A walk comes to one line after the other. -/
def lineByLine (scopeType iterationType : ScopeType) (document : Document) (scopesOn : Line → List Scope)
    (prefers : Scope → Scope → Option Bool) : ScopeSource :=
  { scopeType, iterationType, isHierarchical := false
    candidates := fun p d _ => (document.linesFrom p.line d).flatMap fun l => ahead (scopesOn l) p d
    prefers }

/-- Prefers a scope for which something holds to one for which it does not. -/
def preferring (holds : Scope → Bool) (a b : Scope) : Option Bool :=
  match holds a, holds b with
  | true, false => some true
  | false, true => some false
  | _, _ => none

end ScopeSource

namespace Editor

/-- The pieces that a scan finds on a line, as scopes of a kind. -/
def piecesOn (e : Editor) (kind : Kind) (scan : Text → List Piece) (l : Line) : List Scope :=
  (scan l.content).map fun piece =>
    let r := Range.onLine l.number piece.start piece.stop
    ⟨r, .single e.id r false kind⟩

/-- The text of a scope's domain. -/
def domainText (e : Editor) (s : Scope) : Text := e.document.textIn s.domain

/-- The grapheme clusters of every line; what is not blank is preferred. -/
def characters (e : Editor) : ScopeSource :=
  .lineByLine (.named "character") (.named "token") e.document (e.piecesOn (.scope [] .content) Text.graphemes)
    (ScopeSource.preferring fun s => !(e.domainText s).isBlank)

/-- The tokens of every line; identifiers are preferred. -/
def tokens (e : Editor) (k : Tokenizer) : ScopeSource :=
  .lineByLine (.named "token") (.named "line") e.document (e.piecesOn .token k.tokens)
    (ScopeSource.preferring fun s => k.isIdentifier (e.domainText s))

/-- The words of a line: those of its identifiers, and every other token as a whole. -/
def wordPieces (k : Tokenizer) (line : Text) : List Piece :=
  (k.tokens line).flatMap fun token =>
    if k.isIdentifier token.text then
      (k.words token.text).map fun w => ⟨token.start + w.start, token.start + w.stop, w.text⟩
    else [token]

/-- The words of every line. -/
def words (e : Editor) (k : Tokenizer) : ScopeSource :=
  .lineByLine (.named "word") (.named "token") e.document (e.piecesOn (.scope [] .content) (wordPieces k))
    ScopeSource.noPreference

/-- The matches of a pattern on every line. -/
def matching (e : Editor) (scopeType : ScopeType) (scan : Text → List Piece) : ScopeSource :=
  .lineByLine scopeType (.named "line") e.document (e.piecesOn (.scope [' '] .token) scan) ScopeSource.noPreference

/-- The scope of a line: its target leaves out the white space around the line, unless there is nothing else. -/
def lineScope (e : Editor) (l : Line) : Scope :=
  ⟨l.range, .single e.id (if l.isBlank then l.range else l.trimmedRange) false .line⟩

/-- The lines. A walk begins with the line of its position, or the last one if there is none. -/
def lines (e : Editor) : ScopeSource :=
  { scopeType := .named "line"
    iterationType := .named "paragraph"
    isHierarchical := false
    candidates := fun p d _ => (e.document.linesFrom (min p.line e.document.lastLine) d).map e.lineScope
    prefers := ScopeSource.noPreference }

/-- The runs of lines that are not blank, each by its first and last line, given the run that has begun. -/
def runsOfLines : Option (Line × Line) → List Line → List (Line × Line)
  | run, [] => run.toList
  | none, l :: ls => runsOfLines (if l.isBlank then none else some (l, l)) ls
  | some (first, last), l :: ls =>
    if l.isBlank then (first, last) :: runsOfLines none ls else runsOfLines (some (first, l)) ls

/-- The scope of a run of lines: its target leaves out the white space around the run. -/
def paragraphScope (e : Editor) (run : Line × Line) : Scope :=
  ⟨.between run.1.range.start run.2.range.stop,
    .single e.id (.between run.1.trimmedRange.start run.2.trimmedRange.stop) false .paragraph⟩

/-- The paragraphs. -/
def paragraphs (e : Editor) : ScopeSource :=
  .ofList (.named "paragraph") (.named "document") ((runsOfLines none e.document.lines).map e.paragraphScope)
    ScopeSource.noPreference

/-- The scope of the document: its target leaves out the white space around the text, unless there is nothing else. -/
def wholeScope (e : Editor) : Scope :=
  let domain := e.document.range
  let content := e.document.shrink domain
  ⟨domain, .single e.id (if content.isEmpty then domain else content) false .document⟩

/-- The document. -/
def whole (e : Editor) : ScopeSource :=
  { scopeType := .named "document", iterationType := .named "document", isHierarchical := false
    candidates := fun _ _ _ => [e.wholeScope]
    prefers := ScopeSource.noPreference }

end Editor

namespace Matcher

open Unicode

/-- Sequences of characters other than white space. -/
def nonBlank : Matcher :=
  .automaton (.ofPatterns [.repetition (.one SetRule.whitespace.spans.complement 0) 1 none true])

/-- The characters that end an address wherever they stand. -/
def addressEnd : Spans :=
  SetRule.whitespace.spans.union (.ofChars ['<', '>', '"', '\'', '(', ')', '[', ']', '\x7b', '\x7d'])

/-- The addresses of pages and files: a scheme, and what follows up to white space, a quote or a bracket, without the
punctuation at its end. -/
def address : Matcher :=
  let web := Pattern.sequence [.literal "http", .repetition (.literal "s") 0 (some 1) true]
  let last := addressEnd.union (.ofChars ['.', ',', ';', ':', '!', '?'])
  .automaton <| .ofPatterns [.choice [web, .literal "ftp", .literal "file"], .literal "://",
    .repetition (.one addressEnd.complement 0) 0 none true, .one last.complement 0]

end Matcher

end StructuralEditing
