import StructuralEditing.Scope.Kind
import StructuralEditing.Hat.Key
import StructuralEditing.Action.Basic
import StructuralEditing.Target.Basic

/-!
# Errors

Why a command, a query or a configuration is refused. Each error names its cause; the wording of all of them is in
`Error.message`.
-/

namespace StructuralEditing

/-- Why a configuration is refused. -/
inductive ConfigError where
  /-- The text is no configuration. -/
  | malformed
  /-- A node pattern of a scope definition has no kind, or too many parts. -/
  | invalidPattern (scope pattern : String)
  deriving DecidableEq, Repr

/-- A mark that does not exist at the moment. -/
inductive MissingMark where
  | that
  | source
  | hat (key : HatKey)
  deriving DecidableEq, Repr

/-- The two ends of a range as a command names them. -/
inductive RangeEnd where
  | anchor
  | active
  deriving DecidableEq, Repr

/-- Why a range cannot be built. -/
inductive RangeFault where
  /-- The ends lie in two editors. -/
  | acrossEditors (anchor active : EditorId)
  /-- The two ends are lists of different length. -/
  | unequalCounts (anchors actives : Nat)
  /-- An end should be one target. -/
  | notSingle (rangeEnd : RangeEnd) (found : Nat)
  deriving DecidableEq, Repr

/-- Why a command makes no sense. -/
inductive CommandFault where
  /-- The payload is no command. -/
  | malformed
  | missingVersion
  | notAPair (scopeType : ScopeType)
  | unknownDelimiter (name : String)
  | invalidPattern (regex : String)
  /-- A choice between no modifiers. -/
  | noAlternatives
  | wrongTargetLists (action : Action) (found : Nat)
  /-- Several sources for one destination, but none of them. -/
  | nothingToBring
  | cannotPair (sources destinations : Nat)
  | wrongTextCount (texts targets : Nat)
  | numbersOverflow (start : Int)
  deriving Repr

/-- Why something is refused. -/
inductive Error where
  | markNotFound (mark : MissingMark)
  /-- No scope of the type touches the input. -/
  | noContainingScope (scopeType : ScopeType)
  /-- More scopes meet the input than were asked for. -/
  | tooFewScopes (requested available : Nat) (scopeType : ScopeType)
  /-- An index points outside the scopes there are. -/
  | outOfRange
  /-- The language has no definitions, or the editor no syntax tree. -/
  | unsupportedLanguage (language : String)
  /-- The language has no definition for the scope type. -/
  | unsupportedScopeType (language : String) (scopeType : ScopeType)
  /-- Nothing sets the target apart on that side. -/
  | noDelimiter (direction : Direction)
  | invalidRange (fault : RangeFault)
  | invalidCommand (fault : CommandFault)
  | unsupportedCommandVersion (version : Nat)
  | unknownEditor (editor : EditorId)
  | noActiveEditor
  | editFailed (error : EditError)
  | config (error : ConfigError)
  /-- A part of a list was asked for that the list does not have. This is no refusal: what asked for it breaks down. -/
  | noSuchPart (start stop : Nat)
  deriving Repr

/-- Whether something broke down rather than being refused. No choice between alternatives makes up for that. -/
def Error.isBreakdown : Error → Bool
  | noSuchPart _ _ => true
  | _ => false

/-- The wording of a configuration error; a malformed text has none of its own. -/
def ConfigError.message : ConfigError → String
  | malformed => ""
  | invalidPattern scope pattern => "invalid node pattern `" ++ pattern ++ "` in scope `" ++ scope ++ "`"

/-- The name of a missing mark. -/
def MissingMark.message : MissingMark → String
  | that => "that mark"
  | source => "source mark"
  | hat key => "hat " ++ key.render

/-- The name of an end of a range. -/
def RangeEnd.render : RangeEnd → String
  | anchor => "anchor"
  | active => "active"

/-- The wording of a fault in a range. -/
def RangeFault.message : RangeFault → String
  | acrossEditors anchor active => "range spans " ++ anchor.render ++ " and " ++ active.render
  | unequalCounts anchors actives => s!"{anchors} anchor target(s) but {actives} active target(s)"
  | notSingle rangeEnd found => s!"expected one {rangeEnd.render} target, found {found}"

/-- The wording of a fault in a command; a malformed payload has none of its own. -/
def CommandFault.message : CommandFault → String
  | malformed => ""
  | missingVersion => "missing command version"
  | notAPair scopeType => scopeType.render ++ " is not a surrounding pair scope"
  | unknownDelimiter name => "unknown delimiter `" ++ name ++ "`"
  | invalidPattern regex => "invalid regex `" ++ regex ++ "`"
  | noAlternatives => "cascading modifier has no alternatives"
  | wrongTargetLists action found =>
    action.describe ++ s!" takes {action.targetCount} target list(s), got {found}"
  | nothingToBring => "nothing to bring"
  | cannotPair sources destinations => s!"cannot pair {sources} source(s) with {destinations} destination(s)"
  | wrongTextCount texts targets => s!"{texts} replacement text(s) for {targets} target(s)"
  | numbersOverflow start => s!"numbers from {start} overflow"

/-- The wording of an error. -/
def Error.message : Error → String
  | markNotFound mark => "mark not found: " ++ mark.message
  | noContainingScope scopeType => "couldn't find containing " ++ scopeType.render
  | tooFewScopes requested available scopeType =>
    s!"requested {requested} {scopeType.render} scope(s) but {available} already intersect the target"
  | outOfRange => "scope index out of range"
  | unsupportedLanguage language => "unsupported language: " ++ language
  | unsupportedScopeType language scopeType =>
    "scope type " ++ scopeType.render ++ " is not supported for language " ++ language
  | noDelimiter .forward => "target has no trailing delimiter"
  | noDelimiter .backward => "target has no leading delimiter"
  | invalidRange fault => "invalid range: " ++ fault.message
  | invalidCommand fault => "invalid command: " ++ fault.message
  | unsupportedCommandVersion version => s!"unsupported command version {version}"
  | unknownEditor editor => "unknown editor " ++ editor.render
  | noActiveEditor => "no active editor"
  | editFailed error => "edit failed: " ++ error.message
  | config error => error.message
  | noSuchPart start stop => s!"slice index starts at {start} but ends at {stop}"

end StructuralEditing
