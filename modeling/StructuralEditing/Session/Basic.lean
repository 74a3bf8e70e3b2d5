import StructuralEditing.Config.Basic
import StructuralEditing.Hat.Map
import StructuralEditing.Mark.Stored

/-!
# Sessions

A session is all that commands deal with: the configuration, the open editors, the hats, the marks that the last command left
behind, and the tracker that keeps hats and marks on their text.
-/

namespace StructuralEditing

/-- All that commands deal with. -/
structure Session where
  config : Config
  editors : Editors
  tracker : Tracker
  hats : Hats
  stored : StoredMarks
  deriving DecidableEq, Repr

namespace Session

/-- A session without editors. -/
def new (config : Config) : Session :=
  { config, editors := .empty, tracker := .empty, hats := .empty, stored := .empty }

/-- What the last command dealt with. -/
def thatMark (s : Session) : List EditorSelection := StoredMarks.selections s.tracker s.stored.that

/-- What the last command took its text from. -/
def sourceMark (s : Session) : List EditorSelection := StoredMarks.selections s.tracker s.stored.source

end Session

end StructuralEditing
