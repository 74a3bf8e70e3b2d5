import StructuralEditing.Text.Basic
import StructuralEditing.Unicode.Casing

/-!
# Hat keys

A hat is addressed by its style and the character under it. Characters are compared without regard to case, so a capital and
its small letter share their hats.
-/

namespace StructuralEditing

/-- The address of a hat. -/
structure HatKey where
  style : String
  /-- The character under the hat, in small letters. -/
  character : Text
  deriving DecidableEq, Repr

namespace HatKey

/-- The address of the hat of a style over a character. -/
def ofCharacter (style : String) (character : Text) : HatKey := ⟨style, Unicode.toLower character⟩

/-- Whether a key comes before another: by style, then by character. -/
def before (a b : HatKey) : Bool :=
  decide (a.style < b.style ∨ (a.style = b.style ∧ a.character < b.character))

/-- A key is written with a dot between style and character. -/
def render (k : HatKey) : String := k.style ++ "." ++ String.ofList k.character

end HatKey

end StructuralEditing
