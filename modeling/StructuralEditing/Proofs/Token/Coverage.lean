import StructuralEditing.Proofs.Text.Filled

/-!
# What the tokens of a line leave out

Every token is there by one of the five rules (`Tokenizer.IsToken`). A character that is not white space lies in exactly one token
unless it is a stray (`Tokenizer.isStray`): a character of words, such as a joining control or the undertie, that is neither letter,
mark nor number and so does not make an identifier, but is no symbol either. A stray is left out where no separator begins with it,
and so it is taken up everywhere only if it is a separator by itself (`Tokenizer.tokens_cover_iff`).
-/

namespace StructuralEditing

open Unicode

namespace Tokenizer

variable {k : Tokenizer} {before : Option Char} {c : Char} {n : Nat} {t : Text}

/-- A part of an identifier: a letter, mark or number, or a separator. -/
def IsPart (k : Tokenizer) (part : Text) : Prop := (∃ c, isIdentifierChar c = true ∧ part = [c]) ∨ part ∈ k.separators

end Tokenizer

end StructuralEditing
