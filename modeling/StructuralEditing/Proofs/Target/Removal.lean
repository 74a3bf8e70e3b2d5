import StructuralEditing.Proofs.Document.Removal
import StructuralEditing.Target.Surroundings

/-!
# What is removed with a target

A kind that is removed by lines or as a document needs content to match (`Kind.Suits`): what else these lines, or the document,
hold has to be white space. Then a target takes nothing but white space with it (`Target.removesBlank_of_suits`). Kinds that are
removed by themselves do so anyway. What goes with a target whose content lies between places lies between places, too
(`Target.hasRange_removal`).
-/

namespace StructuralEditing

namespace Kind

/-- Content of a kind is all there is in the lines that go with it, or in the document. -/
def Suits (d : Document) (content : Range) : Kind → Prop
  | line | paragraph => d.Pads (d.fullLines content) content
  | document => d.Pads d.range content
  | _ => True

variable {d : Document} {content : Range} {kind : Kind}

/-- What goes with content of a kind pads the content. -/
theorem pads_removal (hr : d.HasRange content) (h : kind.Suits d content) : d.Pads (kind.removal d content) content := by
  cases kind with
  | untyped isExplicit =>
    simp only [removal]
    split
    · exact .refl d content
    · exact Document.pads_tokenRemoval hr
  | raw => exact .refl d content
  | token => exact Document.pads_tokenRemoval hr
  | line => exact Document.pads_lineRemoval hr h
  | paragraph => exact Document.pads_paragraphRemoval hr h
  | document => exact h
  | scope delimiter style =>
    cases style with
    | content => exact .refl d content
    | token => exact Document.pads_tokenRemoval hr
    | smart =>
      simp only [removal, separation]
      by_cases hwhole : d.isWholeLines content = true
      · rw [if_pos hwhole]
        exact Document.pads_lineRemoval hr (Document.fills_of_isWholeLines hwhole).pads_fullLines
      · rw [if_neg hwhole]
        exact Document.pads_tokenRemoval hr
  | surroundingPair interior opening closing => exact Document.pads_tokenRemoval hr
  | interior => exact .refl d content
  | place place delimiter => exact .refl d content

/-- What goes with content of a kind lies between places. -/
theorem hasRange_removal (hr : d.HasRange content) (kind : Kind) : d.HasRange (kind.removal d content) := by
  cases kind with
  | document => exact d.spans_range.hasRange
  | untyped isExplicit =>
    simp only [removal]
    split
    · exact hr
    · exact Document.hasRange_tokenRemoval hr
  | _ =>
    simp only [removal]
    split
    · exact hr
    · exact Document.hasRange_tokenRemoval hr
    · exact Document.hasRange_lineRemoval hr
    · exact Document.hasRange_paragraphRemoval hr

end Kind

namespace Target

/-- What goes with a target is its text, with nothing but white space before and behind it. -/
def RemovesBlank (d : Document) (t : Target) : Prop :=
  ∃ before behind : Text, before.isBlank = true ∧ behind.isBlank = true ∧
    d.textIn (t.removal d) = before ++ t.text d ++ behind

variable {d : Document} {editor : EditorId} {content : Range} {isReversed : Bool} {kind : Kind}

theorem removesBlank_of_suits (hr : d.HasRange content) (h : kind.Suits d content) :
    (single editor content isReversed kind).RemovesBlank d := by
  have hpads := Kind.pads_removal hr h
  rw [RemovesBlank, removal, hpads.union_eq]
  exact hpads.textIn_eq hr

/-- A target that is removed by itself takes nothing with it, wherever its content is. -/
theorem removesBlank_of_removal_eq (h : kind.removal d content = content) :
    (single editor content isReversed kind).RemovesBlank d := by
  have hunion : content.union content = content := Range.ext (min_self _) (max_self _)
  refine ⟨[], [], rfl, rfl, ?_⟩
  rw [removal, h, hunion, List.nil_append, List.append_nil]
  rfl

/-! ## Between places -/

/-- The content of a target lies between places of the document, and so does that of the targets it spans. -/
def HasContent (d : Document) : Target → Prop
  | single _ content _ _ => d.HasRange content
  | span _ content _ first last _ _ => d.HasRange content ∧ first.HasContent d ∧ last.HasContent d

instance decidableHasContent (d : Document) : (t : Target) → Decidable (t.HasContent d)
  | single _ content _ _ => inferInstanceAs (Decidable (d.HasRange content))
  | span _ content _ first last _ _ =>
    have := decidableHasContent d first
    have := decidableHasContent d last
    inferInstanceAs (Decidable (d.HasRange content ∧ first.HasContent d ∧ last.HasContent d))

/-- What goes with a target takes in its content. -/
theorem contains_removal (d : Document) (t : Target) :
    (t.removal d).start ≤ t.content.start ∧ t.content.stop ≤ (t.removal d).stop := by
  cases t with
  | single editor content isReversed kind => exact ⟨min_le_right _ _, le_max_right _ _⟩
  | span editor content isReversed first last excludeFirst excludeLast => exact ⟨min_le_right _ _, le_max_right _ _⟩

/-- What goes with a target lies between places. -/
theorem hasRange_removal {t : Target} (h : t.HasContent d) : d.HasRange (t.removal d) := by
  induction t with
  | single editor content isReversed kind => exact (Kind.hasRange_removal h kind).union h
  | span editor content isReversed first last excludeFirst excludeLast ihFirst ihLast =>
    obtain ⟨hcontent, hfirst, hlast⟩ := h
    refine (Document.hasRange_between ?_ ?_).union hcontent
    · cases excludeFirst with
      | false => exact (ihFirst hfirst).start
      | true => exact hcontent.start
    · cases excludeLast with
      | false => exact (ihLast hlast).stop
      | true => exact hcontent.stop

end Target

end StructuralEditing
