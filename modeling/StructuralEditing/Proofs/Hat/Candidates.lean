import StructuralEditing.Hat.Allocation
import StructuralEditing.Proofs.Document.Correspondence
import StructuralEditing.Proofs.Document.Reading
import StructuralEditing.Proofs.Editor.Collection
import StructuralEditing.Proofs.Text.Filled

/-!
# Tokens that wait for a hat

The candidates for hats are the tokens that an editor shows (`Editors.mem_hatCandidates_iff`), each once
(`Editors.nodup_hatCandidates`) and in the order in which they are served (`Editors.pairwise_hatCandidates`). A token that is not
empty lies in a visible range as it was given, though the range is brought into the document first
(`Document.contains_of_contains_validateRange`), and the characters that hats may sit on lie in the token.
-/

namespace StructuralEditing

theorem Document.validateRange_eq (d : Document) (r : Range) : d.validateRange r =
    ⟨d.validatePosition r.start, d.validatePosition r.stop, d.positionAt_mono (d.offsetAt_mono r.start_le_stop)⟩ :=
  Range.between_of_le _

theorem Document.contains_of_contains_validateRange {d : Document} {r : Range} {l : Line} {a b : Nat} (hl : l ∈ d.lines)
    (hlt : a < b) (hb : b ≤ l.units) (h : (d.validateRange r).contains (.onLine l.number a b) = true) :
    r.contains (.onLine l.number a b) = true := by
  rw [Range.contains_iff_le, Range.onLine_of_le _ (Nat.le_of_lt hlt), validateRange_eq] at h
  rw [Range.contains_iff_le, Range.onLine_of_le _ (Nat.le_of_lt hlt)]
  have hstart := d.offsetAt_mono h.1
  have hstop := d.offsetAt_mono h.2
  rw [d.offsetAt_validatePosition, d.offsetAt_mk hl (by omega)] at hstart
  rw [d.offsetAt_validatePosition, d.offsetAt_mk hl hb] at hstop
  -- a column further left or right would have another offset, which the nearest position keeps
  constructor
  · by_contra hnot
    have hnext : (⟨l.number, a + 1⟩ : Position) ≤ r.start := by
      have hbehind := Position.not_le.1 hnot
      rw [Position.lt_def] at hbehind
      rw [Position.le_def]
      dsimp only at *
      omega
    have hoffset := d.offsetAt_mono hnext
    rw [d.offsetAt_mk hl (by omega)] at hoffset
    omega
  · by_contra hnot
    have hprevious : r.stop ≤ ⟨l.number, b - 1⟩ := by
      have hbefore := Position.not_le.1 hnot
      rw [Position.lt_def] at hbefore
      rw [Position.le_def]
      dsimp only at *
      omega
    have hoffset := d.offsetAt_mono hprevious
    rw [d.offsetAt_mk hl (by omega)] at hoffset
    omega

/-! ## In one editor -/

namespace HatCandidate

/-- The token that waits. -/
def place (t : HatCandidate) : EditorId × Range := (t.editor, t.range)

variable {seen candidates : List HatCandidate}

/-- Keeps a candidate unless one over the same range was seen before. -/
def keepFirst (seen : List HatCandidate) (candidate : HatCandidate) : List HatCandidate :=
  if seen.any fun s => s.range = candidate.range then seen else seen ++ [candidate]

theorem mem_foldl_keepFirst {candidate : HatCandidate} (h : candidate ∈ candidates.foldl keepFirst seen) :
    candidate ∈ seen ∨ candidate ∈ candidates := by
  induction candidates generalizing seen with
  | nil => exact Or.inl h
  | cons next candidates ih =>
    rcases ih h with hseen | hrest
    · rw [keepFirst] at hseen
      split at hseen
      · exact Or.inl hseen
      · rcases List.mem_append.1 hseen with hseen | hnext
        · exact Or.inl hseen
        · exact Or.inr (List.mem_cons.2 (Or.inl (List.mem_singleton.1 hnext)))
    · exact Or.inr (List.mem_cons_of_mem _ hrest)

/-- No two candidates are kept over one range. -/
theorem nodup_foldl_keepFirst (h : (seen.map HatCandidate.range).Nodup) :
    ((candidates.foldl keepFirst seen).map HatCandidate.range).Nodup := by
  induction candidates generalizing seen with
  | nil => exact h
  | cons next candidates ih =>
    refine ih ?_
    rw [keepFirst]
    split
    · exact h
    · rename_i hnew
      rw [List.map_append]
      refine h.append (List.nodup_singleton _) ?_
      intro range hseen hnext
      obtain ⟨s, hs, rfl⟩ := List.mem_map.1 hseen
      exact hnew (List.any_eq_true.2 ⟨s, hs, decide_eq_true (List.mem_singleton.1 hnext)⟩)

/-- Over the range of every candidate one is kept. -/
theorem mem_map_foldl_keepFirst {r : Range} (h : r ∈ (seen ++ candidates).map HatCandidate.range) :
    r ∈ (candidates.foldl keepFirst seen).map HatCandidate.range := by
  induction candidates generalizing seen with
  | nil => rwa [List.append_nil] at h
  | cons next candidates ih =>
    refine ih ?_
    rw [keepFirst]
    split
    · rename_i hany
      obtain ⟨s, hs, hsame⟩ := List.any_eq_true.1 hany
      simp only [List.map_append, List.map_cons, List.mem_append, List.mem_cons] at h ⊢
      rcases h with h | rfl | h
      · exact Or.inl h
      · exact Or.inl (List.mem_map.2 ⟨s, hs, of_decide_eq_true hsame⟩)
      · exact Or.inr h
    · rwa [List.append_assoc]

end HatCandidate

namespace Editor

variable {c : Config} {k : Tokenizer} {e : Editor} {elsewhere : Bool} {visible : Range} {candidate : HatCandidate} {l : Line}
  {token : Piece}

/-- A token of a line lies in a visible range, brought into the document, as a whole. -/
structure Shows (e : Editor) (k : Tokenizer) (l : Line) (token : Piece) : Prop where
  mem_lines : l ∈ e.document.lines
  mem_tokens : token ∈ k.tokens l.content
  visible : ∃ visible ∈ e.visibleRanges,
    (e.document.validateRange visible).contains (.onLine l.number token.start token.stop) = true

theorem start_le_stop_of_mem_tokens (h : token ∈ k.tokens l.content) : token.start ≤ token.stop := by
  have hwidth := ((k.along_tokensFrom none 0 true l.content).bounds token h).2.1
  omega

/-- The lines of a visible range are looked through for tokens. -/
theorem mem_lines_shown_iff {n : Nat} :
    n ∈ (List.range ((e.document.validateRange visible).stop.line + 1)).drop (e.document.validateRange visible).start.line ↔
      (e.document.validateRange visible).start.line ≤ n ∧ n ≤ (e.document.validateRange visible).stop.line := by
  rw [List.range_eq_range', List.drop_range', List.mem_range'_1]
  omega

theorem mem_candidatesIn_iff : candidate ∈ e.candidatesIn k elsewhere visible ↔
    ∃ l ∈ e.document.lines, ∃ token ∈ k.tokens l.content,
      (e.document.validateRange visible).contains (.onLine l.number token.start token.stop) = true ∧
        candidate = e.hatCandidate elsewhere l.number token := by
  rw [candidatesIn, List.mem_filter, List.mem_flatMap]
  simp only [mem_lines_shown_iff]
  constructor
  · rintro ⟨⟨n, hn, htokens⟩, hshown⟩
    obtain ⟨token, htoken, rfl⟩ := List.mem_map.1 htokens
    have hvalid : (e.document.validateRange visible).stop.line < e.document.lineCount := by
      rw [Document.validateRange_eq]
      exact Document.line_lt_of_valid (e.document.validatePosition_validatePosition _)
    have hnumber : (e.document.lineAt n).number = n :=
      e.document.number_lineAt (Nat.le_sub_one_of_lt (Nat.lt_of_le_of_lt hn.2 hvalid))
    refine ⟨e.document.lineAt n, e.document.lineAt_mem n, token, htoken, ?_, ?_⟩
    · rw [hnumber]
      exact hshown
    · rw [hnumber]
  · rintro ⟨l, hl, token, htoken, hshown, rfl⟩
    refine ⟨⟨l.number, ?_, ?_⟩, hshown⟩
    · rw [Range.contains_iff_le, Range.onLine_of_le _ (start_le_stop_of_mem_tokens htoken)] at hshown
      simp only [Position.le_def] at hshown
      omega
    · rw [Document.lineAt_number hl]
      exact List.mem_map_of_mem htoken

/-- Two shown tokens over one range are the same candidate. -/
theorem hatCandidate_eq_of_range_eq {m : Line} {other : Piece} (hl : l ∈ e.document.lines) (hm : m ∈ e.document.lines)
    (htoken : token ∈ k.tokens l.content) (hother : other ∈ k.tokens m.content)
    (h : Range.onLine l.number token.start token.stop = .onLine m.number other.start other.stop) :
    e.hatCandidate elsewhere l.number token = e.hatCandidate elsewhere m.number other := by
  rw [Range.onLine_of_le _ (start_le_stop_of_mem_tokens htoken), Range.onLine_of_le _ (start_le_stop_of_mem_tokens hother)] at h
  simp only [Range.mk.injEq, Position.mk.injEq] at h
  obtain ⟨⟨hnumber, hstart⟩, -, hstop⟩ := h
  obtain rfl := Document.eq_of_number_eq hl hm hnumber
  have halong := k.along_tokensFrom none 0 true l.content
  have htext : token.text = other.text := by
    rw [← (halong.sliceUnits_eq htoken).2, ← (halong.sliceUnits_eq hother).2, hstart, hstop]
  have hsame : token = other := by
    cases token
    cases other
    simp_all
  rw [hsame]

theorem mem_hatCandidates_iff : candidate ∈ e.hatCandidates c elsewhere ↔
    ∃ l token, e.Shows (c.tokenizerFor e.document.language) l token ∧ candidate = e.hatCandidate elsewhere l.number token := by
  constructor
  · intro h
    rcases HatCandidate.mem_foldl_keepFirst h with hnone | hmem
    · exact absurd hnone List.not_mem_nil
    · obtain ⟨visible, hvisible, hcandidate⟩ := List.mem_flatMap.1 hmem
      obtain ⟨l, hl, token, htoken, hshown, rfl⟩ := mem_candidatesIn_iff.1 hcandidate
      exact ⟨l, token, ⟨hl, htoken, visible, hvisible, hshown⟩, rfl⟩
  · rintro ⟨l, token, ⟨hl, htoken, visible, hvisible, hshown⟩, rfl⟩
    have hfound : e.hatCandidate elsewhere l.number token ∈ e.visibleRanges.flatMap
        (e.candidatesIn (c.tokenizerFor e.document.language) elsewhere) :=
      List.mem_flatMap.2 ⟨visible, hvisible, mem_candidatesIn_iff.2 ⟨l, hl, token, htoken, hshown, rfl⟩⟩
    have hrange : (e.hatCandidate elsewhere l.number token).range ∈ (e.hatCandidates c elsewhere).map HatCandidate.range :=
      HatCandidate.mem_map_foldl_keepFirst (List.mem_map_of_mem hfound)
    obtain ⟨kept, hkept, hsame⟩ := List.mem_map.1 hrange
    rcases HatCandidate.mem_foldl_keepFirst hkept with hnone | hmem
    · exact absurd hnone List.not_mem_nil
    · obtain ⟨_, -, hcandidate⟩ := List.mem_flatMap.1 hmem
      obtain ⟨m, hm, other, hother, -, rfl⟩ := mem_candidatesIn_iff.1 hcandidate
      rw [hatCandidate_eq_of_range_eq hl hm htoken hother hsame.symm]
      exact hkept

/-- The tokens of an editor are candidates in it. -/
theorem editor_of_mem_hatCandidates (h : candidate ∈ e.hatCandidates c elsewhere) : candidate.editor = e.id := by
  obtain ⟨l, token, -, rfl⟩ := mem_hatCandidates_iff.1 h
  rfl

theorem nodup_hatCandidates : ((e.hatCandidates c elsewhere).map HatCandidate.range).Nodup :=
  HatCandidate.nodup_foldl_keepFirst List.nodup_nil

/-- A character that a hat may sit on lies in its token, which is not empty then. -/
theorem contains_of_mem_spots {n : Nat} {spot : HatSpot} (htoken : token ∈ k.tokens l.content)
    (h : spot ∈ (e.hatCandidate elsewhere n token).spots) :
    token.start < token.stop ∧ (Range.onLine n token.start token.stop).contains spot.range = true := by
  obtain ⟨g, hg, rfl⟩ := List.mem_map.1 h
  have hwidth := ((k.along_tokensFrom none 0 true l.content).bounds token htoken).2.1
  have halong := Text.along_graphemes token.text
  have hfilled := halong.start_lt_stop (Text.areFilled_graphemes token.text) g hg
  have hbound := (halong.bounds g hg).2.2
  refine ⟨by omega, ?_⟩
  rw [Range.contains_iff_le, Range.onLine_of_le n (by omega), Range.onLine_of_le n (by omega), Position.le_def, Position.le_def]
  exact ⟨Or.inr ⟨rfl, Nat.le_add_right _ _⟩, Or.inr ⟨rfl, by dsimp only; omega⟩⟩

end Editor

/-! ## In all editors -/

namespace HatCandidate

variable {a b t : HatCandidate}

theorem before_iff : a.before b = true ↔ a.rank ≤ b.rank := by
  have hblt : Nat.blt = fun m n => decide (m < n) := by
    funext m n
    rw [Bool.eq_iff_iff, Nat.blt_eq, decide_eq_true_iff]
  rw [before, hblt, Bool.not_eq_true', ← Bool.not_eq_true, List.lex_eq_true_iff_lt, not_lt]

theorem before_trans (a b c : HatCandidate) (hab : a.before b = true) (hbc : b.before c = true) : a.before c = true :=
  before_iff.2 (le_trans (before_iff.1 hab) (before_iff.1 hbc))

theorem before_total (a b : HatCandidate) : (a.before b || b.before a) = true := by
  rw [Bool.or_eq_true, before_iff, before_iff]
  exact le_total _ _

end HatCandidate

namespace Editors

variable {c : Config} {es : Editors} {candidate : HatCandidate}

/-- A candidate is a token that one of the editors shows. -/
def Shows (c : Config) (es : Editors) (candidate : HatCandidate) : Prop :=
  ∃ e ∈ es.all, ∃ l token, e.Shows (c.tokenizerFor e.document.language) l token ∧
    candidate = e.hatCandidate (es.active ≠ some e.id) l.number token

theorem mem_hatCandidates_iff : candidate ∈ es.hatCandidates c ↔ es.Shows c candidate := by
  rw [hatCandidates, List.mem_mergeSort, List.mem_flatMap]
  simp only [Editor.mem_hatCandidates_iff]
  rfl

/-- The candidates lie in open editors. -/
theorem has_of_mem_hatCandidates (h : candidate ∈ es.hatCandidates c) : es.has candidate.editor = true := by
  obtain ⟨e, he, l, token, -, rfl⟩ := mem_hatCandidates_iff.1 h
  exact has_of_mem he

/-- The tokens are served in the order of their ranks. -/
theorem pairwise_hatCandidates (c : Config) (es : Editors) : (es.hatCandidates c).Pairwise fun a b => a.before b = true :=
  List.pairwise_mergeSort HatCandidate.before_trans HatCandidate.before_total _

/-- No token is served twice. -/
theorem nodup_hatCandidates (h : es.Ordered) : ((es.hatCandidates c).map HatCandidate.place).Nodup := by
  have hperm := (List.mergeSort_perm (es.all.flatMap fun e => e.hatCandidates c (es.active ≠ some e.id)) HatCandidate.before).map
    HatCandidate.place
  rw [hatCandidates, hperm.nodup_iff, List.map_flatMap, List.nodup_flatMap]
  constructor
  · intro e _
    refine List.Nodup.of_map Prod.snd ?_
    rw [List.map_map]
    exact Editor.nodup_hatCandidates
  · refine (List.pairwise_map.1 h.nodup).imp ?_
    intro e f hne
    rw [Function.onFun, List.disjoint_left]
    intro place he hf
    obtain ⟨t, ht, rfl⟩ := List.mem_map.1 he
    obtain ⟨u, hu, hsame⟩ := List.mem_map.1 hf
    refine hne ?_
    rw [← Editor.editor_of_mem_hatCandidates ht, ← Editor.editor_of_mem_hatCandidates hu]
    exact (congrArg Prod.fst hsame).symm

end Editors

end StructuralEditing
