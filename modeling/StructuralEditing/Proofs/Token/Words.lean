import StructuralEditing.Proofs.Text.Filled

/-!
# How a text is divided into words

A text is cut at the separators that are found from left to right, of several at one place the shortest (`Tokenizer.Divides`).
What lies between them holds no separator and is divided where the case of its letters changes (`LetterCase.Changes`). Words and
separators together leave nothing of the text out (`Tokenizer.words_and_separators_tile`).
-/

namespace StructuralEditing

namespace LetterCase

/-- Where the case changes: between a small letter and a capital, before the last capital if a small letter follows, and between
a digit and anything else. -/
inductive Changes : LetterCase → LetterCase → Option LetterCase → Prop
  | hump {next : Option LetterCase} : Changes lower upper next
  | acronym : Changes upper upper (some lower)
  | afterDigit {right : LetterCase} {next : Option LetterCase} (h : right ≠ digit) : Changes digit right next
  | beforeDigit {left : LetterCase} {next : Option LetterCase} (h : left ≠ digit) : Changes left digit next

/-- A word ends where the case changes. -/
theorem breaks_iff {left right : LetterCase} {next : Option LetterCase} :
    left.breaks right next = true ↔ left.Changes right next := by
  constructor
  · intro h
    match left, right, h with
    | lower, upper, _ => exact .hump
    | upper, upper, h =>
      obtain rfl : next = some lower := by simpa [breaks] using h
      exact .acronym
    | digit, upper, _ | digit, lower, _ | digit, other, _ => exact .afterDigit (by decide)
    | upper, digit, _ | lower, digit, _ | other, digit, _ => exact .beforeDigit (by decide)
  · intro h
    cases h with
    | hump | acronym => rfl
    | @afterDigit right _ h => cases right <;> first | rfl | exact absurd rfl h
    | @beforeDigit left _ h => cases left <;> first | rfl | exact absurd rfl h

end LetterCase

open LetterCase

namespace Piece

/-- The words that a piece without separators is divided into. -/
def caseWords (segment : Piece) : List Piece := layOut segment.start segment.text.caseWords

theorem along_caseWords (segment : Piece) : Along segment.start segment.text segment.caseWords := by
  have halong := along_layOut segment.start segment.text.caseWords
  rwa [Text.flatten_caseWords] at halong

theorem areFilled_caseWords (segment : Piece) : AreFilled segment.caseWords :=
  areFilled_layOut (Text.ne_nil_of_mem_caseWords _)

end Piece

namespace Text

/-! ## Changes of case -/

/-- The first character of a text is a word of its own if the case changes behind it, and else joins the first word of the
rest. -/
theorem caseWords_cons_cons (a b : Char) (t : Text) :
    caseWords (a :: b :: t) =
      if (ofChar a).breaks (ofChar b) (t.head?.map ofChar) then [a] :: caseWords (b :: t)
      else (caseWords (b :: t)).modifyHead (a :: ·) := by
  rw [caseWords, wordTail]
  split
  · rfl
  · rw [caseWords]
    rfl

/-- The words of a text end where the words of all but its first character do, and behind that character if the case changes
there. -/
theorem map_stop_caseWords (column : Nat) (a b : Char) (t : Text) :
    (Piece.layOut column (caseWords (a :: b :: t))).map Piece.stop =
      if (ofChar a).breaks (ofChar b) (t.head?.map ofChar) then
        (column + unitWidth a) :: (Piece.layOut (column + unitWidth a) (caseWords (b :: t))).map Piece.stop
      else (Piece.layOut (column + unitWidth a) (caseWords (b :: t))).map Piece.stop := by
  rw [caseWords_cons_cons]
  split
  · rfl
  · rw [caseWords, List.modifyHead_cons]
    simp only [Piece.layOut, List.map_cons, units_cons, ← Nat.add_assoc]

/-- Words end behind where they begin to be counted. -/
theorem lt_of_mem_stops {column x : Nat} {t : Text} (h : x ∈ (Piece.layOut column t.caseWords).map Piece.stop) : column < x := by
  obtain ⟨word, hword, rfl⟩ := List.mem_map.1 h
  have hstart := ((Piece.along_layOut column t.caseWords).bounds word hword).1
  have hstop := (Piece.along_layOut column t.caseWords).start_lt_stop (Piece.areFilled_layOut t.ne_nil_of_mem_caseWords) word hword
  omega

/-- A word ends between two characters just when the case changes there. -/
theorem mem_stops_caseWords_iff (column : Nat) (before behind : Text) (a b : Char) :
    column + units before + unitWidth a ∈ (Piece.layOut column (caseWords (before ++ a :: b :: behind))).map Piece.stop ↔
      (ofChar a).Changes (ofChar b) (behind.head?.map ofChar) := by
  induction before generalizing column with
  | nil =>
    rw [List.nil_append, map_stop_caseWords, units_nil, Nat.add_zero, ← breaks_iff]
    split
    · rename_i hbreaks
      exact iff_of_true (List.mem_cons_self ..) hbreaks
    · rename_i hbreaks
      exact iff_of_false (fun hmem => absurd (lt_of_mem_stops hmem) (Nat.lt_irrefl _)) hbreaks
  | cons c before ih =>
    obtain ⟨d, rest, hrest⟩ : ∃ d rest, before ++ a :: b :: behind = d :: rest := List.exists_cons_of_ne_nil (by simp)
    have hbehind : column + unitWidth c ≠ column + unitWidth c + units before + unitWidth a := by
      have := unitWidth_pos a
      omega
    rw [List.cons_append, hrest, map_stop_caseWords, units_cons, ← Nat.add_assoc, ← ih, hrest]
    split
    · rw [List.mem_cons]
      exact ⟨fun h => h.resolve_left hbehind.symm, Or.inr⟩
    · exact Iff.rfl

/-- A word begins between two characters just when the case changes there. -/
theorem mem_starts_caseWords_iff (column : Nat) (before behind : Text) (a b : Char) :
    column + units before + unitWidth a ∈ (Piece.layOut column (caseWords (before ++ a :: b :: behind))).map Piece.start ↔
      (ofChar a).Changes (ofChar b) (behind.head?.map ofChar) := by
  have hends := Piece.map_start_layOut column (caseWords (before ++ a :: b :: behind))
  rw [flatten_caseWords] at hends
  have hmem := congrArg (column + units before + unitWidth a ∈ ·) hends
  have ha := unitWidth_pos a
  have hb := unitWidth_pos b
  simp only [List.mem_append, List.mem_cons, List.not_mem_nil, or_false, units_append, units_cons, eq_iff_iff] at hmem
  rw [← mem_stops_caseWords_iff column before behind a b]
  refine ⟨fun h => ?_, fun h => ?_⟩
  · exact (hmem.1 (Or.inl h)).resolve_left (by omega)
  · exact (hmem.2 (Or.inr h)).resolve_right (by omega)

end Text

namespace Tokenizer

variable {k : Tokenizer} {column : Nat} {s rest segment t : Text} {segments separators : List Piece}

/-! ## Separators -/

/-- What counts as a separator. -/
def IsSeparator (k : Tokenizer) (s : Text) : Prop := s ∈ k.separators ∧ s ≠ []

/-- A text that holds no separator. -/
def IsFree (k : Tokenizer) (t : Text) : Prop := ∀ s, k.IsSeparator s → ¬s <:+: t

/-- Of the separators in a text, `s` behind `segment` is the leftmost, and the shortest of those that begin there. -/
structure TakesFirst (k : Tokenizer) (segment s rest : Text) : Prop where
  isSeparator : k.IsSeparator s
  leftmost : ∀ before r behind, k.IsSeparator r → segment ++ (s ++ rest) = before ++ (r ++ behind) →
    segment.length ≤ before.length
  shortest : ∀ r, k.IsSeparator r → r <+: s ++ rest → s.length ≤ r.length

theorem mem_candidates_iff : s ∈ (k.separators.filter fun s => !s.isEmpty && s.isPrefixOf t) ↔ k.IsSeparator s ∧ s <+: t := by
  simp [IsSeparator, and_assoc]

/-- No separator is found where a text begins with none. -/
theorem separator?_eq_none_iff : k.separator? t = none ↔ ∀ s, k.IsSeparator s → ¬s <+: t := by
  rw [separator?_eq_argmin, List.argmin_eq_none, List.eq_nil_iff_forall_not_mem]
  simp only [mem_candidates_iff, not_and]

/-- What is found at the beginning of a text comes first in it. -/
theorem takesFirst_nil (h : k.separator? (s ++ rest) = some s) : k.TakesFirst [] s rest := by
  rw [separator?_eq_argmin] at h
  refine ⟨(mem_candidates_iff.1 (List.argmin_mem h)).1, fun _ _ _ _ _ => Nat.zero_le _, fun r hr hprefix => ?_⟩
  exact List.le_of_mem_argmin (mem_candidates_iff.2 ⟨hr, hprefix⟩) h

/-- What comes first in a text still does if a character at which no separator begins is put before it. -/
theorem TakesFirst.cons {c : Char} (h : k.TakesFirst segment s rest) (hc : k.separator? (c :: (segment ++ (s ++ rest))) = none) :
    k.TakesFirst (c :: segment) s rest := by
  refine ⟨h.isSeparator, fun before r behind hr heq => ?_, h.shortest⟩
  cases before with
  | nil => exact absurd ⟨behind, heq.symm⟩ (separator?_eq_none_iff.1 hc r hr)
  | cons d before => exact Nat.succ_le_succ (h.leftmost before r behind hr (List.cons.inj heq).2)

/-- What lies before the first separator holds none. -/
theorem TakesFirst.isFree (h : k.TakesFirst segment s rest) : k.IsFree segment := by
  rintro r hr ⟨before, behind, rfl⟩
  have hle := h.leftmost before r (behind ++ (s ++ rest)) hr (by simp)
  have hpos := List.length_pos_iff.2 hr.2
  simp only [List.length_append] at hle
  omega

/-- A part of a text without separators holds none either. -/
theorem IsFree.mono (h : k.IsFree t) (hs : s <:+: t) : k.IsFree s := fun r hr hwithin => h r hr (hwithin.trans hs)

/-- A text is cut at its first separator, or nowhere if it holds none. -/
theorem cut_spec (k : Tokenizer) (t : Text) :
    (k.cut t = (t, none) ∧ k.IsFree t) ∨
      ∃ segment s rest, k.cut t = (segment, some (s, rest)) ∧ t = segment ++ (s ++ rest) ∧ k.TakesFirst segment s rest := by
  induction t with
  | nil => exact Or.inl ⟨rfl, fun s hs hwithin => hs.2 (List.infix_nil.1 hwithin)⟩
  | cons c t ih =>
    rw [cut]
    split
    · rename_i s hs
      obtain ⟨hne, rest, hrest⟩ := k.separator?_eq_some hs
      obtain ⟨d, s, rfl⟩ := List.exists_cons_of_ne_nil hne
      obtain ⟨rfl, rfl⟩ : d = c ∧ s ++ rest = t := by simpa using hrest
      exact Or.inr ⟨[], d :: s, rest, by simp, rfl, takesFirst_nil hs⟩
    · rename_i hnone
      rcases ih with ⟨hcut, hfree⟩ | ⟨segment, s, rest, hcut, rfl, hfirst⟩
      · refine Or.inl ⟨by rw [hcut], fun s hs hwithin => ?_⟩
        rcases List.infix_cons_iff.1 hwithin with hprefix | hwithin
        · exact separator?_eq_none_iff.1 hnone s hs hprefix
        · exact hfree s hs hwithin
      · exact Or.inr ⟨c :: segment, s, rest, by rw [hcut], rfl, hfirst.cons hnone⟩

/-! ## Division -/

/-- A text that begins at a column is divided into segments by the separators between them, each the first in what is left. -/
inductive Divides (k : Tokenizer) : Nat → Text → List Piece → List Piece → Prop
  | whole {column : Nat} {t : Text} (h : k.IsFree t) : Divides k column t [⟨column, column + t.units, t⟩] []
  | cut {column : Nat} {segment s rest : Text} {segments separators : List Piece} (hfirst : k.TakesFirst segment s rest)
      (hrest : Divides k (column + segment.units + s.units) rest segments separators) :
      Divides k column (segment ++ (s ++ rest)) (⟨column, column + segment.units, segment⟩ :: segments)
        (⟨column + segment.units, column + segment.units + s.units, s⟩ :: separators)

/-- The words of a text are those of the segments that it is divided into. -/
theorem exists_divides (k : Tokenizer) (column : Nat) (t : Text) : ∃ segments separators,
    k.Divides column t segments separators ∧ k.wordsFrom column t = segments.flatMap Piece.caseWords := by
  induction column, t using wordsFrom.induct k with
  | case1 column t segment s rest hcut ih =>
    obtain ⟨segments, separators, hdivides, hwords⟩ := ih
    rcases k.cut_spec t with ⟨hwhole, -⟩ | ⟨segment', s', rest', hcut', rfl, hfirst⟩
    · rw [hwhole] at hcut
      cases hcut
    · simp only [segment, hcut'] at hcut hdivides hwords
      cases hcut
      refine ⟨_, _, .cut hfirst hdivides, ?_⟩
      rw [wordsFrom, hcut', List.flatMap_cons, ← hwords]
      rfl
  | case2 column t hcut =>
    rcases k.cut_spec t with ⟨hwhole, hfree⟩ | ⟨segment, s, rest, hcut', -, -⟩
    · refine ⟨_, _, .whole hfree, ?_⟩
      rw [wordsFrom, hwhole, List.flatMap_singleton]
      rfl
    · rw [hcut'] at hcut
      cases hcut

namespace Divides

/-- The segments stand in the text one behind the other. -/
theorem along_segments (h : k.Divides column t segments separators) : Piece.Along column t segments := by
  induction h with
  | @whole column t h =>
    have hhere := @Piece.Along.cons_here column [] [] t .nil
    rwa [List.append_nil] at hhere
  | cut hfirst hrest ih => exact .cons_here (.skip _ ih)

/-- The separators stand in the text one behind the other. -/
theorem along_separators (h : k.Divides column t segments separators) : Piece.Along column t separators := by
  induction h with
  | whole h => exact .nil
  | cut hfirst hrest ih => exact .cons ih

/-- No segment holds a separator. -/
theorem isFree (h : k.Divides column t segments separators) : ∀ segment ∈ segments, k.IsFree segment.text := by
  induction h with
  | whole h => exact List.forall_mem_singleton.2 h
  | cut hfirst hrest ih => exact List.forall_mem_cons.2 ⟨hfirst.isFree, ih⟩

/-- A character lies in a segment just when it lies in no separator. -/
theorem exists_holds_iff (h : k.Divides column t segments separators) {before behind : Text} {c : Char}
    (ht : t = before ++ c :: behind) :
    (∃ segment ∈ segments, segment.Holds (column + before.units) c) ↔
      ¬∃ separator ∈ separators, separator.Holds (column + before.units) c := by
  induction h generalizing before with
  | @whole column t h =>
    subst ht
    exact iff_of_true ⟨_, List.mem_cons_self .., Piece.holds_append⟩ (by simp)
  | @cut column segment s rest segments separators hfirst hrest ih =>
    have hc := unitWidth_pos c
    have hsegments := hrest.along_segments
    have hseparators := hrest.along_separators
    simp only [List.exists_mem_cons_iff]
    rcases Text.split_cases ht with ⟨left, rfl⟩ | ⟨skipped, rfl, hbehind⟩
    · -- in the segment
      refine iff_of_true (Or.inl Piece.holds_append) ?_
      simp only [Text.units_append, Text.units_cons] at hseparators ⊢
      rintro (⟨hstart, -⟩ | hholds)
      · dsimp only at hstart
        omega
      · exact hseparators.not_holds_of_le (by omega) hholds
    rcases Text.split_cases hbehind with ⟨left, rfl⟩ | ⟨passed, rfl, hleft⟩
    · -- in the separator
      refine iff_of_false ?_ (not_not.2 (Or.inl ?_))
      · simp only [Text.units_append, Text.units_cons] at hsegments ⊢
        rintro (⟨-, hstop⟩ | hholds)
        · dsimp only at hstop
          omega
        · exact hsegments.not_holds_of_le (by omega) hholds
      · rw [Text.units_append segment skipped, ← Nat.add_assoc]
        exact Piece.holds_append
    · -- in the rest
      have hhere := ih hleft
      simp only [Text.units_append, ← Nat.add_assoc] at hhere ⊢
      rwa [or_iff_right fun hholds => ?_, or_iff_right fun hholds => ?_]
      · have hstop := hholds.2
        dsimp only at hstop
        omega
      · have hstop := hholds.2
        dsimp only at hstop
        omega

/-! ## Words of the segments -/

/-- A word lies within the segment that it is a word of. -/
theorem bounds_caseWords (h : k.Divides column t segments separators) {segment word : Piece} (hsegment : segment ∈ segments)
    (hword : word ∈ segment.caseWords) : segment.start ≤ word.start ∧ word.start < word.stop ∧ word.stop ≤ segment.stop := by
  have hstop := (h.along_segments.bounds segment hsegment).2.1
  have hbounds := segment.along_caseWords.bounds word hword
  exact ⟨hbounds.1, segment.along_caseWords.start_lt_stop segment.areFilled_caseWords word hword, hstop ▸ hbounds.2.2⟩

/-- A character lies in a word just when it lies in no separator. -/
theorem exists_word_holds_iff (h : k.Divides column t segments separators) {before behind : Text} {c : Char}
    (ht : t = before ++ c :: behind) :
    (∃ word ∈ segments.flatMap Piece.caseWords, word.Holds (column + before.units) c) ↔
      ¬∃ separator ∈ separators, separator.Holds (column + before.units) c := by
  rw [← h.exists_holds_iff ht]
  constructor
  · rintro ⟨word, hword, hstart, hstop⟩
    obtain ⟨segment, hsegment, hword⟩ := List.mem_flatMap.1 hword
    obtain ⟨hfirst, -, hlast⟩ := h.bounds_caseWords hsegment hword
    exact ⟨segment, hsegment, hfirst.trans hstart, hstop.trans hlast⟩
  · rintro ⟨segment, hsegment, hholds⟩
    obtain ⟨skipped, left, htext, hcolumn⟩ := h.along_segments.text_eq_of_holds hsegment ht hholds
    obtain ⟨word, hword, hholds⟩ :=
      Piece.exists_holds_layOut segment.start (segment.text.flatten_caseWords.trans htext)
    exact ⟨word, List.mem_flatMap.2 ⟨segment, hsegment, hword⟩, hcolumn ▸ hholds⟩

/-- What a word of a text does within a segment, beginning or ending there, a word of the segment does. -/
theorem mem_map_caseWords_iff (h : k.Divides column t segments separators) {segment : Piece} (hsegment : segment ∈ segments)
    {f : Piece → Nat} (hf : ∀ word : Piece, word.start < word.stop → word.start ≤ f word ∧ f word ≤ word.stop) {x : Nat}
    (hstart : segment.start < x) (hstop : x < segment.stop) :
    x ∈ (segments.flatMap Piece.caseWords).map f ↔ x ∈ segment.caseWords.map f := by
  constructor
  · intro hx
    obtain ⟨word, hword, rfl⟩ := List.mem_map.1 hx
    obtain ⟨other, hother, hword⟩ := List.mem_flatMap.1 hword
    obtain ⟨hfirst, hlt, hlast⟩ := h.bounds_caseWords hother hword
    obtain ⟨hle, hge⟩ := hf word hlt
    by_cases hsame : other = segment
    · exact List.mem_map_of_mem (hsame ▸ hword)
    · rcases Piece.apart_of_pairwise h.along_segments.pairwise hother hsegment hsame with hapart | hapart <;> omega
  · exact fun hx => List.map_subset f (fun word hword => List.mem_flatMap.2 ⟨segment, hsegment, hword⟩) hx

/-- Between two characters of a segment a word ends just when the case changes there, and just then another begins. -/
theorem boundary_iff (h : k.Divides column t segments separators) {segment : Piece} (hsegment : segment ∈ segments)
    {before behind : Text} {a b : Char} (htext : segment.text = before ++ a :: b :: behind) :
    (segment.start + before.units + unitWidth a ∈ (segments.flatMap Piece.caseWords).map Piece.stop ↔
        (ofChar a).Changes (ofChar b) (behind.head?.map ofChar)) ∧
      (segment.start + before.units + unitWidth a ∈ (segments.flatMap Piece.caseWords).map Piece.start ↔
        (ofChar a).Changes (ofChar b) (behind.head?.map ofChar)) := by
  have ha := unitWidth_pos a
  have hb := unitWidth_pos b
  have hsegmentStop := (h.along_segments.bounds segment hsegment).2.1
  rw [htext, Text.units_append, Text.units_cons, Text.units_cons] at hsegmentStop
  rw [h.mem_map_caseWords_iff hsegment (fun _ hlt => ⟨hlt.le, le_rfl⟩) (by omega) (by omega),
    h.mem_map_caseWords_iff hsegment (fun _ hlt => ⟨le_rfl, hlt.le⟩) (by omega) (by omega), Piece.caseWords, htext]
  exact ⟨Text.mem_stops_caseWords_iff .., Text.mem_starts_caseWords_iff ..⟩

end Divides

/-- The separators that come first from left to right divide a text into segments. Its words are not empty, stand in it in
order, and hold no separator; every character lies in a word just when it lies in none of these separators; and within a segment
one word ends and the next begins just where the case changes. -/
theorem words_and_separators_tile (k : Tokenizer) (t : Text) : ∃ segments separators, k.Divides 0 t segments separators ∧
    (∀ word ∈ k.words t, word.start < word.stop ∧ word.stop ≤ t.units ∧ t.sliceUnits word.start word.stop = word.text ∧
      k.IsFree word.text) ∧
    ((k.words t).Pairwise fun a b => a.stop ≤ b.start) ∧
    (∀ (before : Text) c behind, t = before ++ c :: behind →
      ((∃ word ∈ k.words t, word.Holds before.units c) ↔ ¬∃ separator ∈ separators, separator.Holds before.units c)) ∧
    ∀ segment ∈ segments, ∀ (before : Text) a b behind, segment.text = before ++ a :: b :: behind →
      (segment.start + before.units + unitWidth a ∈ (k.words t).map Piece.stop ↔
        (ofChar a).Changes (ofChar b) (behind.head?.map ofChar)) ∧
      (segment.start + before.units + unitWidth a ∈ (k.words t).map Piece.start ↔
        (ofChar a).Changes (ofChar b) (behind.head?.map ofChar)) := by
  obtain ⟨segments, separators, hdivides, hwords⟩ := k.exists_divides 0 t
  have halong := k.along_wordsFrom 0 t
  refine ⟨segments, separators, hdivides, fun word hword => ?_, halong.pairwise, fun before c behind ht => ?_, ?_⟩
  · obtain ⟨hle, hslice⟩ := halong.sliceUnits_eq hword
    refine ⟨halong.start_lt_stop (k.areFilled_wordsFrom 0 t) word hword, hle, hslice, ?_⟩
    rw [words, hwords] at hword
    obtain ⟨segment, hsegment, hword⟩ := List.mem_flatMap.1 hword
    obtain ⟨before, behind, htext, -, -⟩ := segment.along_caseWords.exists_split word hword
    exact (hdivides.isFree segment hsegment).mono ⟨before, behind, by rw [htext, List.append_assoc]⟩
  · have hiff := hdivides.exists_word_holds_iff ht
    rwa [Nat.zero_add, ← hwords] at hiff
  · intro segment hsegment before a b behind htext
    rw [words, hwords]
    exact hdivides.boundary_iff hsegment htext

end Tokenizer

end StructuralEditing
