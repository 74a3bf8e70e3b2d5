import StructuralEditing.Proofs.Document.Reading

/-!
# Paragraphs of lines

Blank lines keep the others apart: what stands together between them are the paragraphs (`paragraphsBy`). So the paragraphs of lines
up to a blank one, and of those behind it, are found separately (`paragraphsBy_append_cons`); and a paragraph stands between two
parts of the lines, of which the first does not end with text and the second does not begin with text (`exists_frames`).
-/

namespace StructuralEditing

section Blank

variable {α β : Type} {blank : α → Bool} {ls front rest group : List α} {groups groups' : List (List α)} {a : α}

/-- The lines that stand together without a blank one between them. -/
def paragraphsBy (blank : α → Bool) (ls : List α) : List (List α) := (ls.splitOnP blank).filter fun group => !group.isEmpty

@[simp]
theorem paragraphsBy_nil : paragraphsBy blank [] = [] := by
  rw [paragraphsBy, List.splitOnP_nil]
  rfl

/-- A blank line keeps the lines before it apart from those behind it. -/
theorem paragraphsBy_append_cons (ha : blank a = true) :
    paragraphsBy blank (front ++ a :: rest) = paragraphsBy blank front ++ paragraphsBy blank rest := by
  rw [paragraphsBy, List.splitOnP_append_cons _ _ ha, List.filter_append]
  rfl

/-- Lines without a blank one are one paragraph. -/
theorem paragraphsBy_of_forall_eq_false (hne : ls ≠ []) (h : ∀ a ∈ ls, blank a = false) : paragraphsBy blank ls = [ls] := by
  rw [paragraphsBy, List.splitOnP_eq_singleton h, List.filter_singleton, List.isEmpty_eq_false_iff.2 hne]
  rfl

theorem paragraphsBy_cons (ha : blank a = true) : paragraphsBy blank (a :: rest) = paragraphsBy blank rest := by
  rw [← List.nil_append (a :: rest), paragraphsBy_append_cons ha, paragraphsBy_nil, List.nil_append]

/-- Blank lines in front of others change no paragraph. -/
theorem paragraphsBy_append_of_forall (h : ∀ a ∈ front, blank a = true) :
    paragraphsBy blank (front ++ rest) = paragraphsBy blank rest := by
  induction front with
  | nil => rfl
  | cons a front ih =>
    obtain ⟨ha, h⟩ := List.forall_mem_cons.1 h
    rw [List.cons_append, paragraphsBy_cons ha, ih h]

theorem paragraphsBy_eq_nil (h : ∀ a ∈ ls, blank a = true) : paragraphsBy blank ls = [] := by
  rw [← List.append_nil ls, paragraphsBy_append_of_forall h, paragraphsBy_nil]

/-- No paragraph goes on behind lines that end with a blank one. -/
theorem paragraphsBy_append_of_getLast? (h : ∀ a ∈ front.getLast?, blank a = true) :
    paragraphsBy blank (front ++ rest) = paragraphsBy blank front ++ paragraphsBy blank rest := by
  rcases front.eq_nil_or_concat with rfl | ⟨front, a, rfl⟩
  · rw [paragraphsBy_nil]
    rfl
  · rw [List.concat_eq_append] at h ⊢
    have ha : blank a = true := h a List.getLast?_concat
    rw [List.append_assoc, List.singleton_append, paragraphsBy_append_cons ha, paragraphsBy_append_cons ha,
      paragraphsBy_nil, List.append_nil]

/-- No paragraph goes on into lines that begin with a blank one. -/
theorem paragraphsBy_append_of_head? (h : ∀ a ∈ rest.head?, blank a = true) :
    paragraphsBy blank (front ++ rest) = paragraphsBy blank front ++ paragraphsBy blank rest := by
  cases rest with
  | nil => rw [paragraphsBy_nil, List.append_nil, List.append_nil]
  | cons a rest =>
    have ha : blank a = true := h a rfl
    rw [paragraphsBy_append_cons ha, paragraphsBy_cons ha]

/-- Lines that are read off others have the paragraphs of those. -/
theorem paragraphsBy_map (f : β → α) (ls : List β) :
    paragraphsBy blank (ls.map f) = (paragraphsBy (fun b => blank (f b)) ls).map (List.map f) := by
  have hsplit : (ls.map f).splitOnP blank = (ls.splitOnP fun b => blank (f b)).map (List.map f) := by
    induction ls with
    | nil => simp [List.splitOnP_nil]
    | cons b ls ih =>
      rw [List.map_cons, List.splitOnP_cons_eq_if_modifyHead, List.splitOnP_cons_eq_if_modifyHead, ih]
      split
      · rfl
      · cases ls.splitOnP fun b => blank (f b) <;> rfl
  rw [paragraphsBy, paragraphsBy, hsplit, List.filter_map]
  congr 2
  funext group
  cases group <;> rfl

/-- Lines begin with blank ones, or with none, and go on with the first paragraph. -/
theorem exists_of_paragraphsBy_eq_cons (h : paragraphsBy blank ls = group :: groups) :
    ∃ before behind, ls = before ++ (group ++ behind) ∧ (∀ a ∈ before, blank a = true) ∧ group ≠ [] ∧
      (∀ a ∈ group, blank a = false) ∧ (∀ a ∈ behind.head?, blank a = true) ∧ paragraphsBy blank behind = groups := by
  have hsplit : ls.takeWhile blank ++ ls.dropWhile blank = ls := List.takeWhile_append_dropWhile
  have hbefore : ∀ a ∈ ls.takeWhile blank, blank a = true := fun a ha => List.mem_takeWhile_imp ha
  rw [← hsplit, paragraphsBy_append_of_forall hbefore] at h
  cases htail : ls.dropWhile blank with
  | nil =>
    rw [htail, paragraphsBy_nil] at h
    cases h
  | cons a tail =>
    have ha : blank a = false := by
      have hhead := List.head?_dropWhile_not blank ls
      rwa [htail] at hhead
    have hparts : (a :: tail).takeWhile (fun a => !blank a) ++ (a :: tail).dropWhile (fun a => !blank a) = a :: tail :=
      List.takeWhile_append_dropWhile
    have hne : (a :: tail).takeWhile (fun a => !blank a) ≠ [] := by
      rw [List.takeWhile_cons_of_pos (by rw [ha]; rfl)]
      exact List.cons_ne_nil _ _
    have hgroup : ∀ b ∈ (a :: tail).takeWhile (fun a => !blank a), blank b = false := by
      intro b hb
      have hkept := List.mem_takeWhile_imp hb
      rwa [Bool.not_eq_true'] at hkept
    have hbehind : ∀ b ∈ ((a :: tail).dropWhile fun a => !blank a).head?, blank b = true := by
      intro b hb
      have hhead := List.head?_dropWhile_not (fun a => !blank a) (a :: tail)
      rw [Option.mem_def.1 hb] at hhead
      have hleft : (!blank b) = false := hhead
      rwa [Bool.not_eq_false'] at hleft
    rw [htail, ← hparts, paragraphsBy_append_of_head? hbehind, paragraphsBy_of_forall_eq_false hne hgroup] at h
    obtain ⟨rfl, rfl⟩ := List.cons.inj h
    exact ⟨_, _, by rw [hparts, ← htail, hsplit], hbefore, hne, hgroup, hbehind, rfl⟩

/-- Lines with text stand behind a blank line or at the beginning, and in front of a blank line or at the end. -/
structure Frames (blank : α → Bool) (before group behind : List α) : Prop where
  closed : ∀ a ∈ before.getLast?, blank a = true
  ne_nil : group ≠ []
  text : ∀ a ∈ group, blank a = false
  opened : ∀ a ∈ behind.head?, blank a = true

/-- A paragraph stands between the lines of the earlier ones and those of the later ones. -/
theorem exists_frames (h : paragraphsBy blank ls = groups ++ group :: groups') :
    ∃ before behind, ls = before ++ (group ++ behind) ∧ Frames blank before group behind ∧
      paragraphsBy blank before = groups ∧ paragraphsBy blank behind = groups' := by
  induction groups generalizing ls with
  | nil =>
    obtain ⟨before, behind, hls, hbefore, hne, hgroup, hbehind, hlater⟩ := exists_of_paragraphsBy_eq_cons h
    refine ⟨before, behind, hls, ⟨fun a ha => hbefore a (List.mem_of_getLast? ha), hne, hgroup, hbehind⟩, ?_, hlater⟩
    exact paragraphsBy_eq_nil hbefore
  | cons first groups ih =>
    obtain ⟨before, behind, hls, hbefore, hne, hfirst, hbehind, hlater⟩ := exists_of_paragraphsBy_eq_cons h
    obtain ⟨before', behind', rfl, hframes, hearlier, hlater'⟩ := ih hlater
    -- the first paragraph and this one are kept apart
    have hne' : before' ≠ [] := by
      rintro rfl
      obtain ⟨a, group, rfl⟩ := List.exists_cons_of_ne_nil hframes.ne_nil
      have ha := hframes.text a List.mem_cons_self
      rw [hbehind a rfl] at ha
      cases ha
    have hopened : ∀ a ∈ before'.head?, blank a = true := by
      rwa [List.head?_append_of_ne_nil _ hne'] at hbehind
    refine ⟨before ++ (first ++ before'), behind', ?_, { hframes with closed := ?_ }, ?_, hlater'⟩
    · rw [hls, List.append_assoc, List.append_assoc]
    · rw [← List.append_assoc, List.getLast?_append_of_ne_nil _ hne']
      exact hframes.closed
    · rw [paragraphsBy_append_of_forall hbefore, paragraphsBy_append_of_head? hopened,
        paragraphsBy_of_forall_eq_false hne hfirst, hearlier]
      rfl

/-- Behind the last blank line, if there is one, stand lines with text. -/
theorem forall_or_exists_last_blank (blank : α → Bool) (ls : List α) : (∀ a ∈ ls, blank a = false) ∨
    ∃ front a rest, ls = front ++ a :: rest ∧ blank a = true ∧ ∀ b ∈ rest, blank b = false := by
  induction ls with
  | nil => exact Or.inl (List.forall_mem_nil _)
  | cons a ls ih =>
    rcases ih with htext | ⟨front, b, rest, rfl, hb, hrest⟩
    · cases ha : blank a with
      | false => exact Or.inl (List.forall_mem_cons.2 ⟨ha, htext⟩)
      | true => exact Or.inr ⟨[], a, ls, rfl, ha, htext⟩
    · exact Or.inr ⟨a :: front, b, rest, rfl, hb, hrest⟩

end Blank

/-! ## What paragraphs say -/

/-- Whether a line holds white space only. -/
def RawLine.isBlank (l : RawLine) : Bool := l.content.isBlank

/-- What lines say, with the breaks between them. -/
def RawLine.joined (ls : List RawLine) : Text := ls.dropLast.flatMap RawLine.full ++ ls.getLast?.elim [] RawLine.content

/-- What the paragraphs of lines say. -/
def paragraphTexts (ls : List RawLine) : List Text := (paragraphsBy RawLine.isBlank ls).map RawLine.joined

section Texts

variable {front rest : List RawLine} {l m : RawLine}

theorem RawLine.joined_append_singleton : RawLine.joined (front ++ [l]) = front.flatMap RawLine.full ++ l.content := by
  rw [joined, List.dropLast_concat, List.getLast?_concat, Option.elim_some]

theorem paragraphTexts_append_of_getLast? (h : ∀ a ∈ front.getLast?, a.isBlank = true) :
    paragraphTexts (front ++ rest) = paragraphTexts front ++ paragraphTexts rest := by
  rw [paragraphTexts, paragraphsBy_append_of_getLast? h, List.map_append]
  rfl

theorem paragraphTexts_append_of_head? (h : ∀ a ∈ rest.head?, a.isBlank = true) :
    paragraphTexts (front ++ rest) = paragraphTexts front ++ paragraphTexts rest := by
  rw [paragraphTexts, paragraphsBy_append_of_head? h, List.map_append]
  rfl

theorem paragraphTexts_eq_nil (h : ∀ a ∈ rest, a.isBlank = true) : paragraphTexts rest = [] := by
  rw [paragraphTexts, paragraphsBy_eq_nil h]
  rfl

theorem paragraphTexts_append_of_forall (h : ∀ a ∈ front, a.isBlank = true) :
    paragraphTexts (front ++ rest) = paragraphTexts rest := by
  rw [paragraphTexts, paragraphsBy_append_of_forall h]
  rfl

theorem paragraphTexts_append_blank (h : ∀ a ∈ rest, a.isBlank = true) :
    paragraphTexts (front ++ rest) = paragraphTexts front := by
  rw [paragraphTexts_append_of_head? fun a ha => h a (List.mem_of_head? ha), paragraphTexts_eq_nil h, List.append_nil]

/-- The break behind the last line is no part of what paragraphs say. -/
theorem paragraphTexts_append_singleton (h : l.content = m.content) :
    paragraphTexts (front ++ [l]) = paragraphTexts (front ++ [m]) := by
  have hblank : l.isBlank = m.isBlank := congrArg Text.isBlank h
  cases hm : m.isBlank with
  | true =>
    rw [hm] at hblank
    rw [paragraphTexts_append_blank (List.forall_mem_singleton.2 hblank),
      paragraphTexts_append_blank (List.forall_mem_singleton.2 hm)]
  | false =>
    rw [hm] at hblank
    have hlast {rest : List RawLine} (hrest : ∀ b ∈ rest, b.isBlank = false) :
        paragraphTexts (rest ++ [l]) = paragraphTexts (rest ++ [m]) := by
      have hrestl := List.forall_mem_append.2 ⟨hrest, List.forall_mem_singleton.2 hblank⟩
      have hrestm := List.forall_mem_append.2 ⟨hrest, List.forall_mem_singleton.2 hm⟩
      rw [paragraphTexts, paragraphTexts, paragraphsBy_of_forall_eq_false (by simp) hrestl,
        paragraphsBy_of_forall_eq_false (by simp) hrestm, List.map_singleton, List.map_singleton,
        RawLine.joined_append_singleton, RawLine.joined_append_singleton, h]
    rcases forall_or_exists_last_blank RawLine.isBlank front with htext | ⟨front, b, rest, rfl, hb, hrest⟩
    · exact hlast htext
    · rw [List.append_assoc, List.append_assoc, List.cons_append, List.cons_append, paragraphTexts,
        paragraphsBy_append_cons hb, List.map_append, paragraphTexts, paragraphsBy_append_cons hb, List.map_append]
      exact congrArg _ (hlast hrest)

end Texts

end StructuralEditing
