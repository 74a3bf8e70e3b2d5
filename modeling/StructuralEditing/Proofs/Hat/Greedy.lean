import StructuralEditing.Proofs.Hat.Candidates

/-!
# Who gets which hat

Tokens are served one after another. Serving one more token gives it the first of its choices whose address is free, if there is
one (`Editors.serve_cases`). So after a run of tokens no address is given twice, no token has two hats, and what a token passed over
is held by tokens that were served before it (`Editors.Greedy`, `Editors.greedy_foldl_serve`).
-/

namespace StructuralEditing

/-- The token that the hat is on. -/
def HatAssignment.place (a : HatAssignment) : EditorId × Range := (a.editor, a.range)

namespace Editors

variable {styles : List HatStyle} {hats more : List HatAssignment} {tokens earlier : List HatCandidate} {t : HatCandidate}
  {a : HatAssignment} {key : HatKey}

theorem mem_hatChoices_iff : a ∈ hatChoices styles t ↔
    ∃ style ∈ styles, ∃ spot ∈ t.spots, a = ⟨⟨style.name, spot.character⟩, t.editor, t.range, spot.range⟩ := by
  simp only [hatChoices, List.mem_flatMap, List.mem_map, eq_comm]

/-- What a token may take are hats on it. -/
theorem place_of_mem_hatChoices (h : a ∈ hatChoices styles t) : a.place = t.place := by
  obtain ⟨style, -, spot, -, rfl⟩ := mem_hatChoices_iff.1 h
  rfl

/-- The address is held by one of some tokens. -/
def HeldBy (hats : List HatAssignment) (tokens : List HatCandidate) (key : HatKey) : Prop :=
  ∃ a ∈ hats, a.key = key ∧ ∃ t ∈ tokens, a.place = t.place

theorem HeldBy.append (h : HeldBy hats tokens key) (more : List HatAssignment) : HeldBy (hats ++ more) tokens key := by
  obtain ⟨a, ha, hkey, ht⟩ := h
  exact ⟨a, List.mem_append_left _ ha, hkey, ht⟩

/-- What a token gets when others have been served: the first of its choices that they do not hold, or nothing where they hold
them all. -/
inductive Served (styles : List HatStyle) (hats : List HatAssignment) (earlier : List HatCandidate) (t : HatCandidate) : Prop
  | given {a : HatAssignment} {passed left : List HatAssignment} (ha : a ∈ hats)
      (hchoices : hatChoices styles t = passed ++ a :: left)
      (hpassed : ∀ choice ∈ passed, HeldBy hats earlier choice.key) : Served styles hats earlier t
  | bare (hbare : ∀ a ∈ hats, a.place ≠ t.place) (hpassed : ∀ choice ∈ hatChoices styles t, HeldBy hats earlier choice.key) :
      Served styles hats earlier t

/-- Hats given out to tokens in their order: each address once and each token at most one, so that every token has the first
of its choices that no token before it holds. -/
structure Greedy (styles : List HatStyle) (tokens : List HatCandidate) (hats : List HatAssignment) : Prop where
  nodup_keys : (hats.map HatAssignment.key).Nodup
  sublist_places : (hats.map HatAssignment.place).Sublist (tokens.map HatCandidate.place)
  served : ∀ earlier t later, tokens = earlier ++ t :: later → Served styles hats earlier t

theorem Greedy.heldBy (h : Greedy styles tokens hats) (ha : a ∈ hats) : HeldBy hats tokens a.key := by
  obtain ⟨t, ht, hplace⟩ := List.mem_map.1 (h.sublist_places.subset (List.mem_map_of_mem ha))
  exact ⟨a, ha, rfl, t, ht, hplace.symm⟩

/-- Serving one more token: it takes the first of its choices with a free address, or all addresses are taken. -/
theorem serve_cases (styles : List HatStyle) (hats : List HatAssignment) (t : HatCandidate) :
    (serve styles hats t = hats ∧ ∀ choice ∈ hatChoices styles t, ∃ a ∈ hats, a.key = choice.key) ∨
      ∃ a passed left, serve styles hats t = hats ++ [a] ∧ hatChoices styles t = passed ++ a :: left ∧
        (∀ b ∈ hats, b.key ≠ a.key) ∧ ∀ choice ∈ passed, ∃ b ∈ hats, b.key = choice.key := by
  rw [serve]
  split
  · rename_i a hfound
    obtain ⟨hfree, passed, left, hchoices, hpassed⟩ := List.find?_eq_some_iff_append.1 hfound
    refine Or.inr ⟨a, passed, left, rfl, hchoices, by simpa using hfree, ?_⟩
    intro choice hchoice
    simpa using hpassed choice hchoice
  · rename_i hnone
    refine Or.inl ⟨rfl, ?_⟩
    intro choice hchoice
    simpa using List.find?_eq_none.1 hnone choice hchoice

/-- Hats for other tokens take nothing from a token. -/
theorem Served.append (h : Served styles hats earlier t) (hmore : ∀ a ∈ more, a.place ≠ t.place) :
    Served styles (hats ++ more) earlier t := by
  cases h with
  | given ha hchoices hpassed =>
    exact .given (List.mem_append_left _ ha) hchoices fun choice hchoice => (hpassed choice hchoice).append more
  | bare hbare hpassed =>
    refine .bare ?_ fun choice hchoice => (hpassed choice hchoice).append more
    intro a ha
    rcases List.mem_append.1 ha with ha | ha
    · exact hbare a ha
    · exact hmore a ha

/-- A token of a list with one more at its end is that one, or stands in the list. -/
theorem split_concat {later : List HatCandidate} {u : HatCandidate} (h : tokens ++ [t] = earlier ++ u :: later) :
    (tokens = earlier ∧ t = u) ∨ ∃ rest, tokens = earlier ++ u :: rest := by
  rcases List.eq_nil_or_concat later with rfl | ⟨rest, v, rfl⟩
  · obtain ⟨hfirst, hlast⟩ := List.append_inj' h rfl
    exact Or.inl ⟨hfirst, List.singleton_inj.1 hlast⟩
  · rw [List.concat_eq_append, ← List.cons_append, ← List.append_assoc] at h
    exact Or.inr ⟨rest, (List.append_inj' h rfl).1⟩

/-- A hat that is given out was given out before, or is a choice of the tokens that are served. -/
theorem exists_choice_of_mem_foldl_serve (h : a ∈ tokens.foldl (serve styles) hats) :
    a ∈ hats ∨ ∃ t ∈ tokens, a ∈ hatChoices styles t := by
  induction tokens generalizing hats with
  | nil => exact Or.inl h
  | cons t tokens ih =>
    rcases ih h with hserved | ⟨u, hu, hchoice⟩
    · rcases serve_cases styles hats t with ⟨hserve, -⟩ | ⟨b, passed, left, hserve, hchoices, -, -⟩
      · exact Or.inl (hserve ▸ hserved)
      · rw [hserve, List.mem_append, List.mem_singleton] at hserved
        refine hserved.imp_right ?_
        rintro rfl
        exact ⟨t, List.mem_cons_self, hchoices ▸ List.mem_append_right _ List.mem_cons_self⟩
    · exact Or.inr ⟨u, List.mem_cons_of_mem _ hu, hchoice⟩

namespace Greedy

protected theorem nil : Greedy styles [] [] :=
  ⟨List.nodup_nil, .refl _, fun _ _ _ hsplit => by simp at hsplit⟩

/-- One more token is served, and gets hats that are on it only. -/
theorem served_concat (h : Greedy styles tokens hats) (hnew : t.place ∉ tokens.map HatCandidate.place)
    (hmore : ∀ a ∈ more, a.place = t.place) (hlast : Served styles (hats ++ more) tokens t) :
    ∀ earlier u later, tokens ++ [t] = earlier ++ u :: later → Served styles (hats ++ more) earlier u := by
  intro earlier u later hsplit
  rcases split_concat hsplit with ⟨rfl, rfl⟩ | ⟨rest, hrest⟩
  · exact hlast
  · refine (h.served earlier u rest hrest).append ?_
    intro a ha hplace
    refine hnew (List.mem_map.2 ⟨u, ?_, hplace.symm.trans (hmore a ha)⟩)
    rw [hrest]
    exact List.mem_append_right _ List.mem_cons_self

/-- A token that finds no address free stays bare. -/
theorem concat_bare (h : Greedy styles tokens hats) (hnew : t.place ∉ tokens.map HatCandidate.place)
    (htaken : ∀ choice ∈ hatChoices styles t, ∃ a ∈ hats, a.key = choice.key) : Greedy styles (tokens ++ [t]) hats := by
  have hlast : Served styles hats tokens t := by
    refine .bare ?_ ?_
    · intro a ha hplace
      exact hnew (hplace ▸ h.sublist_places.subset (List.mem_map_of_mem ha))
    · intro choice hchoice
      obtain ⟨a, ha, hkey⟩ := htaken choice hchoice
      exact hkey ▸ h.heldBy ha
  have hserved := h.served_concat hnew (fun a ha => absurd ha List.not_mem_nil) (hats.append_nil.symm ▸ hlast)
  rw [List.append_nil] at hserved
  refine ⟨h.nodup_keys, ?_, hserved⟩
  rw [List.map_append]
  exact h.sublist_places.trans (List.sublist_append_left _ _)

/-- A token takes the first of its choices whose address is free. -/
theorem concat_given {passed left : List HatAssignment} (h : Greedy styles tokens hats)
    (hnew : t.place ∉ tokens.map HatCandidate.place) (hchoices : hatChoices styles t = passed ++ a :: left)
    (hfree : ∀ b ∈ hats, b.key ≠ a.key) (hpassed : ∀ choice ∈ passed, ∃ b ∈ hats, b.key = choice.key) :
    Greedy styles (tokens ++ [t]) (hats ++ [a]) := by
  have ha : a ∈ hatChoices styles t := hchoices ▸ List.mem_append_right _ List.mem_cons_self
  have hplace := place_of_mem_hatChoices ha
  have hlast : Served styles (hats ++ [a]) tokens t := by
    refine .given (List.mem_append_right _ List.mem_cons_self) hchoices ?_
    intro choice hchoice
    obtain ⟨b, hb, hkey⟩ := hpassed choice hchoice
    exact (hkey ▸ h.heldBy hb).append [a]
  refine ⟨?_, ?_, h.served_concat hnew (fun b hb => List.mem_singleton.1 hb ▸ hplace) hlast⟩
  · rw [List.map_append, List.nodup_append]
    refine ⟨h.nodup_keys, List.nodup_singleton _, ?_⟩
    intro key hkey key' hkey'
    obtain ⟨b, hb, rfl⟩ := List.mem_map.1 hkey
    rw [List.mem_singleton.1 hkey']
    exact hfree b hb
  · rw [List.map_append, List.map_append, List.map_singleton, List.map_singleton, hplace]
    exact h.sublist_places.append (.refl _)

/-- Serving one more token. -/
theorem concat (h : Greedy styles tokens hats) (hnew : t.place ∉ tokens.map HatCandidate.place) :
    Greedy styles (tokens ++ [t]) (serve styles hats t) := by
  rcases serve_cases styles hats t with ⟨hserve, htaken⟩ | ⟨a, passed, left, hserve, hchoices, hfree, hpassed⟩
  · rw [hserve]
    exact h.concat_bare hnew htaken
  · rw [hserve]
    exact h.concat_given hnew hchoices hfree hpassed

end Greedy

/-- A run of tokens, no token twice. -/
theorem greedy_foldl_serve (styles : List HatStyle) (h : (tokens.map HatCandidate.place).Nodup) :
    Greedy styles tokens (tokens.foldl (serve styles) []) := by
  induction tokens using List.reverseRecOn with
  | nil => exact .nil
  | append_singleton tokens t ih =>
    rw [List.map_append, List.nodup_append] at h
    rw [List.foldl_append]
    refine (ih h.1).concat ?_
    intro hmem
    exact h.2.2 _ hmem _ (List.mem_singleton.2 rfl) rfl

/-! ## All hats -/

/-- Hats are given out to the tokens that wait for them. -/
theorem exists_choice_of_mem_allocateHats {c : Config} {es : Editors} (h : a ∈ es.allocateHats c) :
    ∃ t ∈ es.hatCandidates c, a ∈ hatChoices (stylesByPenalty c) t :=
  (exists_choice_of_mem_foldl_serve h).resolve_left List.not_mem_nil

/-- Hats are given out to open editors only. -/
theorem has_of_mem_allocateHats {c : Config} {es : Editors} (h : a ∈ es.allocateHats c) : es.has a.editor = true := by
  obtain ⟨t, ht, hchoice⟩ := exists_choice_of_mem_allocateHats h
  have heditor : a.editor = t.editor := congrArg Prod.fst (place_of_mem_hatChoices hchoice)
  rw [heditor]
  exact has_of_mem_hatCandidates ht

/-- Styles by penalty, those of one penalty in the order in which they are configured. -/
structure ByPenalty (configured styles : List HatStyle) : Prop where
  perm : styles.Perm configured
  pairwise : styles.Pairwise fun a b => a.penalty ≤ b.penalty
  stable : ∀ a b, a.penalty ≤ b.penalty → [a, b].Sublist configured → [a, b].Sublist styles

theorem byPenalty_stylesByPenalty (c : Config) : ByPenalty c.hatStyles (stylesByPenalty c) := by
  have htrans (a b c : HatStyle) (hab : decide (a.penalty ≤ b.penalty) = true) (hbc : decide (b.penalty ≤ c.penalty) = true) :
      decide (a.penalty ≤ c.penalty) = true :=
    decide_eq_true (le_trans (of_decide_eq_true hab) (of_decide_eq_true hbc))
  have htotal (a b : HatStyle) : (decide (a.penalty ≤ b.penalty) || decide (b.penalty ≤ a.penalty)) = true := by
    rw [Bool.or_eq_true, decide_eq_true_iff, decide_eq_true_iff]
    exact le_total _ _
  refine ⟨List.mergeSort_perm _ _, (List.pairwise_mergeSort htrans htotal _).imp of_decide_eq_true, ?_⟩
  intro a b hle hsublist
  exact List.pair_sublist_mergeSort htrans htotal (decide_eq_true hle) hsublist

/-- Hats on the tokens that the editors show: the tokens are served in the order of their ranks, each once; no two of them get
hats of one address, none gets two hats, and each has the first of its choices that none before it holds, where the styles come
by penalty and the characters of a style from left to right. Every hat sits on a character of its token, and the token lies in
a visible range. -/
structure GivesOut (c : Config) (es : Editors) (hats : List HatAssignment) : Prop where
  mem_tokens_iff : ∀ t, t ∈ es.hatCandidates c ↔ es.Shows c t
  nodup_tokens : ((es.hatCandidates c).map HatCandidate.place).Nodup
  pairwise_tokens : (es.hatCandidates c).Pairwise fun a b => a.before b = true
  byPenalty : ByPenalty c.hatStyles (stylesByPenalty c)
  nodup_keys : (hats.map HatAssignment.key).Nodup
  nodup_places : (hats.map HatAssignment.place).Nodup
  exists_choice : ∀ a ∈ hats, ∃ t ∈ es.hatCandidates c, a ∈ hatChoices (stylesByPenalty c) t
  visible : ∀ a ∈ hats, a.range.contains a.spot = true ∧
    ∃ e, es.find? a.editor = some e ∧ ∃ visible ∈ e.visibleRanges, visible.contains a.range = true
  served : ∀ earlier t later, es.hatCandidates c = earlier ++ t :: later → Served (stylesByPenalty c) hats earlier t

/-- A hat that may be given out sits on a character of its token, in a visible range. -/
theorem visible_of_mem_hatChoices {c : Config} {es : Editors} (hes : es.Ordered) (ht : t ∈ es.hatCandidates c)
    (ha : a ∈ hatChoices styles t) : a.range.contains a.spot = true ∧
      ∃ e, es.find? a.editor = some e ∧ ∃ visible ∈ e.visibleRanges, visible.contains a.range = true := by
  obtain ⟨e, he, l, token, ⟨hl, htoken, visible, hvisible, hshown⟩, rfl⟩ := mem_hatCandidates_iff.1 ht
  obtain ⟨style, -, spot, hspot, rfl⟩ := mem_hatChoices_iff.1 ha
  obtain ⟨hlt, hcontains⟩ := Editor.contains_of_mem_spots htoken hspot
  have hstop : token.stop ≤ l.units := (((c.tokenizerFor e.document.language).along_tokensFrom none 0 true
    l.content).sliceUnits_eq htoken).1
  exact ⟨hcontains, e, hes.find?_of_mem he, visible, hvisible, Document.contains_of_contains_validateRange hl hlt hstop hshown⟩

theorem givesOut_allocateHats (c : Config) {es : Editors} (hes : es.Ordered) : es.GivesOut c (es.allocateHats c) := by
  have hgreedy := greedy_foldl_serve (stylesByPenalty c) (nodup_hatCandidates (c := c) hes)
  refine ⟨fun _ => mem_hatCandidates_iff, nodup_hatCandidates hes, pairwise_hatCandidates c es, byPenalty_stylesByPenalty c,
    hgreedy.nodup_keys, (nodup_hatCandidates hes).sublist hgreedy.sublist_places, fun _ => exists_choice_of_mem_allocateHats, ?_,
    hgreedy.served⟩
  intro a ha
  obtain ⟨t, ht, hchoice⟩ := exists_choice_of_mem_allocateHats ha
  exact visible_of_mem_hatChoices hes ht hchoice

end Editors

end StructuralEditing
