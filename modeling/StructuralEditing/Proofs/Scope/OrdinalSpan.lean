import StructuralEditing.Proofs.Scope.LeftToRight
import StructuralEditing.Proofs.Scope.OrdinalIndices

/-!
# Ordinals in a row

The scopes from one number through another can be asked for in two ways: as so many ordinals that make one target, and as the
range from one ordinal through another. The first joins them in the order in which they are counted, the second in the order of
their texts. So the two agree where scopes are counted from left to right, which is so for scopes of one kind
(`Modifier.agree_ordinal_range_iff`). Of several kinds together, an interior may be counted before a scope whose text begins before
that of the interior, and then each way gives another target (`Modifier.not_agree_ordinal_range_interior`).
-/

namespace StructuralEditing

theorem Kind.join?_comm (a b : Kind) : a.join? b = b.join? a := by
  cases a with
  | untyped x =>
    cases b with
    | untyped y => simp only [join?, Bool.or_comm]
    | _ => rfl
  | scope d r =>
    cases b with
    | scope e s =>
      simp only [join?]
      by_cases hsame : d = e ∧ r = s
      · obtain ⟨rfl, rfl⟩ := hsame
        rfl
      · rw [if_neg hsame, if_neg fun h => hsame ⟨h.1.symm, h.2.symm⟩]
    | _ => rfl
  | _ => cases b <;> rfl

/-- From the beginning of either of two ranges to the end of the other one lies the same only if both are empty. -/
theorem Range.between_eq_between_iff {r s : Range} (hlt : s.start < r.start) :
    between s.start r.stop = between r.start s.stop ↔ r.isEmpty = true ∧ s.isEmpty = true := by
  rw [between_of_le (hlt.le.trans r.start_le_stop), isEmpty, isEmpty, decide_eq_true_iff, decide_eq_true_iff]
  constructor
  · intro h
    rw [between] at h
    split at h
    · exact absurd (congrArg start h) hlt.ne
    · exact ⟨(congrArg stop h).symm, congrArg start h⟩
  · rintro ⟨hr, hs⟩
    have hnot : ¬r.start ≤ s.stop := not_le_of_gt (hs ▸ hlt)
    rw [between, dif_neg hnot]
    exact Range.ext hs hr.symm

namespace Target

variable {first last : Target} {isReversed : Bool}

theorem joinedKind?_comm (a b : Target) : joinedKind? a b = joinedKind? b a := by
  cases a <;> cases b
  · exact Kind.join?_comm _ _
  all_goals rfl

/-- Two targets joined with both ends are one of a kind if their kinds join, and else a span. -/
theorem through_eq : through isReversed first last true true =
    match joinedKind? first last with
    | some kind => single first.editor (.between first.content.start last.content.stop) isReversed kind
    | none => span first.editor (.between first.content.start last.content.stop) isReversed first last false false := rfl

theorem withReversed_through :
    (through isReversed first last true true).withReversed false = through false first last true true := by
  rw [through_eq, through_eq]
  cases joinedKind? first last <;> rfl

/-- Joined the other way round, two targets make the same only if both are empty and of kinds that join. -/
theorem through_eq_through_iff (heditor : first.editor = last.editor) (hlt : last.content.start < first.content.start) :
    through isReversed last first true true = through isReversed first last true true ↔
      first.content.isEmpty = true ∧ last.content.isEmpty = true ∧ (joinedKind? first last).isSome = true := by
  rw [through_eq, through_eq, joinedKind?_comm last first]
  cases joinedKind? first last with
  | some kind => simp [heditor, Range.between_eq_between_iff hlt]
  | none =>
    refine iff_of_false ?_ fun h => Bool.false_ne_true h.2.2
    intro h
    obtain rfl : last = first := (span.inj h).2.2.2.1
    exact lt_irrefl _ hlt

/-- Two targets in one editor, both of them included, are joined from the one that begins first. -/
theorem between_included (heditor : first.editor = last.editor) : between first last false false =
    .ok (if last.content.start < first.content.start then through true last first true true
      else through false first last true true) := by
  rw [between, if_neg (not_not_intro heditor)]
  split <;> rfl

end Target

/-- Two outcomes that come to the same: one error, or one target each, alike in all but the direction. -/
inductive Agree : Except Error (List Target) → Except Error (List Target) → Prop
  | fails (error : Error) : Agree (.error error) (.error error)
  | gives {s t : Target} : s.withReversed false = t.withReversed false → Agree (.ok [s]) (.ok [t])

theorem agree_ok_iff {s t : Target} : Agree (.ok [s]) (.ok [t]) ↔ s.withReversed false = t.withReversed false :=
  ⟨fun | .gives h => h, .gives⟩

namespace Editors

variable {c : Config} {es : Editors} {scopeType : ScopeType} {t first last : Target} {targets : List Target} {a b : Nat}

/-- All targets that are counted lie in one editor. -/
theorem editor_eq_of_every (h : es.every c scopeType t = .ok targets) (hfirst : first ∈ targets) (hlast : last ∈ targets) :
    first.editor = last.editor := by
  obtain ⟨scopes, hscopes, rfl⟩ := exists_of_map_eq_ok h
  obtain ⟨e, source, r, -, hsource, rfl⟩ := exists_within_of_everyScope hscopes
  have hid : ∀ u ∈ (source.within r).map (Scope.directed t.isReversed), u.editor = e.id := by
    rw [List.forall_mem_map]
    intro s hs
    rw [Scope.editor_directed]
    exact Editor.offersIn_of_source hsource _ _ _ s (ScopeSource.mem_of_mem_within hs).1
  exact (hid first hfirst).trans (hid last hlast).symm

/-- From left to right, no target begins behind a later one. -/
theorem start_le_start_of_every (h : es.every c scopeType t = .ok targets)
    (hascends : ∀ e source, es.get t.editor = .ok e → e.source c scopeType = .ok source → source.Ascends) (hab : a < b)
    (hfirst : targets[a]? = some first) (hlast : targets[b]? = some last) :
    first.content.start ≤ last.content.start := by
  obtain ⟨scopes, hscopes, rfl⟩ := exists_of_map_eq_ok h
  obtain ⟨e, source, r, hget, hsource, rfl⟩ := exists_within_of_everyScope hscopes
  have hordered : ((source.within r).map (Scope.directed t.isReversed)).Pairwise fun u v =>
      u.content.start ≤ v.content.start := by
    rw [List.pairwise_map]
    simpa only [Scope.content_directed] using hascends e source hget hsource r
  obtain ⟨ha, rfl⟩ := List.getElem?_eq_some_iff.1 hfirst
  obtain ⟨hb, rfl⟩ := List.getElem?_eq_some_iff.1 hlast
  exact List.pairwise_iff_getElem.1 hordered a b ha hb hab

end Editors

/-- The pairs of a document whose parentheses stand behind backslashes. -/
theorem Document.pairs_escaped_parentheses :
    let d : Document := .new ⟨1⟩ "plaintext" ['\\', '(', 'a', '\\', ')', 'b']
    let escaped : Delimiter := ⟨"escapedParentheses", ['\\', '('], ['\\', ')'], false⟩
    d.pairs none [escaped] = [⟨escaped, .onLine 0 0 2, .onLine 0 3 5⟩] := by
  intro d escaped
  have hopening (t : Text) : Delimiter.startOf? 0 ('\\' :: '(' :: t) = some (escaped, .opening, ['\\', '(']) := rfl
  have hclosing (t : Text) : Delimiter.startOf? 0 ('\\' :: ')' :: t) = some (escaped, .closing, ['\\', ')']) := rfl
  have ha (t : Text) : Delimiter.startOf? 0 ('a' :: t) = none := rfl
  have hb (t : Text) : Delimiter.startOf? 0 ('b' :: t) = none := rfl
  have haSlash : ('a' = '\\') = False := by decide
  have hbSlash : ('b' = '\\') = False := by decide
  have hlines : d.lines = [⟨0, ['\\', '(', 'a', '\\', ')', 'b'], []⟩] := by cbv
  have hoccurrences : d.occurrences = [[⟨escaped, .opening, .onLine 0 0 2⟩, ⟨escaped, .closing, .onLine 0 3 5⟩]] := by
    simp only [Document.occurrences, hlines, List.map_cons, List.map_nil, Occurrence.onLine, Occurrence.scanFrom, hopening,
      hclosing, ha, hb, haSlash, hbSlash, if_false, List.length_cons, List.length_nil, List.drop]
    decide
  have hfound : Pair.bracketsWithin [] [] d.occurrences.flatten = [⟨escaped, .onLine 0 0 2, .onLine 0 3 5⟩] := by
    rw [hoccurrences]
    decide
  have hquoted : d.occurrences.flatMap (fun os => Pair.quotes none os ++ Pair.escaped [] os) = [] ∧
      d.occurrences.flatMap (fun os => (Pair.quotes none os).map Pair.domain) = [] := by
    rw [hoccurrences]
    decide
  simp only [Document.pairs, hquoted, hfound, Option.getD_none]
  cbv

namespace Modifier

open PairQuery ScopeSource

variable {c : Config} {es : Editors} {scopeType : ScopeType} {t first last : Target} {targets : List Target} {a b : Nat}

/-- The first and the last of the ordinals from one through another, among so many. -/
theorem ordinalIndices_row (hab : a ≤ b) (hb : b < 2 ^ 63) (count : Nat) :
    ordinalIndices a (b - a + 1) count = if count ≤ b then .error .outOfRange else .ok (a, b) := by
  have hlast : (a + (b - a + 1) - 1) % indexRange = b := by
    rw [indexRange_eq]
    omega
  have hfirst : IsFirst a count a := by rw [IsFirst, if_neg (by omega)]
  rw [ordinalIndices_of_isFirst hfirst, hlast]
  simp only [Nat.add_eq_zero_iff, Nat.one_ne_zero, and_false, false_or]

/-- Ordinals fail where their scopes cannot be counted. -/
theorem apply_ordinal_of_error {error : Error} (h : es.every c scopeType t = .error error) (start : Int) (length : Nat) :
    (Modifier.ordinal scopeType start length false).apply c es t = .error error := by
  rw [apply, applyOrdinal, h]
  rfl

/-- Ordinals in a row are one target from the first through the last of those counted. -/
theorem apply_ordinal_row (h : es.every c scopeType t = .ok targets) (hab : a ≤ b) (hb : b < 2 ^ 63) :
    (Modifier.ordinal scopeType a (b - a + 1) false).apply c es t =
      if targets.length ≤ b then .error .outOfRange else (Target.spanOf t.isReversed targets a b).map ([·]) := by
  have hindices := ordinalIndices_row hab hb targets.length
  by_cases hlength : targets.length ≤ b
  · rw [if_pos hlength] at hindices ⊢
    exact apply_ordinal_of_outOfRange h hindices
  · rw [if_neg hlength] at hindices ⊢
    rw [apply_ordinal_of_indices h hindices, pick, if_neg Bool.false_ne_true]

/-- An ordinal by itself is one of those counted. -/
theorem apply_ordinal_one (h : es.every c scopeType t = .ok targets) (ha : a < 2 ^ 63) :
    (Modifier.ordinal scopeType a 1 false).apply c es t =
      match targets[a]? with
      | some target => .ok [target]
      | none => .error .outOfRange := by
  have hrow := apply_ordinal_row h le_rfl ha
  rw [Nat.sub_self, Nat.zero_add] at hrow
  rw [hrow]
  by_cases hlength : targets.length ≤ a
  · rw [if_pos hlength, List.getElem?_eq_none hlength]
  · rw [if_neg hlength, Target.spanOf, List.getElem?_eq_getElem (Nat.lt_of_not_le hlength)]
    simp [Except.map]

/-- The range from one ordinal through another goes from the one of the two whose text begins first. -/
theorem apply_ordinal_range (h : es.every c scopeType t = .ok targets) (ha : a < 2 ^ 63) (hb : b < 2 ^ 63)
    (hfirst : targets[a]? = some first) (hlast : targets[b]? = some last) :
    (Modifier.range (.ordinal scopeType a 1 false) (.ordinal scopeType b 1 false) false false).apply c es t =
      .ok [if last.content.start < first.content.start then .through true last first true true
        else .through false first last true true] := by
  have heditor := Editors.editor_eq_of_every h (List.mem_of_getElem? hfirst) (List.mem_of_getElem? hlast)
  rw [apply, apply_ordinal_one h ha, apply_ordinal_one h hb, hfirst, hlast]
  simp only [bind, Except.bind, single, Target.between_included heditor]

/-- Where one of the two ordinals is missing, so is the range. -/
theorem apply_ordinal_range_of_length_le (h : es.every c scopeType t = .ok targets) (ha : a < 2 ^ 63) (hb : b < 2 ^ 63)
    (hlength : targets.length ≤ b) :
    (Modifier.range (.ordinal scopeType a 1 false) (.ordinal scopeType b 1 false) false false).apply c es t =
      .error .outOfRange := by
  rw [apply, apply_ordinal_one h ha, apply_ordinal_one h hb, List.getElem?_eq_none hlength]
  cases targets[a]? <;> rfl

theorem apply_ordinal_range_of_error {error : Error} (h : es.every c scopeType t = .error error) :
    (Modifier.range (.ordinal scopeType a 1 false) (.ordinal scopeType b 1 false) false false).apply c es t = .error error := by
  rw [apply, apply_ordinal_of_error h]
  rfl

/-- A row of ordinals and the range between its ends agree on two of the targets counted unless the second one begins first. -/
theorem agree_iff_of_every (h : es.every c scopeType t = .ok targets) (hab : a < b) (hb : b < 2 ^ 63)
    (hfirst : targets[a]? = some first) (hlast : targets[b]? = some last) :
    Agree ((Modifier.ordinal scopeType a (b - a + 1) false).apply c es t)
        ((Modifier.range (.ordinal scopeType a 1 false) (.ordinal scopeType b 1 false) false false).apply c es t) ↔
      first.content.start ≤ last.content.start ∨
        first.content.isEmpty = true ∧ last.content.isEmpty = true ∧ (Target.joinedKind? first last).isSome = true := by
  have heditor := Editors.editor_eq_of_every h (List.mem_of_getElem? hfirst) (List.mem_of_getElem? hlast)
  have hlength : ¬targets.length ≤ b := Nat.not_le_of_lt (List.getElem?_eq_some_iff.1 hlast).1
  have hrow : (Modifier.ordinal scopeType a (b - a + 1) false).apply c es t =
      .ok [.through t.isReversed first last true true] := by
    rw [apply_ordinal_row h hab.le hb, if_neg hlength, Target.spanOf, if_neg (not_lt_of_gt hab), hfirst, hlast]
    simp only [if_neg hab.ne, Except.map]
  rw [hrow, apply_ordinal_range h (hab.trans hb) hb hfirst hlast, agree_ok_iff, Target.withReversed_through]
  by_cases hlt : last.content.start < first.content.start
  · rw [if_pos hlt, Target.withReversed_through, or_iff_right (not_le_of_gt hlt), eq_comm]
    exact Target.through_eq_through_iff heditor hlt
  · rw [if_neg hlt, Target.withReversed_through]
    exact iff_of_true rfl (Or.inl (le_of_not_gt hlt))

/-- A row of ordinals and the range between its ends agree unless there are targets at both ends, of which the second one begins
first: where the targets cannot be counted, or are too few, the two fail alike. -/
theorem agree_iff_of_forall (hab : a < b) (hb : b < 2 ^ 63) :
    Agree ((Modifier.ordinal scopeType a (b - a + 1) false).apply c es t)
        ((Modifier.range (.ordinal scopeType a 1 false) (.ordinal scopeType b 1 false) false false).apply c es t) ↔
      ∀ targets first last, es.every c scopeType t = .ok targets → targets[a]? = some first → targets[b]? = some last →
        first.content.start ≤ last.content.start ∨
          first.content.isEmpty = true ∧ last.content.isEmpty = true ∧ (Target.joinedKind? first last).isSome = true := by
  cases hevery : es.every c scopeType t with
  | error error =>
    refine iff_of_true ?_ nofun
    rw [apply_ordinal_of_error hevery, apply_ordinal_range_of_error hevery]
    exact .fails error
  | ok targets =>
    cases hlast : targets[b]? with
    | none =>
      have hlength := List.getElem?_eq_none_iff.1 hlast
      refine iff_of_true ?_ ?_
      · rw [apply_ordinal_row hevery hab.le hb, if_pos hlength,
          apply_ordinal_range_of_length_le hevery (hab.trans hb) hb hlength]
        exact .fails _
      · intro targets first last hsame _ hfound
        obtain rfl := Except.ok.inj hsame
        rw [hlast] at hfound
        cases hfound
    | some last =>
      obtain ⟨hlt, -⟩ := List.getElem?_eq_some_iff.1 hlast
      have hfirst := List.getElem?_eq_getElem (hab.trans hlt)
      refine (agree_iff_of_every hevery hab hb hfirst hlast).trans ⟨?_, ?_⟩
      · intro h targets first last hsame hfirst' hlast'
        obtain rfl := Except.ok.inj hsame
        obtain rfl := Option.some.inj (hfirst.symm.trans hfirst')
        obtain rfl := Option.some.inj (hlast.symm.trans hlast')
        exact h
      · intro h
        exact h targets _ last rfl hfirst hlast

/-- So many ordinals from one on make the target that the range from the first through the last of them makes, if the text of the
first does not begin behind that of the last; otherwise only if both are empty and of kinds that join. Scopes of one kind are counted
from left to right, and so are those of several kinds that stand for their domains; so with them the two agree. -/
theorem agree_ordinal_range_iff (hab : a < b) (hb : b < 2 ^ 63) :
    let row := (Modifier.ordinal scopeType a (b - a + 1) false).apply c es t
    let joined := (Modifier.range (.ordinal scopeType a 1 false) (.ordinal scopeType b 1 false) false false).apply c es t
    (Agree row joined ↔ ∀ targets first last, es.every c scopeType t = .ok targets →
      targets[a]? = some first → targets[b]? = some last → first.content.start ≤ last.content.start ∨
        first.content.isEmpty = true ∧ last.content.isEmpty = true ∧ (Target.joinedKind? first last).isSome = true) ∧
    (scopeType.IsInOrder →
      (∀ e regex p, es.get t.editor = .ok e → scopeType = .pattern regex →
        Matcher.ofText? regex.toList = some (.program p) →
        ∀ l ∈ e.document.lines, (Matcher.program p).FindsInOrder l.content) →
      Agree row joined) := by
  intro row joined
  refine ⟨agree_iff_of_forall hab hb, ?_⟩
  intro horder hprogram
  refine (agree_iff_of_forall hab hb).2 ?_
  intro targets first last hevery hfirst hlast
  refine Or.inl (Editors.start_le_start_of_every hevery ?_ hab hfirst hlast)
  intro e source hget hsource
  exact Editor.ascends_of_source horder hsource fun regex p => hprogram e regex p hget

/-- The first three tokens of a line, either way. -/
theorem agree_ordinal_range_three_tokens :
    let c : Config := ⟨[], [], []⟩
    let e : Editor := .new ⟨1⟩ (.new ⟨1⟩ "plaintext" ['a', ' ', 'b', ' ', 'c'])
    let es := Editors.empty.add e
    let t : Target := .raw ⟨1⟩ (.onLine 0 0 5)
    let row := (Modifier.ordinal (.named "token") (0 : Nat) (2 - 0 + 1) false).apply c es t
    0 < 2 ∧ 2 < 2 ^ 63 ∧ row.toOption.map (List.map Target.content) = some [.onLine 0 0 5] ∧
      Agree row ((Modifier.range (.ordinal (.named "token") (0 : Nat) 1 false) (.ordinal (.named "token") (2 : Nat) 1 false)
        false false).apply c es t) := by
  intro c e es t row
  refine ⟨by decide, by decide, by decide +kernel, ?_⟩
  exact (agree_ordinal_range_iff (by decide) (by decide)).2 trivial nofun

/-- The text between parentheses behind backslashes, and a match of a pattern that begins at the first of the parentheses: the
interior is counted first, since its pair begins before the match, but its text begins behind that of the match. -/
theorem not_agree_ordinal_range_interior :
    let c : Config := ⟨[], [], []⟩
    let e : Editor := .new ⟨1⟩ (.new ⟨1⟩ "plaintext" ['\\', '(', 'a', '\\', ')', 'b'])
    let es := Editors.empty.add e
    let t : Target := .raw ⟨1⟩ (.onLine 0 0 6)
    let scopeType : ScopeType := .oneOf [.pairInterior "escapedParentheses", .pattern "\\(a\\\\\\)b"]
    let row := (Modifier.ordinal scopeType (0 : Nat) (1 - 0 + 1) false).apply c es t
    let joined := (Modifier.range (.ordinal scopeType (0 : Nat) 1 false) (.ordinal scopeType (1 : Nat) 1 false) false false).apply
      c es t
    row.toOption.map (List.map Target.content) = some [.onLine 0 2 6] ∧
      joined.toOption.map (List.map Target.content) = some [.onLine 0 1 3] ∧ ¬Agree row joined := by
  intro c e es t scopeType row joined
  let m : Automaton := ⟨#[.accept, .one (.single 'b') 0, .one (.single ')') 1, .one (.single '\\') 2, .one (.single 'a') 3,
    .one (.single '(') 4], 5⟩
  have hread : Matcher.ofText? "\\(a\\\\\\)b".toList = some (.automaton m) := by cbv
  let regex : String := "\\(a\\\\\\)b"
  have hpairs := Document.pairs_escaped_parentheses
  have hsource : e.source c scopeType = .ok (.together [.pairInterior "escapedParentheses", .pattern regex]
      [{ scopeType := .pairInterior "escapedParentheses"
         iterationType := .pairInterior "escapedParentheses"
         isHierarchical := true
         candidates := fun _ _ _ =>
          [⟨⟨"escapedParentheses", ['\\', '('], ['\\', ')'], false⟩, .onLine 0 0 2, .onLine 0 3 5⟩].map (interiorScope e) ++
            [wholeRegion e]
         prefers := noPreference }, e.matching (.pattern regex) (Matcher.automaton m).pieces]) := by
    rw [Editor.source, Editor.sources, Editor.sources, Editor.sources, Editor.source, Editor.source, hread, ← hpairs]
    rfl
  let interior : Target := .single ⟨1⟩ (.onLine 0 2 3) false .interior
  let found : Target := .single ⟨1⟩ (.onLine 0 1 6) false (.scope [' '] .token)
  have hevery : es.every c scopeType t = .ok [interior, found] := by
    rw [Editors.every, Editors.everyScope_of_hasExplicitRange (t := t) rfl hsource rfl]
    cbv
  have hjoined : joined = .ok [.through true found interior true true] :=
    apply_ordinal_range (a := 0) (b := 1) hevery (by decide) (by decide) rfl rfl
  have hrow : row = .ok [.through false interior found true true] :=
    (apply_ordinal_row (a := 0) (b := 1) hevery (by decide) (by decide)).trans rfl
  refine ⟨?_, ?_, ?_⟩
  · rw [hrow]
    decide
  · rw [hjoined]
    decide
  · rw [hrow, hjoined, agree_ok_iff]
    decide

end Modifier

end StructuralEditing
