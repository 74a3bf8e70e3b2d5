import StructuralEditing.Proofs.Pair.Apart

/-!
# Brackets pair as balanced words

The open brackets are kept in one list for all names and contexts, but those of one name and context are opened and closed
apart from the others (`Pair.filter_openBehind`). Among them a balanced word leaves what is open as it was
(`Pair.Balanced.openBehind_eq`), and every other word has a bracket in it that pairs beyond its ends (`Pair.balanced_cases`). So an
opening and a closing bracket of one name and context are paired exactly when those of their name and context between them are
a balanced word, whatever else stands between them (`Document.pairs_balanced`). The halves of two such pairs never cross.
-/

namespace StructuralEditing

namespace Pair

variable {contexts : List Range} {openOnes os os' : List Occurrence} {o first second x : Occurrence} {pair : Pair}

/-- Whether a bracket has the name and the context of another one. -/
def alike (contexts : List Range) (a b : Occurrence) : Bool :=
  b.delimiter.name == a.delimiter.name && contextOf contexts b.range == contextOf contexts a.range

theorem alike_iff {a b : Occurrence} : alike contexts a b = true ↔
    b.delimiter.name = a.delimiter.name ∧ contextOf contexts b.range = contextOf contexts a.range := by
  simp [alike]

@[simp]
theorem alike_self (contexts : List Range) (o : Occurrence) : alike contexts o o = true := alike_iff.2 ⟨rfl, rfl⟩

/-- Brackets that are alike have the same brackets alike. -/
theorem alike_congr {a b : Occurrence} (h : alike contexts a b = true) : alike contexts b = alike contexts a := by
  obtain ⟨hname, hcontext⟩ := alike_iff.1 h
  funext o
  rw [alike, alike, hname, hcontext]

/-! ## Brackets that are open -/

/-- The brackets that are open behind one more. -/
def openNext (contexts : List Range) (openOnes : List Occurrence) (o : Occurrence) : List Occurrence :=
  match o.side with
  | .opening => o :: openOnes
  | .closing => openOnes.eraseP (alike contexts o)
  | .either => openOnes

/-- The brackets that are open behind some occurrences. -/
def openBehind (contexts : List Range) (openOnes os : List Occurrence) : List Occurrence :=
  os.foldl (openNext contexts) openOnes

theorem openBehind_cons (contexts : List Range) (openOnes : List Occurrence) (x : Occurrence) (os : List Occurrence) :
    openBehind contexts openOnes (x :: os) = openBehind contexts (openNext contexts openOnes x) os := rfl

theorem openBehind_append_cons (contexts : List Range) (openOnes os : List Occurrence) (x : Occurrence) (os' : List Occurrence) :
    openBehind contexts openOnes (os ++ x :: os') =
      openBehind contexts (openNext contexts (openBehind contexts openOnes os) x) os' :=
  List.foldl_append

/-- The pair that a bracket closes. -/
def closedBy (contexts : List Range) (openOnes : List Occurrence) (o : Occurrence) : Option Pair :=
  if o.side = .closing then (openOnes.find? (alike contexts o)).map fun first => ofOccurrences first o else none

theorem bracketsWithin_cons (contexts : List Range) (openOnes : List Occurrence) (o : Occurrence) (os : List Occurrence) :
    bracketsWithin contexts openOnes (o :: os) =
      (closedBy contexts openOnes o).toList ++ bracketsWithin contexts (openNext contexts openOnes o) os := by
  rw [bracketsWithin, openNext, closedBy]
  cases o.side with
  | opening => rfl
  | either => rfl
  | closing =>
    dsimp only
    rw [show (fun first : Occurrence => first.delimiter.name == o.delimiter.name &&
      contextOf contexts first.range == contextOf contexts o.range) = alike contexts o from rfl, takeFirst_eq]
    cases hfound : openOnes.find? (alike contexts o) with
    | none =>
      rw [List.eraseP_of_forall_not (by simpa using hfound)]
      rfl
    | some first => rfl

/-- What is paired goes on behind some occurrences with the brackets that are open there. -/
theorem bracketsWithin_append (contexts : List Range) (openOnes os os' : List Occurrence) :
    bracketsWithin contexts openOnes (os ++ os') =
      bracketsWithin contexts openOnes os ++ bracketsWithin contexts (openBehind contexts openOnes os) os' := by
  induction os generalizing openOnes with
  | nil => rfl
  | cons o os ih =>
    rw [List.cons_append, bracketsWithin_cons, bracketsWithin_cons, ih, List.append_assoc]
    rfl

/-- Only a bracket of a name and context changes which ones of them are open. -/
theorem filter_openNext (contexts : List Range) (openOnes : List Occurrence) (o x : Occurrence) :
    (openNext contexts openOnes x).filter (alike contexts o) =
      if alike contexts o x then openNext contexts (openOnes.filter (alike contexts o)) x
      else openOnes.filter (alike contexts o) := by
  rw [openNext, openNext]
  cases x.side with
  | opening => exact List.filter_cons
  | either => simp
  | closing =>
    dsimp only
    split
    · rename_i hsame
      rw [alike_congr hsame, List.eraseP_filter]
      simp only [Bool.and_self]
    · rename_i hother
      rcases List.exists_or_eq_self_of_eraseP (alike contexts x) openOnes with
        hkept | ⟨first, front, back, -, hfirst, hopen, hleft⟩
      · rw [hkept]
      · have hnot : ¬alike contexts o first = true := by
          intro hfirst'
          rw [← alike_congr hfirst', alike_congr hfirst, alike_self] at hother
          exact hother rfl
        rw [hleft, hopen, List.filter_append, List.filter_append, List.filter_cons_of_neg hnot]

theorem filter_openBehind (contexts : List Range) (openOnes os : List Occurrence) (o : Occurrence) :
    (openBehind contexts openOnes os).filter (alike contexts o) =
      openBehind contexts (openOnes.filter (alike contexts o)) (os.filter (alike contexts o)) := by
  induction os generalizing openOnes with
  | nil => rfl
  | cons x os ih =>
    rw [openBehind_cons, ih, filter_openNext, List.filter_cons]
    split
    · rfl
    · rfl

/-! ## Balanced words -/

/-- A word of brackets in which each one that opens is closed by its own, and none is left over. -/
inductive Balanced : List Occurrence → Prop
  | nil : Balanced []
  | enclose {first second : Occurrence} {inner rest : List Occurrence} (hfirst : first.side = .opening)
      (hsecond : second.side = .closing) (hinner : Balanced inner) (hrest : Balanced rest) :
      Balanced (first :: inner ++ second :: rest)

/-- Brackets of one name and context that are a balanced word leave what is open as it was. -/
theorem Balanced.openBehind_eq (h : Balanced os) (halike : ∀ x ∈ os, alike contexts o x = true) (openOnes : List Occurrence) :
    openBehind contexts openOnes os = openOnes := by
  induction h generalizing openOnes with
  | nil => rfl
  | @enclose first second inner rest hfirst hsecond hinner hrest ihinner ihrest =>
    simp only [List.cons_append, List.forall_mem_cons, List.forall_mem_append] at halike
    obtain ⟨hfirst', hinner', hsecond', hrest'⟩ := halike
    have hopen : openNext contexts openOnes first = first :: openOnes := by rw [openNext, hfirst]
    have hclosed : openNext contexts (first :: openOnes) second = openOnes := by
      rw [openNext, hsecond]
      exact List.eraseP_cons_of_pos (by rw [alike_congr hsecond', hfirst'])
    rw [List.cons_append, openBehind_cons, openBehind_append_cons, hopen, ihinner hinner', hclosed, ihrest hrest']

/-- A word of brackets is balanced, or has a closing one behind a balanced beginning, or an opening one before a balanced end. -/
theorem balanced_cases (hsides : ∀ x ∈ os, x.side ≠ .either) : Balanced os ∨
    (∃ front x back, os = front ++ x :: back ∧ Balanced front ∧ x.side = .closing) ∨
      ∃ front x back, os = front ++ x :: back ∧ x.side = .opening ∧ Balanced back := by
  induction hlength : os.length using Nat.strong_induction_on generalizing os with
  | _ n ih =>
    subst hlength
    cases os with
    | nil => exact Or.inl .nil
    | cons first os =>
      obtain ⟨hfirst, hos⟩ := List.forall_mem_cons.1 hsides
      cases hside : first.side with
      | either => exact absurd hside hfirst
      | closing => exact Or.inr (Or.inl ⟨[], first, os, rfl, .nil, hside⟩)
      | opening =>
        rcases ih os.length (Nat.lt_succ_self _) hos rfl with hbalanced | ⟨inner, second, rest, rfl, hinner, hsecond⟩ |
          ⟨front, x, back, rfl, hx, hback⟩
        · exact Or.inr (Or.inr ⟨[], first, os, rfl, hside, hbalanced⟩)
        · -- The first bracket is closed, and what follows its closing one decides.
          have hlt : rest.length < (first :: (inner ++ second :: rest)).length := by
            simp only [List.length_cons, List.length_append]
            omega
          have hrest : ∀ x ∈ rest, x.side ≠ .either := fun x hx =>
            hos x (List.mem_append_right _ (List.mem_cons_of_mem _ hx))
          rcases ih rest.length hlt hrest rfl with hbalanced | ⟨front, x, back, rfl, hfront, hx⟩ | ⟨front, x, back, rfl, hx, hback⟩
          · exact Or.inl (.enclose hside hsecond hinner hbalanced)
          · refine Or.inr (Or.inl ⟨first :: inner ++ second :: front, x, back, ?_, .enclose hside hsecond hinner hfront, hx⟩)
            simp
          · refine Or.inr (Or.inr ⟨first :: inner ++ second :: front, x, back, ?_, hx, hback⟩)
            simp
        · exact Or.inr (Or.inr ⟨first :: front, x, back, rfl, hx, hback⟩)

/-- No word of one name and context is balanced in which an opening bracket stands before a balanced end. -/
theorem not_balanced_of_left {front back : List Occurrence} (hx : x.side = .opening) (hback : Balanced back)
    (halike : ∀ y ∈ front ++ x :: back, alike contexts o y = true) : ¬Balanced (front ++ x :: back) := by
  intro h
  have hnone := h.openBehind_eq halike []
  rw [openBehind_append_cons, hback.openBehind_eq fun y hy => halike y (by simp [hy]), openNext, hx] at hnone
  exact List.cons_ne_nil _ _ hnone

/-- In a balanced word of one name and context, an opening bracket is closed behind a balanced word. -/
theorem Balanced.exists_closing {front back : List Occurrence} (h : Balanced (front ++ x :: back))
    (halike : ∀ y ∈ front ++ x :: back, alike contexts o y = true) (hsides : ∀ y ∈ back, y.side ≠ .either) (hx : x.side = .opening) :
    ∃ inner second rest, back = inner ++ second :: rest ∧ Balanced inner ∧ second.side = .closing := by
  rcases balanced_cases hsides with hback | hclosing | ⟨inner, y, rest, rfl, hy, hrest⟩
  · exact absurd h (not_balanced_of_left hx hback halike)
  · exact hclosing
  · have hparts : front ++ x :: (inner ++ y :: rest) = front ++ x :: inner ++ y :: rest := by simp
    rw [hparts] at h halike
    exact absurd h (not_balanced_of_left hy hrest halike)

/-- An opening and a closing bracket of one name and context are paired if those of it between them are a balanced word. -/
theorem mem_bracketsWithin_of_balanced {before between after : List Occurrence} (hfirst : first.side = .opening)
    (hsecond : second.side = .closing) (halike : alike contexts first second = true)
    (hbalanced : Balanced (between.filter (alike contexts first))) :
    ofOccurrences first second ∈ bracketsWithin contexts openOnes (before ++ first :: (between ++ second :: after)) := by
  have hopen (openOnes : List Occurrence) : openNext contexts openOnes first = first :: openOnes := by rw [openNext, hfirst]
  have hbehind : (openBehind contexts (first :: openBehind contexts openOnes before) between).filter (alike contexts first) =
      first :: (openBehind contexts openOnes before).filter (alike contexts first) := by
    rw [filter_openBehind, hbalanced.openBehind_eq fun x hx => (List.mem_filter.1 hx).2, List.filter_cons,
      if_pos (alike_self contexts first)]
  have hfound : (openBehind contexts (first :: openBehind contexts openOnes before) between).find? (alike contexts second) =
      some first := by
    rw [alike_congr halike, ← List.head?_filter, hbehind]
    rfl
  have hclosed : closedBy contexts (openBehind contexts (first :: openBehind contexts openOnes before) between) second =
      some (ofOccurrences first second) := by
    rw [closedBy, if_pos hsecond, hfound]
    rfl
  rw [bracketsWithin_append, bracketsWithin_cons, bracketsWithin_append, bracketsWithin_cons, hopen, hclosed]
  simp

/-- What is around an element of those with a property is around it among all. -/
theorem exists_of_filter_eq {p : Occurrence → Bool} {front back : List Occurrence} (h : os.filter p = front ++ x :: back) :
    ∃ u v, os = u ++ x :: v ∧ u.filter p = front ∧ p x = true ∧ v.filter p = back := by
  obtain ⟨l₁, l₂, rfl, rfl, hback⟩ := List.filter_eq_append_iff.1 h
  obtain ⟨m₁, m₂, rfl, hnone, hx, rfl⟩ := List.filter_eq_cons_iff.1 hback
  refine ⟨l₁ ++ m₁, m₂, by simp, ?_, hx, rfl⟩
  rw [List.filter_append, List.filter_eq_nil_iff.2 hnone, List.append_nil]

/-- Any two of a list in their order stand at places of their own. -/
theorem pairwise_split (os : List Occurrence) :
    os.Pairwise fun a b => ∃ before between after, os = before ++ a :: (between ++ b :: after) := by
  induction os with
  | nil => exact .nil
  | cons o os ih =>
    refine .cons ?_ (ih.imp ?_)
    · intro b hb
      obtain ⟨between, after, rfl⟩ := List.append_of_mem hb
      exact ⟨[], between, after, rfl⟩
    · rintro a b ⟨before, between, after, rfl⟩
      exact ⟨o :: before, between, after, rfl⟩

end Pair

namespace Document

open Pair

variable {d : Document} {literals : Option (List Range)} {wanted : List Delimiter} {a b pair : Pair} {o first second : Occurrence}
  {before between after : List Occurrence}

/-- The ranges that keep brackets apart: the string literals, or the quoted strings where these are not known. -/
def contexts (d : Document) (literals : Option (List Range)) : List Range :=
  literals.getD (d.occurrences.flatMap fun os => (quotes none os).map Pair.domain)

/-- An occurrence is of a delimiter of the table, and may be either half if it is symmetric. -/
theorem delimiter_of_mem_occurrences (h : o ∈ d.occurrences.flatten) :
    o.delimiter ∈ Delimiter.all ∧ (o.side = .either ↔ o.delimiter.isSymmetric = true) := by
  obtain ⟨l, -, ho⟩ := exists_line_of_mem_occurrences h
  obtain ⟨before, mark, rest, -, hbegins, -⟩ := Occurrence.exists_of_mem_onLine ho
  exact ⟨hbegins.mem, hbegins.symmetric⟩

/-- Brackets that are paired are among the pairs of all delimiters. -/
theorem mem_pairs_of_mem_bracketsWithin (h : ofOccurrences first second ∈ bracketsWithin (d.contexts literals) [] d.occurrences.flatten)
    (hfirst : first ∈ d.occurrences.flatten) : ofOccurrences first second ∈ d.pairs literals Delimiter.all := by
  refine (List.mergeSort_perm _ _).mem_iff.2 (List.mem_filter.2 ⟨List.mem_append_right _ h, ?_⟩)
  exact List.any_eq_true.2 ⟨first.delimiter, (delimiter_of_mem_occurrences hfirst).1, beq_self_eq_true _⟩

/-- Those of the pairs that are not of symmetric delimiters are brackets that are paired. -/
theorem mem_bracketsWithin_of_mem_pairs (h : pair ∈ d.pairs literals wanted) (hbracket : pair.delimiter.isSymmetric = false) :
    pair ∈ bracketsWithin (d.contexts literals) [] d.occurrences.flatten := by
  have hfound := (List.mem_filter.1 ((List.mergeSort_perm _ _).mem_iff.1 h)).1
  refine (List.mem_append.1 hfound).resolve_left ?_
  intro hquoted
  obtain ⟨os, hos, hpair⟩ := List.mem_flatMap.1 hquoted
  obtain ⟨l, hl, rfl⟩ := List.mem_map.1 hos
  obtain ⟨first, hfirst, second, -, ⟨hside, -⟩, -, -, rfl⟩ := exists_of_mem_quoted hl hpair
  have hsymmetric := (delimiter_of_mem_occurrences (List.mem_flatten.2 ⟨_, hos, hfirst⟩)).2.1 hside
  exact absurd hsymmetric (Bool.eq_false_iff.1 hbracket)

/-- No two pairs of a document end at one and the same place. -/
theorem eq_of_mem_pairs_closing (ha : a ∈ d.pairs literals wanted) (hb : b ∈ d.pairs literals wanted)
    (hclosing : a.closing = b.closing) : a = b := by
  by_contra hne
  have hfilled := closing_filled hb
  rcases apart_of_ne ha hb hne a.closing (by simp) b.closing (by simp) with hle | hle
  · exact absurd (hfilled.trans_le (hclosing ▸ hle)) (lt_irrefl _)
  · exact absurd (hfilled.trans_le (hclosing ▸ hle)) (lt_irrefl _)

/-- What stands between two brackets stands behind the first and before the second. -/
theorem hasHalves_between (hos : d.occurrences.flatten = before ++ first :: (between ++ second :: after)) (ho : o ∈ between) :
    (ofOccurrences first o).HasHalves d ∧ (ofOccurrences o second).HasHalves d := by
  have hordered := d.pairwise_occurrences
  rw [hos, List.pairwise_append, List.pairwise_cons, List.pairwise_append] at hordered
  obtain ⟨-, ⟨hfirst, -, -, hbetween⟩, -⟩ := hordered
  exact ⟨hfirst o (List.mem_append_left _ ho), hbetween o ho second (List.mem_cons_self ..)⟩

/-- Brackets of the name of one that opens are no symmetric delimiters. -/
theorem side_of_alike (hfirst : first ∈ d.occurrences.flatten) (hside : first.side ≠ .either) {contexts : List Range}
    (ho : o ∈ d.occurrences.flatten) (halike : alike contexts first o = true) : o.side ≠ .either := by
  obtain ⟨hmem, hsymmetric⟩ := delimiter_of_mem_occurrences hfirst
  obtain ⟨hmem', hsymmetric'⟩ := delimiter_of_mem_occurrences ho
  have hsame := Delimiter.eq_of_name_eq _ hmem' _ hmem (alike_iff.1 halike).1
  rw [ne_eq, hsymmetric', hsame, ← hsymmetric]
  exact hside

/-- An opening and a later closing bracket of one name and context are paired just when those of it between them are balanced. -/
theorem mem_pairs_iff_balanced (hos : d.occurrences.flatten = before ++ first :: (between ++ second :: after))
    (hfirst : first.side = .opening) (hsecond : second.side = .closing)
    (halike : alike (d.contexts literals) first second = true) :
    ofOccurrences first second ∈ d.pairs literals Delimiter.all ↔
      Balanced (between.filter (alike (d.contexts literals) first)) := by
  have hmem (o : Occurrence) (ho : o ∈ before ++ first :: (between ++ second :: after)) : o ∈ d.occurrences.flatten := hos ▸ ho
  have hopens : first ∈ d.occurrences.flatten := hmem first (by simp)
  constructor
  · intro hpair
    have hsides : ∀ x ∈ between.filter (alike (d.contexts literals) first), x.side ≠ .either := by
      intro x hx
      obtain ⟨hbetween, hx⟩ := List.mem_filter.1 hx
      exact side_of_alike hopens (by simp [hfirst]) (hmem x (by simp [hbetween])) hx
    rcases balanced_cases hsides with hbalanced | ⟨front, x, back, hfound, hfront, hx⟩ | ⟨front, x, back, hfound, hx, hback⟩
    · exact hbalanced
    · -- The first bracket is paired with one that closes it before the second comes.
      obtain ⟨u, v, rfl, rfl, hsame, -⟩ := exists_of_filter_eq hfound
      have hpair' : ofOccurrences first x ∈ d.pairs literals Delimiter.all := by
        refine mem_pairs_of_mem_bracketsWithin ?_ hopens
        rw [hos, List.append_assoc, List.cons_append]
        exact mem_bracketsWithin_of_balanced hfirst hx hsame hfront
      have hsame' : x.range = second.range := congrArg Pair.closing (eq_of_mem_pairs hpair' hpair rfl)
      have hhalves := (hasHalves_between hos (o := x) (by simp)).2
      exact absurd (congrArg Range.start hsame') (hhalves.filled.trans_le hhalves.apart).ne
    · -- The second bracket closes one that opens behind the first.
      obtain ⟨u, v, rfl, -, hsame, rfl⟩ := exists_of_filter_eq hfound
      have hpair' : ofOccurrences x second ∈ d.pairs literals Delimiter.all := by
        refine mem_pairs_of_mem_bracketsWithin ?_ (hmem x (by simp))
        have hparts : before ++ first :: (u ++ x :: v ++ second :: after) = before ++ first :: u ++ x :: (v ++ second :: after) := by
          simp
        rw [hos, hparts]
        rw [← alike_congr hsame] at halike hback
        exact mem_bracketsWithin_of_balanced hx hsecond halike hback
      have hsame' : x.range = first.range := congrArg Pair.opening (eq_of_mem_pairs_closing hpair' hpair rfl)
      have hhalves := (hasHalves_between hos (o := x) (by simp)).1
      exact absurd (congrArg Range.start hsame') (hhalves.filled.trans_le hhalves.apart).ne'
  · intro hbalanced
    refine mem_pairs_of_mem_bracketsWithin ?_ hopens
    rw [hos]
    exact mem_bracketsWithin_of_balanced hfirst hsecond halike hbalanced

/-- Every pair that is not of a symmetric delimiter joins an opening and a later closing bracket of one name and context. -/
theorem exists_brackets_of_mem_pairs (h : pair ∈ d.pairs literals wanted) (hbracket : pair.delimiter.isSymmetric = false) :
    ∃ before first between second after, d.occurrences.flatten = before ++ first :: (between ++ second :: after) ∧
      (first.side = .opening ∧ second.side = .closing) ∧ alike (d.contexts literals) first second = true ∧
      pair = ofOccurrences first second := by
  obtain ⟨first, second, ⟨before, between, after, hos⟩, hsides, ⟨hname, hcontext⟩, rfl⟩ :=
    exists_of_mem_bracketsWithin (by simp) (pairwise_split _) (mem_bracketsWithin_of_mem_pairs h hbracket)
  exact ⟨before, first, between, second, after, hos, hsides, alike_iff.2 ⟨hname.symm, hcontext.symm⟩, rfl⟩

/-- An occurrence that stands behind one bracket and before another one is between them. -/
theorem mem_between (hos : d.occurrences.flatten = before ++ first :: (between ++ second :: after))
    (ho : o ∈ d.occurrences.flatten) (hbehind : first.range.stop ≤ o.range.start) (hwithin : o.range.stop ≤ second.range.start) :
    o ∈ between := by
  have hfilled := filled_of_mem_occurrences ho
  have hordered := d.pairwise_occurrences
  rw [hos, List.pairwise_append, List.pairwise_cons, List.pairwise_append, List.pairwise_cons] at hordered
  obtain ⟨-, ⟨-, -, ⟨hsecond, -⟩, -⟩, hbefore⟩ := hordered
  rw [hos] at ho
  simp only [List.mem_append, List.mem_cons] at ho
  rcases ho with ho | rfl | ho | rfl | ho
  · have hle := (hbefore o ho first (List.mem_cons_self ..)).apart
    exact absurd (hle.trans (first.range.start_le_stop.trans hbehind)) (not_le_of_gt hfilled)
  · exact absurd hbehind (not_le_of_gt hfilled)
  · exact ho
  · exact absurd hwithin (not_le_of_gt hfilled)
  · have hle := (hsecond o ho).apart
    exact absurd (hwithin.trans (second.range.start_le_stop.trans hle)) (not_le_of_gt hfilled)

/-- Of two pairs of one name and context, the one that begins between the halves of the other ends there as well. -/
theorem closing_within (ha : a ∈ d.pairs literals Delimiter.all) (hb : b ∈ d.pairs literals Delimiter.all)
    (hbracket : a.delimiter.isSymmetric = false) (hbracket' : b.delimiter.isSymmetric = false)
    (hname : b.delimiter.name = a.delimiter.name)
    (hcontext : contextOf (d.contexts literals) b.opening = contextOf (d.contexts literals) a.opening)
    (hbehind : a.opening.stop ≤ b.opening.start) (hwithin : b.opening.stop ≤ a.closing.start) :
    b.closing.stop ≤ a.closing.start := by
  obtain ⟨before, first, between, second, after, hos, ⟨hfirst, hsecond⟩, halike, rfl⟩ := exists_brackets_of_mem_pairs ha hbracket
  obtain ⟨before', inner, between', second', after', hos', ⟨hinner, -⟩, -, rfl⟩ := exists_brackets_of_mem_pairs hb hbracket'
  have hmem (o : Occurrence) (ho : o ∈ between) : o ∈ d.occurrences.flatten := by
    rw [hos]
    simp [ho]
  have hsame : alike (d.contexts literals) first inner = true := alike_iff.2 ⟨hname, hcontext⟩
  obtain ⟨u, v, rfl⟩ := List.append_of_mem (mem_between hos (by rw [hos']; simp) hbehind hwithin)
  have hbalanced := (mem_pairs_iff_balanced hos hfirst hsecond halike).1 ha
  rw [List.filter_append, List.filter_cons_of_pos hsame] at hbalanced
  have hopens : first ∈ d.occurrences.flatten := by rw [hos]; simp
  have hsides : ∀ y ∈ v.filter (alike (d.contexts literals) first), y.side ≠ .either := by
    intro y hy
    obtain ⟨hv, hy⟩ := List.mem_filter.1 hy
    exact side_of_alike hopens (by simp [hfirst]) (hmem y (by simp [hv])) hy
  have hword : ∀ y ∈ u.filter (alike (d.contexts literals) first) ++ inner :: v.filter (alike (d.contexts literals) first),
      alike (d.contexts literals) first y = true := by
    rw [← List.filter_cons_of_pos hsame, ← List.filter_append]
    exact fun y hy => (List.mem_filter.1 hy).2
  obtain ⟨front, closing, back, hfound, hfront, hclosing⟩ := hbalanced.exists_closing hword hsides hinner
  obtain ⟨u', v', rfl, rfl, hsame', -⟩ := exists_of_filter_eq hfound
  -- What opens within the other pair is closed there, and nothing else is paired with it.
  rw [← alike_congr hsame] at hsame' hfront
  have hparts : before ++ first :: (u ++ inner :: (u' ++ closing :: v') ++ second :: after) =
      before ++ first :: u ++ inner :: (u' ++ closing :: (v' ++ second :: after)) := by simp
  have hpair := (mem_pairs_iff_balanced (hos.trans hparts) hinner hclosing hsame').2 hfront
  have hends : closing.range = second'.range := congrArg Pair.closing (eq_of_mem_pairs hpair hb rfl)
  have hwithin' := (hasHalves_between hos (o := closing) (by simp)).2.apart
  exact (congrArg Range.stop hends).symm.le.trans hwithin'

/-- Two pairs of one name and context are apart, or one lies between the halves of the other. -/
theorem apart_or_within (ha : a ∈ d.pairs literals Delimiter.all) (hb : b ∈ d.pairs literals Delimiter.all)
    (hbracket : a.delimiter.isSymmetric = false) (hbracket' : b.delimiter.isSymmetric = false)
    (hname : b.delimiter.name = a.delimiter.name)
    (hcontext : contextOf (d.contexts literals) b.opening = contextOf (d.contexts literals) a.opening) (hne : a ≠ b)
    (hbehind : a.opening.stop ≤ b.opening.start) :
    a.domain.stop ≤ b.domain.start ∨ a.interior.contains b.domain = true := by
  have hahalves := hasHalves_of_mem_pairs ha
  have hbhalves := hasHalves_of_mem_pairs hb
  rw [hahalves.edges_domain.2, hbhalves.edges_domain.1]
  rcases apart_of_ne ha hb hne a.closing (by simp) b.opening (by simp) with hle | hle
  · exact Or.inl hle
  · right
    rw [Range.contains, decide_eq_true_iff, hahalves.edges_interior.1, hahalves.edges_interior.2, hbhalves.edges_domain.1,
      hbhalves.edges_domain.2]
    exact ⟨hbehind, closing_within ha hb hbracket hbracket' hname hcontext hbehind hle⟩

/-! ## The text of a pair -/

/-- The text of a pair is that of its opening, of what is between the halves, and of its closing. -/
theorem textIn_domain (h : pair.HasHalves d) :
    d.textIn pair.domain = d.textIn pair.opening ++ d.textIn pair.interior ++ d.textIn pair.closing := by
  have hopening := d.offsetAt_mono pair.opening.start_le_stop
  have hinterior := d.offsetAt_mono h.apart
  have hclosing := d.offsetAt_mono pair.closing.start_le_stop
  rw [textIn, textIn, textIn, textIn, h.edges_domain.1, h.edges_domain.2, h.edges_interior.1, h.edges_interior.2,
    h.closing.start.boundary.sliceUnits_eq (hopening.trans hinterior) hclosing,
    h.opening.stop.boundary.sliceUnits_eq hopening hinterior]

/-- The halves of a pair have the texts of its delimiter. -/
theorem textIn_halves (h : pair ∈ d.pairs literals wanted) :
    d.textIn pair.opening = pair.delimiter.opening ∧ d.textIn pair.closing = pair.delimiter.closing := by
  obtain ⟨first, hfirst, second, hsecond, hfits, -, rfl⟩ := exists_of_mem_pairs h
  have htext {o : Occurrence} (ho : o ∈ d.occurrences.flatten) : d.textIn o.range = o.delimiter.textOf o.side := by
    obtain ⟨l, hl, ho⟩ := exists_line_of_mem_occurrences ho
    exact Occurrence.textIn_of_mem_onLine hl ho
  have hsame : second.delimiter = first.delimiter := Delimiter.eq_of_name_eq _ (delimiter_of_mem_occurrences hsecond).1 _
    (delimiter_of_mem_occurrences hfirst).1 hfits.name.symm
  rw [ofOccurrences, htext hfirst, htext hsecond, hsame]
  rcases hfits.sides with ⟨hopening, hclosing⟩ | ⟨heither, heither'⟩
  · rw [hopening, hclosing]
    exact ⟨rfl, rfl⟩
  · rw [heither, heither']
    have hsymmetric := (delimiter_of_mem_occurrences hfirst).2.1 heither
    exact ⟨rfl, beq_iff_eq.1 hsymmetric⟩

/-- An occurrence is a half of one pair at most. -/
theorem length_filter_halves (ho : o ∈ d.occurrences.flatten) :
    ((d.pairs literals wanted).filter fun pair => pair.opening = o.range ∨ pair.closing = o.range).length ≤ 1 := by
  have hfilled := filled_of_mem_occurrences ho
  have hapart := (d.pairwise_pairs literals wanted).filter fun pair => pair.opening = o.range ∨ pair.closing = o.range
  have hhalf : ∀ pair ∈ (d.pairs literals wanted).filter fun pair => pair.opening = o.range ∨ pair.closing = o.range,
      o.range ∈ [pair.opening, pair.closing] := by
    intro pair hpair
    rcases of_decide_eq_true (List.mem_filter.1 hpair).2 with hopening | hclosing
    · rw [hopening]
      exact List.mem_cons_self ..
    · rw [hclosing]
      exact List.mem_cons_of_mem _ (List.mem_cons_self ..)
  generalize (d.pairs literals wanted).filter _ = pairs at hapart hhalf
  match pairs, hapart, hhalf with
  | [], _, _ => exact Nat.zero_le _
  | [_], _, _ => exact le_refl _
  | a :: b :: pairs, hapart, hhalf =>
    have hab := List.rel_of_pairwise_cons hapart (List.mem_cons_self ..)
    have hle := hab o.range (hhalf a (by simp)) o.range (hhalf b (by simp))
    exact absurd hfilled (not_lt_of_ge (or_self_iff.1 hle))

/-- In a document an occurrence is a half of one pair at most, and the halves of a pair are apart, with what is between them.
Brackets that open and close are paired exactly when those of their name and context between them are a balanced word, and no
others are. Two pairs of one name and context never cross. -/
theorem pairs_balanced (d : Document) (literals : Option (List Range)) :
    let pairs := d.pairs literals Delimiter.all
    let contexts := d.contexts literals
    (∀ o ∈ d.occurrences.flatten, (pairs.filter fun pair => pair.opening = o.range ∨ pair.closing = o.range).length ≤ 1) ∧
      (∀ pair ∈ pairs, pair.opening.stop ≤ pair.closing.start ∧
        (d.textIn pair.opening = pair.delimiter.opening ∧ d.textIn pair.closing = pair.delimiter.closing) ∧
        d.textIn pair.domain = d.textIn pair.opening ++ d.textIn pair.interior ++ d.textIn pair.closing) ∧
      (∀ before first between second after, d.occurrences.flatten = before ++ first :: (between ++ second :: after) →
        first.side = .opening → second.side = .closing → alike contexts first second = true →
        (ofOccurrences first second ∈ pairs ↔ Balanced (between.filter (alike contexts first)))) ∧
      (∀ pair ∈ pairs, pair.delimiter.isSymmetric = false →
        ∃ before first between second after, d.occurrences.flatten = before ++ first :: (between ++ second :: after) ∧
          (first.side = .opening ∧ second.side = .closing) ∧ alike contexts first second = true ∧
          pair = ofOccurrences first second) ∧
      ∀ a ∈ pairs, ∀ b ∈ pairs, a.delimiter.isSymmetric = false → b.delimiter.name = a.delimiter.name →
        contextOf contexts b.opening = contextOf contexts a.opening →
        a = b ∨ a.domain.stop ≤ b.domain.start ∨ b.domain.stop ≤ a.domain.start ∨
          a.interior.contains b.domain = true ∨ b.interior.contains a.domain = true := by
  intro pairs contexts
  refine ⟨fun o ho => length_filter_halves ho, ?_, ?_, fun pair h => exists_brackets_of_mem_pairs h, ?_⟩
  · intro pair h
    have hhalves := hasHalves_of_mem_pairs h
    exact ⟨hhalves.apart, textIn_halves h, textIn_domain hhalves⟩
  · intro before first between second after hos hfirst hsecond halike
    exact mem_pairs_iff_balanced hos hfirst hsecond halike
  · intro a ha b hb hbracket hname hcontext
    have hbracket' : b.delimiter.isSymmetric = false := by
      obtain ⟨first, hfirst, second, -, -, -, rfl⟩ := exists_of_mem_pairs ha
      obtain ⟨first', hfirst', second', -, -, -, rfl⟩ := exists_of_mem_pairs hb
      have hsame := Delimiter.eq_of_name_eq _ (delimiter_of_mem_occurrences hfirst').1 _
        (delimiter_of_mem_occurrences hfirst).1 hname
      exact (congrArg Delimiter.isSymmetric hsame).trans hbracket
    by_cases hne : a = b
    · exact Or.inl hne
    · refine Or.inr ?_
      rcases apart_of_ne ha hb hne a.opening (by simp) b.opening (by simp) with hle | hle
      · rcases apart_or_within ha hb hbracket hbracket' hname hcontext hne hle with hapart | hwithin
        · exact Or.inl hapart
        · exact Or.inr (Or.inr (Or.inl hwithin))
      · rcases apart_or_within hb ha hbracket' hbracket hname.symm hcontext.symm (Ne.symm hne) hle with hapart | hwithin
        · exact Or.inr (Or.inl hapart)
        · exact Or.inr (Or.inr (Or.inr hwithin))

/-- A parenthesis that opens within a string is passed over by those around it, and the pair behind the string is within theirs. -/
theorem pairs_balanced_around_string :
    let d : Document := .new ⟨1⟩ "plaintext" ['(', '"', '(', '"', '(', ')', ')']
    let parentheses : Delimiter := ⟨"parentheses", ['('], [')'], false⟩
    let outer : Pair := ⟨parentheses, .onLine 0 0 1, .onLine 0 6 7⟩
    let inner : Pair := ⟨parentheses, .onLine 0 4 5, .onLine 0 5 6⟩
    let pairs := d.pairs none Delimiter.all
    (outer ∈ pairs ∧ inner ∈ pairs) ∧
      (pairs.filter fun pair => pair.opening = .onLine 0 6 7 ∨ pair.closing = .onLine 0 6 7).length ≤ 1 ∧
      d.textIn outer.domain = d.textIn outer.opening ++ d.textIn outer.interior ++ d.textIn outer.closing ∧
      (outer = inner ∨ outer.domain.stop ≤ inner.domain.start ∨ inner.domain.stop ≤ outer.domain.start ∨
        outer.interior.contains inner.domain = true ∨ inner.interior.contains outer.domain = true) := by
  intro d parentheses outer inner pairs
  let doubleQuotes : Delimiter := ⟨"doubleQuotes", ['"'], ['"'], true⟩
  let opens (column : Nat) : Occurrence := ⟨parentheses, .opening, .onLine 0 column (column + 1)⟩
  let closes (column : Nat) : Occurrence := ⟨parentheses, .closing, .onLine 0 column (column + 1)⟩
  let quote (column : Nat) : Occurrence := ⟨doubleQuotes, .either, .onLine 0 column (column + 1)⟩
  have hopening (t : Text) : Delimiter.startOf? 0 ('(' :: t) = some (parentheses, .opening, ['(']) := rfl
  have hclosing (t : Text) : Delimiter.startOf? 0 (')' :: t) = some (parentheses, .closing, [')']) := rfl
  have hquote (t : Text) : Delimiter.startOf? 0 ('"' :: t) = some (doubleQuotes, .either, ['"']) := rfl
  have hlines : d.lines = [⟨0, ['(', '"', '(', '"', '(', ')', ')'], []⟩] := by cbv
  have hoccurrences : d.occurrences = [[opens 0, quote 1, opens 2, quote 3, opens 4, closes 5, closes 6]] := by
    simp only [Document.occurrences, hlines, List.map_cons, List.map_nil, Occurrence.onLine, Occurrence.scanFrom, hopening,
      hclosing, hquote, List.length_cons, List.length_nil, List.drop_zero, Nat.sub_self, Nat.zero_add]
    decide
  have hflatten : d.occurrences.flatten = [opens 0, quote 1, opens 2, quote 3, opens 4, closes 5, closes 6] := by
    rw [hoccurrences]
    rfl
  have hcontexts : d.contexts none = [.onLine 0 1 4] := by
    rw [contexts, hoccurrences]
    decide
  obtain ⟨honce, hhalves, hpaired, -, hcross⟩ := pairs_balanced d none
  have houter : outer ∈ pairs := by
    refine (hpaired [] (opens 0) [quote 1, opens 2, quote 3, opens 4, closes 5] (closes 6) [] hflatten rfl rfl ?_).2 ?_
    · rw [hcontexts]
      decide
    · rw [hcontexts]
      exact @Balanced.enclose (opens 4) (closes 5) [] [] rfl rfl .nil .nil
  have hinner : inner ∈ pairs := by
    refine (hpaired [opens 0, quote 1, opens 2, quote 3] (opens 4) [] (closes 5) [closes 6] hflatten rfl rfl ?_).2 .nil
    rw [hcontexts]
    decide
  have hlast : closes 6 ∈ d.occurrences.flatten := by
    rw [hflatten]
    decide
  have hsame : contextOf (d.contexts none) inner.opening = contextOf (d.contexts none) outer.opening := by
    rw [hcontexts]
    decide
  exact ⟨⟨houter, hinner⟩, honce _ hlast, (hhalves outer houter).2.2, hcross outer houter inner hinner (by decide) rfl hsame⟩

end Document

end StructuralEditing
