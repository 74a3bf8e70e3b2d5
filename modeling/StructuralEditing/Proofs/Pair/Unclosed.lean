import StructuralEditing.Proofs.Pair.Halves

/-!
# Quotes that are left open

The quotes of a line are paired from left to right, and at each place at most one of them is open (`Pair.quoteBehind`). While one
is open the quotes of other names are passed over. So every quote in front of a place where none is open stands within a pair
(`Pair.within_of_quoteBehind`), and where one is open those before it do, for none is open in front of it
(`Pair.exists_of_quoteBehind`).

A quote in no pair is passed over or is left open itself. Where it is passed over the pairs are the same without it. Where it is
left open there is no pair behind it, though there may be some without it (`Occurrence.quotes_append_iff_of_unpaired`).
-/

namespace StructuralEditing

namespace Pair

variable {os before front back after rest : List Occurrence} {o first second : Occurrence} {pair : Pair}

/-- Whether an occurrence closes a quote that is open. -/
def closes (first o : Occurrence) : Bool := o.delimiter.isQuote && o.delimiter.name == first.delimiter.name

/-- The quote that is open behind one more occurrence. -/
def quoteNext : Option Occurrence → Occurrence → Option Occurrence
  | none, o => if o.delimiter.isQuote then some o else none
  | some first, o => if closes first o then none else some first

/-- The quote that is open behind some occurrences. -/
def quoteBehind (openOne : Option Occurrence) (os : List Occurrence) : Option Occurrence := os.foldl quoteNext openOne

theorem quoteBehind_concat (openOne : Option Occurrence) (os : List Occurrence) (o : Occurrence) :
    quoteBehind openOne (os ++ [o]) = quoteNext (quoteBehind openOne os) o :=
  List.foldl_concat _ _ _ _

/-- What is paired goes on behind some occurrences with the quote that is open there. -/
theorem quotes_append (openOne : Option Occurrence) (os os' : List Occurrence) :
    quotes openOne (os ++ os') = quotes openOne os ++ quotes (quoteBehind openOne os) os' := by
  induction openOne, os using quotes.induct with
  | case1 openOne =>
    rw [quotes]
    rfl
  | case2 o os ih =>
    rw [List.cons_append, quotes, ih, quotes]
    rfl
  | case3 first o os hsame ih =>
    rw [List.cons_append, quotes, if_pos hsame, ih, quotes, if_pos hsame, List.cons_append, quoteBehind, quoteBehind,
      List.foldl_cons, quoteNext, closes, if_pos hsame]
  | case4 first o os hother ih =>
    rw [List.cons_append, quotes, if_neg hother, ih, quotes, if_neg hother, quoteBehind, quoteBehind, List.foldl_cons, quoteNext,
      closes, if_neg hother]

/-! ## A quote that is open -/

/-- A quote is closed by the next one of its name. -/
theorem quotes_closed (hback : ∀ o ∈ back, closes first o = false) (hsecond : closes first second = true) :
    quotes (some first) (back ++ second :: rest) = ofOccurrences first second :: quotes none rest := by
  induction back with
  | nil => rw [List.nil_append, quotes, ← closes, if_pos hsecond]
  | cons o back ih =>
    obtain ⟨ho, hback⟩ := List.forall_mem_cons.1 hback
    rw [List.cons_append, quotes, ← closes, ho, if_neg Bool.false_ne_true, ih hback]

/-- With none of its name behind it nothing is paired. -/
theorem quotes_left (hos : ∀ o ∈ os, closes first o = false) : quotes (some first) os = [] := by
  induction os with
  | nil => rw [quotes]
  | cons o os ih =>
    obtain ⟨ho, hos⟩ := List.forall_mem_cons.1 hos
    rw [quotes, ← closes, ho, if_neg Bool.false_ne_true, ih hos]

/-- Behind a place where none is open, a quote that is closed makes a pair. -/
theorem quotes_append_closed (hfront : quoteBehind none front = none) (hfirst : first.delimiter.isQuote = true)
    (hback : ∀ o ∈ back, closes first o = false) (hsecond : closes first second = true) :
    quotes none (front ++ first :: (back ++ second :: rest)) =
      quotes none front ++ ofOccurrences first second :: quotes none rest := by
  rw [quotes_append, hfront, quotes, if_pos hfirst, quotes_closed hback hsecond]

/-- One that is left open makes none, and there is none behind it. -/
theorem quotes_append_left (hfront : quoteBehind none front = none) (hfirst : first.delimiter.isQuote = true)
    (hos : ∀ o ∈ os, closes first o = false) : quotes none (front ++ first :: os) = quotes none front := by
  rw [quotes_append, hfront, quotes, if_pos hfirst, quotes_left hos, List.append_nil]

/-- The first occurrence that closes a quote, if there is one. -/
theorem left_or_closed (first : Occurrence) (os : List Occurrence) : (∀ o ∈ os, closes first o = false) ∨
    ∃ back second rest, os = back ++ second :: rest ∧ (∀ o ∈ back, closes first o = false) ∧ closes first second = true := by
  cases hfound : os.find? (closes first) with
  | none => exact Or.inl (by simpa using hfound)
  | some second =>
    obtain ⟨hsecond, back, rest, hos, hback⟩ := List.find?_eq_some_iff_append.1 hfound
    exact Or.inr ⟨back, second, rest, hos, by simpa using hback, hsecond⟩

/-- No quotes are paired just if the first of them has none of its name behind it. -/
theorem quotes_eq_nil_iff : quotes none os = [] ↔
    ∀ first rest, os.filter (fun o => o.delimiter.isQuote) = first :: rest →
      ∀ second ∈ rest, second.delimiter.name ≠ first.delimiter.name := by
  induction os with
  | nil => simp [quotes]
  | cons o os ih =>
    rw [quotes, List.filter_cons]
    split
    · have hrest : (∀ second ∈ os.filter (fun o => o.delimiter.isQuote), second.delimiter.name ≠ o.delimiter.name) ↔
          ∀ second ∈ os, closes o second = false := by
        simp [closes]
      rcases left_or_closed o os with hleft | ⟨back, second, rest, rfl, hback, hsecond⟩
      · rw [quotes_left hleft]
        refine iff_of_true rfl ?_
        rintro _ _ ⟨rfl, rfl⟩
        exact hrest.2 hleft
      · rw [quotes_closed hback hsecond]
        refine iff_of_false (List.cons_ne_nil _ _) ?_
        intro hnone
        have hleft := hrest.1 (hnone o _ rfl) second (by simp)
        rw [hleft] at hsecond
        cases hsecond
    · exact ih

/-- The quote that is open stands where none is open in front of it, and nothing behind it closes it. -/
theorem exists_of_quoteBehind (h : quoteBehind none os = some first) : ∃ front back, os = front ++ first :: back ∧
    quoteBehind none front = none ∧ first.delimiter.isQuote = true ∧ ∀ o ∈ back, closes first o = false := by
  induction os using List.reverseRecOn with
  | nil => cases h
  | append_singleton os o ih =>
    rw [quoteBehind_concat] at h
    cases hbehind : quoteBehind none os with
    | none =>
      rw [hbehind, quoteNext] at h
      split at h
      · rename_i hquote
        obtain rfl := Option.some.inj h
        exact ⟨os, [], rfl, hbehind, hquote, by simp⟩
      · cases h
    | some first' =>
      rw [hbehind, quoteNext] at h
      split at h
      · cases h
      · rename_i hother
        obtain rfl := Option.some.inj h
        obtain ⟨front, back, rfl, hfront, hquote, hback⟩ := ih hbehind
        refine ⟨front, back ++ [o], by simp, hfront, hquote, ?_⟩
        rw [List.forall_mem_append, List.forall_mem_singleton]
        exact ⟨hback, Bool.eq_false_iff.2 hother⟩

/-! ## What is within a pair -/

/-- A pair has all within it that stands from its one half to its other one. -/
theorem contains_domain (hordered : (before ++ first :: (back ++ second :: after)).Pairwise fun a b => a.range.stop ≤ b.range.start)
    (ho : o ∈ first :: (back ++ [second])) : (ofOccurrences first second).domain.contains o.range = true := by
  rw [List.pairwise_append, List.pairwise_cons, List.pairwise_append, List.pairwise_cons] at hordered
  obtain ⟨-, ⟨hfirst, -, -, hback⟩, -⟩ := hordered
  have hhalves : first.range.stop ≤ second.range.start := hfirst second (by simp)
  have hle : first.range.start ≤ second.range.stop :=
    first.range.start_le_stop.trans (hhalves.trans second.range.start_le_stop)
  rw [domain, ofOccurrences, Range.between_of_le hle, Range.contains, decide_eq_true_iff]
  simp only [List.mem_cons, List.mem_append, List.not_mem_nil, or_false] at ho
  rcases ho with rfl | ho | rfl
  · exact ⟨le_refl _, hhalves.trans second.range.start_le_stop⟩
  · have hbehind := hfirst o (List.mem_append_left _ ho)
    have hwithin := hback o ho second (List.mem_cons_self ..)
    exact ⟨first.range.start_le_stop.trans hbehind, hwithin.trans second.range.start_le_stop⟩
  · exact ⟨first.range.start_le_stop.trans hhalves, le_refl _⟩

/-- Where no quote is open, every one in front stands within a pair. -/
theorem within_of_quoteBehind (hordered : os.Pairwise fun a b => a.range.stop ≤ b.range.start) (h : quoteBehind none os = none)
    (ho : o ∈ os) (hquote : o.delimiter.isQuote = true) : ∃ pair ∈ quotes none os, pair.domain.contains o.range = true := by
  induction hlength : os.length using Nat.strong_induction_on generalizing os with
  | _ n ih =>
    subst hlength
    rcases List.eq_nil_or_concat' os with rfl | ⟨front, x, rfl⟩
    · cases ho
    · have hfront := (List.pairwise_append.1 hordered).1
      rw [quoteBehind_concat] at h
      rw [List.length_append, List.length_singleton] at ih
      cases hbehind : quoteBehind none front with
      | none =>
        rw [hbehind, quoteNext] at h
        split at h
        · cases h
        · rename_i hother
          have ho' : o ∈ front := by
            refine (List.mem_append.1 ho).resolve_right ?_
            intro hlast
            rw [List.mem_singleton.1 hlast] at hquote
            exact hother hquote
          obtain ⟨pair, hpair, hwithin⟩ := ih _ (Nat.lt_succ_self _) hfront hbehind ho' rfl
          rw [quotes_append]
          exact ⟨pair, List.mem_append_left _ hpair, hwithin⟩
      | some first =>
        -- The last occurrence closes the open quote, and what is in front of the open one is shorter.
        rw [hbehind, quoteNext] at h
        split at h
        · rename_i hcloses
          obtain ⟨front, back, rfl, hnone, hfirst, hback⟩ := exists_of_quoteBehind hbehind
          have hparts : front ++ first :: back ++ [x] = front ++ first :: (back ++ [x]) := by simp
          rw [hparts] at ho hordered ⊢
          rw [quotes_append_closed hnone hfirst hback hcloses]
          rcases List.mem_append.1 ho with ho | ho
          · have hlt : front.length < (front ++ first :: back).length + 1 := by
              rw [List.length_append]
              omega
            obtain ⟨pair, hpair, hwithin⟩ := ih _ hlt (List.pairwise_append.1 hordered).1 hnone ho rfl
            exact ⟨pair, List.mem_append_left _ hpair, hwithin⟩
          · exact ⟨_, List.mem_append_right _ (List.mem_cons_self ..), contains_domain hordered ho⟩
        · cases h

/-- What stands behind some quotes is within none of their pairs. -/
theorem not_contains_of_mem_quotes (hordered : (before ++ o :: after).Pairwise fun a b => a.range.stop ≤ b.range.start)
    (hfilled : o.range.start < o.range.stop) (h : pair ∈ quotes none before) : pair.domain.contains o.range = false := by
  obtain ⟨hbefore, -, hbehind⟩ := List.pairwise_append.1 hordered
  have hboth := hbefore.imp_of_mem (S := fun a b => b ∈ before ∧ a.range.stop ≤ b.range.start) fun _ hb hab => ⟨hb, hab⟩
  obtain ⟨first, second, ⟨hsecond, hle⟩, -, -, rfl⟩ := exists_of_mem_quotes (by simp) hboth h
  rw [Range.contains, decide_eq_false_iff_not, domain, ofOccurrences,
    Range.between_of_le (first.range.start_le_stop.trans (hle.trans second.range.start_le_stop))]
  rintro ⟨-, hstop⟩
  exact absurd (hstop.trans (hbehind second hsecond o (List.mem_cons_self ..))) (not_le_of_gt hfilled)

/-! ## A quote in no pair -/

/-- Where no quote is open, one in no pair is left open itself, and there is no pair behind it. -/
theorem quotes_of_unpaired (hbehind : quoteBehind none before = none) (hquote : o.delimiter.isQuote = true)
    (hunpaired : ∀ pair ∈ quotes none (before ++ o :: after), pair.opening ≠ o.range ∧ pair.closing ≠ o.range) :
    quotes none (before ++ o :: after) = quotes none before := by
  rcases left_or_closed o after with hleft | ⟨back, second, rest, rfl, hback, hsecond⟩
  · exact quotes_append_left hbehind hquote hleft
  · rw [quotes_append_closed hbehind hquote hback hsecond] at hunpaired
    exact absurd rfl (hunpaired (ofOccurrences o second) (by simp)).1

/-- Where a quote is open, one in no pair does not close it. -/
theorem closes_of_unpaired (hbehind : quoteBehind none before = some first)
    (hunpaired : ∀ pair ∈ quotes none (before ++ o :: after), pair.opening ≠ o.range ∧ pair.closing ≠ o.range) :
    closes first o = false := by
  rw [Bool.eq_false_iff]
  intro hcloses
  rw [quotes_append, hbehind, quotes, ← closes, if_pos hcloses] at hunpaired
  exact absurd rfl (hunpaired (ofOccurrences first o) (by simp)).2

/-- What does not close the open quote is within its pair, or the quote is left open and within none. -/
theorem within_or_left (hordered : (before ++ o :: after).Pairwise fun a b => a.range.stop ≤ b.range.start)
    (hfilled : ∀ x ∈ before ++ o :: after, x.range.start < x.range.stop) (hbehind : quoteBehind none before = some first)
    (hother : closes first o = false) :
    (∃ pair ∈ quotes none (before ++ o :: after), pair.domain.contains o.range = true) ∨
      ∃ first ∈ before, first.delimiter.isQuote = true ∧
        ∀ pair ∈ quotes none (before ++ o :: after), pair.domain.contains first.range = false := by
  obtain ⟨front, back, rfl, hnone, hfirst, hback⟩ := exists_of_quoteBehind hbehind
  rcases left_or_closed first after with hleft | ⟨middle, second, rest, rfl, hmiddle, hsecond⟩
  · refine Or.inr ⟨first, by simp, hfirst, ?_⟩
    have hunclosed : ∀ x ∈ back ++ o :: after, closes first x = false := by
      rw [List.forall_mem_append, List.forall_mem_cons]
      exact ⟨hback, hother, hleft⟩
    rw [List.append_assoc, List.cons_append] at hordered hfilled ⊢
    rw [quotes_append_left hnone hfirst hunclosed]
    exact fun pair hpair => not_contains_of_mem_quotes hordered (hfilled first (by simp)) hpair
  · left
    have hparts : front ++ first :: back ++ o :: (middle ++ second :: rest) =
        front ++ first :: ((back ++ o :: middle) ++ second :: rest) := by simp
    have hunclosed : ∀ x ∈ back ++ o :: middle, closes first x = false := by
      rw [List.forall_mem_append, List.forall_mem_cons]
      exact ⟨hback, hother, hmiddle⟩
    rw [hparts] at hordered ⊢
    refine ⟨ofOccurrences first second, ?_, contains_domain hordered (by simp)⟩
    rw [quotes_append_closed hnone hfirst hunclosed hsecond]
    exact List.mem_append_right _ (List.mem_cons_self ..)

end Pair

namespace Occurrence

open Pair

variable {l : Line} {before after : List Occurrence} {o : Occurrence}

/-- The pairs of quotes on a line stay when a quote in none of them is taken away. More come just if the quote is not within a pair
nor behind another one that is left open, and the first quote behind it has one of its name behind itself. -/
theorem quotes_append_iff_of_unpaired (hos : onLine l = before ++ o :: after) (hquote : o.delimiter.isQuote = true)
    (hunpaired : ∀ pair ∈ quotes none (onLine l), pair.opening ≠ o.range ∧ pair.closing ≠ o.range) :
    quotes none (onLine l) <+: quotes none (before ++ after) ∧
      (quotes none (before ++ after) = quotes none (onLine l) ↔
        (∃ pair ∈ quotes none (onLine l), pair.domain.contains o.range = true) ∨
        (∃ first ∈ before, first.delimiter.isQuote = true ∧
          ∀ pair ∈ quotes none (onLine l), pair.domain.contains first.range = false) ∨
        ∀ first rest, after.filter (fun o => o.delimiter.isQuote) = first :: rest →
          ∀ second ∈ rest, second.delimiter.name ≠ first.delimiter.name) := by
  have hordered : (onLine l).Pairwise fun a b => a.range.stop ≤ b.range.start := pairwise_behind l.number [] l.content
  have hfilled : ∀ x ∈ onLine l, x.range.start < x.range.stop := fun x hx => (filled_of_mem_onLine hx).1
  rw [hos] at hunpaired hordered hfilled ⊢
  cases hbehind : quoteBehind none before with
  | none =>
    rw [quotes_of_unpaired hbehind hquote hunpaired, quotes_append none before after, hbehind, ← quotes_eq_nil_iff,
      List.append_right_eq_self]
    refine ⟨List.prefix_append _ _, fun hnil => Or.inr (Or.inr hnil), ?_⟩
    rintro (⟨pair, hpair, hwithin⟩ | ⟨first, hfirst, hfirstQuote, hnone⟩ | hnil)
    · have hapart := not_contains_of_mem_quotes hordered (hfilled o (by simp)) hpair
      exact absurd hwithin (Bool.eq_false_iff.1 hapart)
    · obtain ⟨pair, hpair, hwithin⟩ := within_of_quoteBehind (List.pairwise_append.1 hordered).1 hbehind hfirst hfirstQuote
      exact absurd hwithin (Bool.eq_false_iff.1 (hnone pair hpair))
    · exact hnil
  | some first =>
    have hother := closes_of_unpaired hbehind hunpaired
    have hpairs : quotes none (before ++ o :: after) = quotes none (before ++ after) := by
      rw [quotes_append, quotes_append, hbehind, quotes, ← closes, hother, if_neg Bool.false_ne_true]
    refine ⟨hpairs ▸ List.prefix_refl _, iff_of_true hpairs.symm ?_⟩
    exact (within_or_left hordered hfilled hbehind hother).imp_right Or.inl

/-- An apostrophe within double quotes: the pair is the same without it. -/
theorem quotes_append_iff_of_unpaired_apostrophe :
    let l : Line := ⟨0, ['"', 'a', '\'', 'b', '"'], []⟩
    let doubleQuotes : Delimiter := ⟨"doubleQuotes", ['"'], ['"'], true⟩
    let singleQuotes : Delimiter := ⟨"singleQuotes", ['\''], ['\''], true⟩
    let before : List Occurrence := [⟨doubleQuotes, .either, .onLine 0 0 1⟩]
    let after : List Occurrence := [⟨doubleQuotes, .either, .onLine 0 4 5⟩]
    onLine l = before ++ ⟨singleQuotes, .either, .onLine 0 2 3⟩ :: after ∧ singleQuotes.isQuote = true ∧
      quotes none (onLine l) = [⟨doubleQuotes, .onLine 0 0 1, .onLine 0 4 5⟩] ∧
      quotes none (before ++ after) = quotes none (onLine l) := by
  intro l doubleQuotes singleQuotes before after
  have hdouble (t : Text) : Delimiter.startOf? 0 ('"' :: t) = some (doubleQuotes, .either, ['"']) := rfl
  have hsingle (t : Text) : Delimiter.startOf? 0 ('\'' :: t) = some (singleQuotes, .either, ['\'']) := rfl
  have ha (t : Text) : Delimiter.startOf? 0 ('a' :: t) = none := rfl
  have hb (t : Text) : Delimiter.startOf? 0 ('b' :: t) = none := rfl
  have hslash : ('a' = '\\') = False ∧ ('b' = '\\') = False := by decide
  have hos : onLine l = before ++ ⟨singleQuotes, .either, .onLine 0 2 3⟩ :: after := by
    simp only [l, onLine, scanFrom, hdouble, hsingle, ha, hb, hslash, if_false, List.length_cons, List.length_nil, List.drop_zero,
      Nat.sub_self, Nat.zero_add]
    decide
  have hpairs : quotes none (onLine l) = [⟨doubleQuotes, .onLine 0 0 1, .onLine 0 4 5⟩] := by
    rw [hos]
    decide
  have hunpaired : ∀ pair ∈ quotes none (onLine l), pair.opening ≠ .onLine 0 2 3 ∧ pair.closing ≠ .onLine 0 2 3 := by
    rw [hpairs]
    decide
  refine ⟨hos, rfl, hpairs, (quotes_append_iff_of_unpaired hos rfl hunpaired).2.2 (Or.inl ?_)⟩
  rw [hpairs]
  exact ⟨_, List.mem_singleton_self _, by decide⟩

/-- An apostrophe that is left open keeps the double quotes behind it from being paired. -/
theorem quotes_append_ne_of_unpaired_apostrophe :
    let l : Line := ⟨0, ['\'', '"', 'a', '"'], []⟩
    let doubleQuotes : Delimiter := ⟨"doubleQuotes", ['"'], ['"'], true⟩
    let apostrophe : Occurrence := ⟨⟨"singleQuotes", ['\''], ['\''], true⟩, .either, .onLine 0 0 1⟩
    let after : List Occurrence := [⟨doubleQuotes, .either, .onLine 0 1 2⟩, ⟨doubleQuotes, .either, .onLine 0 3 4⟩]
    onLine l = apostrophe :: after ∧ apostrophe.delimiter.isQuote = true ∧ quotes none (onLine l) = [] ∧
      quotes none after = [⟨doubleQuotes, .onLine 0 1 2, .onLine 0 3 4⟩] := by
  intro l doubleQuotes apostrophe after
  have hdouble (t : Text) : Delimiter.startOf? 0 ('"' :: t) = some (doubleQuotes, .either, ['"']) := rfl
  have hsingle (t : Text) : Delimiter.startOf? 0 ('\'' :: t) = some (apostrophe.delimiter, .either, ['\'']) := rfl
  have ha (t : Text) : Delimiter.startOf? 0 ('a' :: t) = none := rfl
  have hslash : ('a' = '\\') = False := by decide
  have hos : onLine l = apostrophe :: after := by
    simp only [l, onLine, scanFrom, hdouble, hsingle, ha, hslash, if_false, List.length_cons, List.length_nil, List.drop_zero,
      Nat.sub_self, Nat.zero_add]
    decide
  refine ⟨hos, rfl, ?_, by decide⟩
  rw [hos]
  decide

end Occurrence

end StructuralEditing
