import Mathlib.Data.List.TakeWhile
import Mathlib.Data.Nat.Digits.Defs
import StructuralEditing.Json.Basic
import StructuralEditing.Json.Token

/-!
# What is written is cut into tokens

Numbers and strings are read back from what is written for them: the digits of an integer of 64 bits
(`JsonNumber.ofLexeme?_writeNumber`), and the characters of a string with their escapes (`JsonToken.readString_escape`). A text
that is cut into certain tokens wherever it stands (`JsonToken.Cuts`) can be put together with others and with commas between them.
-/

namespace StructuralEditing

namespace JsonNumber

/-- An integer from -2^63 up to 2^64 - 1: one that is read as an integer. -/
def Fits (i : Int) : Prop := -2 ^ 63 ≤ i ∧ i < 2 ^ 64

/-! ## Digits -/

/-- Digits only add to a number. -/
theorem le_ofDigitChars (digits : List Char) (n : Nat) : n ≤ Nat.ofDigitChars 10 digits n := by
  induction digits generalizing n with
  | nil => exact Nat.le_refl n
  | cons c digits ih =>
    rw [Nat.ofDigitChars_cons]
    have := ih (10 * n + (c.toNat - '0'.toNat))
    omega

/-- The digits of a number that fits 64 bits are all kept. -/
theorem foldl_add (digits : List Char) {n : Nat} (h : Nat.ofDigitChars 10 digits n < 2 ^ 64) :
    digits.foldl (fun s c => s.add c 0 1) ⟨n, 0, false⟩ = (⟨Nat.ofDigitChars 10 digits n, 0, false⟩ : Significand) := by
  induction digits generalizing n with
  | nil => rfl
  | cons c digits ih =>
    rw [Nat.ofDigitChars_cons] at h ⊢
    have hkept := Nat.lt_of_le_of_lt (le_ofDigitChars digits _) h
    have hadd : (⟨n, 0, false⟩ : Significand).add c 0 1 = ⟨10 * n + (c.toNat - '0'.toNat), 0, false⟩ := by
      simpa [Significand.add] using hkept
    rw [List.foldl_cons, hadd]
    exact ih h

/-- The digits of a number write it. -/
theorem ofWhole_toDigits {n : Nat} (h : n < 2 ^ 64) : Significand.ofWhole (Nat.toDigits 10 n) = ⟨n, 0, false⟩ := by
  have hdigits := foldl_add (Nat.toDigits 10 n) (n := 0) (by rwa [Nat.ofDigitChars_ten_toDigits])
  rwa [Nat.ofDigitChars_ten_toDigits] at hdigits

/-- The first digit of a number other than zero is not zero. -/
theorem head?_toDigits_ne_zero {n : Nat} (h : n ≠ 0) : (Nat.toDigits 10 n).head? ≠ some '0' := by
  induction n using Nat.strong_induction_on with
  | _ n ih =>
    rw [Nat.toDigits_eq_if (by omega)]
    split
    · simpa using h
    · have := ih (n / 10) (by omega) (by omega)
      cases hrest : Nat.toDigits 10 (n / 10) with
      | nil => exact absurd hrest Nat.toDigits_ne_nil
      | cons c rest => simpa [hrest] using this

/-- The digits of a number are a whole part. -/
theorem isWhole_toDigits (n : Nat) : isWhole (Nat.toDigits 10 n) = true := by
  rcases eq_or_ne n 0 with rfl | hn
  · rfl
  · have hall : (Nat.toDigits 10 n).all Char.isDigit = true :=
      List.all_eq_true.2 fun c hc => Nat.isDigit_of_mem_toDigits (by omega) (by omega) hc
    have hhead := head?_toDigits_ne_zero hn
    unfold isWhole
    split
    · rename_i h
      exact absurd h Nat.toDigits_ne_nil
    · rfl
    · rename_i h
      simp [h] at hhead
    · exact hall

/-- The digits of a number that fits 64 bits are read as the number. -/
theorem ofUnsigned?_toDigits (negative : Bool) {n : Nat} (h : n < 2 ^ 64) :
    ofUnsigned? negative (Nat.toDigits 10 n) = ofInteger? negative ⟨n, 0, false⟩ := by
  have hall : ∀ c ∈ Nat.toDigits 10 n, c.isDigit = true :=
    fun c hc => Nat.isDigit_of_mem_toDigits (by omega) (by omega) hc
  simp [ofUnsigned?, List.takeWhile_eq_self_iff.2 hall, List.dropWhile_eq_nil_iff.2 hall, isWhole_toDigits,
    ofWhole_toDigits h]

/-- How an integer is written: its digits, with a sign before them if it is negative. -/
theorem toList_writeNumber_int (i : Int) :
    (Json.writeNumber (.int i)).toList =
      if 0 ≤ i then Nat.toDigits 10 i.toNat else '-' :: Nat.toDigits 10 (-i).toNat := by
  rw [Json.writeNumber, Int.toString_eq_repr, Int.repr_eq_if]
  split
  · exact Nat.toList_repr
  · rw [String.toList_append, Nat.toList_repr]
    rfl

/-- An integer that fits is read back from what is written for it. -/
theorem ofLexeme?_writeNumber {i : Int} (h : Fits i) : ofLexeme? (Json.writeNumber (.int i)).toList = some (.int i) := by
  obtain ⟨hlow, hhigh⟩ := h
  rw [toList_writeNumber_int]
  split
  · rename_i hsign
    have hlexeme : ofLexeme? (Nat.toDigits 10 i.toNat) = ofUnsigned? false (Nat.toDigits 10 i.toNat) := by
      unfold ofLexeme?
      split
      · rename_i rest heq
        have := Nat.isDigit_of_mem_toDigits (b := 10) (n := i.toNat) (c := '-') (by omega) (by omega) (by simp [heq])
        simp at this
      · rfl
    rw [hlexeme, ofUnsigned?_toDigits false (by omega)]
    simp [ofInteger?, hsign]
  · rename_i hsign
    rw [ofLexeme?, ofUnsigned?_toDigits true (by omega)]
    have hzero : ((-i).toNat == 0) = false := beq_false_of_ne (by omega)
    have hbound : ¬ Nat.pow 2 63 < (-i).toNat := by
      have : Nat.pow 2 63 = 2 ^ 63 := rfl
      omega
    have hvalue : -((-i).toNat : Int) = i := by omega
    simp only [ofInteger?, hzero, decide_eq_false hbound, Bool.or_false, Bool.and_false, Bool.false_eq_true, if_false, if_true,
      hvalue]

/-- An integer is written with the characters of numbers. -/
theorem isNumberChar_of_mem_writeNumber {i : Int} {c : Char} (h : c ∈ (Json.writeNumber (.int i)).toList) :
    isNumberChar c = true := by
  have hdigit {n : Nat} (h : c ∈ Nat.toDigits 10 n) : isNumberChar c = true := by
    simp [isNumberChar, Nat.isDigit_of_mem_toDigits (by omega) (by omega) h]
  rw [toList_writeNumber_int] at h
  split at h
  · exact hdigit h
  · rcases List.mem_cons.1 h with rfl | h
    · rfl
    · exact hdigit h

end JsonNumber

namespace JsonToken

/-! ## Strings -/

/-- Four characters with a readable string behind them are hexadecimal digits if an escape by number stands before them. -/
theorem hex4?_of_readString {a b c d : Char} {cs : List Char} {r : List Char × List Char}
    (h : readString ('\\' :: 'u' :: a :: b :: c :: d :: cs) = some r) : ∃ n, hex4? a b c d = some n := by
  cases hhex : hex4? a b c d with
  | some n => exact ⟨n, rfl⟩
  | none =>
    rw [readString.eq_def] at h
    split at h <;> simp_all <;> grind

/-- An escape by number is read as the character of the number, and what follows it as it is without the escape. -/
theorem readString_unicode {a b c d : Char} {cs : List Char} {n : Nat} {r : List Char × List Char}
    (hhex : hex4? a b c d = some n) (hn : n < 0xD800) (hcs : readString cs = some r) :
    readString ('\\' :: 'u' :: a :: b :: c :: d :: cs) = some (Char.ofNat n :: r.1, r.2) := by
  rw [readString.eq_def]
  split
  case h_3 _ _ _ _ _ _ _ _ _ heq =>
    -- What follows is another escape by number, which the first is no half of.
    simp only [List.cons.injEq, true_and] at heq
    obtain ⟨rfl, rfl, rfl, rfl, rfl⟩ := heq
    obtain ⟨low, hlow⟩ := hex4?_of_readString hcs
    have hhigh : ¬ (0xD800 ≤ n ∧ n < 0xDC00) := by omega
    have hlone : ¬ (0xDC00 ≤ n ∧ n < 0xE000) := by omega
    simp only [hhex, hlow, hhigh, hlone, if_false, hcs, Option.map_some]
  all_goals grind

/-- The number of a control character in hexadecimal digits. -/
theorem hex4?_control {c : Char} (h : c.toNat < 0x20) :
    hex4? '0' '0' (Json.hexDigit (c.toNat / 16)) (Json.hexDigit c.toNat) = some c.toNat := by
  have hall : ∀ n < 0x20, hex4? '0' '0' (Json.hexDigit (n / 16)) (Json.hexDigit n) = some n := by decide
  exact hall c.toNat h

/-- A character is read back from what is written for it in a string. -/
theorem readString_escape (c : Char) {cs : List Char} {r : List Char × List Char} (h : readString cs = some r) :
    readString (Json.escape c ++ cs) = some (c :: r.1, r.2) := by
  have hletter (e : Char) (he : e ≠ 'u') : readString ('\\' :: e :: cs) = (escape? e).map fun c => (c :: r.1, r.2) := by
    rw [readString.eq_def]
    split <;> grind
  unfold Json.escape
  split_ifs with hquote hslash hfeed hreturn htab hcontrol
  · rw [hquote]
    exact hletter '"' (by decide)
  · rw [hslash]
    exact hletter '\\' (by decide)
  · rw [hfeed]
    exact hletter 'n' (by decide)
  · rw [hreturn]
    exact hletter 'r' (by decide)
  · rw [htab]
    exact hletter 't' (by decide)
  · have hread := readString_unicode (hex4?_control hcontrol) (by omega) h
    rwa [Char.ofNat_toNat] at hread
  · have hplain : ¬ c.toNat < 0x20 := hcontrol
    rw [List.singleton_append, readString.eq_def]
    split <;> grind

/-- A string is read back from what is written for it. -/
theorem readString_quote (s : List Char) (cs : List Char) : readString (s.flatMap Json.escape ++ '"' :: cs) = some (s, cs) := by
  induction s with
  | nil => rw [List.flatMap_nil, List.nil_append, readString]
  | cons c s ih =>
    rw [List.flatMap_cons, List.append_assoc]
    exact readString_escape c ih

/-! ## Texts in tokens -/

/-- A token at the beginning of a text comes first among its tokens. -/
theorem readAll_of_readOne {cs rest : List Char} {token : JsonToken} (h : readOne cs = some (token, rest)) :
    readAll cs = (readAll rest).map (token :: ·) := by
  cases cs with
  | nil => cases h
  | cons c cs =>
    have hspace : isSpace c = false := by
      by_contra hspace
      simp only [isSpace, Bool.not_eq_false, Bool.or_eq_true, beq_iff_eq] at hspace
      rcases hspace with ((rfl | rfl) | rfl) | rfl <;> cases h
    rw [readAll, hspace]
    simp only [Bool.false_eq_true, if_false]
    split
    · rename_i token' rest' h'
      obtain ⟨rfl, rfl⟩ := Prod.mk.inj (Option.some.inj (h.symm.trans h'))
      rfl
    · rename_i h'
      cases h.symm.trans h'

/-- A number is read as far as its characters go. -/
theorem readOne_number {c : Char} {rest : List Char} (h : JsonNumber.isNumberChar c = true) :
    readOne (c :: rest) =
      (JsonNumber.ofLexeme? (c :: rest.takeWhile JsonNumber.isNumberChar)).map fun n =>
        (scalar (.number n), rest.dropWhile JsonNumber.isNumberChar) := by
  unfold readOne
  split
  case h_11 => simp_all
  all_goals simp_all [JsonNumber.isNumberChar]

/-- A text that does not go on with a character of numbers. -/
def EndsNumber (rest : List Char) : Prop := ∀ c ∈ rest.head?, JsonNumber.isNumberChar c = false

/-- A text is cut into tokens, whatever follows it that does not go on with a number. -/
def Cuts (text : List Char) (tokens : List JsonToken) : Prop :=
  ∀ rest, EndsNumber rest → readAll (text ++ rest) = (readAll rest).map (tokens ++ ·)

namespace Cuts

variable {text more : List Char} {tokens others : List JsonToken}

theorem nil : Cuts [] [] := fun rest _ => by simp

/-- A text that is read as one token whatever follows it. -/
theorem one {token : JsonToken} (h : ∀ rest, EndsNumber rest → readOne (text ++ rest) = some (token, rest)) :
    Cuts text [token] := fun rest hrest => readAll_of_readOne (h rest hrest)

/-- Two texts are cut one after the other. -/
theorem append (h : Cuts text tokens) (hmore : Cuts more others) (hends : EndsNumber more) :
    Cuts (text ++ more) (tokens ++ others) := by
  intro rest hrest
  have hends' : EndsNumber (more ++ rest) := by
    cases more with
    | nil => exact hrest
    | cons c more => exact hends
  rw [List.append_assoc, h _ hends', hmore rest hrest, Option.map_map]
  congr 1
  funext ts
  exact (List.append_assoc ..).symm

/-- A bracket or separator before a text is one token more. -/
theorem cons {c : Char} {token : JsonToken} (hc : ∀ rest, readOne (c :: rest) = some (token, rest))
    (hmore : Cuts more others) : Cuts (c :: more) (token :: others) := by
  intro rest hrest
  rw [List.cons_append, readAll_of_readOne (hc _), hmore rest hrest, Option.map_map]
  rfl

/-- Texts with commas between them are cut one after the other. -/
theorem intercalate {α : Type} {text : α → List Char} {tokens : α → List JsonToken} {as : List α}
    (h : ∀ a ∈ as, Cuts (text a) (tokens a)) :
    Cuts ([','].intercalate (as.map text)) ([comma].intercalate (as.map tokens)) := by
  induction as with
  | nil => exact nil
  | cons a as ih =>
    cases as with
    | nil => simpa using h a (.head _)
    | cons b as =>
      have hrest := ih fun a ha => h a (.tail _ ha)
      have hends : EndsNumber (',' :: [','].intercalate ((b :: as).map text)) := by
        intro c hc
        cases hc
        rfl
      have happend := (h a (.head _)).append (cons (fun _ => rfl) hrest) hends
      simpa only [List.map_cons, List.intercalate_cons_cons, List.append_assoc, List.singleton_append] using happend

/-- A string in quotes is one token. -/
theorem quote (s : String) : Cuts (Json.quote s) [scalar (.string s)] := by
  refine one fun rest _ => ?_
  have hread := readString_quote s.toList rest
  simp only [Json.quote, List.cons_append, List.append_assoc, List.nil_append, readOne, hread, Option.map_some, String.ofList_toList]

/-- An integer that fits is one token. -/
theorem int {i : Int} (h : JsonNumber.Fits i) : Cuts (Json.writeNumber (.int i)).toList [scalar (.number (.int i))] := by
  refine one fun rest hrest => ?_
  have hlexeme := JsonNumber.ofLexeme?_writeNumber h
  have hchars : ∀ c ∈ (Json.writeNumber (.int i)).toList, JsonNumber.isNumberChar c = true :=
    fun c hc => JsonNumber.isNumberChar_of_mem_writeNumber hc
  have htake : rest.takeWhile JsonNumber.isNumberChar = [] := by
    cases rest with
    | nil => rfl
    | cons c rest => simp [hrest c rfl]
  have hdrop : rest.dropWhile JsonNumber.isNumberChar = rest := by
    cases rest with
    | nil => rfl
    | cons c rest => simp [hrest c rfl]
  cases htext : (Json.writeNumber (.int i)).toList with
  | nil =>
    rw [htext] at hlexeme
    cases hlexeme
  | cons c text =>
    rw [htext] at hlexeme hchars
    have htext : ∀ d ∈ text, JsonNumber.isNumberChar d = true := fun d hd => hchars d (.tail _ hd)
    rw [List.cons_append, readOne_number (hchars c (.head _)), List.takeWhile_append_of_pos htext,
      List.dropWhile_append_of_pos htext, htake, hdrop, List.append_nil, hlexeme]
    rfl

end Cuts

end JsonToken

end StructuralEditing
