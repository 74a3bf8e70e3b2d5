import StructuralEditing.Json.Reader
import StructuralEditing.Proofs.Fields
import StructuralEditing.Proofs.Json.Tokens
import StructuralEditing.Wire.Record

/-!
# What is written is read back

The text of a value is cut into the tokens of the value (`Json.cuts_write`), and from these the automaton puts the value together
again (`Json.run_tokens`). So a value is read back from its text unless it nests too deep, and then its text is refused
(`Json.read?_write`).
-/

namespace StructuralEditing

namespace Json

/-- A value that is the only one of its text: its integers fit, it holds no other numbers, and its fields are in order. -/
inductive Exact : Json → Prop where
  | null : Exact .null
  | bool (value : Bool) : Exact (.bool value)
  | int {i : Int} (h : JsonNumber.Fits i) : Exact (.number (.int i))
  | string (value : String) : Exact (.string value)
  | array {items : List Json} (h : ∀ v ∈ items, Exact v) : Exact (.array items)
  | object {fields : List (String × Json)} (hascending : Fields.Ascending fields) (h : ∀ f ∈ fields, Exact f.2) :
    Exact (.object fields)

/-! ## The tokens of a value -/

mutual

/-- The tokens of a value. -/
def tokens : Json → List JsonToken
  | .array items => .beginArray :: ([.comma].intercalate (tokensOfItems items) ++ [.endArray])
  | .object fields => .beginObject :: ([.comma].intercalate (tokensOfFields fields) ++ [.endObject])
  | v => [.scalar v]

/-- The tokens of each of several values. -/
def tokensOfItems : List Json → List (List JsonToken)
  | [] => []
  | v :: vs => tokens v :: tokensOfItems vs

/-- The tokens of each of several fields. -/
def tokensOfFields : List (String × Json) → List (List JsonToken)
  | [] => []
  | (k, v) :: fields => (.scalar (.string k) :: .colon :: tokens v) :: tokensOfFields fields

end

theorem tokensOfItems_eq (items : List Json) : tokensOfItems items = items.map tokens := by
  induction items with
  | nil => rfl
  | cons v vs ih => rw [tokensOfItems, ih, List.map_cons]

theorem tokensOfFields_eq (fields : List (String × Json)) :
    tokensOfFields fields = fields.map fun f => .scalar (.string f.1) :: .colon :: tokens f.2 := by
  induction fields with
  | nil => rfl
  | cons f fields ih => rw [tokensOfFields, ih, List.map_cons]

theorem writeItems_eq (items : List Json) : writeItems items = [','].intercalate (items.map write) := by
  induction items with
  | nil => rfl
  | cons v vs ih =>
    cases vs with
    | nil => simp [writeItems]
    | cons w vs => simp [writeItems, ih]

theorem writeFields_eq (fields : List (String × Json)) :
    writeFields fields = [','].intercalate (fields.map fun f => quote f.1 ++ ':' :: write f.2) := by
  induction fields with
  | nil => rfl
  | cons f fields ih =>
    cases fields with
    | nil => simp [writeFields]
    | cons g fields => simp [writeFields, ih]

/-- The text of a value is cut into its tokens. -/
theorem cuts_write {j : Json} (h : j.Exact) : JsonToken.Cuts j.write j.tokens := by
  induction h with
  | null => exact .one fun rest _ => rfl
  | bool b => cases b <;> exact .one fun rest _ => rfl
  | int h => exact .int h
  | string s => exact .quote s
  | array h ih =>
    rw [write, tokens, writeItems_eq, tokensOfItems_eq, List.cons_append]
    exact .cons (fun _ => rfl) (.append (.intercalate ih) (.one fun rest _ => rfl) (by rintro c ⟨⟩; rfl))
  | object hascending h ih =>
    rw [write, tokens, writeFields_eq, tokensOfFields_eq, List.cons_append]
    refine .cons (fun _ => rfl) (.append (.intercalate fun f hf => ?_) (.one fun rest _ => rfl) (by rintro c ⟨⟩; rfl))
    exact .append (.quote f.1) (.cons (fun _ => rfl) (ih f hf)) (by rintro c ⟨⟩; rfl)

/-! ## What the automaton does with tokens -/

open JsonState

variable {frames : List JsonFrame} {items : List Json} {fields : List (String × Json)} {name : String}
  {more : List JsonToken}

theorem run_beginArray :
    run ⟨frames, .value⟩ (.beginArray :: more) =
      if frames.length < maxDepth then run ⟨.array [] :: frames, .firstItem⟩ more else none := by
  simp only [run, step, valueStep, begin]
  split_ifs <;> rfl

theorem run_beginObject :
    run ⟨frames, .value⟩ (.beginObject :: more) =
      if frames.length < maxDepth then run ⟨.object [] "" :: frames, .firstName⟩ more else none := by
  simp only [run, step, valueStep, begin]
  split_ifs <;> rfl

theorem run_comma_array :
    run ⟨.array items :: frames, .separator⟩ (.comma :: more) = run ⟨.array items :: frames, .value⟩ more := rfl

theorem run_comma_object :
    run ⟨.object fields name :: frames, .separator⟩ (.comma :: more) = run ⟨.object fields name :: frames, .name⟩ more := rfl

theorem run_endArray :
    run ⟨.array items :: frames, .separator⟩ (.endArray :: more) = run (complete (.array items.reverse) frames) more := rfl

theorem run_endObject :
    run ⟨.object fields name :: frames, .separator⟩ (.endObject :: more) = run (complete (.object fields) frames) more := rfl

/-- Where an array has just begun a value is read as anywhere else. -/
theorem run_firstItem (j : Json) :
    run ⟨frames, .firstItem⟩ (j.tokens ++ more) = run ⟨frames, .value⟩ (j.tokens ++ more) := by
  cases j <;> simp [tokens, run, step, endStep]

/-! ## The value of its tokens -/

/-- The automaton puts a value together from its tokens, and refuses them if the value nests too deep where it stands. -/
def Assembles (j : Json) : Prop := ∀ frames, frames.length ≤ maxDepth → ∀ more,
  run ⟨frames, .value⟩ (j.tokens ++ more) =
    if frames.length + j.depth ≤ maxDepth then run (complete j frames) more else none

/-- An item is put before the items of its array that have been read. -/
theorem run_item {v : Json} (h : v.Assembles) (hframes : frames.length < maxDepth) :
    run ⟨.array items :: frames, .value⟩ (v.tokens ++ more) =
      if frames.length + 1 + v.depth ≤ maxDepth then run ⟨.array (v :: items) :: frames, .separator⟩ more else none :=
  h (.array items :: frames) hframes more

/-- The items of an array are put together one after the other. -/
theorem run_items {vs : List Json} (hne : vs ≠ []) (h : ∀ v ∈ vs, v.Assembles) (hframes : frames.length < maxDepth) :
    run ⟨.array items :: frames, .value⟩ ([.comma].intercalate (vs.map tokens) ++ .endArray :: more) =
      if frames.length + 1 + depthOfItems vs ≤ maxDepth then run (complete (.array (items.reverse ++ vs)) frames) more
      else none := by
  induction vs generalizing items with
  | nil => exact absurd rfl hne
  | cons v vs ih =>
    have hv := h v (.head _)
    rcases eq_or_ne vs [] with rfl | hvs
    · rw [List.map_singleton, List.intercalate_singleton, run_item hv hframes, run_endArray, List.reverse_cons]
      simp only [depthOfItems, Nat.max_zero]
    · have hrest := @ih (v :: items) hvs fun u hu => h u (.tail _ hu)
      rw [List.map_cons, List.intercalate_cons_of_ne_nil (by simpa using hvs), List.append_assoc, List.append_assoc,
        run_item hv hframes, List.singleton_append, run_comma_array, hrest, depthOfItems, List.reverse_cons, List.append_assoc,
        List.singleton_append]
      split_ifs <;> first | rfl | omega

/-- A field is put behind the fields of its object that have been read. -/
theorem run_field {f : String × Json} (h : f.2.Assembles) (hbehind : ∀ g ∈ fields, g.1 < f.1)
    (hframes : frames.length < maxDepth) :
    run ⟨.object fields name :: frames, .name⟩ (.scalar (.string f.1) :: .colon :: f.2.tokens ++ more) =
      if frames.length + 1 + f.2.depth ≤ maxDepth then run ⟨.object (fields ++ [f]) f.1 :: frames, .separator⟩ more
      else none := by
  have hv := h (.object fields f.1 :: frames) hframes more
  rw [complete, Fields.put_of_forall_lt hbehind] at hv
  exact hv

/-- The fields of an object are put together one after the other. -/
theorem run_fields {fs : List (String × Json)} (hne : fs ≠ []) (h : ∀ f ∈ fs, f.2.Assembles)
    (hascending : Fields.Ascending (fields ++ fs)) (hframes : frames.length < maxDepth) :
    run ⟨.object fields name :: frames, .name⟩
        ([.comma].intercalate (fs.map fun f => .scalar (.string f.1) :: .colon :: tokens f.2) ++ .endObject :: more) =
      if frames.length + 1 + depthOfFields fs ≤ maxDepth then run (complete (.object (fields ++ fs)) frames) more
      else none := by
  induction fs generalizing fields name with
  | nil => exact absurd rfl hne
  | cons f fs ih =>
    have hf := h f (.head _)
    have hbehind : ∀ g ∈ fields, g.1 < f.1 := fun g hg => (List.pairwise_append.1 hascending).2.2 g hg f (.head _)
    rcases eq_or_ne fs [] with rfl | hfs
    · rw [List.map_singleton, List.intercalate_singleton, run_field hf hbehind hframes, run_endObject]
      simp only [depthOfFields, Nat.max_zero]
    · have hrest := @ih (fields ++ [f]) f.1 hfs (fun g hg => h g (.tail _ hg)) (by rwa [List.append_assoc])
      rw [List.map_cons, List.intercalate_cons_of_ne_nil (by simpa using hfs), List.append_assoc, List.append_assoc,
        run_field hf hbehind hframes, List.singleton_append, run_comma_object, hrest, depthOfFields, List.append_assoc,
        List.singleton_append]
      split_ifs <;> first | rfl | omega

/-- What stands between commas begins with the first of it. -/
theorem exists_intercalate_cons {α : Type} (separator l : List α) (ls : List (List α)) :
    ∃ rest, separator.intercalate (l :: ls) = l ++ rest := by
  rcases eq_or_ne ls [] with rfl | hls
  · exact ⟨[], by rw [List.intercalate_singleton, List.append_nil]⟩
  · exact ⟨_, by rw [List.intercalate_cons_of_ne_nil hls, List.append_assoc]⟩

/-- An array that has just begun is put together from the tokens of its items. -/
theorem run_begunArray {vs : List Json} (h : ∀ v ∈ vs, v.Assembles) (hframes : frames.length < maxDepth) :
    run ⟨.array [] :: frames, .firstItem⟩ ([.comma].intercalate (vs.map tokens) ++ .endArray :: more) =
      if frames.length + 1 + depthOfItems vs ≤ maxDepth then run (complete (.array vs) frames) more else none := by
  cases vs with
  | nil => exact (if_pos hframes).symm
  | cons v vs =>
    have hitems := @run_items frames [] more _ (List.cons_ne_nil v vs) h hframes
    obtain ⟨rest, hrest⟩ := exists_intercalate_cons [JsonToken.comma] v.tokens (vs.map tokens)
    rw [List.map_cons, hrest, List.append_assoc] at hitems ⊢
    rwa [run_firstItem]

/-- An object that has just begun is put together from the tokens of its fields. -/
theorem run_begunObject {fs : List (String × Json)} (h : ∀ f ∈ fs, f.2.Assembles) (hascending : Fields.Ascending fs)
    (hframes : frames.length < maxDepth) :
    run ⟨.object [] "" :: frames, .firstName⟩
        ([.comma].intercalate (fs.map fun f => .scalar (.string f.1) :: .colon :: tokens f.2) ++ .endObject :: more) =
      if frames.length + 1 + depthOfFields fs ≤ maxDepth then run (complete (.object fs) frames) more else none := by
  cases fs with
  | nil => exact (if_pos hframes).symm
  | cons f fs =>
    have hfields := @run_fields frames [] "" more _ (List.cons_ne_nil f fs) h hascending hframes
    obtain ⟨rest, hrest⟩ := exists_intercalate_cons [JsonToken.comma] (.scalar (.string f.1) :: .colon :: f.2.tokens)
      (fs.map fun f => .scalar (.string f.1) :: .colon :: tokens f.2)
    rw [List.map_cons, hrest, List.append_assoc] at hfields ⊢
    -- The first name is read as any other.
    exact hfields

/-- A value is put together from its tokens. -/
theorem assembles {j : Json} (h : j.Exact) : j.Assembles := by
  -- A value that holds no others is read in one step, and nests no deeper than where it stands.
  have hscalar {v : Json} (htokens : v.tokens = [.scalar v]) (hdepth : v.depth = 0) : v.Assembles := by
    intro frames hframes more
    rw [htokens, hdepth, Nat.add_zero, if_pos hframes]
    rfl
  induction h with
  | null | bool | int | string => exact hscalar rfl rfl
  | array h ih =>
    intro frames _ more
    rw [tokens, tokensOfItems_eq, List.cons_append, List.append_assoc, List.singleton_append, run_beginArray, depth]
    by_cases hlt : frames.length < maxDepth
    · rw [if_pos hlt, run_begunArray ih hlt, Nat.add_right_comm, Nat.add_assoc]
    · rw [if_neg hlt, if_neg (by omega)]
  | object hascending h ih =>
    intro frames _ more
    rw [tokens, tokensOfFields_eq, List.cons_append, List.append_assoc, List.singleton_append, run_beginObject, depth]
    by_cases hlt : frames.length < maxDepth
    · rw [if_pos hlt, run_begunObject ih hascending hlt, Nat.add_right_comm, Nat.add_assoc]
    · rw [if_neg hlt, if_neg (by omega)]

/-- A value is read back from its text, unless it nests too deep; then its text is refused. -/
theorem read?_write {j : Json} (h : j.Exact) : read? j.write = if j.depth ≤ maxDepth then some j else none := by
  have htokens : JsonToken.readAll j.write = some j.tokens := by
    have hcuts := cuts_write h [] (fun c hc => by cases hc)
    rwa [List.append_nil, JsonToken.readAll, Option.map_some, List.append_nil] at hcuts
  have hrun := assembles h [] (Nat.zero_le _) []
  rw [List.append_nil, List.length_nil, Nat.zero_add] at hrun
  rw [read?, htokens]
  simp only [Option.bind_eq_bind, Option.bind_some, initial, hrun]
  split_ifs <;> rfl

end Json

end StructuralEditing
