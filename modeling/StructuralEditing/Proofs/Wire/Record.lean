import StructuralEditing.Proofs.Json.RoundTrip

/-!
# Records are read as they are written

What is looked up in a record is the last value that was written for the key, each part of a record nests less deep than the
record, and a record is the only value of its text if its parts are.
-/

namespace StructuralEditing

namespace Json

variable {fields : List (String × Json)} {items : List Json} {tag : String} {j v : Json}

/-! ## Parts nest less deep -/

theorem depth_le_of_mem_items (h : v ∈ items) : v.depth ≤ depthOfItems items := by
  induction items with
  | nil => cases h
  | cons w items ih =>
    rw [depthOfItems]
    rcases List.mem_cons.1 h with rfl | h
    · exact Nat.le_max_left ..
    · exact (ih h).trans (Nat.le_max_right ..)

theorem depth_le_of_mem_fields {name : String} (h : (name, v) ∈ fields) : v.depth ≤ depthOfFields fields := by
  induction fields with
  | nil => cases h
  | cons f fields ih =>
    rw [depthOfFields]
    rcases List.mem_cons.1 h with rfl | h
    · exact Nat.le_max_left ..
    · exact (ih h).trans (Nat.le_max_right ..)

/-- The items of an array nest less deep than the array. -/
theorem depth_lt_array (h : v ∈ items) : v.depth < (array items).depth :=
  Nat.lt_succ_of_le (depth_le_of_mem_items h)

/-- The value of a field nests less deep than the record. -/
theorem depth_lt_ofFields (fields : List (String × Json)) (name : String) (h : Fields.get? name fields.reverse = some v) :
    v.depth < (ofFields fields).depth := by
  rw [← Fields.get?_ofList] at h
  exact Nat.lt_succ_of_le (depth_le_of_mem_fields (Fields.mem_of_get? h))

theorem depth_lt_withTag (fields : List (String × Json)) (name : String)
    (h : Fields.get? name (("type", .string tag) :: fields).reverse = some v) : v.depth < (withTag tag fields).depth :=
  depth_lt_ofFields _ name h

/-! ## Parts are looked up -/

@[simp] theorem record?_ofFields (keys : List String) :
    (ofFields fields).record? keys = some (keys.map fun key => Fields.get? key fields.reverse) := by
  simp only [ofFields, record?, Fields.get?_ofList]

@[simp] theorem namedRecord?_ofFields (keys : List String) :
    (ofFields fields).namedRecord? keys = some (keys.map fun key => Fields.get? key fields.reverse) := by
  simp only [ofFields, namedRecord?, Fields.get?_ofList]

@[simp] theorem field?_ofFields (name : String) : (ofFields fields).field? name = Fields.get? name fields.reverse :=
  Fields.get?_ofList fields

@[simp] theorem string?_string (s : String) : (Json.string s).string? = some s := rfl

@[simp] theorem bool?_bool (b : Bool) : (Json.bool b).bool? = some b := rfl

@[simp] theorem optional_none {α : Type} (decode : Json → Option α) : optional decode none = some none := rfl

@[simp] theorem optional_string {α : Type} (decode : Json → Option α) (s : String) :
    optional decode (some (.string s)) = (decode (.string s)).map some := rfl

@[simp] theorem optional_array {α : Type} (decode : Json → Option α) (items : List Json) :
    optional decode (some (.array items)) = (decode (.array items)).map some := rfl

@[simp] theorem orDefault_none {α : Type} (decode : Json → Option α) (d : α) : orDefault decode d none = some d := rfl

@[simp] theorem orDefault_some {α : Type} (decode : Json → Option α) (d : α) (v : Json) :
    orDefault decode d (some v) = decode v := rfl

/-- A record with a tag has it, if its fields have no other. -/
theorem get?_type (hfields : Fields.get? "type" fields.reverse = none) :
    Fields.get? "type" (Fields.ofList (("type", Json.string tag) :: fields)) = some (.string tag) := by
  rw [Fields.get?_ofList, List.reverse_cons, Fields.get?_append, hfields]
  rfl

/-- A record with a tag is read with its tag. -/
theorem tagged?_withTag {names : List String} (isNested : Bool) (htag : tag ∈ names)
    (hfields : Fields.get? "type" fields.reverse = none) :
    (withTag tag fields).tagged? names isNested = some (tag, withTag tag fields) := by
  simp [withTag, ofFields, tagged?, get?_type hfields, htag]

/-! ## Records are exact -/

theorem exact_ofFields (h : ∀ f ∈ fields, f.2.Exact) : (ofFields fields).Exact :=
  .object (Fields.ascending_ofList fields) fun f hf => h f (Fields.mem_ofList hf)

theorem exact_withTag (h : ∀ f ∈ fields, f.2.Exact) : (withTag tag fields).Exact :=
  exact_ofFields (List.forall_mem_cons.2 ⟨.string tag, h⟩)

theorem exact_nat {n : Nat} (h : n < 2 ^ 64) : (Json.nat n).Exact := .int ⟨by omega, by omega⟩

theorem exact_int {i : Int} (h : -2 ^ 63 ≤ i ∧ i < 2 ^ 63) : (Json.int i).Exact := .int ⟨by omega, by omega⟩

/-! ## Numbers and lists -/

theorem nat?_nat {n : Nat} (h : n < 2 ^ 64) : (Json.nat n).nat? = some n := by
  simp only [nat?, Json.nat, int?, Option.filter_some, Int.natCast_nonneg, decide_true, if_true, Option.map_some,
    Int.toNat_natCast, Nat.pow_eq, h]

theorem lt_of_nat? {n : Nat} (h : j.nat? = some n) : n < 2 ^ 64 :=
  of_decide_eq_true (Option.filter_eq_some_iff.1 h).2

theorem signed?_int {i : Int} (h : -2 ^ 63 ≤ i ∧ i < 2 ^ 63) : (Json.int i).signed? = some i := by
  simp only [signed?, Json.int, int?, Option.filter_some, Nat.pow_eq, Nat.cast_pow, Nat.cast_ofNat, h, and_self, decide_true,
    if_true]

theorem bounds_of_signed? {i : Int} (h : j.signed? = some i) : -2 ^ 63 ≤ i ∧ i < 2 ^ 63 := by
  simpa only [Nat.pow_eq, Nat.cast_pow, Nat.cast_ofNat] using of_decide_eq_true (Option.filter_eq_some_iff.1 h).2

/-- A number that may be missing fits if the one that stands for it does. -/
theorem lt_of_orDefault_nat? {n d : Nat} {field : Option Json} (h : orDefault nat? d field = some n) (hd : d < 2 ^ 64) :
    n < 2 ^ 64 := by
  cases field with
  | none => exact Option.some.inj h ▸ hd
  | some v => exact lt_of_nat? h

variable {α : Type} {decode : Json → Option α} {encode : α → Json} {xs : List α}

/-- Values that are decoded from what they are encoded as are read from an array of it. -/
theorem list?_array (h : ∀ x ∈ xs, decode (encode x) = some x) : (array (xs.map encode)).list? decode = some xs := by
  rw [list?, List.mapM_map]
  induction xs with
  | nil => rfl
  | cons x xs ih =>
    rw [List.mapM_cons, Function.comp_apply, h x (.head _), ih fun y hy => h y (.tail _ hy)]
    rfl

/-- Each value of a list has been decoded. -/
theorem exists_of_mem_list? (h : j.list? decode = some xs) {x : α} (hx : x ∈ xs) : ∃ v, decode v = some x := by
  obtain ⟨items, rfl⟩ : ∃ items, j = array items := by
    cases j with
    | array items => exact ⟨items, rfl⟩
    | _ => cases h
  rw [list?] at h
  induction items generalizing xs with
  | nil =>
    cases h
    cases hx
  | cons v items ih =>
    rw [List.mapM_cons] at h
    obtain ⟨y, hy, h⟩ := Option.bind_eq_some_iff.1 h
    obtain ⟨ys, hys, h⟩ := Option.bind_eq_some_iff.1 h
    obtain rfl := Option.some.inj h
    rcases List.mem_cons.1 hx with rfl | hx
    · exact ⟨v, hy⟩
    · exact ih hx hys

/-- Each value of a list that may be missing has been decoded. -/
theorem exists_of_mem_optional_list? {field : Option Json} {found : Option (List α)}
    (h : optional (list? decode) field = some found) (hxs : xs ∈ found) {x : α} (hx : x ∈ xs) : ∃ v, decode v = some x := by
  unfold optional at h
  split at h
  · cases h
    cases hxs
  · cases h
    cases hxs
  · obtain ⟨ys, hys, rfl⟩ := Option.map_eq_some_iff.1 h
    obtain rfl := Option.some.inj hxs
    exact exists_of_mem_list? hys hx

theorem exists_of_mem_orDefault_list? {field : Option Json} (h : orDefault (list? decode) [] field = some xs) {x : α}
    (hx : x ∈ xs) : ∃ v, decode v = some x := by
  cases field with
  | none =>
    obtain rfl := Option.some.inj h
    cases hx
  | some v => exact exists_of_mem_list? h hx

/-! ## Records with tags -/

variable {names : List String} {ofRecord? : (Json → Option α) → String → Json → Option α} {x : α} {isNested : Bool}

/-- What holds of all that a record says, if it holds of what is decoded within it, holds of all that is decoded. -/
theorem of_ofTagged? {P : α → Prop}
    (hrecord : ∀ decode, (∀ v x, decode v = some x → P x) → ∀ tag j x, ofRecord? decode tag j = some x → P x)
    (h : j.ofTagged? names ofRecord? isNested = some x) : P x := by
  have hwithin (bound : Nat) (isNested : Bool) (j : Json) (x : α)
      (h : ofTaggedWithin? names ofRecord? bound isNested j = some x) : P x := by
    induction bound generalizing isNested j x with
    | zero => cases h
    | succ bound ih =>
      obtain ⟨found, -, hfound⟩ := Option.bind_eq_some_iff.1 h
      exact hrecord _ (fun v x hx => ih true v x hx) _ _ _ hfound
  exact hwithin _ _ _ _ h

/-- A value is decoded to another one within every bound that it stays within. -/
def Decodes (names : List String) (ofRecord? : (Json → Option α) → String → Json → Option α) (j : Json) (x : α) : Prop :=
  ∀ bound, j.depth ≤ bound → ∀ isNested, ofTaggedWithin? names ofRecord? (bound + 1) isNested j = some x

theorem Decodes.ofTagged? (h : Decodes names ofRecord? j x) (isNested : Bool) :
    j.ofTagged? names ofRecord? isNested = some x := h j.depth (Nat.le_refl _) isNested

/-- A record with a tag is decoded as its fields say, where what nests less deep is decoded already. -/
theorem Decodes.withTag (htag : tag ∈ names) (hfields : Fields.get? "type" fields.reverse = none)
    (h : ∀ decode : Json → Option α,
      (∀ v y, v.depth < (withTag tag fields).depth → Decodes names ofRecord? v y → decode v = some y) →
        ofRecord? decode tag (.withTag tag fields) = some x) :
    Decodes names ofRecord? (.withTag tag fields) x := by
  intro bound hbound isNested
  rw [ofTaggedWithin?, tagged?_withTag isNested htag hfields]
  refine h _ fun v y hv hy => ?_
  obtain ⟨b, rfl⟩ : ∃ b, bound = b + 1 := ⟨bound - 1, by omega⟩
  exact hy b (by omega) true

end Json

end StructuralEditing
