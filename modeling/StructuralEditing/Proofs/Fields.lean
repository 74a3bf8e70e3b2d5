import Mathlib.Data.String.Basic
import StructuralEditing.Fields

/-!
# Named values in order

What a finite map holds after a value is put into it, and that its names stay in ascending order (`Fields.Ascending`).
-/

namespace StructuralEditing.Fields

variable {α : Type} {name other : String} {value : α} {fields : List (String × α)}

/-- Fields in ascending order of their names, each name once. -/
def Ascending (fields : List (String × α)) : Prop := fields.Pairwise fun f g => f.1 < g.1

/-- A field is the one that was put in, or was there before. -/
theorem mem_put {f : String × α} (h : f ∈ put name value fields) : f = (name, value) ∨ f ∈ fields := by
  induction fields with
  | nil => exact .inl (List.mem_singleton.1 h)
  | cons g fields ih =>
    obtain ⟨k, v⟩ := g
    rw [put] at h
    split_ifs at h
    · exact List.mem_cons.1 h
    · exact (List.mem_cons.1 h).imp_right (.tail _)
    · rcases List.mem_cons.1 h with rfl | h
      · exact .inr (.head _)
      · exact (ih h).imp_right (.tail _)

/-- A field of a list in order is one of those it was made of. -/
theorem mem_ofList {f : String × α} (h : f ∈ ofList fields) : f ∈ fields := by
  have hfold (fs acc : List (String × α)) (h : f ∈ fs.foldl (fun acc f => put f.1 f.2 acc) acc) : f ∈ acc ∨ f ∈ fs := by
    induction fs generalizing acc with
    | nil => exact .inl h
    | cons g fs ih =>
      rcases ih _ h with h | h
      · exact (mem_put h).elim (fun h => .inr (h ▸ .head _)) .inl
      · exact .inr (.tail _ h)
  exact (hfold fields [] h).resolve_left List.not_mem_nil

theorem Ascending.put (h : Ascending fields) : Ascending (put name value fields) := by
  induction fields with
  | nil => exact List.pairwise_singleton ..
  | cons g fields ih =>
    obtain ⟨k, v⟩ := g
    obtain ⟨hbehind, hfields⟩ := List.pairwise_cons.1 h
    rw [Fields.put]
    split_ifs with hlt heq
    · refine List.pairwise_cons.2 ⟨fun f hf => ?_, h⟩
      rcases List.mem_cons.1 hf with rfl | hf
      · exact hlt
      · exact hlt.trans (hbehind f hf)
    · exact List.pairwise_cons.2 ⟨fun f hf => heq ▸ hbehind f hf, hfields⟩
    · refine List.pairwise_cons.2 ⟨fun f hf => ?_, ih hfields⟩
      rcases mem_put hf with rfl | hf
      · exact lt_of_le_of_ne (not_lt.1 hlt) (Ne.symm heq)
      · exact hbehind f hf

/-- A list in order is in ascending order. -/
theorem ascending_ofList (fields : List (String × α)) : Ascending (ofList fields) := by
  have hfold (acc : List (String × α)) (h : Ascending acc) :
      Ascending (fields.foldl (fun acc f => Fields.put f.1 f.2 acc) acc) := by
    induction fields generalizing acc with
    | nil => exact h
    | cons f fields ih => exact ih _ h.put
  exact hfold [] .nil

/-! ## Looking up -/

@[simp] theorem get?_nil : get? name ([] : List (String × α)) = none := rfl

@[simp] theorem get?_cons {k : String} {v : α} :
    get? name ((k, v) :: fields) = if name = k then some v else get? name fields := by
  rw [get?, List.lookup_cons]
  by_cases h : name = k
  · simp [h]
  · simp [get?, beq_false_of_ne h, h]

theorem get?_append (front back : List (String × α)) : get? name (front ++ back) = (get? name front).or (get? name back) :=
  List.lookup_append

/-- What is found is there. -/
theorem mem_of_get? (h : get? name fields = some value) : (name, value) ∈ fields := by
  induction fields with
  | nil => cases h
  | cons f fields ih =>
    obtain ⟨k, v⟩ := f
    rw [get?_cons] at h
    split_ifs at h with heq
    · obtain rfl := heq
      obtain rfl := Option.some.inj h
      exact .head _
    · exact .tail _ (ih h)

/-- In a list in ascending order a field is found under its name. -/
theorem get?_of_mem (h : Ascending fields) {field : String × α} (hfield : field ∈ fields) : get? field.1 fields = some field.2 := by
  induction fields with
  | nil => cases hfield
  | cons g fields ih =>
    obtain ⟨k, v⟩ := g
    obtain ⟨hbehind, hfields⟩ := List.pairwise_cons.1 h
    rcases List.mem_cons.1 hfield with rfl | hfield
    · rw [get?_cons, if_pos rfl]
    · rw [get?_cons, if_neg (hbehind field hfield).ne', ih hfields hfield]

/-- A value that is put in is found; the others are found as before. -/
theorem get?_put : get? other (put name value fields) = if other = name then some value else get? other fields := by
  induction fields with
  | nil => simp [put]
  | cons g fields ih =>
    obtain ⟨k, v⟩ := g
    rw [put]
    split_ifs <;> simp_all

/-- In a list in order the last value of a name is found. -/
theorem get?_ofList (fields : List (String × α)) : get? name (ofList fields) = get? name fields.reverse := by
  have hfold (acc : List (String × α)) :
      get? name (fields.foldl (fun acc f => put f.1 f.2 acc) acc) = (get? name fields.reverse).or (get? name acc) := by
    induction fields generalizing acc with
    | nil => rfl
    | cons f fields ih =>
      rw [List.foldl_cons, ih, get?_put, List.reverse_cons, get?_append, Option.or_assoc, get?_cons]
      split_ifs <;> rfl
  rw [ofList, hfold, get?_nil, Option.or_none]

/-! ## Putting in again -/

/-- A field that comes behind all others is put behind them. -/
theorem put_of_forall_lt (h : ∀ f ∈ fields, f.1 < name) : put name value fields = fields ++ [(name, value)] := by
  induction fields with
  | nil => rfl
  | cons g fields ih =>
    have hlt : g.1 < name := h g (.head _)
    rw [put, if_neg hlt.asymm, if_neg hlt.ne', ih fun f hf => h f (.tail _ hf)]
    rfl

/-- To put in what is there already changes nothing. -/
theorem put_of_get? (h : Ascending fields) (hget : get? name fields = some value) : put name value fields = fields := by
  induction fields with
  | nil => cases hget
  | cons g fields ih =>
    obtain ⟨k, v⟩ := g
    obtain ⟨hbehind, hfields⟩ := List.pairwise_cons.1 h
    rw [get?_cons] at hget
    split_ifs at hget with heq
    · obtain rfl := heq
      obtain rfl := Option.some.inj hget
      rw [put, if_neg (lt_irrefl name), if_pos rfl]
    · have hlt : k < name := hbehind _ (mem_of_get? hget)
      rw [put, if_neg hlt.asymm, if_neg heq, ih hfields hget]

/-- Of two values for one name the later one counts. -/
theorem put_put (earlier : α) : put name value (put name earlier fields) = put name value fields := by
  induction fields with
  | nil => simp [put]
  | cons g fields ih =>
    obtain ⟨k, v⟩ := g
    by_cases hlt : name < k
    · simp [put, hlt]
    · by_cases heq : name = k
      · simp [put, heq]
      · simp [put, hlt, heq, ih]

/-! ## Changing values -/

/-- A change that changes none of the values of its names changes nothing. -/
theorem change_eq_self {names : List String} {f : α → α} (h : ∀ field ∈ fields, field.1 ∈ names → f field.2 = field.2) :
    change names f fields = fields := by
  have hfield : ∀ field ∈ fields, (if field.1 ∈ names then (field.1, f field.2) else field) = id field := by
    intro field hfield
    split_ifs with hname
    · rw [h field hfield hname]
      rfl
    · rfl
  rw [change, List.map_congr_left hfield, List.map_id]

theorem change_ofList {names : List String} {f : α → α} (h : ∀ field ∈ fields, field.1 ∈ names → f field.2 = field.2) :
    change names f (ofList fields) = ofList fields :=
  change_eq_self fun field hfield => h field (mem_ofList hfield)

theorem change_cons (names : List String) (f : α → α) (field : String × α) :
    change names f (field :: fields) =
      (field.1, if field.1 ∈ names then f field.2 else field.2) :: change names f fields := by
  rw [change, List.map_cons]
  split_ifs <;> rfl

/-- A value is found as it is changed. -/
theorem get?_change (names : List String) (f : α → α) (fields : List (String × α)) :
    get? name (change names f fields) = if name ∈ names then (get? name fields).map f else get? name fields := by
  induction fields with
  | nil => simp [change]
  | cons field fields ih =>
    obtain ⟨k, v⟩ := field
    rw [change_cons, get?_cons, get?_cons, ih]
    by_cases heq : name = k
    · subst heq
      split_ifs <;> rfl
    · rw [if_neg heq, if_neg heq]

end StructuralEditing.Fields
