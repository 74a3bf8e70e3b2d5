import StructuralEditing.Proofs.Fields
import StructuralEditing.Toml.Basic

/-!
# Merging tables

What a merge of two tables holds under a path of keys (`Toml.at?`), from what the two tables hold there. Only tables are merged,
so a merge can be followed key by key from the outermost table down: where the overlay holds a value, what comes out is that value
laid over what the base holds under the same path (`at?_merge_of_some`), and where it holds nothing, the base shows through as long
as no value of the overlay lies over a part of the path (`at?_merge_of_none`).

The entries of a table are a finite map only if each key occurs once. `Toml.IsOrdered` says this of all the tables that keys lead
to; tables in an array are not among them, because an array is never merged.
-/

namespace StructuralEditing

namespace Toml

/-- Whether a value is a table. -/
def isTable : Toml → Bool
  | .table _ => true
  | _ => false

theorem isTable_iff {v : Toml} : v.isTable = true ↔ ∃ entries, v = .table entries := by
  cases v <;> simp [isTable]

/-- A value in which the keys of each table that keys lead to are in order, each of them once. -/
inductive IsOrdered : Toml → Prop where
  | table {entries : List (String × Toml)} (hascending : Fields.Ascending entries) (h : ∀ entry ∈ entries, IsOrdered entry.2) :
    IsOrdered (.table entries)
  | other {v : Toml} (h : v.isTable = false) : IsOrdered v

/-- What a value holds under a path of keys. -/
def at? : Toml → List String → Option Toml
  | v, [] => some v
  | .table entries, key :: path => (Fields.get? key entries).bind fun v => at? v path
  | _, _ :: _ => none

variable {base overlay v : Toml} {entries upper lower : List (String × Toml)} {key : String} {path : List String}

/-! ## Paths -/

@[simp] theorem at?_nil (v : Toml) : v.at? [] = some v := by rw [at?]

@[simp] theorem at?_table_cons : (Toml.table entries).at? (key :: path) = (Fields.get? key entries).bind fun v => v.at? path := by
  rw [at?]

theorem at?_cons_of_not_isTable (h : v.isTable = false) : v.at? (key :: path) = none := by
  cases v with
  | table => cases h
  | _ => rw [at?]; rintro _ ⟨⟩

/-- Only a table holds something under a key. -/
theorem exists_get?_of_at?_cons {w : Toml} (h : v.at? (key :: path) = some w) :
    ∃ entries u, v = .table entries ∧ Fields.get? key entries = some u ∧ u.at? path = some w := by
  cases hv : v.isTable with
  | false => rw [at?_cons_of_not_isTable hv] at h; cases h
  | true =>
    obtain ⟨entries, rfl⟩ := isTable_iff.1 hv
    obtain ⟨u, hu, hw⟩ := Option.bind_eq_some_iff.1 (at?_table_cons ▸ h)
    exact ⟨entries, u, rfl, hu, hw⟩

/-! ## Tables in order -/

theorem isOrdered_table_iff :
    (Toml.table entries).IsOrdered ↔ Fields.Ascending entries ∧ ∀ entry ∈ entries, entry.2.IsOrdered := by
  constructor
  · intro h
    cases h with
    | table hascending h => exact ⟨hascending, h⟩
    | other h => cases h
  · exact fun h => .table h.1 h.2

theorem IsOrdered.ascending (h : (Toml.table entries).IsOrdered) : Fields.Ascending entries := (isOrdered_table_iff.1 h).1

theorem IsOrdered.get? (h : (Toml.table entries).IsOrdered) (hv : Fields.get? key entries = some v) : v.IsOrdered :=
  (isOrdered_table_iff.1 h).2 _ (Fields.mem_of_get? hv)

theorem IsOrdered.at? (h : v.IsOrdered) {w : Toml} (hw : v.at? path = some w) : w.IsOrdered := by
  induction path generalizing v with
  | nil => exact Option.some.inj (at?_nil v ▸ hw) ▸ h
  | cons key path ih =>
    obtain ⟨entries, u, rfl, hu, hw⟩ := exists_get?_of_at?_cons hw
    exact ih (h.get? hu) hw

@[simp] theorem isOrdered_string (t : Text) : (Toml.string t).IsOrdered := .other rfl

@[simp] theorem isOrdered_array (items : List Toml) : (Toml.array items).IsOrdered := .other rfl

@[simp] theorem isOrdered_strings (items : List String) : (strings items).IsOrdered := isOrdered_array _

theorem isOrdered_ofEntries {entries : List (String × Toml)} (h : ∀ entry ∈ entries, entry.2.IsOrdered) :
    (ofEntries entries).IsOrdered :=
  .table (Fields.ascending_ofList entries) fun entry hentry => h entry (Fields.mem_ofList hentry)

/-! ## One table laid over another -/

theorem merge_table_table : merge (.table lower) (.table upper) = .table (mergeEntries lower upper) := by rw [merge]

theorem merge_of_isTable_eq_false (h : base.isTable = false ∨ overlay.isTable = false) : merge base overlay = overlay := by
  cases overlay with
  | table =>
    cases base with
    | table => simp [isTable] at h
    | _ => rw [merge]; rintro _ ⟨⟩
  | _ => rw [merge]; rintro _ ⟨⟩

theorem mergeEntries_cons :
    mergeEntries lower ((key, v) :: upper) =
      mergeEntries (Fields.put key ((Fields.get? key lower).elim v fun w => merge w v) lower) upper := by
  rw [mergeEntries]
  cases Fields.get? key lower <;> rfl

theorem ascending_mergeEntries (h : Fields.Ascending lower) (upper : List (String × Toml)) :
    Fields.Ascending (mergeEntries lower upper) := by
  induction upper generalizing lower with
  | nil => rwa [mergeEntries]
  | cons entry upper ih => exact mergeEntries_cons ▸ ih h.put

/-- What a merge of two tables holds under a key, if the overlay has each of its keys once. -/
theorem get?_mergeEntries (h : Fields.Ascending upper) :
    Fields.get? key (mergeEntries lower upper) = Option.merge merge (Fields.get? key lower) (Fields.get? key upper) := by
  induction upper generalizing lower with
  | nil => simp [mergeEntries]
  | cons entry upper ih =>
    obtain ⟨k, v⟩ := entry
    obtain ⟨hbehind, hupper⟩ := List.pairwise_cons.1 h
    rw [mergeEntries_cons, ih hupper, Fields.get?_put, Fields.get?_cons]
    split_ifs with heq
    · -- The key does not come again, so what is put in for it stays.
      obtain rfl := heq
      have hnone : Fields.get? key upper = none := by
        refine Option.eq_none_iff_forall_ne_some.2 fun w hw => ?_
        exact lt_irrefl key (hbehind (key, w) (Fields.mem_of_get? hw))
      rw [hnone, Option.merge_none_right]
      cases Fields.get? key lower <;> rfl
    · rfl

/-- Where the overlay holds a value, the merge holds this value laid over what the base holds. -/
theorem at?_merge_of_some (hordered : overlay.IsOrdered) (h : overlay.at? path = some v) :
    (merge base overlay).at? path = Option.merge merge (base.at? path) (some v) := by
  induction path generalizing base overlay with
  | nil =>
    obtain rfl := Option.some.inj (at?_nil overlay ▸ h)
    rfl
  | cons key path ih =>
    obtain ⟨upper, u, rfl, hu, hv⟩ := exists_get?_of_at?_cons h
    cases hbase : base.isTable with
    | false =>
      rw [merge_of_isTable_eq_false (.inl hbase), h, at?_cons_of_not_isTable hbase, Option.merge_none_left]
    | true =>
      obtain ⟨lower, rfl⟩ := isTable_iff.1 hbase
      rw [merge_table_table, at?_table_cons, get?_mergeEntries hordered.ascending, hu, at?_table_cons]
      cases Fields.get? key lower with
      | none => exact hv
      | some w => exact ih (hordered.get? hu) hv

/-- Where the overlay holds nothing, and each part of the path is a table in both or absent from the overlay, the merge holds what
the base holds. -/
theorem at?_merge_of_none (hordered : overlay.IsOrdered) (h : overlay.at? path = none)
    (hfront : ∀ front, front <+: path → front ≠ path →
      ((∃ lower, base.at? front = some (.table lower)) ∧ ∃ upper, overlay.at? front = some (.table upper)) ∨
        overlay.at? front = none) :
    (merge base overlay).at? path = base.at? path := by
  induction path generalizing base overlay with
  | nil => cases at?_nil overlay ▸ h
  | cons key path ih =>
    have htables := hfront [] List.nil_prefix (List.cons_ne_nil key path).symm
    simp only [at?_nil, Option.some.injEq, reduceCtorEq, or_false] at htables
    obtain ⟨⟨lower, rfl⟩, upper, rfl⟩ := htables
    rw [at?_table_cons] at h
    rw [merge_table_table, at?_table_cons, get?_mergeEntries hordered.ascending, at?_table_cons]
    cases hu : Fields.get? key upper with
    | none => rw [Option.merge_none_right]
    | some u =>
      rw [hu] at h
      cases hw : Fields.get? key lower with
      | none => exact h
      | some w =>
        refine ih (hordered.get? hu) h fun front hprefix hne => ?_
        have hbelow := hfront (key :: front) (List.cons_prefix_cons.2 ⟨rfl, hprefix⟩) (by simpa using hne)
        simpa only [at?_table_cons, hu, hw, Option.bind_some] using hbelow

/-! ## Merging again -/

/-- A merge changes nothing where all that the overlay has is there already. -/
theorem mergeEntries_eq_self (hlower : Fields.Ascending lower)
    (h : ∀ entry ∈ upper, ∃ v, Fields.get? entry.1 lower = some v ∧ merge v entry.2 = v) : mergeEntries lower upper = lower := by
  induction upper with
  | nil => rw [mergeEntries]
  | cons entry upper ih =>
    obtain ⟨v, hv, hmerge⟩ := h entry (.head _)
    rw [mergeEntries_cons, hv, Option.elim_some, hmerge, Fields.put_of_get? hlower hv]
    exact ih fun other hother => h other (.tail _ hother)

/-- To lay the same value over a value a second time changes nothing. -/
theorem merge_merge (hoverlay : overlay.IsOrdered) (hbase : base.IsOrdered) :
    merge (merge base overlay) overlay = merge base overlay := by
  induction hoverlay generalizing base with
  | other h => rw [merge_of_isTable_eq_false (.inr h), merge_of_isTable_eq_false (.inr h)]
  | @table upper hupper _ ih =>
    -- An entry of the overlay that lies over nothing is laid over itself the second time.
    have hself : ∀ entry ∈ upper, merge entry.2 entry.2 = entry.2 := by
      intro entry hentry
      have hover : merge (.boolean true) entry.2 = entry.2 := merge_of_isTable_eq_false (.inl rfl)
      have htwice : merge (merge (.boolean true) entry.2) entry.2 = merge (.boolean true) entry.2 := ih entry hentry (.other rfl)
      rwa [hover] at htwice
    cases hbase with
    | other h =>
      rw [merge_of_isTable_eq_false (.inl h), merge_table_table]
      refine congrArg _ (mergeEntries_eq_self hupper fun entry hentry => ⟨entry.2, ?_, hself entry hentry⟩)
      exact Fields.get?_of_mem hupper hentry
    | @table lower hlower hentries =>
      rw [merge_table_table, merge_table_table]
      refine congrArg _ (mergeEntries_eq_self (ascending_mergeEntries hlower upper) fun entry hentry => ?_)
      rw [get?_mergeEntries hupper, Fields.get?_of_mem hupper hentry]
      cases hget : Fields.get? entry.1 lower with
      | none => exact ⟨entry.2, rfl, hself entry hentry⟩
      | some w => exact ⟨merge w entry.2, rfl, ih entry hentry (hentries _ (Fields.mem_of_get? hget))⟩

/-! ## What a merge holds -/

/-- Under every path of keys, a merge of two tables holds the value of the overlay unless this is a table that lies over a table;
two tables become the table of their entries key by key; and what the overlay does not reach is as it was. The same overlay a
second time changes nothing. -/
theorem at?_mergeEntries (hlower : (Toml.table lower).IsOrdered) (hupper : (Toml.table upper).IsOrdered) :
    (∀ path v, (Toml.table upper).at? path = some v → v.isTable = false →
      (Toml.table (mergeEntries lower upper)).at? path = some v) ∧
    (∀ path above, (Toml.table upper).at? path = some (.table above) →
      (∀ v, (Toml.table lower).at? path = some v → v.isTable = false) →
      (Toml.table (mergeEntries lower upper)).at? path = some (.table above)) ∧
    (∀ path below above, (Toml.table lower).at? path = some (.table below) → (Toml.table upper).at? path = some (.table above) →
      ∃ entries, (Toml.table (mergeEntries lower upper)).at? path = some (.table entries) ∧ Fields.Ascending entries ∧
        ∀ key, Fields.get? key entries = Option.merge merge (Fields.get? key below) (Fields.get? key above)) ∧
    (∀ path, (Toml.table upper).at? path = none →
      (∀ front, front <+: path → front ≠ path →
        ((∃ below, (Toml.table lower).at? front = some (.table below)) ∧
            ∃ above, (Toml.table upper).at? front = some (.table above)) ∨
          (Toml.table upper).at? front = none) →
      (Toml.table (mergeEntries lower upper)).at? path = (Toml.table lower).at? path) ∧
    mergeEntries (mergeEntries lower upper) upper = mergeEntries lower upper := by
  have hsome {path : List String} {v : Toml} (h : (Toml.table upper).at? path = some v) :
      (Toml.table (mergeEntries lower upper)).at? path = Option.merge merge ((Toml.table lower).at? path) (some v) :=
    merge_table_table ▸ at?_merge_of_some hupper h
  refine ⟨fun path v h hv => ?_, fun path above h hbase => ?_, fun path below above hbelow habove => ?_,
    fun path h hfront => ?_, ?_⟩
  · rw [hsome h]
    cases (Toml.table lower).at? path with
    | none => rfl
    | some w => rw [Option.merge_some_some, merge_of_isTable_eq_false (.inr hv)]
  · rw [hsome h]
    cases hw : (Toml.table lower).at? path with
    | none => rfl
    | some w => rw [Option.merge_some_some, merge_of_isTable_eq_false (.inl (hbase w hw))]
  · refine ⟨mergeEntries below above, ?_, ascending_mergeEntries (hlower.at? hbelow).ascending above, fun key => ?_⟩
    · rw [hsome habove, hbelow, Option.merge_some_some, merge_table_table]
    · exact get?_mergeEntries (hupper.at? habove).ascending
  · exact merge_table_table ▸ at?_merge_of_none hupper h hfront
  · have h := merge_merge hupper hlower
    rw [merge_table_table, merge_table_table] at h
    exact Toml.table.inj h

/-- A language of two tables: the strings of the overlay take the place of those of the base, whose comments stay. -/
theorem at?_mergeEntries_language :
    let lower := [("languages", table [("go", table [("comment-nodes", strings ["comment"]), ("string-nodes", strings ["raw"])])])]
    let upper := [("languages", table [("go", table [("string-nodes", strings ["string"])]), ("python", table [])])]
    (table lower).IsOrdered ∧ (table upper).IsOrdered ∧
      (table (mergeEntries lower upper)).at? ["languages", "go", "string-nodes"] = some (strings ["string"]) ∧
      (table (mergeEntries lower upper)).at? ["languages", "python"] = some (table []) ∧
      (∃ entries, (table (mergeEntries lower upper)).at? ["languages", "go"] = some (table entries) ∧ Fields.Ascending entries ∧
        ∀ key, Fields.get? key entries = Option.merge merge
          (Fields.get? key [("comment-nodes", strings ["comment"]), ("string-nodes", strings ["raw"])])
          (Fields.get? key [("string-nodes", strings ["string"])])) ∧
      (table (mergeEntries lower upper)).at? ["languages", "go", "comment-nodes"] = some (strings ["comment"]) ∧
      mergeEntries (mergeEntries lower upper) upper = mergeEntries lower upper := by
  intro lower upper
  have hlower : (table lower).IsOrdered := by
    simp only [lower, isOrdered_table_iff, Fields.Ascending, List.forall_mem_cons, isOrdered_strings, List.not_mem_nil,
      false_implies, implies_true]
    decide
  have hupper : (table upper).IsOrdered := by
    simp only [upper, isOrdered_table_iff, Fields.Ascending, List.forall_mem_cons, isOrdered_strings, List.not_mem_nil,
      false_implies, implies_true]
    decide
  obtain ⟨hvalue, halone, hboth, habsent, htwice⟩ := at?_mergeEntries hlower hupper
  refine ⟨hlower, hupper, hvalue _ _ (by simp [upper]) rfl, halone _ _ (by simp [upper]) (by simp [lower]),
    hboth _ _ _ (by simp [lower]) (by simp [upper]), ?_, htwice⟩
  rw [habsent _ (by simp [upper]) fun front hprefix hne => .inl ?_]
  · simp [lower]
  · simp only [List.prefix_cons_iff, List.prefix_nil] at hprefix
    obtain rfl | ⟨_, rfl, rfl | ⟨_, rfl, rfl | ⟨_, rfl, rfl⟩⟩⟩ := hprefix
    · simp
    · simp [lower, upper]
    · simp [lower, upper]
    · exact (hne rfl).elim

end Toml

end StructuralEditing
