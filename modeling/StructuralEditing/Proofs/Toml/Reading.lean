import StructuralEditing.Config.Reader
import StructuralEditing.Proofs.Toml.Merge
import StructuralEditing.Toml.Reader

/-!
# The tables that are read

Whatever configuration text is read, the keys of each of its tables are in order (`Toml.isOrdered_of_read?`), and so are those of
the built-in configuration (`Config.isOrdered_defaults`). So what is said of merges holds of every configuration
(`Config.exists_mergeEntries_of_read`). While a text is read, a table is only changed by putting a value under one of its keys
(`TomlNode.alter?`), which keeps the order.
-/

namespace StructuralEditing

namespace TomlNode

/-- A node in which the keys of each table that keys lead to are in order, each of them once. What an array of tables holds is not
asked for. -/
inductive IsOrdered : TomlNode → Prop where
  | value {v : Toml} (h : v.IsOrdered) : IsOrdered (.value v)
  | table {origin : TableOrigin} {entries : List (String × TomlNode)} (hascending : Fields.Ascending entries)
    (h : ∀ entry ∈ entries, IsOrdered entry.2) : IsOrdered (.table origin entries)
  | elements (earlier : List (List (String × TomlNode))) (latest : List (String × TomlNode)) : IsOrdered (.elements earlier latest)

/-- The entries of an ordered table. -/
structure AreOrdered (entries : List (String × TomlNode)) : Prop where
  ascending : Fields.Ascending entries
  isOrdered : ∀ entry ∈ entries, entry.2.IsOrdered

/-- A change of tables that leaves them ordered, if it can be made. -/
def KeepsOrder (f : List (String × TomlNode) → Option (List (String × TomlNode))) : Prop :=
  ∀ ⦃entries changed⦄, AreOrdered entries → f entries = some changed → AreOrdered changed

variable {entries : List (String × TomlNode)}

theorem areOrdered_nil : AreOrdered [] := ⟨.nil, fun _ h => nomatch h⟩

theorem IsOrdered.areOrdered {origin : TableOrigin} (h : (TomlNode.table origin entries).IsOrdered) :
    AreOrdered entries := by
  cases h with
  | table hascending h => exact ⟨hascending, h⟩

theorem AreOrdered.table (h : AreOrdered entries) (origin : TableOrigin) : (TomlNode.table origin entries).IsOrdered :=
  .table h.ascending h.isOrdered

/-! ## Changes keep the order -/

/-- A table stays in order under a change that puts an ordered node under a key. -/
theorem keepsOrder_alter? {key : String} {f : Option TomlNode → Option TomlNode}
    (hnone : ∀ node, f none = some node → node.IsOrdered)
    (hsome : ∀ old node, old.IsOrdered → f (some old) = some node → node.IsOrdered) : KeepsOrder (alter? key f) := by
  intro entries changed h hchanged
  obtain ⟨node, hnode, rfl⟩ := Option.map_eq_some_iff.1 hchanged
  have hordered : node.IsOrdered := by
    cases hget : Fields.get? key entries with
    | none => exact hnone node (hget ▸ hnode)
    | some old => exact hsome old node (h.isOrdered _ (Fields.mem_of_get? hget)) (hget ▸ hnode)
  refine ⟨h.ascending.put, fun entry hentry => ?_⟩
  rcases Fields.mem_put hentry with rfl | hentry
  · exact hordered
  · exact h.isOrdered entry hentry

theorem KeepsOrder.atHeader? {f : List (String × TomlNode) → Option (List (String × TomlNode))} (hf : KeepsOrder f)
    (path : List String) : KeepsOrder (atHeader? f path) := by
  induction path with
  | nil => exact fun _ _ h hchanged => hf h (TomlNode.atHeader?.eq_1 f _ ▸ hchanged)
  | cons key path ih =>
    have hinto {origin : TableOrigin} {inner : List (String × TomlNode)} {node : TomlNode} (h : AreOrdered inner)
        (hnode : (TomlNode.atHeader? f path inner).map (TomlNode.table origin) = some node) : node.IsOrdered := by
      obtain ⟨changed, hchanged, rfl⟩ := Option.map_eq_some_iff.1 hnode
      exact (ih h hchanged).table origin
    intro entries changed h hchanged
    rw [TomlNode.atHeader?] at hchanged
    refine keepsOrder_alter? (fun node hnode => hinto areOrdered_nil hnode) (fun old node hold hnode => ?_) h hchanged
    cases old with
    | value => cases hnode
    | table origin inner => exact hinto hold.areOrdered hnode
    | elements earlier latest =>
      obtain ⟨changed, -, rfl⟩ := Option.map_eq_some_iff.1 hnode
      exact .elements earlier changed

theorem KeepsOrder.atDotted? {f : List (String × TomlNode) → Option (List (String × TomlNode))} (hf : KeepsOrder f)
    (isOpen : Bool) (path : List String) : KeepsOrder (atDotted? f isOpen path) := by
  induction path generalizing isOpen with
  | nil =>
    intro entries changed h hchanged
    rw [TomlNode.atDotted?] at hchanged
    split_ifs at hchanged
    exact hf h hchanged
  | cons key path ih =>
    have hinto {origin : TableOrigin} {inner : List (String × TomlNode)} {node : TomlNode} (h : AreOrdered inner)
        (hnode : (TomlNode.atDotted? f true path inner).map (TomlNode.table origin) = some node) : node.IsOrdered := by
      obtain ⟨changed, hchanged, rfl⟩ := Option.map_eq_some_iff.1 hnode
      exact (ih true h hchanged).table origin
    intro entries changed h hchanged
    rw [TomlNode.atDotted?] at hchanged
    refine keepsOrder_alter? (fun node hnode => hinto areOrdered_nil hnode) (fun old node hold hnode => ?_) h hchanged
    cases old with
    | value => cases hnode
    | table origin inner =>
      cases origin with
      | header => cases hnode
      | _ => exact hinto hold.areOrdered hnode
    | elements earlier latest =>
      obtain ⟨changed, -, rfl⟩ := Option.map_eq_some_iff.1 hnode
      exact .elements earlier changed

theorem keepsOrder_define? {v : Toml} (hv : v.IsOrdered) (path : List String) : KeepsOrder (define? path v) := by
  intro entries changed h hchanged
  rw [define?] at hchanged
  split at hchanged
  · have hinsert (key : String) : KeepsOrder (insert? key v) :=
      keepsOrder_alter? (fun _ hnode => Option.some.inj hnode ▸ .value hv) fun _ _ _ hnode => nomatch hnode
    exact (hinsert _).atDotted? true _ h hchanged
  · cases hchanged

theorem keepsOrder_openTable? (path : List String) : KeepsOrder (openTable? path) := by
  intro entries changed h hchanged
  rw [openTable?] at hchanged
  split at hchanged
  · refine (keepsOrder_alter? (fun node hnode => ?_) fun old node hold hnode => ?_).atHeader? _ h hchanged
    · exact Option.some.inj hnode ▸ areOrdered_nil.table .header
    · split at hnode
      · cases ‹some old = none›
      · rename_i inner heq
        cases heq
        exact Option.some.inj hnode ▸ hold.areOrdered.table .header
      · cases hnode
  · cases hchanged

theorem keepsOrder_openElement? (path : List String) : KeepsOrder (openElement? path) := by
  intro entries changed h hchanged
  rw [openElement?] at hchanged
  split at hchanged
  · refine (keepsOrder_alter? (fun node hnode => ?_) fun old node hold hnode => ?_).atHeader? _ h hchanged
    · exact Option.some.inj hnode ▸ .elements _ _
    · split at hnode
      · exact Option.some.inj hnode ▸ .elements _ _
      · exact Option.some.inj hnode ▸ .elements _ _
      · cases hnode
  · cases hchanged

/-! ## Values of nodes -/

theorem toEntries_eq_map (entries : List (String × TomlNode)) :
    toEntries entries = entries.map fun entry => (entry.1, entry.2.toValue) := by
  induction entries with
  | nil => rw [toEntries, List.map_nil]
  | cons entry entries ih => rw [toEntries, ih, List.map_cons]

theorem isOrdered_table_toEntries (hascending : Fields.Ascending entries) (h : ∀ entry ∈ entries, entry.2.toValue.IsOrdered) :
    (Toml.table (toEntries entries)).IsOrdered := by
  rw [toEntries_eq_map]
  refine .table (List.pairwise_map.2 hascending) fun entry hentry => ?_
  obtain ⟨node, hnode, rfl⟩ := List.mem_map.1 hentry
  exact h node hnode

theorem IsOrdered.toValue {node : TomlNode} (h : node.IsOrdered) : node.toValue.IsOrdered := by
  induction h with
  | value h => rwa [TomlNode.toValue]
  | table hascending _ ih => exact TomlNode.toValue.eq_2 .. ▸ isOrdered_table_toEntries hascending ih
  | elements => exact .other (by rw [TomlNode.toValue]; rfl)

theorem AreOrdered.toEntries (h : AreOrdered entries) : (Toml.table (TomlNode.toEntries entries)).IsOrdered :=
  isOrdered_table_toEntries h.ascending fun entry hentry => (h.isOrdered entry hentry).toValue

end TomlNode

namespace Toml

/-! ## Values that are read -/

/-- A value is not a table if it is made of what is found in a way that never makes one. -/
theorem isTable_of_map {α : Type} {found : Option α} {make : α → Toml × Text} {v : Toml} {rest : Text}
    (hmake : ∀ x, (make x).1.isTable = false) (h : found.map make = some (v, rest)) : v.isTable = false := by
  obtain ⟨x, -, heq⟩ := Option.map_eq_some_iff.1 h
  have hx := hmake x
  rwa [heq] at hx

/-- A value that is spelled without quotes is not a table. -/
theorem isTable_of_readBare? {t rest : Text} {v : Toml} (h : readBare? t = some (v, rest)) : v.isTable = false := by
  simp only [readBare?] at h
  split_ifs at h
  · cases h
    rfl
  · cases h
    rfl
  · split at h
    · cases h
      rfl
    · cases h
  · split at h
    · cases h
      rfl
    · cases h
      rfl
  · split at h
    · cases h
      rfl
    · exact isTable_of_map (fun _ => rfl) h

/-- What is read within so many steps is in order: values, and the entries of inline tables. -/
structure ReadsInOrder (fuel : Nat) : Prop where
  value {depth : Nat} {t rest : Text} {v : Toml} (h : readValue? fuel depth t = some (v, rest)) : v.IsOrdered
  entries {depth : Nat} {t rest : Text} {entries found : List (String × TomlNode)} (hentries : TomlNode.AreOrdered entries)
    (h : readEntries? fuel depth entries t = some (found, rest)) : TomlNode.AreOrdered found

theorem readsInOrder (fuel : Nat) : ReadsInOrder fuel := by
  induction fuel with
  | zero =>
    refine ⟨fun {depth t rest v} h => ?_, fun {depth t rest entries found} _ h => ?_⟩
    · rw [readValue?.eq_def] at h
      cases h
    · rw [readEntries?.eq_def] at h
      cases h
  | succ fuel ih =>
    refine ⟨fun {depth t rest v} h => ?_, fun {depth t rest entries found} hentries h => ?_⟩
    · rw [readValue?.eq_def] at h
      dsimp only at h
      split at h
      · exact .other (isTable_of_map (fun _ => rfl) h)
      · exact .other (isTable_of_map (fun _ => rfl) h)
      · split_ifs at h
        exact .other (isTable_of_map (fun _ => rfl) h)
      · split_ifs at h
        obtain ⟨⟨found, _⟩, hfound, heq⟩ := Option.map_eq_some_iff.1 h
        cases heq
        exact (ih.entries TomlNode.areOrdered_nil hfound).toEntries
      · exact .other (isTable_of_readBare? h)
    · rw [readEntries?.eq_def] at h
      dsimp only at h
      split at h
      · cases h
      · cases h
      · cases h
        exact hentries
      · obtain ⟨⟨path, _⟩, -, h⟩ := Option.bind_eq_some_iff.1 h
        obtain ⟨_, -, h⟩ := Option.bind_eq_some_iff.1 h
        split at h
        · obtain ⟨_, -, h⟩ := Option.bind_eq_some_iff.1 h
          obtain ⟨⟨v, _⟩, hv, h⟩ := Option.bind_eq_some_iff.1 h
          obtain ⟨defined, hdefined, h⟩ := Option.bind_eq_some_iff.1 h
          obtain ⟨_, -, h⟩ := Option.bind_eq_some_iff.1 h
          have hkept : TomlNode.AreOrdered defined := TomlNode.keepsOrder_define? (ih.value hv) path hentries hdefined
          split at h
          · exact ih.entries hkept h
          · cases h
            exact hkept
          · cases h
        · cases h

/-! ## Texts that are read -/

/-- A statement whose value, if it has one, is in order. -/
inductive Statement.IsOrdered : Statement → Prop where
  | header (path : List String) : IsOrdered (.header path)
  | element (path : List String) : IsOrdered (.element path)
  | entry (path : List String) {v : Toml} (h : v.IsOrdered) : IsOrdered (.entry path v)

theorem isOrdered_of_readStatement? {t rest : Text} {statement : Statement} (h : readStatement? t = some (statement, rest)) :
    statement.IsOrdered := by
  rw [readStatement?.eq_def] at h
  split at h
  · split at h
    · obtain ⟨_, -, heq⟩ := Option.map_eq_some_iff.1 h
      cases heq
      exact .element _
    · cases h
  · split at h
    · obtain ⟨_, -, heq⟩ := Option.map_eq_some_iff.1 h
      cases heq
      exact .header _
    · cases h
  · split at h
    · split at h
      · rename_i hvalue
        obtain ⟨_, -, heq⟩ := Option.map_eq_some_iff.1 h
        cases heq
        exact .entry _ ((readsInOrder _).value hvalue)
      · cases h
    · cases h

theorem isOrdered_of_readStatements? {fuel : Nat} {t : Text} {statements : List Statement}
    (h : readStatements? fuel t = some statements) : ∀ statement ∈ statements, statement.IsOrdered := by
  induction fuel generalizing t statements with
  | zero =>
    rw [readStatements?] at h
    split_ifs at h
    cases h
    exact fun _ hmem => nomatch hmem
  | succ fuel ih =>
    rw [readStatements?] at h
    split at h
    · cases h
    · cases h
      exact fun _ hmem => nomatch hmem
    · obtain ⟨⟨statement, rest⟩, hfirst, h⟩ := Option.bind_eq_some_iff.1 h
      obtain ⟨statements, hrest, rfl⟩ := Option.map_eq_some_iff.1 h
      exact List.forall_mem_cons.2 ⟨isOrdered_of_readStatement? hfirst, ih hrest⟩

theorem areOrdered_of_execute? {state state' : List String × List (String × TomlNode)} {statement : Statement}
    (hstatement : statement.IsOrdered) (hstate : TomlNode.AreOrdered state.2) (h : execute? state statement = some state') :
    TomlNode.AreOrdered state'.2 := by
  rw [execute?.eq_def] at h
  cases hstatement with
  | header path =>
    obtain ⟨_, hchanged, rfl⟩ := Option.map_eq_some_iff.1 h
    exact TomlNode.keepsOrder_openTable? path hstate hchanged
  | element path =>
    obtain ⟨_, hchanged, rfl⟩ := Option.map_eq_some_iff.1 h
    exact TomlNode.keepsOrder_openElement? path hstate hchanged
  | entry path hv =>
    obtain ⟨_, hchanged, rfl⟩ := Option.map_eq_some_iff.1 h
    exact (TomlNode.keepsOrder_define? hv path).atHeader? state.1 hstate hchanged

theorem areOrdered_of_foldlM_execute? {statements : List Statement} {state state' : List String × List (String × TomlNode)}
    (hstatements : ∀ statement ∈ statements, statement.IsOrdered) (hstate : TomlNode.AreOrdered state.2)
    (h : statements.foldlM execute? state = some state') : TomlNode.AreOrdered state'.2 := by
  induction statements generalizing state with
  | nil =>
    obtain rfl := Option.some.inj h
    exact hstate
  | cons statement statements ih =>
    obtain ⟨hfirst, hrest⟩ := List.forall_mem_cons.1 hstatements
    obtain ⟨next, hnext, h⟩ := Option.bind_eq_some_iff.1 h
    exact ih hrest (areOrdered_of_execute? hfirst hstate hnext) h

/-- Every table that a text writes is in order. -/
theorem isOrdered_of_read? {t : Text} {entries : List (String × Toml)} (h : read? t = some entries) :
    (Toml.table entries).IsOrdered := by
  obtain ⟨statements, hstatements, h⟩ := Option.bind_eq_some_iff.1 h
  obtain ⟨⟨path, nodes⟩, hnodes, h⟩ := Option.bind_eq_some_iff.1 h
  obtain rfl := Option.some.inj h
  exact (areOrdered_of_foldlM_execute? (isOrdered_of_readStatements? hstatements) TomlNode.areOrdered_nil hnodes).toEntries

end Toml

/-! ## Configurations -/

namespace Config

theorem isOrdered_scopeEntry (nodes wrappingParents iteration : List String) (delimiter : String) :
    (scopeEntry nodes wrappingParents iteration delimiter).IsOrdered :=
  Toml.isOrdered_ofEntries (by simp)

theorem isOrdered_javascriptScopes : javascriptScopes.IsOrdered :=
  Toml.isOrdered_ofEntries (by simp [isOrdered_scopeEntry])

/-- The tables of the built-in configuration are in order. -/
theorem isOrdered_defaults : (Toml.table defaults).IsOrdered := by
  have hlanguage (aliases strings comments : List String) : (Toml.ofEntries [("aliases", .strings aliases),
      ("string-nodes", .strings strings), ("comment-nodes", .strings comments), ("scopes", javascriptScopes)]).IsOrdered :=
    Toml.isOrdered_ofEntries (by simp [isOrdered_javascriptScopes])
  have hlanguages : ∀ v : Toml, v.IsOrdered → (Toml.ofEntries [("javascript", v)]).IsOrdered := fun v hv =>
    Toml.isOrdered_ofEntries (by simpa using hv)
  exact Toml.isOrdered_ofEntries (by simp [hlanguage, hlanguages])

/-- A configuration that is read is what a merge of two tables in order stands for, the user's over the built-in one. -/
theorem exists_mergeEntries_of_read {user : Text} {c : Config} (h : read user = .ok c) :
    ∃ entries, Toml.read? user = some entries ∧ (Toml.table defaults).IsOrdered ∧ (Toml.table entries).IsOrdered ∧
      ofToml? (.table (Toml.mergeEntries defaults entries)) = some c := by
  rw [read] at h
  split at h
  · cases h
  · rename_i decoded hdecoded
    obtain ⟨entries, hentries, hmerged⟩ := Option.bind_eq_some_iff.1 hdecoded
    split at h
    · cases h
    · obtain rfl := Except.ok.inj h
      exact ⟨entries, hentries, isOrdered_defaults, Toml.isOrdered_of_read? hentries, hmerged⟩

end Config

end StructuralEditing
