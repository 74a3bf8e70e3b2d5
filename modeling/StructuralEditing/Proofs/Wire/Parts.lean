import StructuralEditing.Proofs.Wire.Record
import StructuralEditing.Wire.Mark
import StructuralEditing.Wire.Modifier

/-!
# Marks, scope types and modifiers are read as they are written
-/

namespace StructuralEditing

open Json (exact_ofFields exact_withTag exact_nat exact_int depth_lt_ofFields depth_lt_withTag
  depth_lt_array tagged?_withTag)

/-! ## Scope types -/

namespace ForcedSide

@[simp] theorem oneOf?_toJson (isNested : Bool) (side : ForcedSide) : side.toJson.oneOf? isNested names = some side := by
  cases side <;> rfl

@[simp] theorem optional_toJson {α : Type} (decode : Json → Option α) (side : ForcedSide) :
    Json.optional decode (some side.toJson) = (decode side.toJson).map some := by
  cases side <;> rfl

theorem exact_toJson (side : ForcedSide) : side.toJson.Exact := by
  cases side <;> exact .string _

end ForcedSide

namespace ScopeType

/-- What a named scope type cannot be called: the kinds that are not named by themselves, and nothing. -/
def reserved : List String :=
  ["surroundingPair", "surroundingPairInterior", "customRegex", "oneOf", "syntaxIteration", ""]

/-- A scope type that a record can say. -/
inductive Expressible : ScopeType → Prop where
  | named {name : String} (h : name ∉ reserved) : Expressible (.named name)
  | surroundingPair (delimiter : String) (forced : Option ForcedSide) (strong : Bool) :
    Expressible (.surroundingPair delimiter forced strong)
  | pairInterior (delimiter : String) : Expressible (.pairInterior delimiter)
  | pattern (regex : String) : Expressible (.pattern regex)
  | oneOf {ts : List ScopeType} (h : ∀ t ∈ ts, Expressible t) : Expressible (.oneOf ts)
  | iterationOf (name : String) : Expressible (.iterationOf name)

theorem toJsonAll_eq (ts : List ScopeType) : toJsonAll ts = ts.map toJson := by
  induction ts with
  | nil => rfl
  | cons t ts ih => rw [toJsonAll, ih, List.map_cons]

/-- The scope type of a kind can be said if those it is made of can. -/
theorem expressible_of_ofKind? {kind : String} {delimiter : Option String} {forced : Option ForcedSide} {strong : Bool}
    {regex : Option String} {scopeTypes : Option (List ScopeType)} {scopeName : Option String} {t : ScopeType}
    (hscopeTypes : ∀ ts ∈ scopeTypes, ∀ t ∈ ts, t.Expressible)
    (h : ofKind? kind delimiter forced strong regex scopeTypes scopeName = some t) : t.Expressible := by
  unfold ofKind? at h
  split at h
  · obtain ⟨d, -, rfl⟩ := Option.map_eq_some_iff.1 h
    exact .surroundingPair d forced strong
  · obtain ⟨d, -, rfl⟩ := Option.map_eq_some_iff.1 h
    exact .pairInterior d
  · obtain ⟨r, -, rfl⟩ := Option.map_eq_some_iff.1 h
    exact .pattern r
  · obtain ⟨ts, hts, rfl⟩ := Option.map_eq_some_iff.1 h
    exact .oneOf (hscopeTypes ts hts)
  · obtain ⟨name, -, rfl⟩ := Option.map_eq_some_iff.1 h
    exact .iterationOf name
  · cases h
  · obtain rfl := Option.some.inj h
    exact .named (by simp_all [reserved])

/-- What is decoded can be said. -/
theorem expressible_of_ofJsonWithin? {isNested : Bool} {bound : Nat} {j : Json} {t : ScopeType}
    (h : ofJsonWithin? isNested bound j = some t) : t.Expressible := by
  induction bound generalizing j t with
  | zero => cases h
  | succ bound ih =>
    rw [ofJsonWithin?] at h
    split at h
    · simp only [Option.bind_eq_bind, Option.bind_eq_some_iff] at h
      obtain ⟨kind, -, delimiter, -, forced, -, strong, -, regex, -, scopeTypes, hscopeTypes, scopeName, -, h⟩ := h
      refine expressible_of_ofKind? (fun ts hts t ht => ?_) h
      obtain ⟨v, hv⟩ := Json.exists_of_mem_optional_list? hscopeTypes hts ht
      exact ih hv
    · cases h

/-- What can be said is the only value of the text of its record. -/
theorem Expressible.exact {t : ScopeType} (h : t.Expressible) : t.toJson.Exact := by
  induction h with
  | named | pairInterior | pattern | iterationOf => exact exact_ofFields (by simp [Json.Exact.string])
  | surroundingPair delimiter forced strong =>
    refine exact_ofFields ?_
    cases forced <;> cases strong <;> simp [ForcedSide.exact_toJson, Json.Exact.string, Json.Exact.bool]
  | oneOf h ih =>
    rw [toJson, toJsonAll_eq]
    exact exact_ofFields (by simpa [Json.Exact.string] using Json.Exact.array (by simpa using ih))

/-- A name that is not reserved is one of a kind. -/
theorem ofKind?_named {name : String} (h : name ∉ reserved) (delimiter : Option String) (forced : Option ForcedSide)
    (strong : Bool) (regex : Option String) (scopeTypes : Option (List ScopeType)) (scopeName : Option String) :
    ofKind? name delimiter forced strong regex scopeTypes scopeName = some (named name) := by
  unfold ofKind?
  split <;> simp_all [reserved]

/-- What can be said is decoded from what it is encoded as. -/
theorem Expressible.ofJsonWithin?_toJson {t : ScopeType} (h : t.Expressible) (isNested : Bool) {bound : Nat}
    (hbound : t.toJson.depth ≤ bound) : ofJsonWithin? isNested (bound + 1) t.toJson = some t := by
  induction h generalizing bound with
  | named h => simp [toJson, ofJsonWithin?, keys, ofKind?_named h]
  | surroundingPair delimiter forced strong =>
    cases forced <;> cases strong <;>
      simp [toJson, ofJsonWithin?, keys, ofKind?]
  | @oneOf ts h ih =>
    rw [toJson, toJsonAll_eq] at hbound ⊢
    have hparts : (Json.array (ts.map toJson)).list? (fun v => ofJsonWithin? isNested bound v) = some ts := by
      refine Json.list?_array fun t ht => ?_
      have hitem : t.toJson.depth < (Json.array (ts.map toJson)).depth := depth_lt_array (List.mem_map_of_mem ht)
      have harray := depth_lt_ofFields [("type", .string "oneOf"), ("scopeTypes", .array (ts.map toJson))] "scopeTypes" rfl
      obtain ⟨b, rfl⟩ := Nat.exists_eq_add_of_lt (show 0 < bound by omega)
      exact ih t ht (by omega)
    simp [ofJsonWithin?, keys, ofKind?, hparts]
  | pairInterior | pattern | iterationOf =>
    simp [toJson, ofJsonWithin?, keys, ofKind?]

/-- A scope type is read back from its record. -/
theorem Expressible.ofJson?_toJson {t : ScopeType} (h : t.Expressible) (isNested : Bool) :
    ofJson? isNested t.toJson = some t :=
  h.ofJsonWithin?_toJson isNested (Nat.le_refl _)

end ScopeType

/-! ## Marks -/

namespace Position

/-- A position whose numbers fit 64 bits. -/
def Expressible (p : Position) : Prop := p.line < 2 ^ 64 ∧ p.character < 2 ^ 64

theorem expressible_of_ofJson? {j : Json} {p : Position} (h : ofJson? j = some p) : p.Expressible := by
  unfold ofJson? at h
  split at h
  · simp only [Option.bind_eq_bind, Option.bind_eq_some_iff, Option.some.injEq] at h
    obtain ⟨line, hline, character, hcharacter, rfl⟩ := h
    exact ⟨Json.lt_of_nat? hline, Json.lt_of_nat? hcharacter⟩
  · cases h

theorem Expressible.exact {p : Position} (h : p.Expressible) : p.toJson.Exact :=
  exact_ofFields (by simp [exact_nat h.1, exact_nat h.2])

theorem Expressible.ofJson?_toJson {p : Position} (h : p.Expressible) : ofJson? p.toJson = some p := by
  simp [ofJson?, toJson, Json.nat?_nat h.1, Json.nat?_nat h.2]

end Position

namespace EditorId

theorem lt_of_ofJson? {j : Json} {id : EditorId} (h : ofJson? j = some id) : id.value < 2 ^ 32 := by
  obtain ⟨n, hn, rfl⟩ := Option.map_eq_some_iff.1 h
  exact of_decide_eq_true (Option.filter_eq_some_iff.1 hn).2

theorem ofJson?_nat {id : EditorId} (h : id.value < 2 ^ 32) : ofJson? (.nat id.value) = some id := by
  simp only [ofJson?, Json.nat?_nat (show id.value < 2 ^ 64 by omega), Option.filter_some, Nat.pow_eq, h, decide_true, if_true,
    Option.map_some]

end EditorId

namespace LineNumbering

@[simp] theorem oneOf?_toJson (isNested : Bool) (numbering : LineNumbering) :
    numbering.toJson.oneOf? isNested names = some numbering := by
  cases numbering <;> rfl

theorem exact_toJson (numbering : LineNumbering) : numbering.toJson.Exact := by
  cases numbering <;> exact .string _

end LineNumbering

namespace Mark

/-- A mark that a record can say: its numbers fit. -/
inductive Expressible : Mark → Prop where
  | cursor : Expressible .cursor
  | that : Expressible .that
  | source : Expressible .source
  | nothing : Expressible .nothing
  | hat (style character : String) : Expressible (.hat style character)
  | lineNumber (numbering : LineNumbering) {line : Int} (h : -2 ^ 63 ≤ line ∧ line < 2 ^ 63) :
    Expressible (.lineNumber numbering line)
  | range {anchor active : Mark} (hanchor : Expressible anchor) (hactive : Expressible active)
    (excludeAnchor excludeActive : Bool) : Expressible (.range anchor active excludeAnchor excludeActive)
  | explicit {editor : EditorId} {start stop : Position} (heditor : editor.value < 2 ^ 32) (hstart : start.Expressible)
    (hstop : stop.Expressible) : Expressible (.explicit editor start stop)

/-- What a record says can be said if the marks within it can. -/
theorem expressible_of_ofRecord? (decode : Json → Option Mark) (hdecode : ∀ v m, decode v = some m → m.Expressible)
    (tag : String) (j : Json) (m : Mark) (h : ofRecord? decode tag j = some m) : m.Expressible := by
  unfold ofRecord? at h
  split at h
  case h_5 =>
    split_ifs at h
    unfold ofBareTag? at h
    split at h <;> cases h <;> constructor
  all_goals
    simp only [Option.bind_eq_bind, Option.bind_eq_some_iff] at h
    obtain ⟨fields, -, h⟩ := h
    split at h
    case h_2 => cases h
    simp only [Option.bind_eq_some_iff, Option.some.injEq] at h
  · obtain ⟨style, -, character, -, rfl⟩ := h
    exact .hat style character
  · obtain ⟨numbering, -, line, hline, rfl⟩ := h
    exact .lineNumber numbering (Json.bounds_of_signed? hline)
  · obtain ⟨anchor, hanchor, active, hactive, excludeAnchor, -, excludeActive, -, rfl⟩ := h
    exact .range (hdecode _ _ hanchor) (hdecode _ _ hactive) excludeAnchor excludeActive
  · obtain ⟨ends, -, h⟩ := h
    split at h
    · simp only [Option.bind_eq_some_iff, Option.some.injEq] at h
      obtain ⟨editor, heditor, start, hstart, stop, hstop, rfl⟩ := h
      exact .explicit (EditorId.lt_of_ofJson? heditor) (Position.expressible_of_ofJson? hstart)
        (Position.expressible_of_ofJson? hstop)
    · cases h

/-- What is decoded can be said. -/
theorem expressible_of_ofJson? {isNested : Bool} {j : Json} {m : Mark} (h : ofJson? isNested j = some m) : m.Expressible :=
  Json.of_ofTagged? expressible_of_ofRecord? h

/-- What can be said is the only value of the text of its record. -/
theorem Expressible.exact {m : Mark} (h : m.Expressible) : m.toJson.Exact := by
  induction h with
  | cursor | that | source | nothing => exact exact_withTag (by simp)
  | hat => exact exact_withTag (by simp [Json.Exact.string])
  | lineNumber numbering h => exact exact_withTag (by simp [numbering.exact_toJson, exact_int h])
  | range hanchor hactive excludeAnchor excludeActive ihAnchor ihActive =>
    exact exact_withTag (by simp [ihAnchor, ihActive, Json.Exact.bool])
  | @explicit editor start stop heditor hstart hstop =>
    have hnumber : (Json.nat editor.value).Exact := exact_nat (by omega)
    have hends : (Json.ofFields [("start", start.toJson), ("end", stop.toJson)]).Exact :=
      exact_ofFields (by simp [hstart.exact, hstop.exact])
    exact exact_withTag (by simp [hnumber, hends])

/-- What can be said is decoded from what it is encoded as. -/
theorem Expressible.decodes {m : Mark} (h : m.Expressible) : Json.Decodes tags ofRecord? m.toJson m := by
  induction h with
  | cursor | that | source | nothing => exact .withTag (by decide) rfl fun decode _ => rfl
  | hat style character =>
    exact .withTag (by decide) rfl fun decode _ => by simp [ofRecord?, Json.withTag]
  | lineNumber numbering h =>
    exact .withTag (by decide) rfl fun decode _ => by simp [ofRecord?, Json.withTag, Json.signed?_int h]
  | range hanchor hactive excludeAnchor excludeActive ihAnchor ihActive =>
    refine .withTag (by decide) rfl fun decode hdecode => ?_
    have hdecodeAnchor := hdecode _ _ (depth_lt_withTag _ "anchor" rfl) ihAnchor
    have hdecodeActive := hdecode _ _ (depth_lt_withTag _ "active" rfl) ihActive
    simp [ofRecord?, Json.withTag, hdecodeAnchor, hdecodeActive]
  | explicit heditor hstart hstop =>
    exact .withTag (by decide) rfl fun decode _ => by
      simp [ofRecord?, Json.withTag, EditorId.ofJson?_nat heditor, hstart.ofJson?_toJson, hstop.ofJson?_toJson]

/-- A mark is read back from its record. -/
theorem Expressible.ofJson?_toJson {m : Mark} (h : m.Expressible) (isNested : Bool) : ofJson? isNested m.toJson = some m :=
  h.decodes.ofTagged? isNested

end Mark

/-! ## Modifiers -/

namespace Direction

@[simp] theorem oneOf?_toJson (isNested : Bool) (d : Direction) : d.toJson.oneOf? isNested names = some d := by
  cases d <;> rfl

theorem exact_toJson (d : Direction) : d.toJson.Exact := .string d.render

end Direction

namespace Place

@[simp] theorem oneOf?_toJson (isNested : Bool) (p : Place) : p.toJson.oneOf? isNested names = some p := by
  cases p <;> rfl

theorem exact_toJson (p : Place) : p.toJson.Exact := by
  cases p <;> exact .string _

end Place

namespace Modifier

/-- A modifier that a record can say: its numbers fit, and its scope types and modifiers can be said. -/
inductive Expressible : Modifier → Prop where
  | containing {scopeType : ScopeType} {ancestor : Nat} (hscopeType : scopeType.Expressible) (hancestor : ancestor < 2 ^ 64) :
    Expressible (.containing scopeType ancestor)
  | every {scopeType : ScopeType} (hscopeType : scopeType.Expressible) : Expressible (.every scopeType)
  | ordinal {scopeType : ScopeType} {start : Int} {length : Nat} (hscopeType : scopeType.Expressible)
    (hstart : -2 ^ 63 ≤ start ∧ start < 2 ^ 63) (hlength : length < 2 ^ 64) (isEvery : Bool) :
    Expressible (.ordinal scopeType start length isEvery)
  | relative {scopeType : ScopeType} {offset length : Nat} (hscopeType : scopeType.Expressible) (hoffset : offset < 2 ^ 64)
    (hlength : length < 2 ^ 64) (direction : Direction) (isEvery : Bool) :
    Expressible (.relative scopeType offset length direction isEvery)
  | interior : Expressible .interior
  | boundary : Expressible .boundary
  | leading : Expressible .leading
  | trailing : Expressible .trailing
  | range {anchor active : Modifier} (hanchor : Expressible anchor) (hactive : Expressible active)
    (excludeAnchor excludeActive : Bool) : Expressible (.range anchor active excludeAnchor excludeActive)
  | firstOf {ms : List Modifier} (h : ∀ m ∈ ms, Expressible m) : Expressible (.firstOf ms)
  | place (p : Place) : Expressible (.place p)
  | toRaw : Expressible .toRaw
  | keepContent : Expressible .keepContent
  | keepEmpty : Expressible .keepEmpty

theorem toJsonAll_eq (ms : List Modifier) : toJsonAll ms = ms.map toJson := by
  induction ms with
  | nil => rfl
  | cons m ms ih => rw [toJsonAll, ih, List.map_cons]

/-- What a record says can be said if the modifiers within it can. -/
theorem expressible_of_ofRecord? (decode : Json → Option Modifier) (hdecode : ∀ v m, decode v = some m → m.Expressible)
    (tag : String) (j : Json) (m : Modifier) (h : ofRecord? decode tag j = some m) : m.Expressible := by
  unfold ofRecord? at h
  split at h
  case h_8 =>
    split_ifs at h
    unfold ofBareTag? at h
    split at h <;> cases h <;> constructor
  all_goals
    simp only [Option.bind_eq_bind, Option.bind_eq_some_iff] at h
    obtain ⟨fields, -, h⟩ := h
    split at h
    case h_2 => cases h
    simp only [Option.bind_eq_some_iff, Option.some.injEq] at h
  · obtain ⟨scopeType, hscopeType, ancestor, hancestor, rfl⟩ := h
    exact .containing (ScopeType.expressible_of_ofJsonWithin? hscopeType) (Json.lt_of_orDefault_nat? hancestor (by decide))
  · obtain ⟨scopeType, hscopeType, rfl⟩ := h
    exact .every (ScopeType.expressible_of_ofJsonWithin? hscopeType)
  · obtain ⟨scopeType, hscopeType, start, hstart, length, hlength, isEvery, -, rfl⟩ := h
    exact .ordinal (ScopeType.expressible_of_ofJsonWithin? hscopeType) (Json.bounds_of_signed? hstart)
      (Json.lt_of_orDefault_nat? hlength (by decide)) isEvery
  · obtain ⟨scopeType, hscopeType, offset, hoffset, length, hlength, direction, -, isEvery, -, rfl⟩ := h
    exact .relative (ScopeType.expressible_of_ofJsonWithin? hscopeType) (Json.lt_of_nat? hoffset)
      (Json.lt_of_orDefault_nat? hlength (by decide)) direction isEvery
  · obtain ⟨anchor, hanchor, active, hactive, excludeAnchor, -, excludeActive, -, rfl⟩ := h
    exact .range (hdecode _ _ hanchor) (hdecode _ _ hactive) excludeAnchor excludeActive
  · obtain ⟨ms, hms, rfl⟩ := h
    refine .firstOf fun m hm => ?_
    obtain ⟨v, hv⟩ := Json.exists_of_mem_list? hms hm
    exact hdecode v m hv
  · obtain ⟨p, -, rfl⟩ := h
    exact .place p

/-- What is decoded can be said. -/
theorem expressible_of_ofJson? {isNested : Bool} {j : Json} {m : Modifier} (h : ofJson? isNested j = some m) : m.Expressible :=
  Json.of_ofTagged? expressible_of_ofRecord? h

/-- What can be said is the only value of the text of its record. -/
theorem Expressible.exact {m : Modifier} (h : m.Expressible) : m.toJson.Exact := by
  induction h with
  | containing hscopeType hancestor => exact exact_withTag (by simp [hscopeType.exact, exact_nat hancestor])
  | every hscopeType => exact exact_withTag (by simp [hscopeType.exact])
  | ordinal hscopeType hstart hlength isEvery =>
    exact exact_withTag (by simp [hscopeType.exact, exact_int hstart, exact_nat hlength, Json.Exact.bool])
  | relative hscopeType hoffset hlength direction isEvery =>
    exact exact_withTag
      (by simp [hscopeType.exact, exact_nat hoffset, exact_nat hlength, direction.exact_toJson, Json.Exact.bool])
  | range hanchor hactive excludeAnchor excludeActive ihAnchor ihActive =>
    exact exact_withTag (by simp [ihAnchor, ihActive, Json.Exact.bool])
  | firstOf h ih =>
    rw [toJson, toJsonAll_eq]
    exact exact_withTag (by simpa using Json.Exact.array (by simpa using ih))
  | place p => exact exact_withTag (by simp [p.exact_toJson])
  | _ => exact exact_withTag (by simp)

/-- What can be said is decoded from what it is encoded as. -/
theorem Expressible.decodes {m : Modifier} (h : m.Expressible) : Json.Decodes tags ofRecord? m.toJson m := by
  induction h with
  | containing hscopeType hancestor =>
    exact .withTag (by decide) rfl fun decode _ => by
      simp [ofRecord?, Json.withTag, hscopeType.ofJson?_toJson, Json.nat?_nat hancestor]
  | every hscopeType =>
    exact .withTag (by decide) rfl fun decode _ => by simp [ofRecord?, Json.withTag, hscopeType.ofJson?_toJson]
  | ordinal hscopeType hstart hlength isEvery =>
    exact .withTag (by decide) rfl fun decode _ => by
      simp [ofRecord?, Json.withTag, hscopeType.ofJson?_toJson, Json.signed?_int hstart, Json.nat?_nat hlength]
  | relative hscopeType hoffset hlength direction isEvery =>
    exact .withTag (by decide) rfl fun decode _ => by
      simp [ofRecord?, Json.withTag, hscopeType.ofJson?_toJson, Json.nat?_nat hoffset, Json.nat?_nat hlength]
  | range hanchor hactive excludeAnchor excludeActive ihAnchor ihActive =>
    refine .withTag (by decide) rfl fun decode hdecode => ?_
    have hdecodeAnchor := hdecode _ _ (depth_lt_withTag _ "anchor" rfl) ihAnchor
    have hdecodeActive := hdecode _ _ (depth_lt_withTag _ "active" rfl) ihActive
    simp [ofRecord?, Json.withTag, hdecodeAnchor, hdecodeActive]
  | @firstOf ms h ih =>
    rw [toJson, toJsonAll_eq]
    refine .withTag (by decide) rfl fun decode hdecode => ?_
    have hlist : (Json.array (ms.map toJson)).list? decode = some ms := Json.list?_array fun m hm =>
      hdecode _ _ ((depth_lt_array (List.mem_map_of_mem hm)).trans (depth_lt_withTag _ "modifiers" rfl)) (ih m hm)
    simp [ofRecord?, Json.withTag, hlist]
  | place p => exact .withTag (by decide) rfl fun decode _ => by simp [ofRecord?, Json.withTag]
  | _ => exact .withTag (by decide) rfl fun decode _ => rfl

/-- A modifier is read back from its record. -/
theorem Expressible.ofJson?_toJson {m : Modifier} (h : m.Expressible) (isNested : Bool) :
    ofJson? isNested m.toJson = some m :=
  h.decodes.ofTagged? isNested

end Modifier

end StructuralEditing
