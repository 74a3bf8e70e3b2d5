import StructuralEditing.Proofs.Wire.Decoding
import StructuralEditing.Proofs.Wire.Upgrade

/-!
# Ranges of ordinals

Up to version 2 a modifier may be a range of ordinals, and so may the ends of a range of modifiers and the choices of a cascade,
at any depth (`Upgrade.IsModifier`). A range of ordinals by itself is rewritten to what there is now, but an upgrade does not look
into other modifiers: what it makes of one is valid unless there is a range of ordinals in it
(`Upgrade.IsModifier.isSome_rewritten_iff`).
-/

namespace StructuralEditing

namespace Upgrade

variable {j : Json} {first last : Int}

/-! ## Modifiers of older payloads -/

/-- A range of ordinals from one number through another. -/
structure IsOrdinalRange (j : Json) (first last : Int) : Prop where
  tag : j.tag? = some "ordinalRange"
  scopeType : ∃ v, j.field? "scopeType" = some v ∧ (ScopeType.ofJson? true v).isSome = true
  anchor : j.field? "anchor" = some (.int first)
  active : j.field? "active" = some (.int last)
  excludeAnchor : (Json.orDefault Json.bool? false (j.field? "excludeAnchor")).isSome = true
  excludeActive : (Json.orDefault Json.bool? false (j.field? "excludeActive")).isSome = true

/-- A modifier as a payload of version 2 may give it: one that there still is, a range of ordinals, or a range or a cascade of
such modifiers. -/
inductive IsModifier : Json → Prop
  | current {j : Json} : (Modifier.ofJson? true j).isSome = true → IsModifier j
  | ordinalRange {j : Json} {first last : Int} : IsOrdinalRange j first last → IsModifier j
  | range {j r anchor active : Json} {excludeAnchor excludeActive : Option Json} :
    j.tagged? Modifier.tags true = some ("range", r) →
    r.record? ["anchor", "active", "excludeAnchor", "excludeActive"] =
      some [some anchor, some active, excludeAnchor, excludeActive] →
    (Json.orDefault Json.bool? false excludeAnchor).isSome = true →
    (Json.orDefault Json.bool? false excludeActive).isSome = true →
    IsModifier anchor → IsModifier active → IsModifier j
  | cascading {j r : Json} {items : List Json} : j.tagged? Modifier.tags true = some ("cascading", r) →
    r.record? ["modifiers"] = some [some (.array items)] → (∀ m ∈ items, IsModifier m) → IsModifier j

/-- A modifier that is a range of ordinals, or has one in it. -/
inductive HasOrdinalRange : Json → Prop
  | here {j : Json} : j.tag? = some "ordinalRange" → HasOrdinalRange j
  | anchor {j r anchor active : Json} {excludeAnchor excludeActive : Option Json} :
    j.tagged? Modifier.tags true = some ("range", r) →
    r.record? ["anchor", "active", "excludeAnchor", "excludeActive"] =
      some [some anchor, some active, excludeAnchor, excludeActive] →
    HasOrdinalRange anchor → HasOrdinalRange j
  | active {j r anchor active : Json} {excludeAnchor excludeActive : Option Json} :
    j.tagged? Modifier.tags true = some ("range", r) →
    r.record? ["anchor", "active", "excludeAnchor", "excludeActive"] =
      some [some anchor, some active, excludeAnchor, excludeActive] →
    HasOrdinalRange active → HasOrdinalRange j
  | cascading {j r m : Json} {items : List Json} : j.tagged? Modifier.tags true = some ("cascading", r) →
    r.record? ["modifiers"] = some [some (.array items)] → m ∈ items → HasOrdinalRange m → HasOrdinalRange j

/-- There is no modifier of that name any more. -/
theorem tagged?_of_tag? (h : j.tag? = some "ordinalRange") : j.tagged? Modifier.tags true = none := by
  obtain ⟨v, hv, hstring⟩ := Option.bind_eq_some_iff.1 h
  cases j with
  | object fields =>
    have hv : Fields.get? "type" fields = some v := hv
    cases v with
    | string s =>
      obtain rfl := Option.some.inj hstring
      rw [Json.tagged?, hv]
      rfl
    | _ => cases hstring
  | _ => cases hv

/-- A modifier that has a range of ordinals in it is not valid. -/
theorem HasOrdinalRange.ofJson?_eq_none (h : HasOrdinalRange j) : (Modifier.ofJson? true j).isSome = false := by
  induction h with
  | here htag => rw [Modifier.ofJson?, Json.ofTagged?_of_tagged?_eq_none (tagged?_of_tag? htag), Option.isSome_none]
  | anchor htag hr _ ih =>
    rw [Bool.eq_false_iff, Ne, Modifier.isSome_ofJson?_range htag hr, ih]
    exact fun h => Bool.false_ne_true h.1.1
  | active htag hr _ ih =>
    rw [Bool.eq_false_iff, Ne, Modifier.isSome_ofJson?_range htag hr, ih]
    exact fun h => Bool.false_ne_true h.1.2
  | cascading htag hr hm _ ih =>
    rw [Bool.eq_false_iff, Ne, Modifier.isSome_ofJson?_cascading htag hr]
    intro h
    rw [h _ hm] at ih
    cases ih

/-- What was a modifier is one if there is no range of ordinals in it. -/
theorem IsModifier.isSome_ofJson?_iff (h : IsModifier j) : (Modifier.ofJson? true j).isSome = true ↔ ¬HasOrdinalRange j := by
  refine ⟨fun hvalid hhas => Bool.false_ne_true (hhas.ofJson?_eq_none ▸ hvalid), ?_⟩
  induction h with
  | current hvalid => exact fun _ => hvalid
  | ordinalRange hrange => exact fun hnot => absurd (.here hrange.tag) hnot
  | range htag hr hexcludeAnchor hexcludeActive _ _ ihAnchor ihActive =>
    intro hnot
    rw [Modifier.isSome_ofJson?_range htag hr]
    exact ⟨⟨ihAnchor fun h => hnot (.anchor htag hr h), ihActive fun h => hnot (.active htag hr h)⟩, hexcludeAnchor,
      hexcludeActive⟩
  | cascading htag hr _ ih =>
    intro hnot
    rw [Modifier.isSome_ofJson?_cascading htag hr]
    exact fun m hm => ih m hm fun h => hnot (.cascading htag hr hm h)

/-! ## Rewriting a range of ordinals -/

/-- What the step from version 2 makes of a modifier that a primitive description lists. -/
def rewritten (m : Json) : Json := if m.tag? = some "ordinalRange" then ordinalRange m else m

/-- Numbers that fit 64 bits with sign. -/
def Fits (i : Int) : Prop := -2 ^ 63 ≤ i ∧ i < 2 ^ 63

/-- A range of ordinals by itself, of which both numbers fit 64 bits. -/
def IsRewritable (j : Json) : Prop :=
  ∃ first last, IsOrdinalRange j first last ∧ Fits first ∧ Fits last

theorem isSome_signed?_int {i : Int} : (Json.int i).signed?.isSome = true ↔ Fits i := by
  constructor
  · intro h
    obtain ⟨i', hi⟩ := Option.isSome_iff_exists.1 h
    obtain rfl : i = i' := Option.some.inj (Option.filter_eq_some_iff.1 hi).1
    exact Json.bounds_of_signed? hi
  · intro h
    rw [Json.signed?_int h, Option.isSome_some]

/-- An ordinal is valid if its number fits. -/
theorem isSome_ofJson?_ordinal {v : Json} (hv : (ScopeType.ofJson? true v).isSome = true) (start : Int) :
    (Modifier.ofJson? true
      (.withTag "ordinalScope" [("scopeType", v), ("start", .int start), ("length", .nat 1)])).isSome = true ↔ Fits start := by
  have htag := @Json.tagged?_withTag [("scopeType", v), ("start", .int start), ("length", .nat 1)] "ordinalScope" Modifier.tags
    true (by decide) rfl
  obtain ⟨scopeType, hscopeType⟩ := Option.isSome_iff_exists.1 hv
  have hparts (decode : Json → Option Modifier) : Modifier.ofRecord? decode "ordinalScope"
      (.withTag "ordinalScope" [("scopeType", v), ("start", .int start), ("length", .nat 1)]) =
        (Json.int start).signed?.map fun start => .ordinal scopeType start 1 false := by
    rw [Modifier.ofRecord?, Json.withTag, Json.record?_ofFields]
    simp [hscopeType, Json.nat?_nat, Option.map_eq_bind]
  rw [Modifier.ofJson?, Json.ofTagged?_eq Modifier.isLocal_ofRecord? htag, hparts, Option.isSome_map, isSome_signed?_int]

/-- A flag that may be missing is valid as it is written where it is not. -/
theorem isSome_flag {flag : Option Json} (h : (Json.orDefault Json.bool? false flag).isSome = true) :
    (Json.orDefault Json.bool? false (some (flag.getD (.bool false)))).isSome = true := by
  cases flag with
  | none => rfl
  | some v => exact h

/-- A range of ordinals is rewritten to what is valid if both of its numbers fit. -/
theorem IsOrdinalRange.isSome_ofJson?_iff (h : IsOrdinalRange j first last) :
    (Modifier.ofJson? true (ordinalRange j)).isSome = true ↔ Fits first ∧ Fits last := by
  obtain ⟨v, hv, hscopeType⟩ := h.scopeType
  have hsame : (Json.int first).same (.int last) = true ↔ first = last := by
    simp [Json.int, Json.same]
  have hordinal := isSome_ofJson?_ordinal hscopeType
  simp only [ordinalRange, hv, h.anchor, h.active, Option.getD_some, hsame]
  split
  · rename_i heq
    rw [heq, and_self]
    exact hordinal last
  · refine (Modifier.isSome_ofJson?_range (Json.tagged?_withTag true (by decide) rfl) (Json.record?_ofFields _)).trans ?_
    rw [and_iff_left ⟨isSome_flag h.excludeAnchor, isSome_flag h.excludeActive⟩]
    exact and_congr (hordinal first) (hordinal last)

/-- A modifier is rewritten to what is valid unless there is a range of ordinals in it that is not by itself. -/
theorem IsModifier.isSome_rewritten_iff (h : IsModifier j) :
    (Modifier.ofJson? true (rewritten j)).isSome = true ↔ (HasOrdinalRange j → IsRewritable j) := by
  by_cases htag : j.tag? = some "ordinalRange"
  · rw [rewritten, if_pos htag, imp_iff_right (.here htag)]
    obtain ⟨first, last, hrange⟩ : ∃ first last, IsOrdinalRange j first last := by
      cases h with
      | current hvalid =>
        rw [HasOrdinalRange.ofJson?_eq_none (.here htag)] at hvalid
        cases hvalid
      | ordinalRange hrange => exact ⟨_, _, hrange⟩
      | range htag' | cascading htag' =>
        rw [tagged?_of_tag? htag] at htag'
        cases htag'
    rw [hrange.isSome_ofJson?_iff]
    constructor
    · exact fun hfits => ⟨first, last, hrange, hfits⟩
    · rintro ⟨first', last', hrange', hfits⟩
      obtain rfl : first = first' := by simpa [Json.int] using hrange.anchor.symm.trans hrange'.anchor
      obtain rfl : last = last' := by simpa [Json.int] using hrange.active.symm.trans hrange'.active
      exact hfits
  · rw [rewritten, if_neg htag, h.isSome_ofJson?_iff]
    exact ⟨fun hnot hhas => absurd hhas hnot, fun himp hhas => htag (himp hhas).choose_spec.choose_spec.1.tag⟩

end Upgrade

end StructuralEditing
