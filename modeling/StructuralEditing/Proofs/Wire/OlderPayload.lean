import StructuralEditing.Proofs.Wire.OrdinalRange

/-!
# Ranges of ordinals in older payloads

An upgrade rewrites the ranges of ordinals that a primitive description lists by themselves, if it comes to the description:
through lists and ranges of descriptions that are objects and tagged by their names (`Upgrade.Lists`). A range of ordinals within
another modifier stays, and then the payload is no command (`Command.upgrade_parses_iff`).
-/

namespace StructuralEditing

namespace Upgrade

variable {j r m anchor active : Json} {isNested isReached : Bool} {P : Bool → Json → Prop}

/-! ## Descriptions of older payloads -/

/-- A description as a payload of version 2 may give it. -/
inductive IsDescription : Bool → Json → Prop
  | primitive {isNested : Bool} {j r mark : Json} {modifiers : Option Json} :
    j.tagged? TargetDescriptor.tags isNested = some ("primitive", r) →
    r.record? ["mark", "modifiers"] = some [some mark, modifiers] → (Mark.ofJson? true mark).isSome = true →
    (modifiers = none ∨ ∃ items, modifiers = some (.array items) ∧ ∀ m ∈ items, IsModifier m) → IsDescription isNested j
  | range {isNested : Bool} {j r anchor active : Json} {excludeAnchor excludeActive : Option Json} :
    j.tagged? TargetDescriptor.tags isNested = some ("range", r) →
    r.record? ["anchor", "active", "excludeAnchor", "excludeActive"] =
      some [some anchor, some active, excludeAnchor, excludeActive] →
    (Json.orDefault Json.bool? false excludeAnchor).isSome = true →
    (Json.orDefault Json.bool? false excludeActive).isSome = true →
    IsDescription true anchor → IsDescription true active → IsDescription isNested j
  | list {isNested : Bool} {j r : Json} {items : List Json} :
    j.tagged? TargetDescriptor.tags isNested = some ("list", r) →
    r.record? ["elements"] = some [some (.array items)] → (∀ d ∈ items, IsDescription true d) → IsDescription isNested j

/-- Whether a description is an object, so that it can be rewritten. -/
def isObject : Json → Bool
  | .object _ => true
  | _ => false

/-- A modifier is listed by a primitive description within a description. An upgrade comes to it if the primitive description is an
object, and if all lists and ranges around it are objects that are tagged by their names. -/
inductive Lists : Bool → Json → Bool → Json → Prop
  | primitive {isNested : Bool} {j r mark m : Json} {items : List Json} :
    j.tagged? TargetDescriptor.tags isNested = some ("primitive", r) →
    r.record? ["mark", "modifiers"] = some [some mark, some (.array items)] → m ∈ items → Lists isNested j (isObject j) m
  | anchor {isNested isReached : Bool} {j r m anchor active : Json} {excludeAnchor excludeActive : Option Json} :
    j.tagged? TargetDescriptor.tags isNested = some ("range", r) →
    r.record? ["anchor", "active", "excludeAnchor", "excludeActive"] =
      some [some anchor, some active, excludeAnchor, excludeActive] →
    Lists true anchor isReached m → Lists isNested j (isReached && j.tag?.isSome) m
  | active {isNested isReached : Bool} {j r m anchor active : Json} {excludeAnchor excludeActive : Option Json} :
    j.tagged? TargetDescriptor.tags isNested = some ("range", r) →
    r.record? ["anchor", "active", "excludeAnchor", "excludeActive"] =
      some [some anchor, some active, excludeAnchor, excludeActive] →
    Lists true active isReached m → Lists isNested j (isReached && j.tag?.isSome) m
  | list {isNested isReached : Bool} {j r d m : Json} {items : List Json} :
    j.tagged? TargetDescriptor.tags isNested = some ("list", r) →
    r.record? ["elements"] = some [some (.array items)] → d ∈ items → Lists true d isReached m →
    Lists isNested j (isReached && j.tag?.isSome) m

/-! ## Rewriting descriptions -/

section Fields

variable {fields : List (String × Json)} {names : List String} {tag : String}

theorem eq_object_of_tagged? (h : (Json.object fields).tagged? names isNested = some (tag, r)) : r = .object fields := by
  obtain ⟨_, -, hr⟩ := Option.map_eq_some_iff.1 h
  exact (Prod.mk.inj hr).2.symm

/-- The name that tags an object is its tag. -/
theorem eq_of_tag? {name : String} (h : (Json.object fields).tagged? names isNested = some (tag, r))
    (hname : (Json.object fields).tag? = some name) : name = tag := by
  obtain ⟨v, hv, hstring⟩ := Option.bind_eq_some_iff.1 hname
  have hv : Fields.get? "type" fields = some v := hv
  cases v with
  | string s =>
    obtain rfl := Option.some.inj hstring
    rw [Json.tagged?, hv] at h
    obtain ⟨_, hs, hr⟩ := Option.map_eq_some_iff.1 h
    obtain rfl := (Prod.mk.inj hr).1
    simp only [Option.bind_some] at hs
    split at hs
    · exact Option.some.inj hs
    · cases hs
  | _ => cases hstring

/-- An object keeps its tag if no field of that name is changed. -/
theorem tagged?_change {names' : List String} {f : Json → Json} (hnames : "type" ∉ names')
    (h : (Json.object fields).tagged? names isNested = some (tag, r)) :
    (Json.object (Fields.change names' f fields)).tagged? names isNested =
      some (tag, .object (Fields.change names' f fields)) := by
  obtain ⟨name, hname, hr⟩ := Option.map_eq_some_iff.1 h
  obtain rfl := (Prod.mk.inj hr).1
  rw [Json.tagged?, Fields.get?_change, if_neg hnames, hname]
  rfl

/-- A description is rewritten as a primitive one unless its name says that it is a list or a range. -/
theorem onPrimitives_of_ne (hlist : (Json.object fields).tag? ≠ some "list")
    (hrange : (Json.object fields).tag? ≠ some "range") :
    onPrimitives fromSecond (.object fields) = .object (Fields.change ["modifiers"] (Json.updateItems rewritten) fields) := by
  rw [onPrimitives]
  split
  · rename_i h
    exact absurd h hlist
  · rename_i h
    exact absurd h hrange
  · rfl

theorem onPrimitives_of_list {f : Json → Json} (h : (Json.object fields).tag? = some "list") :
    onPrimitives f (.object fields) = .object (Fields.change ["elements"] (onItems f) fields) := by
  have htype : (Fields.get? "type" fields).bind Json.string? = some "list" := h
  rw [onPrimitives, htype, ← onElements_eq]
  rfl

theorem onPrimitives_of_range {f : Json → Json} (h : (Json.object fields).tag? = some "range") :
    onPrimitives f (.object fields) = .object (Fields.change ["anchor", "active"] (onPrimitives f) fields) := by
  have htype : (Fields.get? "type" fields).bind Json.string? = some "range" := h
  rw [onPrimitives, htype, ← onEnds_eq]
  rfl

end Fields

open TargetDescriptor (ofJsonWithin?)

variable {mark : Json} {modifiers excludeAnchor excludeActive : Option Json} {items : List Json}

/-- A primitive description is rewritten to what is valid if its mark is and what is made of its modifiers. -/
theorem isSome_onPrimitives_primitive (htag : j.tagged? TargetDescriptor.tags isNested = some ("primitive", r))
    (hr : r.record? ["mark", "modifiers"] = some [some mark, modifiers]) :
    (ofJsonWithin? isNested (onPrimitives fromSecond j)).isSome = true ↔ (Mark.ofJson? true mark).isSome = true ∧
      (Json.orDefault (Json.list? (Modifier.ofJson? true)) []
        (if isObject j then modifiers.map (Json.updateItems rewritten) else modifiers)).isSome = true := by
  cases j with
  | object fields =>
    obtain rfl := eq_object_of_tagged? htag
    have hne (name : String) (hname : name ≠ "primitive") : (Json.object fields).tag? ≠ some name :=
      fun h => hname (eq_of_tag? htag h)
    simp only [Json.record?, List.map_cons, List.map_nil, Option.some.injEq, List.cons.injEq, and_true] at hr
    rw [onPrimitives_of_ne (hne _ (by decide)) (hne _ (by decide))]
    refine TargetDescriptor.isSome_ofJsonWithin?_primitive (tagged?_change (by decide) htag) ?_
    simp [Json.record?, Fields.get?_change, hr, isObject]
  | array => exact TargetDescriptor.isSome_ofJsonWithin?_primitive htag hr
  | _ => cases htag

/-- A range of descriptions is rewritten to what is valid if its flags are and what is made of its ends, which are left as they
are if the range is not called so by its name. -/
theorem isSome_onPrimitives_range (htag : j.tagged? TargetDescriptor.tags isNested = some ("range", r))
    (hr : r.record? ["anchor", "active", "excludeAnchor", "excludeActive"] =
      some [some anchor, some active, excludeAnchor, excludeActive]) :
    (ofJsonWithin? isNested (onPrimitives fromSecond j)).isSome = true ↔
      ((ofJsonWithin? true (if j.tag?.isSome then onPrimitives fromSecond anchor else anchor)).isSome = true ∧
        (ofJsonWithin? true (if j.tag?.isSome then onPrimitives fromSecond active else active)).isSome = true) ∧
      (Json.orDefault Json.bool? false excludeAnchor).isSome = true ∧
      (Json.orDefault Json.bool? false excludeActive).isSome = true := by
  cases j with
  | object fields =>
    obtain rfl := eq_object_of_tagged? htag
    simp only [Json.record?, List.map_cons, List.map_nil, Option.some.injEq, List.cons.injEq, and_true] at hr
    -- A range that is not called so by its name is taken for a primitive description: only a field of modifiers is changed.
    cases hname : (Json.object fields).tag? with
    | none =>
      rw [onPrimitives_of_ne (by simp [hname]) (by simp [hname])]
      refine TargetDescriptor.isSome_ofJsonWithin?_range (tagged?_change (by decide) htag) ?_
      simp [Json.record?, Fields.get?_change, hr]
    | some name =>
      obtain rfl := eq_of_tag? htag hname
      rw [onPrimitives_of_range hname]
      refine TargetDescriptor.isSome_ofJsonWithin?_range (tagged?_change (by decide) htag) ?_
      simp [Json.record?, Fields.get?_change, hr]
  | array => exact TargetDescriptor.isSome_ofJsonWithin?_range htag hr
  | _ => cases htag

/-- A list of descriptions is rewritten to what is valid if so are all of them, which are left as they are if the list is not
called so by its name. -/
theorem isSome_onPrimitives_list (htag : j.tagged? TargetDescriptor.tags isNested = some ("list", r))
    (hr : r.record? ["elements"] = some [some (.array items)]) :
    (ofJsonWithin? isNested (onPrimitives fromSecond j)).isSome = true ↔
      ∀ d ∈ items, (ofJsonWithin? true (if j.tag?.isSome then onPrimitives fromSecond d else d)).isSome = true := by
  cases j with
  | object fields =>
    obtain rfl := eq_object_of_tagged? htag
    simp only [Json.record?, List.map_cons, List.map_nil, Option.some.injEq, List.cons.injEq, and_true] at hr
    cases hname : (Json.object fields).tag? with
    | none =>
      rw [onPrimitives_of_ne (by simp [hname]) (by simp [hname])]
      refine TargetDescriptor.isSome_ofJsonWithin?_list (tagged?_change (by decide) htag) ?_
      simp [Json.record?, Fields.get?_change, hr]
    | some name =>
      obtain rfl := eq_of_tag? htag hname
      have hrecord : (Json.object (Fields.change ["elements"] (onItems fromSecond) fields)).record? ["elements"] =
          some [some (.array (items.map (onPrimitives fromSecond)))] := by
        simp [Json.record?, Fields.get?_change, hr, onItems, onAll_eq]
      rw [onPrimitives_of_list hname,
        TargetDescriptor.isSome_ofJsonWithin?_list (tagged?_change (by decide) htag) hrecord, List.forall_mem_map]
      rfl
  | array => exact TargetDescriptor.isSome_ofJsonWithin?_list htag hr
  | _ => cases htag

/-- Whatever modifiers a valid description lists are valid. -/
theorem Lists.isSome_ofJson? (h : Lists isNested j isReached m) (hvalid : (ofJsonWithin? isNested j).isSome = true) :
    (Modifier.ofJson? true m).isSome = true := by
  induction h with
  | primitive htag hr hm =>
    exact Json.isSome_list?_array.1 ((TargetDescriptor.isSome_ofJsonWithin?_primitive htag hr).1 hvalid).2 _ hm
  | anchor htag hr _ ih => exact ih ((TargetDescriptor.isSome_ofJsonWithin?_range htag hr).1 hvalid).1.1
  | active htag hr _ ih => exact ih ((TargetDescriptor.isSome_ofJsonWithin?_range htag hr).1 hvalid).1.2
  | list htag hr hd _ ih => exact ih ((TargetDescriptor.isSome_ofJsonWithin?_list htag hr).1 hvalid _ hd)

/-! ## The modifiers that a description lists -/

/-- A record has one tag. -/
theorem eq_of_tagged? {names : List String} {tag tag' : String} {r r' : Json}
    (h : j.tagged? names isNested = some (tag, r)) (h' : j.tagged? names isNested = some (tag', r')) : tag = tag' ∧ r = r' :=
  Prod.mk.inj (Option.some.inj (h.symm.trans h'))

/-- A primitive description lists its own modifiers. -/
theorem forall_lists_primitive (htag : j.tagged? TargetDescriptor.tags isNested = some ("primitive", r))
    (hr : r.record? ["mark", "modifiers"] = some [some mark, modifiers]) :
    (∀ isReached m, Lists isNested j isReached m → P isReached m) ↔
      ∀ items, modifiers = some (.array items) → ∀ m ∈ items, P (isObject j) m := by
  constructor
  · rintro h items rfl m hm
    exact h _ m (.primitive htag hr hm)
  · intro h isReached m hlists
    cases hlists with
    | @primitive _ _ _ _ _ items htag' hr' hm =>
      obtain ⟨-, rfl⟩ := eq_of_tagged? htag htag'
      obtain ⟨-, rfl⟩ : mark = _ ∧ modifiers = some (.array items) := by simpa using hr.symm.trans hr'
      exact h items rfl m hm
    | anchor htag' | active htag' | list htag' => exact absurd (eq_of_tagged? htag htag').1 (by decide)

/-- A range of descriptions lists what its ends list, and an upgrade comes to that if the range is called so by its name. -/
theorem forall_lists_range (htag : j.tagged? TargetDescriptor.tags isNested = some ("range", r))
    (hr : r.record? ["anchor", "active", "excludeAnchor", "excludeActive"] =
      some [some anchor, some active, excludeAnchor, excludeActive]) :
    (∀ isReached m, Lists isNested j isReached m → P isReached m) ↔
      (∀ isReached m, Lists true anchor isReached m → P (isReached && j.tag?.isSome) m) ∧
      ∀ isReached m, Lists true active isReached m → P (isReached && j.tag?.isSome) m := by
  constructor
  · exact fun h => ⟨fun _ m hm => h _ m (.anchor htag hr hm), fun _ m hm => h _ m (.active htag hr hm)⟩
  · rintro ⟨hanchor, hactive⟩ isReached m hlists
    cases hlists with
    | @anchor _ isReached _ _ _ anchor' _ _ _ htag' hr' hm =>
      obtain ⟨-, rfl⟩ := eq_of_tagged? htag htag'
      obtain ⟨rfl, -⟩ : anchor = anchor' ∧ _ := by simpa using hr.symm.trans hr'
      exact hanchor isReached m hm
    | @active _ isReached _ _ _ _ active' _ _ htag' hr' hm =>
      obtain ⟨-, rfl⟩ := eq_of_tagged? htag htag'
      obtain ⟨-, rfl, -⟩ : _ ∧ active = active' ∧ _ := by simpa using hr.symm.trans hr'
      exact hactive isReached m hm
    | primitive htag' | list htag' => exact absurd (eq_of_tagged? htag htag').1 (by decide)

/-- A list of descriptions lists what they list, and an upgrade comes to that if the list is called so by its name. -/
theorem forall_lists_list (htag : j.tagged? TargetDescriptor.tags isNested = some ("list", r))
    (hr : r.record? ["elements"] = some [some (.array items)]) :
    (∀ isReached m, Lists isNested j isReached m → P isReached m) ↔
      ∀ d ∈ items, ∀ isReached m, Lists true d isReached m → P (isReached && j.tag?.isSome) m := by
  constructor
  · exact fun h d hd _ m hm => h _ m (.list htag hr hd hm)
  · intro h isReached m hlists
    cases hlists with
    | @list _ isReached _ _ d _ items' htag' hr' hd hm =>
      obtain ⟨-, rfl⟩ := eq_of_tagged? htag htag'
      obtain rfl : items = items' := by simpa using hr.symm.trans hr'
      exact h d hd isReached m hm
    | primitive htag' | anchor htag' | active htag' => exact absurd (eq_of_tagged? htag htag').1 (by decide)

/-- A description of an older payload is valid if there is no range of ordinals in the modifiers that it lists. -/
theorem IsDescription.isSome_ofJsonWithin?_iff (h : IsDescription isNested j) :
    (ofJsonWithin? isNested j).isSome = true ↔ ∀ isReached m, Lists isNested j isReached m → ¬HasOrdinalRange m := by
  induction h with
  | primitive htag hr hmark hmodifiers =>
    rw [TargetDescriptor.isSome_ofJsonWithin?_primitive htag hr, and_iff_right hmark, forall_lists_primitive htag hr]
    rcases hmodifiers with rfl | ⟨items, rfl, hitems⟩
    · exact iff_of_true rfl (by simp)
    · simp only [Json.orDefault_some, Json.isSome_list?_array, Option.some.injEq, Json.array.injEq, forall_eq']
      exact forall₂_congr fun m hm => (hitems m hm).isSome_ofJson?_iff
  | range htag hr hexcludeAnchor hexcludeActive _ _ ihAnchor ihActive =>
    rw [TargetDescriptor.isSome_ofJsonWithin?_range htag hr, and_iff_left ⟨hexcludeAnchor, hexcludeActive⟩, ihAnchor, ihActive,
      forall_lists_range htag hr]
  | list htag hr _ ih =>
    rw [TargetDescriptor.isSome_ofJsonWithin?_list htag hr, forall_lists_list htag hr]
    exact forall₂_congr ih

/-- What an upgrade leaves of an inner description is valid if it comes to all ranges of ordinals in the modifiers that the
description lists, which it does not if it leaves the description as it is. -/
theorem IsDescription.isSome_ite_iff (h : IsDescription true j) (isNamed : Bool)
    (hrewritten : (ofJsonWithin? true (onPrimitives fromSecond j)).isSome = true ↔
      ∀ isReached m, Lists true j isReached m → HasOrdinalRange m → isReached = true ∧ IsRewritable m) :
    (ofJsonWithin? true (if isNamed then onPrimitives fromSecond j else j)).isSome = true ↔
      ∀ isReached m, Lists true j isReached m → HasOrdinalRange m → (isReached && isNamed) = true ∧ IsRewritable m := by
  cases isNamed with
  | true => simpa using hrewritten
  | false => simpa using h.isSome_ofJsonWithin?_iff

/-- A description is rewritten to a valid one if the only modifiers with a range of ordinals in them are those that are one by
themselves and that an upgrade comes to. -/
theorem IsDescription.isSome_onPrimitives_iff (h : IsDescription isNested j) :
    (ofJsonWithin? isNested (onPrimitives fromSecond j)).isSome = true ↔
      ∀ isReached m, Lists isNested j isReached m → HasOrdinalRange m → isReached = true ∧ IsRewritable m := by
  induction h with
  | @primitive _ j _ _ _ htag hr hmark hmodifiers =>
    rw [isSome_onPrimitives_primitive htag hr, and_iff_right hmark, forall_lists_primitive htag hr]
    rcases hmodifiers with rfl | ⟨items, rfl, hitems⟩
    · exact iff_of_true (by cases isObject j <;> rfl) (by simp)
    · simp only [Option.some.injEq, Json.array.injEq, forall_eq']
      cases isObject j with
      | true =>
        simp only [if_pos, Option.map_some, Json.updateItems, Json.orDefault_some, Json.isSome_list?_array, List.forall_mem_map,
          true_and]
        exact forall₂_congr fun m hm => (hitems m hm).isSome_rewritten_iff
      | false =>
        simp only [Bool.false_eq_true, if_false, Json.orDefault_some, Json.isSome_list?_array, false_and]
        exact forall₂_congr fun m hm => (hitems m hm).isSome_ofJson?_iff
  | range htag hr hexcludeAnchor hexcludeActive hanchor hactive ihAnchor ihActive =>
    rw [isSome_onPrimitives_range htag hr, and_iff_left ⟨hexcludeAnchor, hexcludeActive⟩, hanchor.isSome_ite_iff _ ihAnchor,
      hactive.isSome_ite_iff _ ihActive, forall_lists_range htag hr]
  | list htag hr hitems ih =>
    rw [isSome_onPrimitives_list htag hr, forall_lists_list htag hr]
    exact forall₂_congr fun d hd => (hitems d hd).isSome_ite_iff _ (ih d hd)

end Upgrade

/-! ## Payloads -/

namespace Command

open Upgrade

variable {j m payload : Json} {version : Nat} {isReached : Bool} {P : Bool → Json → Prop}

/-- A payload as version 2 may give it, whatever it says its version is. -/
structure IsSecond (payload : Json) : Prop where
  spokenForm : (Json.optional Json.string? (payload.field? "spokenForm")).isSome = true
  usePrePhraseSnapshot : (Json.orDefault Json.bool? false (payload.field? "usePrePhraseSnapshot")).isSome = true
  action : ∃ action, payload.field? "action" = some action ∧ (Action.ofJson? action).isSome = true
  targets : ∃ items, payload.field? "targets" = some (.array items) ∧ ∀ d ∈ items, IsDescription false d

/-- A modifier is listed by a description in a payload. -/
def ListsModifier (payload : Json) (isReached : Bool) (m : Json) : Prop :=
  ∃ items, payload.field? "targets" = some (.array items) ∧ ∃ d ∈ items, Lists false d isReached m

/-- A payload of an older version, rewritten in version 2. -/
def inSecond (version : Nat) (payload : Json) : Json := if version < 2 then onTargets fromFirst payload else payload

/-- What an upgrade makes of a payload of version 2. -/
def fromSecond (payload : Json) : Json := (onTargets Upgrade.fromSecond payload).withField "version" (.nat currentVersion)

theorem upgrade_eq (hversion : version? payload = some version) (hold : version = 1 ∨ version = 2) :
    upgrade payload = .ok (fromSecond (inSecond version payload)) := by
  have hknown : ¬ (version = 0 ∨ currentVersion < version) := by
    rw [currentVersion]
    omega
  have hthird : version < 3 := by omega
  simp only [upgrade, hversion, if_neg hknown, upgradeFrom, if_pos hthird, inSecond, fromSecond]

/-- There is no range of ordinals in what a command lists. -/
theorem not_hasOrdinalRange_of_listsModifier (hvalid : (ofJson? j).isSome = true) (hm : ListsModifier j isReached m) :
    ¬HasOrdinalRange m := by
  obtain ⟨items, hitems, d, hd, hm⟩ := hm
  cases j with
  | object fields =>
    have hitems : Fields.get? "targets" fields = some (.array items) := hitems
    obtain ⟨c, hc⟩ := Option.isSome_iff_exists.1 hvalid
    rw [ofJson?, Option.bind_eq_bind] at hc
    obtain ⟨found, hfound, hc⟩ := Option.bind_eq_some_iff.1 hc
    split at hc
    · obtain ⟨-, -, -, -, rfl⟩ : _ ∧ _ ∧ _ ∧ _ ∧ Json.array items = _ := by simpa [Json.record?, hitems] using hfound
      simp only [Option.bind_eq_bind, Option.bind_eq_some_iff] at hc
      obtain ⟨_, -, _, -, _, -, targets, htargets, -⟩ := hc
      have hall := Json.isSome_list?_array.1 (Option.isSome_of_mem htargets)
      intro hhas
      exact Bool.false_ne_true (hhas.ofJson?_eq_none.symm.trans (hm.isSome_ofJson? (hall d hd)))
    · cases hc
  | _ => cases hitems

/-- The descriptions of a payload are rewritten one by one. -/
theorem field?_fromSecond {items : List Json} (hitems : payload.field? "targets" = some (.array items)) :
    (fromSecond payload).field? "targets" = some (.array (items.map (onPrimitives Upgrade.fromSecond))) := by
  cases payload with
  | object fields =>
    have hitems : Fields.get? "targets" fields = some (.array items) := hitems
    have hfound (fields : List (String × Json)) : (Json.object fields).field? "targets" = Fields.get? "targets" fields := rfl
    simp [fromSecond, onTargets, Json.updateField, Json.withField, hfound, Fields.get?_put, Fields.get?_change, hitems, onItems,
      onAll_eq]
  | _ => cases hitems

/-- A payload of version 2 is upgraded to a command if its descriptions are upgraded to valid ones. -/
theorem IsSecond.isSome_fromSecond (h : IsSecond payload) {items : List Json}
    (hitems : payload.field? "targets" = some (.array items)) :
    (ofJson? (fromSecond payload)).isSome = true ↔
      ∀ d ∈ items, (TargetDescriptor.ofJson? (onPrimitives Upgrade.fromSecond d)).isSome = true := by
  obtain ⟨action, haction, hvalid⟩ := h.action
  cases payload with
  | object fields =>
    have haction : Fields.get? "action" fields = some action := haction
    have htargets : Fields.get? "targets" fields = some (.array items) := hitems
    have hrecord : (fromSecond (.object fields)).record? ["version", "spokenForm", "usePrePhraseSnapshot", "action", "targets"] =
        some [some (.nat currentVersion), Fields.get? "spokenForm" fields, Fields.get? "usePrePhraseSnapshot" fields,
          some action, some (.array (items.map (onPrimitives Upgrade.fromSecond)))] := by
      simp [fromSecond, onTargets, Json.updateField, Json.withField, Json.record?, Fields.get?_put, Fields.get?_change, htargets,
        haction, onItems, onAll_eq]
    rw [isSome_ofJson? hrecord, List.forall_mem_map]
    exact ⟨fun hall => hall.2.2, fun hall => ⟨⟨h.spokenForm, h.usePrePhraseSnapshot⟩, hvalid, hall⟩⟩
  | _ => cases hitems

/-- A payload of version 1 or 2 is upgraded to a command without ranges of ordinals if the only modifiers with a range of ordinals
in them are those that are one by themselves, by numbers that fit, and that an upgrade comes to. -/
theorem upgrade_parses_iff (hversion : version? payload = some version) (hold : version = 1 ∨ version = 2)
    (hsecond : IsSecond (inSecond version payload)) :
    ∃ upgraded, upgrade payload = .ok upgraded ∧
      (((∀ isReached m, ListsModifier upgraded isReached m → ¬HasOrdinalRange m) ∧ (ofJson? upgraded).isSome = true) ↔
        ∀ isReached m, ListsModifier (inSecond version payload) isReached m → HasOrdinalRange m →
          isReached = true ∧ IsRewritable m) := by
  refine ⟨_, upgrade_eq hversion hold, ?_⟩
  obtain ⟨items, hitems, hdescriptions⟩ := hsecond.targets
  rw [and_iff_right_of_imp fun hparses _ _ hm => not_hasOrdinalRange_of_listsModifier hparses hm, hsecond.isSome_fromSecond hitems]
  constructor
  · rintro hall isReached m ⟨items', hitems', d, hd, hm⟩
    obtain rfl : items = items' := by simpa using hitems.symm.trans hitems'
    exact (hdescriptions d hd).isSome_onPrimitives_iff.1 (hall d hd) isReached m hm
  · exact fun hall d hd =>
      (hdescriptions d hd).isSome_onPrimitives_iff.2 fun isReached m hm => hall isReached m ⟨items, hitems, d, hd, hm⟩

/-! ## The first two tokens of the cursors -/

/-- The range of the first two tokens, by their ordinals. -/
def twoTokens : Json := .withTag "ordinalRange" [("scopeType", .withTag "token" []), ("anchor", .int 0), ("active", .int 1)]

/-- The one choice of the range of the first two tokens. -/
def firstOfTwoTokens : Json := .withTag "cascading" [("modifiers", .array [twoTokens])]

/-- What a modifier makes of the cursors. -/
def ofCursors (m : Json) : Json := .withTag "primitive" [("mark", .withTag "cursor" []), ("modifiers", .array [m])]

/-- A payload of version 2 that removes what a modifier makes of the cursors. -/
def removal (m : Json) : Json :=
  .ofFields [("version", .nat 2), ("action", .ofFields [("name", .string "remove")]), ("targets", .array [ofCursors m])]

theorem isOrdinalRange_twoTokens : IsOrdinalRange twoTokens 0 1 where
  tag := Json.tag?_withTag rfl
  scopeType := ⟨.withTag "token" [], Json.field?_ofFields _, rfl⟩
  anchor := Json.field?_ofFields _
  active := Json.field?_ofFields _
  excludeAnchor := by simp [twoTokens, Json.withTag]
  excludeActive := by simp [twoTokens, Json.withTag]

theorem isModifier_firstOfTwoTokens : IsModifier firstOfTwoTokens :=
  .cascading (Json.tagged?_withTag true (by decide) rfl) (Json.record?_ofFields _)
    (List.forall_mem_singleton.2 (.ordinalRange isOrdinalRange_twoTokens))

theorem hasOrdinalRange_firstOfTwoTokens : HasOrdinalRange firstOfTwoTokens :=
  .cascading (Json.tagged?_withTag true (by decide) rfl) (Json.record?_ofFields _) (List.mem_singleton_self _)
    (.here isOrdinalRange_twoTokens.tag)

theorem isDescription_ofCursors (h : IsModifier m) : IsDescription false (ofCursors m) :=
  .primitive (Json.tagged?_withTag false (by decide) rfl) (Json.record?_ofFields _) rfl (.inr ⟨_, rfl, by simpa using h⟩)

theorem forall_lists_ofCursors :
    (∀ isReached m', Lists false (ofCursors m) isReached m' → P isReached m') ↔ P true m := by
  rw [ofCursors, forall_lists_primitive (Json.tagged?_withTag false (by decide) rfl) (Json.record?_ofFields _)]
  simp [isObject, Json.withTag, Json.ofFields]

/-- An upgrade leaves alone a description of the cursors by a modifier that is no range of ordinals itself. -/
theorem onPrimitives_ofCursors (h : m.tag? ≠ some "ordinalRange") : onPrimitives Upgrade.fromSecond (ofCursors m) = ofCursors m := by
  have hstep : Upgrade.fromSecond (ofCursors m) = ofCursors m :=
    Json.updateField_ofFields (by simp [Json.updateItems, h])
  rw [ofCursors, Json.withTag, Json.ofFields] at hstep ⊢
  rw [onPrimitives, Json.get?_type rfl]
  exact hstep

theorem version?_removal (m : Json) : version? (removal m) = some 2 := by
  simp [version?, removal, Json.nat, Json.int?]

theorem isSecond_removal (h : IsModifier m) : IsSecond (removal m) where
  spokenForm := by simp [removal]
  usePrePhraseSnapshot := by simp [removal]
  action := ⟨_, Json.field?_ofFields _, rfl⟩
  targets := ⟨_, Json.field?_ofFields _, List.forall_mem_singleton.2 (isDescription_ofCursors h)⟩

theorem forall_listsModifier_removal :
    (∀ isReached m', ListsModifier (removal m) isReached m' → P isReached m') ↔ P true m := by
  have htargets : (removal m).field? "targets" = some (.array [ofCursors m]) := Json.field?_ofFields _
  rw [← forall_lists_ofCursors (P := P)]
  simp [ListsModifier, htargets]

theorem upgrade_parses_two_tokens : version? (removal twoTokens) = some 2 ∧ IsSecond (inSecond 2 (removal twoTokens)) ∧
    ∃ upgraded, upgrade (removal twoTokens) = .ok upgraded ∧
      (∀ isReached m, ListsModifier upgraded isReached m → ¬HasOrdinalRange m) ∧ (ofJson? upgraded).isSome = true := by
  have hsecond : IsSecond (inSecond 2 (removal twoTokens)) := isSecond_removal (.ordinalRange isOrdinalRange_twoTokens)
  have hfits : Fits 0 ∧ Fits 1 := by
    simp only [Fits]
    omega
  obtain ⟨upgraded, hupgrade, hiff⟩ := upgrade_parses_iff (version?_removal twoTokens) (.inr rfl) hsecond
  have hcome : HasOrdinalRange twoTokens → true = true ∧ IsRewritable twoTokens :=
    fun _ => ⟨rfl, 0, 1, isOrdinalRange_twoTokens, hfits⟩
  exact ⟨version?_removal twoTokens, hsecond, upgraded, hupgrade, hiff.2 (forall_listsModifier_removal.2 hcome)⟩

/-- A range of ordinals that is a choice of a cascade stays, and the payload is no command. -/
theorem not_upgrade_parses_cascading : version? (removal firstOfTwoTokens) = some 2 ∧ IsSecond (removal firstOfTwoTokens) ∧
    ∃ upgraded, upgrade (removal firstOfTwoTokens) = .ok upgraded ∧
      (∃ isReached m, ListsModifier upgraded isReached m ∧ HasOrdinalRange m) ∧ ofJson? upgraded = none := by
  have hsecond : IsSecond (removal firstOfTwoTokens) := isSecond_removal isModifier_firstOfTwoTokens
  have hstays : onPrimitives Upgrade.fromSecond (ofCursors firstOfTwoTokens) = ofCursors firstOfTwoTokens :=
    onPrimitives_ofCursors (by simp [firstOfTwoTokens, Json.tag?_withTag])
  have htargets : (fromSecond (removal firstOfTwoTokens)).field? "targets" = some (.array [ofCursors firstOfTwoTokens]) := by
    rw [field?_fromSecond (Json.field?_ofFields _), List.map_singleton, hstays]
  have hlists : ListsModifier (fromSecond (removal firstOfTwoTokens)) true firstOfTwoTokens :=
    ⟨_, htargets, _, List.mem_singleton_self _,
      .primitive (Json.tagged?_withTag false (by decide) rfl) (Json.record?_ofFields _) (List.mem_singleton_self _)⟩
  refine ⟨version?_removal _, hsecond, _, upgrade_eq (version?_removal _) (.inr rfl),
    ⟨true, _, hlists, hasOrdinalRange_firstOfTwoTokens⟩, ?_⟩
  rw [← Option.not_isSome_iff_eq_none]
  exact fun hparses => not_hasOrdinalRange_of_listsModifier hparses hlists hasOrdinalRange_firstOfTwoTokens

end Command

end StructuralEditing
