import StructuralEditing.Proofs.Action.Removed
import StructuralEditing.Proofs.Action.Transfers
import StructuralEditing.Proofs.Target.Removal
import StructuralEditing.Proofs.Tracking.Separated

/-!
# Brought texts

Where the edits of a batch leave some text between them, each destination has the text that was brought to it, and its mark is
over this text without what sets it apart (`Editor.marksBrought_markBrought`). A source that is moved lies within a removal, so its
mark has no content any more (`Editor.isEmpty_markAfter_of_removal`). Together they say what bringing and moving do
(`Action.bring_places`).
-/

namespace StructuralEditing

open Text Document

/-- The mark of a text that was brought to a destination. The text lies under it, and before it lies what the edits before the
destination made of the text before it, and then what sets the text apart. -/
def MarksBrought (e e' : Editor) (edits : List Edit) (item : Target × Text) (mark : EditorSelection) : Prop :=
  ∃ r, mark = ⟨e.id, r.toSelection item.1.isReversed⟩ ∧ e'.document.textIn r = item.2 ∧
    e'.document.before r.start = e.document.madeBefore edits item.1.landing.start ++ item.1.leading

/-- What sets a text apart is cut off at both ends. -/
theorem Arrival.trim_between {a : Arrival} {d : Document} {m n : Nat} (hd : '\r' ∉ d.text)
    (hlong : m + (a.lead + n + a.trail) ≤ d.text.units) :
    a.trim d (.between (d.positionAt m) (d.positionAt (m + (a.lead + n + a.trail)))) =
      .between (d.positionAt (m + a.lead)) (d.positionAt (m + a.lead + n)) := by
  rw [trim]
  split
  · rename_i hnothing
    rw [hnothing.1, hnothing.2, Nat.zero_add, Nat.add_zero, Nat.add_zero]
  · rw [Range.between_of_le (d.positionAt_mono (Nat.le_add_right _ _))]
    dsimp only
    rw [offsetAt_positionAt_of_not_mem hd (Nat.le_trans (Nat.le_add_right _ _) hlong), offsetAt_positionAt_of_not_mem hd hlong]
    have hstop : max (m + (a.lead + n + a.trail) - a.trail) (m + a.lead) = m + a.lead + n := by omega
    rw [hstop]

/-- A text lands between places if the content of the target lies between places. -/
theorem Document.HasRange.landing {d : Document} {t : Target} (h : d.HasRange t.content) : d.HasRange t.landing := by
  unfold Target.landing
  split
  · exact ⟨h.stop, h.stop⟩
  · exact ⟨h.start, h.start⟩
  · exact h

namespace Target

variable {d : Document} {t : Target} {text delimiter : Text} {c : Char}

/-- A place has a delimiter of its own. -/
theorem insertionDelimiter_eq_of_place {place : Place} (h : t.kind? = some (.place place delimiter)) :
    t.insertionDelimiter d = delimiter := by
  cases t with
  | single editor content isReversed kind =>
    obtain rfl := Option.some.inj h
    rfl
  | span editor content isReversed first last excludeFirst excludeLast => cases h

/-- What is put at a destination is the text and what sets the text apart there. -/
theorem not_mem_receiving (hdelimiter : c ∉ t.insertionDelimiter d) (htext : c ∉ text) : c ∉ (t.receiving text).text := by
  have hleading : c ∉ t.leading := by
    unfold leading
    split
    · rename_i hplace
      rwa [← insertionDelimiter_eq_of_place hplace]
    · exact List.not_mem_nil
  have htrailing : c ∉ t.trailing := by
    unfold trailing
    split
    · rename_i hplace
      rwa [← insertionDelimiter_eq_of_place hplace]
    · exact List.not_mem_nil
  rw [receiving, List.mem_append, List.mem_append, not_or, not_or]
  exact ⟨hleading, htext, htrailing⟩

/-- The text of a target is a part of the document. -/
theorem not_mem_text (hd : c ∉ d.text) : c ∉ t.text d := fun h => hd (mem_of_mem_takeUnits (mem_of_mem_dropUnits h))

end Target

theorem not_mem_intercalate {c : Char} {between : Text} {texts : List Text} (hbetween : c ∉ between)
    (htexts : ∀ t ∈ texts, c ∉ t) : c ∉ between.intercalate texts := by
  induction texts with
  | nil => exact List.not_mem_nil
  | cons t texts ih =>
    obtain ⟨ht, htexts⟩ := List.forall_mem_cons.1 htexts
    rcases eq_or_ne texts [] with rfl | hne
    · rwa [List.intercalate_singleton]
    · rw [List.intercalate_cons_of_ne_nil hne, List.mem_append, List.mem_append, not_or, not_or]
      exact ⟨⟨ht, hbetween⟩, ih htexts⟩

/-- The texts that are brought are made of those of the sources. -/
theorem PairsTexts.not_mem {texts brought : List Text} {delimiter : Option Text} {destinations : Nat} {c : Char}
    (h : PairsTexts texts delimiter destinations brought) (htexts : ∀ t ∈ texts, c ∉ t)
    (hdelimiter : ∀ t ∈ delimiter, c ∉ t) : ∀ t ∈ brought, c ∉ t := by
  cases h with
  | each => exact htexts
  | joined hbetween => exact List.forall_mem_singleton.2 (not_mem_intercalate (hdelimiter _ hbetween) htexts)
  | copied destinations hone =>
    subst hone
    intro t ht
    exact htexts t (List.mem_singleton.2 (List.eq_of_mem_replicate ht))

/-- The mark of a destination that comes to lie around all that was put there is over the text alone. -/
theorem Editor.markBrought_eq {e : Editor} {after : Document} {edits : List Edit} {t : Target} {text : Text} {m : Nat}
    (hafter : '\r' ∉ after.text)
    (hmoved : mapRange (e.document.offsetEdits edits) (e.document.offsetAt t.landing.start)
      (e.document.offsetAt t.landing.stop) .growing = (m, m + Text.units (t.receiving text).text))
    (hlong : m + Text.units (t.receiving text).text ≤ after.text.units) :
    e.markBrought after edits (t, text) = ⟨e.id, (Range.between (after.positionAt (m + t.leading.units))
      (after.positionAt (m + t.leading.units + text.units))).toSelection t.isReversed⟩ := by
  have hunits : Text.units (t.receiving text).text = t.leading.units + text.units + t.trailing.units := by
    rw [Target.receiving, units_append, units_append, Nat.add_assoc]
  rw [hunits] at hmoved hlong
  have hfollowed : ((TrackedRange.ofRange e.document .growing t.landing).follow (e.document.offsetEdits edits) after).range =
      .between (after.positionAt m) (after.positionAt (m + (t.leading.units + text.units + t.trailing.units))) :=
    congrArg (fun m : Nat × Nat => Range.between (after.positionAt m.1) (after.positionAt m.2)) hmoved
  rw [markBrought]
  dsimp only
  rw [hfollowed, Arrival.bringing_eq]
  exact congrArg (fun r => (⟨e.id, Range.toSelection r t.isReversed⟩ : EditorSelection)) (Arrival.trim_between hafter hlong)

section Accepted

variable {e e' : Editor} {edits : List Edit} {r removal : Range} (hd : '\r' ∉ e.document.text)
  (happly : e.document.applyEdits edits = .ok e'.document) (hadmits : ∀ x ∈ edits, e.document.Admits x)
  (hseparated : (edits.map Edit.range).Pairwise e.document.Separated)

include hd happly hadmits hseparated

/-- The mark of a destination is over the text that was brought there. -/
theorem Editor.marksBrought_markBrought {t : Target} {text : Text} (hedits : ∀ x ∈ edits, '\r' ∉ x.text)
    (hitem : t.receiving text ∈ edits) : MarksBrought e e' edits (t, text) (e.markBrought e'.document edits (t, text)) := by
  have hd' : '\r' ∉ e'.document.text := not_mem_text_applyEdits hd hedits happly hadmits
  obtain ⟨behind, htext, hmoved⟩ := exists_text_eq_of_mem hd happly hadmits hseparated hitem t.isReplaced_or_start_eq_stop
  have htext : e'.document.text = e.document.madeBefore edits t.landing.start ++ ((t.receiving text).text ++ behind) := htext
  have htext' : e'.document.text =
      (e.document.madeBefore edits t.landing.start ++ t.leading) ++ (text ++ (t.trailing ++ behind)) := by
    rw [htext, Target.receiving]
    simp only [List.append_assoc]
  have hlong : Text.units (e.document.madeBefore edits t.landing.start) + Text.units (t.receiving text).text ≤
      e'.document.text.units := by
    rw [htext, units_append, units_append]
    omega
  have hmark := markBrought_eq hd' hmoved hlong
  rw [← units_append] at hmark
  refine ⟨_, hmark, textIn_of_text_eq hd' htext', ?_⟩
  rw [Range.between_of_le (positionAt_mono _ (Nat.le_add_right _ _))]
  exact before_positionAt_units hd' htext'

/-- A source that is removed has no content any more. -/
theorem Editor.isEmpty_markAfter_of_removal (hremoval : Edit.delete removal ∈ edits) (hstart : removal.start ≤ r.start)
    (hstop : r.stop ≤ removal.stop) (reversed : Bool) :
    (e.markAfter e'.document edits .growing r reversed).selection.isEmpty = true := by
  rw [markAfter]
  dsimp only
  rw [range_follow_of_deletion hd happly hadmits hseparated hremoval rfl rfl hstart hstop, Range.toSelection_caret]
  exact decide_eq_true rfl

end Accepted

section Transferred

variable {d : Document} {sources destinations : List Target} {texts : List Text}

/-- The edits of a transfer lie where texts land and where sources are taken away. -/
theorem map_range_transferEdits (isMove : Bool) (d : Document) (sources : List Target)
    (hlength : texts.length = destinations.length) :
    (transferEdits isMove d sources (destinations.zip texts)).map Edit.range =
      destinations.map Target.landing ++ transferRemovals isMove d sources := by
  have hlandings : (destinations.zip texts).map (fun x => x.1.landing) = destinations.map Target.landing := by
    conv_rhs => rw [← List.map_fst_zip hlength.ge, List.map_map]
    rfl
  have hremovals : ((transferRemovals isMove d sources).map Edit.delete).map Edit.range = transferRemovals isMove d sources := by
    rw [List.map_map]
    exact List.map_id _
  rw [transferEdits, List.map_append, List.map_map, hremovals, ← hlandings]
  rfl

theorem transferEdits_nil (isMove : Bool) (d : Document) : transferEdits isMove d [] [] = [] := by
  cases isMove with
  | false => rfl
  | true => exact congrArg (List.map Edit.delete) Range.merge_nil

theorem admits_transferEdits (isMove : Bool) (texts : List Text) (hsources : ∀ t ∈ sources, t.HasContent d)
    (hdestinations : ∀ t ∈ destinations, d.HasRange t.content) :
    ∀ x ∈ transferEdits isMove d sources (destinations.zip texts), d.Admits x := by
  refine List.forall_mem_append.2 ⟨List.forall_mem_map.2 fun x hx => ?_, List.forall_mem_map.2 fun m hm => ?_⟩
  · have hlanding := (hdestinations x.1 (List.of_mem_zip hx).1).landing
    exact ⟨hlanding.start, hlanding.stop⟩
  · cases isMove with
    | false => cases hm
    | true =>
      have hremovals : ∀ r ∈ sources.map (Target.removal d), d.HasRange r :=
        List.forall_mem_map.2 fun t ht => Target.hasRange_removal (hsources t ht)
      have hmerged := (Range.merges_merge _).hasRange hremovals m hm
      exact ⟨hmerged.start, hmerged.stop⟩

theorem not_mem_text_transferEdits {c : Char} (isMove : Bool) (hd : c ∉ d.text)
    (hdelimiters : ∀ t ∈ sources ++ destinations, c ∉ t.insertionDelimiter d)
    (hpairs : PairsTexts (sources.map (Target.text d)) (sources.head?.map (Target.insertionDelimiter d)) destinations.length
      texts) :
    ∀ x ∈ transferEdits isMove d sources (destinations.zip texts), c ∉ x.text := by
  obtain ⟨hsources, hdestinations⟩ := List.forall_mem_append.1 hdelimiters
  have htexts : ∀ t ∈ texts, c ∉ t := by
    refine hpairs.not_mem (List.forall_mem_map.2 fun t _ => Target.not_mem_text hd) ?_
    intro delimiter hdelimiter
    obtain ⟨t, ht, rfl⟩ := Option.map_eq_some_iff.1 hdelimiter
    exact hsources t (List.mem_of_mem_head? ht)
  refine List.forall_mem_append.2 ⟨List.forall_mem_map.2 fun x hx => ?_, List.forall_mem_map.2 fun _ _ => List.not_mem_nil⟩
  exact Target.not_mem_receiving (hdestinations x.1 (List.of_mem_zip hx).1) (htexts x.2 (List.of_mem_zip hx).2)

/-- What goes with a source that is moved lies within one of the removals. -/
theorem exists_removal_of_mem {t : Target} (ht : t ∈ sources) :
    ∃ m ∈ transferRemovals true d sources, m.start ≤ t.content.start ∧ t.content.stop ≤ m.stop := by
  obtain ⟨m, hm, hstart, hstop⟩ := (Range.merges_merge _).contained _ (List.mem_map_of_mem ht)
  obtain ⟨hcontains, hcontains'⟩ := Target.contains_removal d t
  exact ⟨m, hm, hstart.trans hcontains, hcontains'.trans hstop⟩

end Transferred

namespace Action

/-- Bringing or moving sources to destinations of one editor whose edits leave text between them. The new text is the old one with
all that arrives and, when the sources are moved, without what goes with them. The marks are over the texts that were brought, in
the order of the destinations, and over what became of the sources, which is nothing when they were moved. -/
theorem bring_places (isMove : Bool) {w w' : Workspace} {id : EditorId} {e : Editor} {sources destinations : List Target}
    {o : Outcome} (hkeyed : w.tracker.Keyed) (hopen : w.editors.find? id = some e)
    (hone : ∀ t ∈ sources ++ destinations, t.editor = id) (hsources : ∀ t ∈ sources, t.HasContent e.document)
    (hdestinations : ∀ t ∈ destinations, e.document.HasRange t.content) (hd : '\r' ∉ e.document.text)
    (hdelimiters : ∀ t ∈ sources ++ destinations, '\r' ∉ t.insertionDelimiter e.document)
    (hseparated : (destinations.map Target.landing ++ transferRemovals isMove e.document sources).Pairwise e.document.Separated)
    (hrun : ((if isMove then Action.move else Action.bring).run [sources, destinations]).run w = .ok o w') :
    ∃ e' texts, w'.editors.find? id = some e' ∧ texts.length = destinations.length ∧
      PairsTexts (sources.map (Target.text e.document)) (sources.head?.map (Target.insertionDelimiter e.document))
        destinations.length texts ∧
      let edits := transferEdits isMove e.document sources (destinations.zip texts)
      e'.document.text = e.document.substituted edits ∧
        List.Forall₂ (MarksBrought e e' edits) (destinations.zip texts) o.that ∧
        o.source = some (sources.map fun t => e.markAfter e'.document edits .growing t.content t.isReversed) ∧
        (isMove = true → ∀ marks ∈ o.source, ∀ m ∈ marks, m.selection.isEmpty = true) := by
  obtain rfl : e.id = id := Editors.id_of_find?_eq_some hopen
  have hbring : (Act.bring isMove sources destinations).run w = .ok o w' := by
    cases isMove with
    | false => exact hrun
    | true => exact hrun
  obtain ⟨texts, hpairs, hleaves⟩ := Act.leaves_of_run_bring hkeyed hopen hone hbring
  have hlength := hpairs.length_eq
  -- Without sources and destinations no batch is made, and the text stays.
  rcases hleaves with ⟨rfl, hnothing, rfl, rfl⟩ | ⟨e', happly, hopen', hthat, hsource⟩
  · obtain ⟨rfl, rfl⟩ : destinations = [] ∧ texts = [] := by
      rw [← List.length_eq_zero_iff, ← List.length_eq_zero_iff (l := texts), hlength, and_self]
      have hzip := congrArg List.length hnothing
      rwa [List.length_zip, hlength, Nat.min_self] at hzip
    refine ⟨e, [], hopen, rfl, hpairs, ?_, .nil, rfl, ?_⟩
    · rw [List.zip_nil_left, transferEdits_nil, substituted_nil]
    · rintro - marks hmarks m hm
      obtain rfl := Option.some.inj hmarks
      cases hm
  · have hranges := map_range_transferEdits isMove e.document sources hlength
    have hadmits := admits_transferEdits isMove texts hsources hdestinations
    rw [← hranges] at hseparated
    refine ⟨e', texts, hopen', hlength, hpairs, text_applyEdits_of_not_mem hd happly hadmits, ?_, hsource, ?_⟩
    · rw [hthat, List.forall₂_map_right_iff, List.forall₂_same]
      intro item hitem
      exact Editor.marksBrought_markBrought hd happly hadmits hseparated (not_mem_text_transferEdits isMove hd hdelimiters hpairs)
        (List.mem_append_left _ (List.mem_map_of_mem hitem))
    · rintro rfl marks hmarks m hm
      obtain rfl := Option.some.inj (hsource.symm.trans hmarks)
      obtain ⟨t, ht, rfl⟩ := List.mem_map.1 hm
      obtain ⟨removal, hremoval, hstart, hstop⟩ := exists_removal_of_mem (d := e.document) ht
      exact Editor.isEmpty_markAfter_of_removal hd happly hadmits hseparated
        (List.mem_append_right _ (List.mem_map_of_mem hremoval)) hstart hstop t.isReversed

/-- The first letter is moved behind the last one and over the third. -/
theorem bring_places_copied :
    let e : Editor := .new ⟨1⟩ (.new ⟨1⟩ "plaintext" ['a', ' ', 'b', ' ', 'c', ' ', 'd'])
    let w : Workspace := ⟨Editors.empty.add e, .empty⟩
    let sources : List Target := [.single ⟨1⟩ (.onLine 0 0 1) false .token]
    let destinations : List Target := [.single ⟨1⟩ (.onLine 0 7 7) false (.place .after [' ']), .raw ⟨1⟩ (.onLine 0 4 5)]
    ∃ o w' e' texts, (Action.move.run [sources, destinations]).run w = .ok o w' ∧ w'.editors.find? ⟨1⟩ = some e' ∧
      e'.document.text = ['b', ' ', 'a', ' ', 'd', ' ', 'a'] ∧
      PairsTexts (sources.map (Target.text e.document)) (some [' ']) 2 texts ∧
      List.Forall₂ (MarksBrought e e' (transferEdits true e.document sources (destinations.zip texts))) (destinations.zip texts)
        o.that ∧
      ∀ marks ∈ o.source, ∀ m ∈ marks, m.selection.isEmpty = true := by
  intro e w sources destinations
  have h : (Action.move.run [sources, destinations]).textsAfter ⟨1⟩ w =
      some (['b', ' ', 'a', ' ', 'd', ' ', 'a'], [['a'], ['a']]) := by cbv
  obtain ⟨o, w', e', hrun, hopen, htext, -⟩ := Act.exists_of_textsAfter h
  have hremovals : transferRemovals true e.document sources = [.onLine 0 0 2] := by cbv
  have hseparated : (destinations.map Target.landing ++ transferRemovals true e.document sources).Pairwise
      e.document.Separated := by
    rw [hremovals]
    decide
  obtain ⟨edited, texts, hopen', -, hpairs, -, hmarks, -, hempty⟩ :=
    bring_places true Tracker.keyed_empty (show w.editors.find? ⟨1⟩ = some e from rfl) (by decide) (by decide) (by decide)
      (by decide) (by decide) hseparated hrun
  obtain rfl := Option.some.inj (hopen.symm.trans hopen')
  exact ⟨o, w', e', texts, hrun, hopen, htext, hpairs, hmarks, hempty rfl⟩

end Action

end StructuralEditing
