import StructuralEditing.Action.Run
import StructuralEditing.Proofs.Action.OneEditor

/-!
# Transfers in one editor

Sources and destinations that all lie in one editor make one batch there: an edit for each destination, and when the sources are
moved, the deletion of what goes with them. The marks come back in the order of the destinations and of the sources
(`Act.leaves_of_run_bring`).
-/

namespace StructuralEditing

/-- The text for each of several destinations, given the texts of the sources and what separates the first of them. -/
inductive PairsTexts (texts : List Text) (delimiter : Option Text) : Nat → List Text → Prop where
  /-- One to one. -/
  | each : PairsTexts texts delimiter texts.length texts
  /-- All sources to a single destination, with the delimiter between them. -/
  | joined {between : Text} : delimiter = some between → PairsTexts texts delimiter 1 [between.intercalate texts]
  /-- A single source to every destination. -/
  | copied {text : Text} (destinations : Nat) : texts = [text] →
      PairsTexts texts delimiter destinations (List.replicate destinations text)

theorem pairsTexts_of_pairTexts {texts brought : List Text} {delimiter : Option Text} {destinations : Nat}
    (h : pairTexts texts delimiter destinations = .ok brought) : PairsTexts texts delimiter destinations brought := by
  unfold pairTexts at h
  split at h
  · rename_i hlength
    cases h
    exact hlength ▸ .each
  · split at h
    · rename_i hone
      subst hone
      split at h
      · cases h
        exact .joined rfl
      · cases h
    · split at h
      · cases h
        exact .copied destinations rfl
      · cases h

/-- There is a text for each destination. -/
theorem PairsTexts.length_eq {texts brought : List Text} {delimiter : Option Text} {destinations : Nat}
    (h : PairsTexts texts delimiter destinations brought) : brought.length = destinations := by
  cases h with
  | each => rfl
  | joined => rfl
  | copied => exact List.length_replicate

namespace Target

/-- Where a text comes to lie that is brought to the target: over its content, or at the place that it stands for. -/
def landing (t : Target) : Range :=
  match t.kind? with
  | some (.place .after _) => .caret t.content.stop
  | some (.place _ _) => .caret t.content.start
  | _ => t.content

/-- What goes before a text that is brought behind something. -/
def leading (t : Target) : Text :=
  match t.kind? with
  | some (.place .after delimiter) => delimiter
  | _ => []

/-- What goes behind a text that is brought before something. -/
def trailing (t : Target) : Text :=
  match t.kind? with
  | some (.place .before delimiter) => delimiter
  | _ => []

/-- Whether a text that is brought to the target replaces its content. -/
def isReplaced (t : Target) : Bool :=
  match t.kind? with
  | some (.place _ _) => false
  | _ => true

/-- The edit that brings a text to the target. -/
def receiving (t : Target) (text : Text) : Edit := ⟨t.landing, t.leading ++ (text ++ t.trailing), t.isReplaced⟩

/-- A text that replaces nothing lands at a place. -/
theorem isReplaced_or_start_eq_stop (t : Target) : t.isReplaced = true ∨ t.landing.start = t.landing.stop := by
  unfold isReplaced landing
  cases hkind : t.kind? with
  | none => exact Or.inl rfl
  | some kind =>
    cases kind with
    | place place delimiter => cases place <;> exact Or.inr rfl
    | _ => exact Or.inl rfl

end Target

/-- An arrival is the edit that brings the text, with the lengths of what sets the text apart. -/
theorem Arrival.bringing_eq (index : Nat) (t : Target) (text : Text) :
    Arrival.bringing index t text = ⟨index, t.receiving text, t.leading.units, t.trailing.units, t.isReversed⟩ := by
  unfold bringing Target.receiving Target.landing Target.leading Target.trailing Target.isReplaced
  cases hkind : t.kind? with
  | none => simp [Edit.replace]
  | some kind =>
    cases kind with
    | place place delimiter => cases place <;> simp [Edit.insert]
    | _ => simp [Edit.replace]

/-- What arrives at a destination is tracked where it lands. -/
theorem Arrival.tracked_bringing (index : Nat) (t : Target) (text : Text) : (bringing index t text).tracked = t.landing := by
  rw [bringing_eq, tracked]
  split
  · rfl
  · rename_i hplace
    exact Range.ext rfl (t.isReplaced_or_start_eq_stop.resolve_left hplace)

/-- The departure of a source. -/
def Departure.ofSource (d : Document) (index : Nat) (source : Target) : Departure :=
  ⟨index, source.content, source.removal d, source.isReversed⟩

/-- The arrivals of texts at destinations. -/
def arrivalsOf (items : List (Target × Text)) : List Arrival := items.zipIdx.map fun x => .bringing x.2 x.1.1 x.1.2

/-- The departures of sources. -/
def departuresOf (d : Document) (sources : List Target) : List Departure := sources.zipIdx.map fun x => .ofSource d x.2 x.1

/-- What is brought from sources. -/
def leavingOf (d : Document) (sources : List Target) : List (Text × Text × Departure) :=
  sources.zipIdx.map fun x => (x.1.text d, x.1.insertionDelimiter d, .ofSource d x.2 x.1)

/-- What is taken away of sources that are moved. -/
def transferRemovals (isMove : Bool) (d : Document) (sources : List Target) : List Range :=
  if isMove then Range.merge (sources.map (Target.removal d)) else []

/-- The edits that put texts at destinations, and take away what goes with sources that are moved. -/
def transferEdits (isMove : Bool) (d : Document) (sources : List Target) (items : List (Target × Text)) : List Edit :=
  items.map (fun x => x.1.receiving x.2) ++ (transferRemovals isMove d sources).map Edit.delete

/-- The mark of a text that was brought to a destination. -/
def Editor.markBrought (e : Editor) (after : Document) (edits : List Edit) (item : Target × Text) : EditorSelection :=
  let followed := (TrackedRange.ofRange e.document .growing item.1.landing).follow (e.document.offsetEdits edits) after
  ⟨e.id, ((Arrival.bringing 0 item.1 item.2).trim after followed.range).toSelection item.1.isReversed⟩

/-- What is made of items without their numbers. -/
theorem map_zipIdx_fst {α β : Type} (items : List α) (f : α → β) : items.zipIdx.map (fun x => f x.1) = items.map f := by
  rw [show (fun x : α × Nat => f x.1) = f ∘ Prod.fst from rfl, ← List.map_map, List.zipIdx_map_fst]

section Leaving

variable (d : Document) (sources : List Target)

theorem map_text_leavingOf : (leavingOf d sources).map (·.1) = sources.map (Target.text d) := by
  rw [leavingOf, List.map_map, ← map_zipIdx_fst sources]
  rfl

theorem map_delimiter_leavingOf :
    (leavingOf d sources).head?.map (fun l => l.2.1) = sources.head?.map (Target.insertionDelimiter d) := by
  cases sources with
  | nil => rfl
  | cons source sources => rfl

theorem length_leavingOf : (leavingOf d sources).length = sources.length := by
  rw [leavingOf, List.length_map, List.length_zipIdx]

theorem map_departure_leavingOf :
    (sources.zip (leavingOf d sources)).map (fun x => Transfer.departure x.2.2.2) = (departuresOf d sources).map .departure := by
  have hsnd : (sources.zip (leavingOf d sources)).map (fun x => Transfer.departure x.2.2.2) =
      (leavingOf d sources).map fun l => Transfer.departure l.2.2 := by
    conv_rhs => rw [← List.map_snd_zip (length_leavingOf d sources).le, List.map_map]
    rfl
  rw [hsnd, leavingOf, departuresOf, List.map_map, List.map_map]
  rfl

end Leaving

namespace Transfer

variable {isMove : Bool} {d : Document} {sources : List Target} {items : List (Target × Text)}

theorem arrivals_append (arriving : List Arrival) (departing : List Departure) :
    arrivals (arriving.map arrival ++ departing.map departure) = arriving := by
  simp [arrivals, List.filterMap_append, List.filterMap_map]

theorem departures_append (arriving : List Arrival) (departing : List Departure) :
    departures (arriving.map arrival ++ departing.map departure) = departing := by
  simp [departures, List.filterMap_append, List.filterMap_map]

/-- The batch of the transfers. -/
theorem edits_batch (isMove : Bool) (d : Document) (sources : List Target) (items : List (Target × Text)) :
    (batch isMove ((arrivalsOf items).map arrival ++ (departuresOf d sources).map departure)).edits =
      transferEdits isMove d sources items := by
  have hedits : (arrivalsOf items).map (·.edit) = items.map fun x => x.1.receiving x.2 := by
    rw [arrivalsOf, List.map_map, ← map_zipIdx_fst items]
    exact List.map_congr_left fun x _ => congrArg Arrival.edit (Arrival.bringing_eq x.2 x.1.1 x.1.2)
  have hremovals : (departuresOf d sources).map (·.removal) = sources.map (Target.removal d) := by
    rw [departuresOf, List.map_map, ← map_zipIdx_fst sources]
    rfl
  rw [batch, arrivals_append, departures_append, transferEdits, transferRemovals, hedits, hremovals]

/-- What the batch carries: the ranges where texts land, and those of the sources. -/
theorem ranges_batch (isMove : Bool) (d : Document) (sources : List Target) (items : List (Target × Text)) :
    (batch isMove ((arrivalsOf items).map arrival ++ (departuresOf d sources).map departure)).ranges =
      [(items.map fun x => x.1.landing, .growing), (sources.map Target.content, .growing)] := by
  have hlandings : (arrivalsOf items).map Arrival.tracked = items.map fun x => x.1.landing := by
    rw [arrivalsOf, List.map_map, ← map_zipIdx_fst items]
    exact List.map_congr_left fun x _ => Arrival.tracked_bringing x.2 x.1.1 x.1.2
  have hcontents : (departuresOf d sources).map (·.content) = sources.map Target.content := by
    rw [departuresOf, List.map_map, ← map_zipIdx_fst sources]
    rfl
  rw [batch, arrivals_append, departures_append, hlandings, hcontents]

end Transfer

namespace Act

/-- Numbered marks in the order of what they were made of. -/
theorem inOrder_zipIdx {α : Type} (items : List α) (mark : α → EditorSelection) :
    inOrder items.length (items.zipIdx.map fun x => (x.2, mark x.1)) = items.map mark := by
  -- The numbers may begin anywhere: the first of them finds the first mark, and none of the later ones does.
  have key : ∀ (items : List α) (first : Nat), (List.range' first items.length).filterMap
      (fun i => ((items.zipIdx first).map fun x => (x.2, mark x.1)).lookup i) = items.map mark := by
    intro items
    induction items with
    | nil => intro first; rfl
    | cons x items ih =>
      intro first
      have hothers : (List.range' (first + 1) items.length).filterMap
          (fun i => (((x :: items).zipIdx first).map fun x => (x.2, mark x.1)).lookup i) = items.map mark := by
        rw [← ih (first + 1)]
        refine List.filterMap_congr fun i hi => ?_
        have hne : (i == first) = false := by
          rw [beq_eq_false_iff_ne]
          have := (List.mem_range'_1.1 hi).1
          omega
        rw [List.zipIdx_cons, List.map_cons, List.lookup_cons, hne]
      rw [List.length_cons, List.range'_succ, List.filterMap_cons, hothers, List.zipIdx_cons, List.map_cons, List.lookup_cons,
        beq_self_eq_true]
      rfl
  rw [inOrder, List.range_eq_range']
  exact key items 0

/-- A walk over items that changes nothing. -/
theorem ends_mapM_of_forall {α β : Type} {w : Workspace} {items : List β} {f : β → Act α} {g : β → α}
    {failed : Error → Workspace → Prop} (h : ∀ x ∈ items, (f x).Ends w (fun a w' => g x = a ∧ w = w') failed) :
    (items.mapM f).Ends w (fun results w' => items.map g = results ∧ w = w') failed := by
  induction items with
  | nil => exact ends_pure ⟨rfl, rfl⟩
  | cons x items ih =>
    obtain ⟨hx, hitems⟩ := List.forall_mem_cons.1 h
    rw [List.mapM_cons]
    refine hx.bind ?_
    rintro a w' ⟨rfl, rfl⟩
    refine (ih hitems).bind ?_
    rintro results w' ⟨rfl, rfl⟩
    exact ends_pure ⟨rfl, rfl⟩

variable {w w' : Workspace} {id : EditorId} {e : Editor} {isMove : Bool} {sources destinations : List Target}
  {items : List (Target × Text)} {o : Outcome}

/-- What a source is left with. -/
theorem ends_departure {failed : Error → Workspace → Prop} {source : Target} (hopen : w.editors.find? id = some e)
    (hone : source.editor = id) (index : Nat) : (departure index source).Ends w (fun leaving w' =>
      (source.text e.document, source.insertionDelimiter e.document, Departure.ofSource e.document index source) = leaving ∧
        w = w') failed := by
  subst hone
  refine (ends_editor_of_open hopen).bind ?_
  rintro e' w' ⟨rfl, rfl⟩
  exact ends_pure ⟨rfl, rfl⟩

/-- What is carried across the batch of an editor comes back as numbered marks. -/
theorem ends_transfer (hkeyed : w.tracker.Keyed) (hopen : w.editors.find? id = some e) :
    (transfer isMove id ((arrivalsOf items).map .arrival ++ (departuresOf e.document sources).map .departure)).Ends w
      (fun marks w' => ∃ e', e.document.applyEdits (transferEdits isMove e.document sources items) = .ok e'.document ∧
        w'.editors.find? id = some e' ∧
        marks.1 = (items.zipIdx.map fun x =>
          (x.2, e.markBrought e'.document (transferEdits isMove e.document sources items) x.1)) ∧
        marks.2 = sources.zipIdx.map fun x => (x.2, e.markAfter e'.document (transferEdits isMove e.document sources items)
          .growing x.1.content x.1.isReversed))
      fun _ _ => True := by
  obtain rfl : e.id = id := Editors.id_of_find?_eq_some hopen
  refine ((ends_runBatch _ hkeyed hopen).mono (fun carried w' h => h) fun _ _ _ => trivial).bind ?_
  rintro carried w' ⟨edited, haccept, hopen', hcarried⟩
  refine (ends_editor_of_open hopen').bind ?_
  rintro e' w'' ⟨he', rfl⟩
  have hdocument : e'.document = edited.document := by rw [← he']
  have happly := (Editor.applyEdits_eq_ok haccept).2.1
  rw [Transfer.edits_batch, ← hdocument] at happly
  rw [he'] at hopen'
  rw [Transfer.ranges_batch, List.map_cons, List.map_singleton, Batch.followRanges, Batch.followRanges, Transfer.edits_batch,
    ← hdocument, List.map_map, List.map_map, List.map_map, List.map_map, ← map_zipIdx_fst items,
    ← map_zipIdx_fst sources] at hcarried
  refine ends_pure ⟨e', happly, hopen', ?_, ?_⟩
  · dsimp only
    rw [hcarried, Transfer.arrivals_append, arrivalsOf, List.head?_cons, Option.getD_some, List.zip_map', List.map_map]
    refine List.map_congr_left fun x _ => ?_
    dsimp only [Function.comp_apply, Editor.markBrought]
    rw [Arrival.bringing_eq x.2, Arrival.bringing_eq 0]
    rfl
  · dsimp only
    rw [hcarried, Transfer.departures_append, departuresOf, List.getElem?_cons_succ, List.getElem?_cons_zero, Option.getD_some,
      List.zip_map', List.map_map]
    rfl

/-- What is left when texts were brought to destinations: without sources and destinations all is as before; else the batch of the
transfers was made, and there is a mark for each text and for each source. -/
def LeavesTransferred (isMove : Bool) (w : Workspace) (e : Editor) (sources : List Target) (items : List (Target × Text))
    (o : Outcome) (w' : Workspace) : Prop :=
  (sources = [] ∧ items = [] ∧ o = ⟨[], some []⟩ ∧ w' = w) ∨
    ∃ e', e.document.applyEdits (transferEdits isMove e.document sources items) = .ok e'.document ∧
      w'.editors.find? e.id = some e' ∧
      o.that = items.map (e.markBrought e'.document (transferEdits isMove e.document sources items)) ∧
      o.source = some (sources.map fun t => e.markAfter e'.document (transferEdits isMove e.document sources items) .growing
        t.content t.isReversed)

/-- Transfers in one editor are one batch there. -/
theorem ends_transfers (isMove : Bool) (items : List (Target × Text)) (hkeyed : w.tracker.Keyed)
    (hopen : w.editors.find? e.id = some e) (hsources : ∀ t ∈ sources, t.editor = e.id)
    (hitems : ∀ x ∈ items, x.1.editor = e.id) :
    (do
      let marks ← (groupByEditor (items.zipIdx.map (fun x => (x.1.1.editor, Transfer.arrival (.bringing x.2 x.1.1 x.1.2))) ++
        (sources.zip (leavingOf e.document sources)).map fun x => (x.1.editor, Transfer.departure x.2.2.2))).mapM
          fun x => transfer isMove x.1 x.2
      return (⟨inOrder items.length (marks.flatMap (·.1)), some (inOrder sources.length (marks.flatMap (·.2)))⟩ : Outcome) :
      Act Outcome).Ends w (LeavesTransferred isMove w e sources items) fun _ _ => True := by
  by_cases hnothing : items = [] ∧ sources = []
  · obtain ⟨rfl, rfl⟩ := hnothing
    exact ends_pure (Or.inl ⟨rfl, rfl, rfl, rfl⟩)
  · -- Otherwise there is a group, and it is the only one.
    have hne : items.zipIdx.map (fun x => (x.1.1.editor, Transfer.arrival (.bringing x.2 x.1.1 x.1.2))) ++
        (sources.zip (leavingOf e.document sources)).map (fun x => (x.1.editor, Transfer.departure x.2.2.2)) ≠ [] := by
      intro hnil
      obtain ⟨harriving, hdeparting⟩ := List.append_eq_nil_iff.1 hnil
      have hitems := congrArg List.length harriving
      have hsources := congrArg List.length hdeparting
      rw [List.length_map, List.length_zipIdx] at hitems
      rw [List.length_map, List.length_zip, length_leavingOf, Nat.min_self] at hsources
      exact hnothing ⟨List.length_eq_zero_iff.1 hitems, List.length_eq_zero_iff.1 hsources⟩
    have hone : ∀ x ∈ items.zipIdx.map (fun x => (x.1.1.editor, Transfer.arrival (.bringing x.2 x.1.1 x.1.2))) ++
        (sources.zip (leavingOf e.document sources)).map (fun x => (x.1.editor, Transfer.departure x.2.2.2)), x.1 = e.id := by
      refine List.forall_mem_append.2 ⟨List.forall_mem_map.2 fun x hx => hitems x.1 ?_, List.forall_mem_map.2 fun x hx => ?_⟩
      · exact (List.mem_zipIdx hx).2.2 ▸ List.getElem_mem _
      · exact hsources x.1 (List.of_mem_zip hx).1
    have htransfers : (items.zipIdx.map (fun x => (x.1.1.editor, Transfer.arrival (.bringing x.2 x.1.1 x.1.2))) ++
        (sources.zip (leavingOf e.document sources)).map (fun x => (x.1.editor, Transfer.departure x.2.2.2))).map Prod.snd =
          (arrivalsOf items).map .arrival ++ (departuresOf e.document sources).map .departure := by
      rw [List.map_append, List.map_map, List.map_map, ← map_departure_leavingOf, arrivalsOf, List.map_map]
      rfl
    rw [groupByEditor_of_forall hne hone, htransfers, List.mapM_cons, List.mapM_nil]
    simp only [bind_assoc, pure_bind]
    refine (ends_transfer hkeyed hopen).bind ?_
    rintro ⟨that, source⟩ w' ⟨e', happly, hopen', rfl, rfl⟩
    rw [List.flatMap_singleton, List.flatMap_singleton]
    dsimp only
    exact ends_pure (Or.inr ⟨e', happly, hopen', inOrder_zipIdx items _, congrArg some (inOrder_zipIdx sources fun t =>
      e.markAfter e'.document (transferEdits isMove e.document sources items) .growing t.content t.isReversed)⟩)

/-- Bringing texts to destinations of one editor is one batch there. -/
theorem leaves_of_run_bring (hkeyed : w.tracker.Keyed) (hopen : w.editors.find? id = some e)
    (hone : ∀ t ∈ sources ++ destinations, t.editor = id) (hrun : (bring isMove sources destinations).run w = .ok o w') :
    ∃ texts, PairsTexts (sources.map (Target.text e.document)) (sources.head?.map (Target.insertionDelimiter e.document))
        destinations.length texts ∧
      LeavesTransferred isMove w e sources (destinations.zip texts) o w' := by
  obtain rfl : e.id = id := Editors.id_of_find?_eq_some hopen
  obtain ⟨hsources, hdestinations⟩ := List.forall_mem_append.1 hone
  have hends : (bring isMove sources destinations).Ends w (fun o w' => ∃ texts,
      PairsTexts (sources.map (Target.text e.document)) (sources.head?.map (Target.insertionDelimiter e.document))
        destinations.length texts ∧ LeavesTransferred isMove w e sources (destinations.zip texts) o w') fun _ _ => True := by
    unfold bring
    have hleaving : (sources.zipIdx.mapM fun x => departure x.2 x.1).Ends w
        (fun leaving w' => leavingOf e.document sources = leaving ∧ w = w') fun _ _ => True := by
      refine ends_mapM_of_forall fun x hx => ends_departure hopen (hsources x.1 ?_) x.2
      exact (List.mem_zipIdx hx).2.2 ▸ List.getElem_mem _
    refine hleaving.bind ?_
    rintro leaving w' ⟨rfl, rfl⟩
    refine ends_ofExcept_bind (fun texts htexts => ?_) fun _ _ => trivial
    rw [map_text_leavingOf, map_delimiter_leavingOf] at htexts
    have hpairs := pairsTexts_of_pairTexts htexts
    have hlength : (destinations.zip texts).length = destinations.length := by
      rw [List.length_zip, hpairs.length_eq, Nat.min_self]
    have htransfers := ends_transfers isMove (destinations.zip texts) hkeyed hopen hsources fun x hx =>
      hdestinations x.1 (List.of_mem_zip hx).1
    rw [hlength] at htransfers
    exact htransfers.mono (fun o w' h => ⟨texts, hpairs, h⟩) fun _ _ _ => trivial
  exact hends.of_run_eq_ok hrun

end Act

end StructuralEditing
