import Mathlib
import StructuralEditing.Tree.Builder

/-!
# What a builder is told

A builder is told to add nodes, to close the innermost one, and what field the next one is held under. Without the fields, the
calls that make up one tree form a node: a leaf, a token, or an opening, nodes, and the closing that belongs to it
(`IsNode`). Whether calls go on to complete a tree is also seen from left to right, by the nodes that are open
(`Completes`); both say the same (`makesTree_iff`).
-/

namespace StructuralEditing

namespace TreeBuilder

/-- A call to a builder, other than the one that finishes the tree. -/
inductive Call where
  | field (name : String)
  | openNode (kind : String) (start : Position) (isNamed : Bool)
  | close (stop : Position)
  | leaf (kind : String) (range : Range)
  | token (kind : String) (range : Range)
  deriving DecidableEq, Repr

/-- The builder after a call. -/
def call (b : TreeBuilder) : Call → TreeBuilder
  | .field name => b.field name
  | .openNode kind start isNamed => b.openNode kind start isNamed
  | .close stop => b.close stop
  | .leaf kind range => b.leaf kind range
  | .token kind range => b.token kind range

/-- The builder after calls. -/
def run (b : TreeBuilder) (calls : List Call) : TreeBuilder := calls.foldl call b

theorem run_cons (b : TreeBuilder) (c : Call) (calls : List Call) : b.run (c :: calls) = (b.call c).run calls := rfl

/-- Whether a call only labels the next node. -/
def Call.isField : Call → Bool
  | .field _ => true
  | _ => false

/-- Calls without the fields. -/
def erase (calls : List Call) : List Call := calls.filter fun c => !c.isField

/-! ## The grammar of calls -/

/-- Calls that make up nodes side by side. -/
inductive AreNodes : List Call → Prop
  | nil : AreNodes []
  | leaf (kind : String) (range : Range) {rest : List Call} : AreNodes rest → AreNodes (.leaf kind range :: rest)
  | token (kind : String) (range : Range) {rest : List Call} : AreNodes rest → AreNodes (.token kind range :: rest)
  | node (kind : String) (isNamed : Bool) {start stop : Position} {inner rest : List Call} :
      start ≤ stop → AreNodes inner → AreNodes rest →
        AreNodes (.openNode kind start isNamed :: (inner ++ .close stop :: rest))

/-- Calls that make up one node: a leaf, a token, or an opening, nodes, and a closing that does not come before the start. -/
inductive IsNode : List Call → Prop
  | leaf (kind : String) (range : Range) : IsNode [.leaf kind range]
  | token (kind : String) (range : Range) : IsNode [.token kind range]
  | node (kind : String) (isNamed : Bool) {start stop : Position} {inner : List Call} :
      start ≤ stop → AreNodes inner → IsNode (.openNode kind start isNamed :: (inner ++ [.close stop]))

/-! ## From left to right -/

/-- Calls that complete a tree which has a root: given where the open nodes start, innermost first, they close all of them, none
before its start, and add nothing beside the root. -/
def Completes : List Position → List Call → Prop
  | starts, .field _ :: calls => Completes starts calls
  | [], [] => True
  | start :: starts, .close stop :: calls => start ≤ stop ∧ Completes starts calls
  | outer :: starts, .openNode _ start _ :: calls => Completes (start :: outer :: starts) calls
  | outer :: starts, .leaf _ _ :: calls => Completes (outer :: starts) calls
  | outer :: starts, .token _ _ :: calls => Completes (outer :: starts) calls
  | _, _ => False

/-- Calls that make a tree from nothing: they add a root and complete the tree. -/
def MakesTree : List Call → Prop
  | .field _ :: calls => MakesTree calls
  | .openNode _ start _ :: calls => Completes [start] calls
  | .leaf _ _ :: calls => Completes [] calls
  | .token _ _ :: calls => Completes [] calls
  | _ => False

/-- Fields do not matter. -/
theorem completes_erase {starts : List Position} {calls : List Call} :
    Completes starts (erase calls) ↔ Completes starts calls := by
  induction calls generalizing starts with
  | nil => rfl
  | cons c calls ih =>
    cases c with
    | field name => exact ih.trans (by rw [Completes])
    | close stop =>
      cases starts with
      | nil => exact Iff.rfl
      | cons start starts => exact and_congr_right fun _ => ih
    | openNode kind start isNamed =>
      cases starts with
      | nil => exact Iff.rfl
      | cons outer starts => exact ih
    | leaf kind range | token kind range =>
      cases starts with
      | nil => exact Iff.rfl
      | cons outer starts => exact ih

theorem makesTree_erase {calls : List Call} : MakesTree (erase calls) ↔ MakesTree calls := by
  induction calls with
  | nil => rfl
  | cons c calls ih =>
    cases c with
    | field name => exact ih
    | close stop => exact Iff.rfl
    | openNode kind start isNamed => exact completes_erase
    | leaf kind range | token kind range => exact completes_erase

/-- Nodes within an open one leave it open. -/
theorem AreNodes.completes_append {inner rest : List Call} (h : AreNodes inner) {outer : Position} {starts : List Position} :
    Completes (outer :: starts) (inner ++ rest) ↔ Completes (outer :: starts) rest := by
  induction h generalizing outer starts rest with
  | nil => rfl
  | leaf kind range _ ih => exact ih
  | token kind range _ ih => exact ih
  | @node kind isNamed start stop inner rest' hle _ _ ihInner ihRest =>
    rw [List.cons_append, List.append_assoc]
    exact ihInner.trans ((and_iff_right hle).trans ihRest)

/-- What completes a tree with an open node begins with nodes within it and its closing. -/
theorem exists_of_completes {calls : List Call} (hfields : ∀ c ∈ calls, ¬c.isField) {outer : Position}
    {starts : List Position} (h : Completes (outer :: starts) calls) :
    ∃ inner stop rest, calls = inner ++ .close stop :: rest ∧ AreNodes inner ∧ outer ≤ stop ∧ Completes starts rest := by
  -- The nodes behind an inner closing come later in the calls, but not right behind the opening, so the induction is on the
  -- number of calls.
  induction hn : calls.length using Nat.strong_induction_on generalizing calls outer starts with
  | _ n ih =>
    subst hn
    cases calls with
    | nil => exact False.elim h
    | cons c calls =>
      have hrest : ∀ d ∈ calls, ¬d.isField := fun d hd => hfields d (List.mem_cons_of_mem _ hd)
      cases c with
      | field name => exact absurd rfl (hfields _ (List.mem_cons_self ..))
      | close stop => exact ⟨[], stop, calls, rfl, .nil, h.1, h.2⟩
      | leaf kind range =>
        obtain ⟨inner, stop, rest, rfl, hinner, hle, hcompletes⟩ := ih _ (Nat.lt_succ_self _) hrest h rfl
        exact ⟨.leaf kind range :: inner, stop, rest, rfl, .leaf kind range hinner, hle, hcompletes⟩
      | token kind range =>
        obtain ⟨inner, stop, rest, rfl, hinner, hle, hcompletes⟩ := ih _ (Nat.lt_succ_self _) hrest h rfl
        exact ⟨.token kind range :: inner, stop, rest, rfl, .token kind range hinner, hle, hcompletes⟩
      | openNode kind start isNamed =>
        obtain ⟨inner, stop, rest, rfl, hinner, hle, hcompletes⟩ := ih _ (Nat.lt_succ_self _) hrest h rfl
        have hlt : rest.length < (Call.openNode kind start isNamed :: (inner ++ .close stop :: rest)).length := by
          simp only [List.length_cons, List.length_append]
          omega
        have hbehind : ∀ d ∈ rest, ¬d.isField := fun d hd =>
          hrest d (List.mem_append_right _ (List.mem_cons_of_mem _ hd))
        obtain ⟨inner', stop', rest', rfl, hinner', hle', hcompletes'⟩ := ih _ hlt hbehind hcompletes rfl
        refine ⟨.openNode kind start isNamed :: (inner ++ .close stop :: inner'), stop', rest', ?_,
          .node kind isNamed hle hinner hinner', hle', hcompletes'⟩
        simp only [List.cons_append, List.append_assoc]

/-- Beside a complete tree there is room for nothing. -/
theorem completes_nil_iff {calls : List Call} (hfields : ∀ c ∈ calls, ¬c.isField) : Completes [] calls ↔ calls = [] := by
  cases calls with
  | nil => exact iff_of_true trivial rfl
  | cons c calls =>
    refine iff_of_false ?_ (List.cons_ne_nil _ _)
    cases c with
    | field name => exact absurd rfl (hfields _ (List.mem_cons_self ..))
    | _ => exact id

/-- The calls that make a tree are, without the fields, those of one node. -/
theorem makesTree_iff {calls : List Call} : MakesTree calls ↔ IsNode (erase calls) := by
  rw [← makesTree_erase]
  have hfields : ∀ c ∈ erase calls, ¬c.isField := fun c hc => by simpa using (List.mem_filter.1 hc).2
  generalize erase calls = calls at hfields
  constructor
  · intro h
    cases calls with
    | nil => exact False.elim h
    | cons c calls =>
      have hrest : ∀ d ∈ calls, ¬d.isField := fun d hd => hfields d (List.mem_cons_of_mem _ hd)
      cases c with
      | field name => exact absurd rfl (hfields _ (List.mem_cons_self ..))
      | close stop => exact False.elim h
      | leaf kind range =>
        obtain rfl := (completes_nil_iff hrest).1 h
        exact .leaf kind range
      | token kind range =>
        obtain rfl := (completes_nil_iff hrest).1 h
        exact .token kind range
      | openNode kind start isNamed =>
        obtain ⟨inner, stop, rest, rfl, hinner, hle, hcompletes⟩ := exists_of_completes hrest h
        have hbehind : ∀ d ∈ rest, ¬d.isField := fun d hd =>
          hrest d (List.mem_append_right _ (List.mem_cons_of_mem _ hd))
        obtain rfl := (completes_nil_iff hbehind).1 hcompletes
        exact .node kind isNamed hle hinner
  · intro h
    cases h with
    | leaf kind range => exact trivial
    | token kind range => exact trivial
    | node kind isNamed hle hinner => exact hinner.completes_append.2 ⟨hle, trivial⟩

end TreeBuilder

end StructuralEditing
