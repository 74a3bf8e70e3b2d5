import Mathlib.Data.List.Forall2
import StructuralEditing.Modifier.Apply

/-!
# Chains of modifiers

Targets go through a chain of steps together: all of them take one step before any of them takes the next, and the first error ends
it all. Still a chain can be divided anywhere (`Stage.run_append`), and so can the targets (`Stage.run_targets_append_iff`). So what
comes out is what each target comes to when it goes through the chain alone, one target after the other, and nothing comes out just
when one of them fails alone (`Stage.run_compositional`). Only which error is met first may differ, be it a refusal or a breakdown:
together the targets fail at the earliest step at which any of them does, and one after the other the earliest target fails.
-/

namespace StructuralEditing

namespace Stage

variable {stage : Stage} {stages : List Stage} {targets front rest found : List Target}

theorem bind_eq_ok_iff {α β : Type} {x : Except Error α} {f : α → Except Error β} {b : β} :
    x.bind f = .ok b ↔ ∃ a, x = .ok a ∧ f a = .ok b := by
  cases x <;> simp [Except.bind]

/-- What does not succeed fails. -/
theorem exists_error_iff {α : Type} {x : Except Error α} : (∃ e, x = .error e) ↔ ¬∃ a, x = .ok a := by
  cases x <;> simp

/-! ## One step -/

theorem onEach_nil (stage : Stage) : stage.onEach [] = .ok [] := rfl

/-- A step from the targets of two lists is a step from those of the first, and then one from those of the second. -/
theorem onEach_append (stage : Stage) (front rest : List Target) :
    stage.onEach (front ++ rest) = (stage.onEach front).bind fun first => (stage.onEach rest).map (first ++ ·) := by
  simp only [onEach, List.mapM_append]
  cases front.mapM stage with
  | error e => rfl
  | ok first =>
    cases rest.mapM stage with
    | error e => rfl
    | ok second => exact congrArg Except.ok List.flatten_append

/-- Such a step succeeds just when both parts of it do. -/
theorem onEach_append_iff :
    stage.onEach (front ++ rest) = .ok found ↔
      ∃ first second, stage.onEach front = .ok first ∧ stage.onEach rest = .ok second ∧ first ++ second = found := by
  rw [onEach_append]
  cases stage.onEach front <;> cases stage.onEach rest <;> simp [Except.bind, Except.map]

/-! ## Chains -/

theorem run_nil (targets : List Target) : run [] targets = .ok targets := rfl

theorem run_cons (stage : Stage) (stages : List Stage) (targets : List Target) :
    run (stage :: stages) targets = (stage.onEach targets).bind (run stages) := rfl

/-- A chain can be divided: its end runs on what its beginning gave. -/
theorem run_append (stages more : List Stage) (targets : List Target) :
    run (stages ++ more) targets = (run stages targets).bind (run more) := List.foldlM_append

/-- From no targets a chain leads to none. -/
theorem run_no_targets (stages : List Stage) : run stages [] = .ok [] := by
  induction stages with
  | nil => exact run_nil []
  | cons stage stages ih =>
    rw [run_cons, onEach_nil]
    exact ih

/-- The targets can be divided: a chain leads on from all of them just when it does from both parts. -/
theorem run_targets_append_iff :
    run stages (front ++ rest) = .ok found ↔
      ∃ first second, run stages front = .ok first ∧ run stages rest = .ok second ∧ first ++ second = found := by
  induction stages generalizing front rest with
  | nil => simp [run_nil]
  | cons stage stages ih =>
    -- What the first step gives is divided as the targets are, so the rest of the chain runs on two lists again.
    simp only [run_cons, bind_eq_ok_iff, onEach_append_iff]
    constructor
    · rintro ⟨_, ⟨first, second, hfront, hrest, rfl⟩, hrun⟩
      obtain ⟨a, b, ha, hb, rfl⟩ := ih.1 hrun
      exact ⟨a, b, ⟨first, hfront, ha⟩, ⟨second, hrest, hb⟩, rfl⟩
    · rintro ⟨a, b, ⟨first, hfront, ha⟩, ⟨second, hrest, hb⟩, rfl⟩
      exact ⟨first ++ second, ⟨first, second, hfront, hrest, rfl⟩, ih.2 ⟨a, b, ha, hb, rfl⟩⟩

/-- A chain fails on all of the targets just when it fails on one of the parts. -/
theorem run_targets_append_fails_iff :
    (∃ e, run stages (front ++ rest) = .error e) ↔
      (∃ e, run stages front = .error e) ∨ ∃ e, run stages rest = .error e := by
  simp only [exists_error_iff, run_targets_append_iff, ← not_and_or, not_iff_not]
  constructor
  · rintro ⟨_, first, second, hfront, hrest, -⟩
    exact ⟨⟨first, hfront⟩, second, hrest⟩
  · rintro ⟨⟨first, hfront⟩, second, hrest⟩
    exact ⟨_, first, second, hfront, hrest, rfl⟩

/-! ## One target after the other -/

/-- Step by step, the targets come to what each of them comes to alone. -/
theorem run_iff_forall₂ :
    run stages targets = .ok found ↔
      ∃ each, List.Forall₂ (fun t own => run stages [t] = .ok own) targets each ∧ each.flatten = found := by
  induction targets generalizing found with
  | nil => simp [run_no_targets, eq_comm]
  | cons t targets ih =>
    rw [← List.singleton_append, run_targets_append_iff, List.singleton_append]
    simp only [ih, List.forall₂_cons_left_iff]
    constructor
    · rintro ⟨own, _, hown, ⟨each, heach, rfl⟩, rfl⟩
      exact ⟨own :: each, ⟨own, each, hown, heach, rfl⟩, List.flatten_cons⟩
    · rintro ⟨_, ⟨own, each, hown, heach, rfl⟩, rfl⟩
      exact ⟨own, each.flatten, hown, ⟨each, heach, rfl⟩, List.flatten_cons.symm⟩

/-- Step by step, the targets fail just when one of them fails alone. -/
theorem run_fails_iff :
    (∃ e, run stages targets = .error e) ↔ ∃ t ∈ targets, ∃ e, run stages [t] = .error e := by
  induction targets with
  | nil => simp [run_no_targets]
  | cons t targets ih =>
    rw [← List.singleton_append, run_targets_append_fails_iff, ih, List.singleton_append, List.exists_mem_cons_iff]

/-- The steps of two chains of modifiers are those of the first, and then those of the second. -/
theorem ofModifiers_append (c : Config) (es : Editors) (modifiers more : List Modifier) :
    ofModifiers c es (modifiers ++ more) = ofModifiers c es modifiers ++ ofModifiers c es more := List.map_append

/-- Chains of modifiers are compositional, whatever the targets are. Of two chains put together, the second runs on what the first
gave. A chain leads on from the targets of two lists just when it does from those of each, and then to what it leads to from the one
list, followed by what it leads to from the other. So all targets step by step come to what each of them comes to alone, in their
order, and fail just when one of them fails alone. -/
theorem run_compositional (c : Config) (es : Editors) :
    (∀ (modifiers more : List Modifier) (targets : List Target),
      run (ofModifiers c es (modifiers ++ more)) targets =
        (run (ofModifiers c es modifiers) targets).bind (run (ofModifiers c es more))) ∧
    (∀ (modifiers : List Modifier) (front rest found : List Target),
      run (ofModifiers c es modifiers) (front ++ rest) = .ok found ↔
        ∃ first second, run (ofModifiers c es modifiers) front = .ok first ∧
          run (ofModifiers c es modifiers) rest = .ok second ∧ first ++ second = found) ∧
    ∀ (modifiers : List Modifier) (targets : List Target),
      (∀ found, run (ofModifiers c es modifiers) targets = .ok found ↔
        ∃ each, List.Forall₂ (fun t own => run (ofModifiers c es modifiers) [t] = .ok own) targets each ∧
          each.flatten = found) ∧
      ((∃ e, run (ofModifiers c es modifiers) targets = .error e) ↔
        ∃ t ∈ targets, ∃ e, run (ofModifiers c es modifiers) [t] = .error e) := by
  refine ⟨fun modifiers more targets => ?_, fun modifiers front rest found => run_targets_append_iff,
    fun modifiers targets => ⟨fun found => run_iff_forall₂, run_fails_iff⟩⟩
  rw [ofModifiers_append, run_append]

end Stage

end StructuralEditing
