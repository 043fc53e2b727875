import Stencil.Proofs.Dictionary
import Stencil.Settings.VariableFile

/-!
# Completed environments

A variable file adds variables behind those of the environment.  What it says about a variable that
is set makes no difference.
-/

namespace Stencil

namespace Environment

/-- Whether an environment has the variables of another and, behind them, some that are not set
there. -/
def Extends (completed environment : Environment) : Prop :=
  ∃ added : Environment, completed = environment ++ added ∧
    ∀ assignment ∈ added, environment.get? assignment.1 = none

theorem get?_append (environment added : Environment) (name : String) :
    get? (environment ++ added) name = (environment.get? name).or (added.get? name) :=
  List.lookup_append

namespace Extends

variable {environment middle completed : Environment} {name value : String}

theorem refl (environment : Environment) : Extends environment environment :=
  ⟨[], (List.append_nil environment).symm, fun _ member => nomatch member⟩

theorem trans (first : Extends middle environment) (second : Extends completed middle) :
    Extends completed environment := by
  obtain ⟨added, rfl, unset⟩ := first
  obtain ⟨more, rfl, moreUnset⟩ := second
  refine ⟨added ++ more, List.append_assoc environment added more, ?_⟩
  intro assignment member
  rcases List.mem_append.1 member with inside | inside
  · exact unset assignment inside
  · have absent := moreUnset assignment inside
    rw [get?_append] at absent
    exact (Option.or_eq_none_iff.1 absent).1

theorem complete (environment : Environment) (name value : String) :
    Extends (environment.complete name value) environment := by
  rw [Environment.complete]
  split
  next => exact refl environment
  next isUnset =>
    refine ⟨[(name, value)], rfl, ?_⟩
    intro assignment member
    obtain rfl := List.mem_singleton.1 member
    exact Option.not_isSome_iff_eq_none.1 isUnset

/-- A variable that is set keeps its value. -/
theorem get?_eq (extended : Extends completed environment)
    (found : environment.get? name = some value) : completed.get? name = some value := by
  obtain ⟨added, rfl, -⟩ := extended
  rw [get?_append, found, Option.some_or]

end Extends
end Environment

namespace VariableFile

open Environment

theorem State.extends_readLine {state next : State} {line : List Char}
    (read : state.readLine line = some next) : next.environment.Extends state.environment := by
  rw [readLine] at read
  split at read
  next =>
    obtain rfl := Option.some.inj read
    exact Extends.refl _
  next =>
    obtain ⟨⟨name, text⟩, -, assigned⟩ := Option.bind_eq_some_iff.1 read
    simp only at assigned
    split at assigned
    next =>
      obtain rfl := Option.some.inj assigned
      exact Extends.complete _ name ""
    next =>
      obtain ⟨value, -, done⟩ := Option.bind_eq_some_iff.1 assigned
      obtain rfl := Option.some.inj done
      exact Extends.complete _ name value

theorem State.extends_readLines (state : State) (lines : List (Option (List Char))) :
    (state.readLines lines).environment.Extends state.environment := by
  induction lines generalizing state with
  | nil => exact Extends.refl _
  | cons line lines induction =>
      cases line with
      | none => exact Extends.refl _
      | some line =>
          rw [readLines]
          cases read : state.readLine line with
          | none => exact Extends.refl _
          | some next => exact (extends_readLine read).trans (induction next)

theorem extends_apply (text : String) (environment : Environment) :
    (apply text environment).Extends environment :=
  State.extends_readLines ⟨environment, Dictionary.empty⟩ _

end VariableFile
end Stencil
