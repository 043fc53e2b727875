import Stencil.Proofs.Session.Masking
import Stencil.Proofs.Session.Places

/-!
# Interleaved sessions

Groups of steps that share no processor do not interfere.  In whatever order their steps are taken
in turn, each step is answered as if its group had the desk for itself.
-/

namespace Stencil
namespace Session

variable {Group : Type}

/-- The replies to a schedule, each with the group whose step it answers. -/
def groupedReplies (desk : Desk) (schedule : List (Group × Moment × Step)) :
    List (Group × Reply) :=
  (schedule.map Prod.fst).zip (run desk (schedule.map Prod.snd)).1

theorem groupedReplies_cons (desk : Desk) (group : Group) (now : Moment) (step : Step)
    (schedule : List (Group × Moment × Step)) :
    groupedReplies desk ((group, now, step) :: schedule) =
      (group, reply desk now step) ::
        groupedReplies (step.run now desk).value.1 schedule := rfl

/-! ## Groups -/

variable [DecidableEq Group]

/-- What belongs to a group, in order. -/
def ofGroup {α : Type} (group : Group) (entries : List (Group × α)) : List α :=
  entries.filterMap fun entry => if entry.1 = group then some entry.2 else none

@[simp]
theorem ofGroup_cons_self {α : Type} (group : Group) (item : α) (entries : List (Group × α)) :
    ofGroup group ((group, item) :: entries) = item :: ofGroup group entries := by
  simp [ofGroup]

theorem ofGroup_cons_of_ne {α : Type} {group other : Group} (different : other ≠ group) (item : α)
    (entries : List (Group × α)) :
    ofGroup group ((other, item) :: entries) = ofGroup group entries := by
  simp [ofGroup, different]

theorem mem_ofGroup {α : Type} {group : Group} {item : α} {entries : List (Group × α)}
    (member : (group, item) ∈ entries) : item ∈ ofGroup group entries :=
  List.mem_filterMap.2 ⟨(group, item), member, by simp⟩

/-- Whether no processor is used by two groups and no group replaces the engine. -/
structure Apart (groups : Group → List Step) : Prop where
  /-- A place is used by one group only. -/
  places : ∀ first second, ∀ place ∈ (groups first).flatMap Step.places,
    place ∈ (groups second).flatMap Step.places → first = second
  /-- No group replaces the engine. -/
  engine : ∀ group, ∀ step ∈ groups group, step.replacesEngine = false

/-- Whether the steps of a schedule are those of the groups, in the order of each group. -/
def Interleaves (schedule : List (Group × Moment × Step)) (groups : Group → List Step) : Prop :=
  ∀ group, (ofGroup group schedule).map Prod.snd = groups group

/-! ## Interleaved runs -/

/-- While a group has its places for itself, its steps are answered as if no others were taken. -/
theorem ofGroup_groupedReplies {group : Group} {places : Set Place} {desk other : Desk}
    (agree : Desk.Agree places desk other) {schedule : List (Group × Moment × Step)}
    (inside : ∀ now step, (group, now, step) ∈ schedule → ∀ place ∈ step.places, place ∈ places)
    (elsewhere : ∀ another now step, another ≠ group → (another, now, step) ∈ schedule →
      step.replacesEngine = false ∧ ∀ place ∈ step.places, place ∉ places) :
    ofGroup group (groupedReplies desk schedule) = (run other (ofGroup group schedule)).1 := by
  -- The two runs are at different desks as soon as another group has taken a step.
  induction schedule generalizing desk other with
  | nil => rfl
  | cons head schedule induction =>
      obtain ⟨taker, now, step⟩ := head
      have insideLater now step (member : (group, now, step) ∈ schedule) :=
        inside now step (List.mem_cons_of_mem _ member)
      have elsewhereLater another now step (different : another ≠ group)
          (member : (another, now, step) ∈ schedule) :=
        elsewhere another now step different (List.mem_cons_of_mem _ member)
      by_cases taken : taker = group
      · subst taken
        obtain ⟨same, after⟩ := agree.step_inside (inside now step List.mem_cons_self) now
        rw [groupedReplies_cons, ofGroup_cons_self, ofGroup_cons_self, run_cons, same,
          induction after insideLater elsewhereLater]
      · obtain ⟨keeps, outside⟩ := elsewhere taker now step taken List.mem_cons_self
        have after := agree.step_elsewhere outside keeps now
        rw [groupedReplies_cons, ofGroup_cons_of_ne taken, ofGroup_cons_of_ne taken,
          induction after insideLater elsewhereLater]

theorem Interleaves.mem {groups : Group → List Step} {schedule : List (Group × Moment × Step)}
    (interleaves : Interleaves schedule groups) {group : Group} {now : Moment} {step : Step}
    (member : (group, now, step) ∈ schedule) : step ∈ groups group := by
  rw [← interleaves group]
  exact List.mem_map.2 ⟨(now, step), mem_ofGroup member, rfl⟩

/-- Groups that are apart do not interfere in any order of their steps.  At the same moments each
group has the very replies that it has alone, and at other moments the same up to the moments. -/
theorem groups_do_not_interfere {groups : Group → List Step} (apart : Apart groups)
    {schedule : List (Group × Moment × Step)} (interleaves : Interleaves schedule groups)
    (desk : Desk) (group : Group) :
    ofGroup group (groupedReplies desk schedule) = (run desk (ofGroup group schedule)).1 ∧
      ∀ (other : Desk) (alone : List (Moment × Step)), other.masked = desk.masked →
        alone.map Prod.snd = groups group →
          (ofGroup group (groupedReplies desk schedule)).map Reply.masked =
            (run other alone).1.map Reply.masked := by
  let places : Set Place := { place | place ∈ (groups group).flatMap Step.places }
  have alike : ofGroup group (groupedReplies desk schedule) =
      (run desk (ofGroup group schedule)).1 := by
    refine ofGroup_groupedReplies (Desk.Agree.refl places desk) ?_ ?_
    · intro now step member place used
      exact List.mem_flatMap.2 ⟨step, interleaves.mem member, used⟩
    · intro another now step different member
      have mine := interleaves.mem member
      refine ⟨apart.engine another step mine, fun place used shared => different ?_⟩
      exact apart.places another group place (List.mem_flatMap.2 ⟨step, mine, used⟩) shared
  refine ⟨alike, fun other alone sameDesk sameSteps => ?_⟩
  rw [alike]
  exact masked_replies_eq sameDesk.symm ((interleaves group).trans sameSteps.symm)

/-- One group makes a copy and renders through the engine, the other never binds anything. -/
def sharedSchedule : List (Bool × Moment × Step) :=
  [(true, ⟨1, 0, 0⟩, .create "first" none "template"),
    (false, ⟨2, 0, 0⟩, .createByEngine "third" none),
    (true, ⟨3, 0, 0⟩, .use "first" (.bind [("name", .string "{x}")])),
    (false, ⟨4, 0, 0⟩, .use "third" (.bindJson .null)),
    (true, ⟨5, 0, 0⟩, .use "first" (.copy "second")),
    (true, ⟨6, 0, 0⟩, .processByEngine "{x}" [("x", .null)]),
    (false, ⟨7, 0, 0⟩, .use "third" (.process "{x}")),
    (true, ⟨8, 0, 0⟩, .use "second" (.process "Hi {name}"))]

/-- The steps of the two groups. -/
def sharedGroups (group : Bool) : List Step :=
  (ofGroup group sharedSchedule).map Prod.snd

/-- The second group is answered as on another day and alone. -/
theorem groups_do_not_interfere_unbound :
    Apart sharedGroups ∧ Interleaves sharedSchedule sharedGroups ∧
      (Desk.start ⟨9, 0, 0⟩).masked = (Desk.start ⟨0, 0, 0⟩).masked ∧
      (ofGroup false (groupedReplies (Desk.start ⟨0, 0, 0⟩) sharedSchedule)).map Reply.masked =
        [⟨[], .id (.generated "template" Moment.epoch)⟩, ⟨[], .failure .invalidVariables⟩,
          ⟨[], .failure (.contextNotSet (.generated "template" Moment.epoch))⟩] := by
  have apart : Apart sharedGroups := by
    refine ⟨by decide, fun group => ?_⟩
    cases group <;> simp [sharedGroups, sharedSchedule, ofGroup, Step.replacesEngine]
  have interleaves : Interleaves sharedSchedule sharedGroups := fun _ => rfl
  have others := (groups_do_not_interfere apart interleaves (Desk.start ⟨0, 0, 0⟩) false).2
    (Desk.start ⟨9, 0, 0⟩) (atEpoch (sharedGroups false)) rfl rfl
  exact ⟨apart, interleaves, rfl, others⟩

end Session
end Stencil
