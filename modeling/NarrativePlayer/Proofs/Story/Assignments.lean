import Mathlib.Data.List.Induction
import NarrativePlayer.Answer
import NarrativePlayer.Proofs.Story.Tables

/-!
Contract: what a list of actions makes of the variables.

Owns that the last action that sets a variable decides its value, that a variable that no action sets keeps
the value it had, and that the report of the actions can stand in for them: it has one assignment for every
action that sets something, and carrying these out gives the same variables. Does not own where actions come
from, nor when they are applied.
-/

namespace NarrativePlayer

/-! ## Single actions -/

/-- Whether an action sets a variable. -/
def Action.sets (name : String) : Action → Bool
  | .set other _ _ => other = name
  | .unknown => false

/-- What is reported of an action that sets a variable. One that takes the answer comes to the value that is
submitted, whether or not it has a literal too; any other comes to its literal. What is missing is empty. -/
inductive Action.IsReportedAs (submitted : Option String) : Action → Assignment → Prop
  | answer (name : String) (literal : Option String) :
      IsReportedAs submitted (.set name literal true) ⟨name, submitted.getD "", true⟩
  | literal (name : String) (literal : Option String) :
      IsReportedAs submitted (.set name literal false) ⟨name, literal.getD "", false⟩

/-- Carries out an assignment. -/
def Assignment.apply (store : Table) (assignment : Assignment) : Table :=
  store.insert assignment.name assignment.value

variable {submitted : Option String}

/-- To apply an action that sets something is to carry out what is reported of it. -/
theorem Action.IsReportedAs.apply_eq {action : Action} {assignment : Assignment}
    (reported : action.IsReportedAs submitted assignment) (store : Table) :
    action.apply submitted store = assignment.apply store := by
  cases reported <;> rfl

theorem Action.IsReportedAs.assignment?_eq {action : Action} {assignment : Assignment}
    (reported : action.IsReportedAs submitted assignment) :
    action.assignment? submitted = some assignment := by
  cases reported <;> rfl

theorem Action.exists_isReportedAs (submitted : Option String) {action : Action}
    (known : action ≠ .unknown) : ∃ assignment, action.IsReportedAs submitted assignment := by
  cases action with
  | unknown => exact absurd rfl known
  | set name literal fromAnswer =>
      cases fromAnswer with
      | true => exact ⟨_, .answer name literal⟩
      | false => exact ⟨_, .literal name literal⟩

theorem Action.IsReportedAs.name_eq {action : Action} {assignment : Assignment}
    (reported : action.IsReportedAs submitted assignment) {name : String}
    (sets : action.sets name = true) : assignment.name = name := by
  cases reported <;> exact of_decide_eq_true sets

/-- Right after an action that sets a variable, the variable has the value that is reported. -/
theorem Action.IsReportedAs.find?_apply {action : Action} {assignment : Assignment}
    (reported : action.IsReportedAs submitted assignment) (store : Table) :
    (action.apply submitted store).find? assignment.name = some assignment.value := by
  rw [reported.apply_eq]
  exact store.find?_insert_self _ _

theorem Action.find?_apply_of_not_sets {action : Action} {name : String}
    (elsewhere : action.sets name = false) (store : Table) :
    (action.apply submitted store).find? name = store.find? name := by
  cases action with
  | unknown => rfl
  | set other literal fromAnswer => exact Table.find?_insert_of_ne (of_decide_eq_false elsewhere) store _

/-! ## Lists of actions -/

/-- The last of a list of actions that sets a variable. -/
def lastSetting? (name : String) (actions : List Action) : Option Action :=
  (actions.filter (Action.sets name)).getLast?

theorem lastSetting?_concat_of_sets {name : String} {last : Action} (actions : List Action)
    (sets : last.sets name = true) : lastSetting? name (actions ++ [last]) = some last := by
  rw [lastSetting?, List.filter_append, List.filter_cons_of_pos sets, List.filter_nil,
    List.getLast?_concat]

theorem lastSetting?_concat_of_not_sets {name : String} {last : Action} (actions : List Action)
    (elsewhere : last.sets name = false) :
    lastSetting? name (actions ++ [last]) = lastSetting? name actions := by
  rw [lastSetting?, List.filter_append, List.filter_cons_of_neg (by simp [elsewhere]), List.filter_nil,
    List.append_nil, lastSetting?]

theorem applyActions_concat (submitted : Option String) (actions : List Action) (last : Action)
    (store : Table) :
    applyActions submitted (actions ++ [last]) store =
      last.apply submitted (applyActions submitted actions store) :=
  List.foldl_append

/-- A variable has the value of the last action that sets it, and if there is none, the value it had. The
last action of all decides first, so the induction takes actions off the end. -/
theorem find?_applyActions (submitted : Option String) (name : String) (actions : List Action)
    (store : Table) :
    (∀ action, lastSetting? name actions = some action → ∃ assignment,
      action.IsReportedAs submitted assignment ∧
        (applyActions submitted actions store).find? name = some assignment.value) ∧
    (lastSetting? name actions = none →
      (applyActions submitted actions store).find? name = store.find? name) := by
  induction actions using List.reverseRecOn with
  | nil =>
      refine ⟨fun action isLast => ?_, fun _ => rfl⟩
      cases isLast
  | append_singleton actions last inductionHypothesis =>
      rw [applyActions_concat]
      cases decides : last.sets name with
      | true =>
          have known : last ≠ .unknown := by
            rintro rfl
            cases decides
          obtain ⟨assignment, reported⟩ := last.exists_isReportedAs submitted known
          rw [lastSetting?_concat_of_sets actions decides]
          refine ⟨fun action isLast => ?_, fun absent => ?_⟩
          · cases isLast
            rw [← reported.name_eq decides]
            exact ⟨assignment, reported, reported.find?_apply _⟩
          · cases absent
      | false =>
          rw [lastSetting?_concat_of_not_sets actions decides, Action.find?_apply_of_not_sets decides]
          exact inductionHypothesis

/-! ## The report -/

theorem forall₂_assignments (submitted : Option String) (actions : List Action) :
    List.Forall₂ (Action.IsReportedAs submitted) (actions.filter (· ≠ .unknown))
      (assignments submitted actions) := by
  induction actions with
  | nil => exact .nil
  | cons action rest inductionHypothesis =>
      unfold assignments at *
      by_cases known : action ≠ .unknown
      · obtain ⟨assignment, reported⟩ := action.exists_isReportedAs submitted known
        rw [List.filter_cons_of_pos (by simpa using known),
          List.filterMap_cons_some reported.assignment?_eq]
        exact .cons reported inductionHypothesis
      · rw [Decidable.not_not.mp known, List.filterMap_cons_none rfl]
        exact inductionHypothesis

/-- Carrying out the report gives the variables that the actions give. -/
theorem foldl_assignments (submitted : Option String) (actions : List Action) (store : Table) :
    (assignments submitted actions).foldl Assignment.apply store =
      applyActions submitted actions store := by
  induction actions generalizing store with
  | nil => rfl
  | cons action rest inductionHypothesis =>
      unfold assignments applyActions at *
      rw [List.foldl_cons]
      by_cases known : action ≠ .unknown
      · obtain ⟨assignment, reported⟩ := action.exists_isReportedAs submitted known
        rw [List.filterMap_cons_some reported.assignment?_eq, List.foldl_cons, inductionHypothesis,
          reported.apply_eq]
      · rw [Decidable.not_not.mp known, List.filterMap_cons_none rfl, inductionHypothesis]
        rfl

/-- After a list of actions, a variable that some of them set has the value that the last of these comes to,
and any other variable has the value it had. The report has one assignment for every action that sets
something, in order, and carrying out these assignments in order, on the variables as they were, gives the
variables as they are. -/
theorem last_setting_wins (submitted : Option String) (actions : List Action) (store : Table) :
    let result := applyActions submitted actions store
    let report := assignments submitted actions
    (∀ name action, lastSetting? name actions = some action → ∃ assignment,
      action.IsReportedAs submitted assignment ∧ result.find? name = some assignment.value) ∧
    (∀ name, lastSetting? name actions = none → result.find? name = store.find? name) ∧
    List.Forall₂ (Action.IsReportedAs submitted) (actions.filter (· ≠ .unknown)) report ∧
    report.foldl Assignment.apply store = result := by
  intro result report
  exact ⟨fun name => (find?_applyActions submitted name actions store).1,
    fun name => (find?_applyActions submitted name actions store).2,
    forall₂_assignments submitted actions, foldl_assignments submitted actions store⟩

/-- One variable is set twice, in the end to the answer although there is a literal as well, one is set to
nothing, and one is left alone. -/
theorem sample_settings :
    let actions : List Action :=
      [.set "name" (some "nobody") false, .unknown, .set "name" (some "somebody") true,
        .set "rest" none false]
    let result := applyActions (some "Bea") actions (.ofList [("name", "?"), ("met", "yes")])
    lastSetting? "name" actions = some (.set "name" (some "somebody") true) ∧
      lastSetting? "rest" actions = some (.set "rest" none false) ∧
      lastSetting? "met" actions = none ∧
      result.find? "name" = some "Bea" ∧ result.find? "rest" = some "" ∧
      result.find? "met" = some "yes" := by
  intro actions result
  obtain ⟨decided, kept, -, -⟩ :=
    last_setting_wins (some "Bea") actions (.ofList [("name", "?"), ("met", "yes")])
  have name : lastSetting? "name" actions = some (.set "name" (some "somebody") true) := by decide
  have rest : lastSetting? "rest" actions = some (.set "rest" none false) := by decide
  have met : lastSetting? "met" actions = none := by decide
  obtain ⟨nameTo, nameReported, nameIs⟩ := decided _ _ name
  obtain ⟨restTo, restReported, restIs⟩ := decided _ _ rest
  cases nameReported
  cases restReported
  exact ⟨name, rest, met, nameIs, restIs, (kept _ met).trans (by decide)⟩

end NarrativePlayer
