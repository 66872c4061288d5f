import NarrativePlayer.Story.Basic
import NarrativePlayer.Text.Blank

/-!
Contract: what becomes of an answer.

Owns its normal form (trimmed if the field asks for it, then cut to the greatest length), the guards
it must pass, and the changes of variables that follow. The least length of the field itself is only
shown, never enforced. Lengths count characters.
-/

namespace NarrativePlayer

/-- An answer in the form that guards and actions see. -/
def AnswerField.normalize (field : AnswerField) (raw : String) : String :=
  let kept := if field.trim then Text.trim raw else raw
  match field.maxLength with
  | some greatest => String.ofList (kept.toList.take greatest)
  | none => kept

/-- What a guard has to say against an answer. -/
def Guard.complaint? (answer : String) : Guard → Option String
  | .minLength least =>
      if answer.length < least then some s!"Please enter at least {least} characters." else none
  | .unknown => none

/-- What the first guard that an answer fails has to say. -/
def complaint? (guards : List Guard) (answer : String) : Option String :=
  guards.findSome? (Guard.complaint? answer)

/-- The value that an action sets: the submitted one, where there is none the empty text, or the
literal. -/
def assignedValue (submitted literal : Option String) (fromAnswer : Bool) : String :=
  if fromAnswer then submitted.getD "" else literal.getD ""

def Action.apply (submitted : Option String) (store : Table) : Action → Table
  | .set name literal fromAnswer => store.insert name (assignedValue submitted literal fromAnswer)
  | .unknown => store

def applyActions (submitted : Option String) (actions : List Action) (store : Table) : Table :=
  actions.foldl (Action.apply submitted) store

structure Assignment where
  name : String
  value : String
  fromAnswer : Bool
deriving DecidableEq, Repr

def Assignment.source (assignment : Assignment) : String :=
  if assignment.fromAnswer then "input" else "literal"

def Action.assignment? (submitted : Option String) : Action → Option Assignment
  | .set name literal fromAnswer =>
      some ⟨name, assignedValue submitted literal fromAnswer, fromAnswer⟩
  | .unknown => none

/-- The report of what actions set, in order. -/
def assignments (submitted : Option String) (actions : List Action) : List Assignment :=
  actions.filterMap (Action.assignment? submitted)

end NarrativePlayer
