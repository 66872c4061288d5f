/-!
Contract: the journal of a session.

Every entry has a category and a level. Owns which entries a setting lets through, and the names that
categories and levels are written with. What is entered, and when, is for the session to say.
-/

namespace NarrativePlayer.Journal

/-- How much weight an entry has, from the least. -/
inductive Level where
  | trace
  | debug
  | info
  | warn
  | error
deriving DecidableEq, Repr

/-- What an entry is about. -/
inductive Category where
  /-- Starting, stopping, and entering scenes. -/
  | engine
  /-- Transitions, waiting, and ignored commands. -/
  | flow
  /-- Variables being set. -/
  | assignments
  /-- Lines, pauses, and sequences that were superseded. -/
  | timing
deriving DecidableEq, Repr

/-- The place of a level among the levels. -/
def Level.rank : Level → Nat
  | .trace => 0
  | .debug => 1
  | .info => 2
  | .warn => 3
  | .error => 4

/-- The name that a level is written with in the journal. -/
def Level.label : Level → String
  | .trace => "TRACE"
  | .debug => "DEBUG"
  | .info => "INFO"
  | .warn => "WARN"
  | .error => "ERROR"

/-- The name that a category is written with in the journal. -/
def Category.label : Category → String
  | .engine => "termtale::engine"
  | .flow => "termtale::flow"
  | .assignments => "termtale::variables"
  | .timing => "termtale::timing"

/-- Which entries are kept. -/
structure Settings where
  enabled : Bool
  /-- The least level that is kept. -/
  level : Level
  categories : List Category
deriving DecidableEq, Repr

/-- Nothing is kept. Once enabled, it would be lifecycle and flow without traces. -/
def Settings.silent : Settings :=
  ⟨false, .debug, [.engine, .flow]⟩

/-- Everything is kept. -/
def Settings.verbose : Settings :=
  ⟨true, .trace, [.engine, .flow, .assignments, .timing]⟩

/-- Whether entries of a category and level are kept. -/
def Settings.allows (settings : Settings) (category : Category) (level : Level) : Bool :=
  settings.enabled && settings.level.rank ≤ level.rank && settings.categories.contains category

/-- An entry of the journal. -/
structure Entry where
  category : Category
  level : Level
  message : String
deriving DecidableEq, Repr

end NarrativePlayer.Journal
