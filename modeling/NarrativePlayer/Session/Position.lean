import NarrativePlayer.Table

/-!
Contract: where a session stands.

A position has a mode, the current scene, the interaction that is waited for, the variables, and a
generation that tells newer activity from older. Owns the changes that keep the mode and the awaited
interaction in step. Does not own when they happen.
-/

namespace NarrativePlayer.Session

/-- What a session can wait for. -/
inductive Interaction where
  | answer
  | choice
  | enter
deriving DecidableEq, Repr

/-- What a session is doing. -/
inductive Mode where
  /-- Nothing was started yet. -/
  | idle
  /-- A sequence is being performed. -/
  | running
  | waiting (interaction : Interaction)
  | ended
deriving DecidableEq, Repr

def Mode.isWaiting : Mode → Bool
  | .waiting _ => true
  | _ => false

def Mode.word : Mode → String
  | .idle => "idle"
  | .running => "running"
  | .waiting .answer => "waiting_for_input"
  | .waiting .choice => "waiting_for_choice"
  | .waiting .enter => "waiting_for_enter"
  | .ended => "ended"

def Interaction.word : Interaction → String
  | .answer => "input"
  | .choice => "choice"
  | .enter => "enter"

/-- An interaction that is waited for, and the scene it belongs to. -/
structure Pending where
  interaction : Interaction
  scene : String
deriving DecidableEq, Repr

/-- Where a session stands. -/
structure Position where
  mode : Mode
  current : Option String
  pending : Option Pending
  store : Table
  /-- Raised by every start, every stop, and every sequence that is entered. -/
  generation : Nat
deriving DecidableEq, Repr

namespace Position

def initial (store : Table) : Position :=
  ⟨.idle, none, none, store, 0⟩

/-- Waits for an interaction with a scene. -/
def park (position : Position) (interaction : Interaction) (scene : String) : Position :=
  { position with
    mode := .waiting interaction, current := some scene, pending := some ⟨interaction, scene⟩ }

/-- The scene for which an interaction is waited for. -/
def pendingFor? (position : Position) (interaction : Interaction) : Option String :=
  match position.pending with
  | some pending => if pending.interaction = interaction then some pending.scene else none
  | none => none

def renew (position : Position) : Position :=
  { position with generation := position.generation + 1 }

/-- Whether nothing newer has taken over from a generation. -/
def isCurrent (position : Position) (generation : Nat) : Bool :=
  position.generation = generation

def release (position : Position) : Position :=
  { position with pending := none }

end Position

end NarrativePlayer.Session
