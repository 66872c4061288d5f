import NarrativePlayer.Session.Schedule

/-!
Contract: waiting until the sequences of a session have come to their ends.

The sequence entered last is waited for, then the one it led to, and so on; the first that did not
succeed ends the waiting. While there is nothing to do, time passes. Whoever waits looks at a sequence
before anything goes on, and again whenever nothing can go on without time passing. At the moment up
to which there was to be waiting, giving up comes before what falls due then.
-/

namespace NarrativePlayer.Session

/-- What came of the waiting. -/
inductive Report where
  | settled
  | failed (trouble : Trouble)
  | brokenOff
  | timedOut
  /-- Nothing will ever happen again. -/
  | stalled
deriving DecidableEq, Repr

/-- How far the waiting has come. -/
inductive Watch where
  /-- The sequence entered last is looked for. -/
  | seeking
  /-- A sequence was found and is looked at. -/
  | looking (ticket : Nat)
  /-- A sequence is waited for. -/
  | watching (ticket : Nat)
  | reported (report : Report)
deriving DecidableEq, Repr

namespace State

/-- How a sequence ended, if it did. -/
def outcome? (state : State) (ticket : Nat) : Option Outcome :=
  match state.activities[ticket]? with
  | some (.performance _ _ (.finished outcome)) => some outcome
  | _ => none

/-- What follows once a sequence has ended. -/
def afterOutcome : Outcome → Watch
  | .succeeded => .seeking
  | .failed trouble => .reported (.failed trouble)
  | .brokenOff => .reported .brokenOff

/-- Whether a moment lies before the end of the waiting. -/
def isBefore (moment : Nat) : Option Nat → Bool
  | none => true
  | some deadline => moment < deadline

/-- Gives up waiting: the clock shows the end of the waiting, and what is due by then is awake. -/
def giveUp (state : State) : Option Nat → State × Watch
  | none => (state, .reported .stalled)
  | some deadline => (state.moveTo deadline, .reported .timedOut)

def watch (staging : Staging) (deadline : Option Nat) (state : State) : Watch → State × Watch
  | .seeking =>
      match state.latest with
      | none => (state, .reported .settled)
      | some ticket => ({ state with latest := none }, .looking ticket)
  | .looking ticket =>
      match state.outcome? ticket with
      | some outcome => (state, afterOutcome outcome)
      | none =>
          if isBefore state.clock deadline then (state, .watching ticket)
          else (state, .reported .timedOut)
  | .watching ticket =>
      if !state.queue.isEmpty then (state.pump staging, .watching ticket)
      else
        match state.outcome? ticket with
        | some outcome => (state, afterOutcome outcome)
        | none =>
            match state.nextWaking? with
            | some due =>
                if isBefore due deadline then (state.moveTo due, .watching ticket)
                else state.giveUp deadline
            | none => state.giveUp deadline
  | .reported report => (state, .reported report)

/-- Waits, in a bounded number of steps. -/
def watchFor (staging : Staging) (deadline : Option Nat) : Nat → State → Watch → Option (State × Report)
  | 0, _, _ => none
  | bound + 1, state, progress =>
      match progress with
      | .reported report => some (state, report)
      | _ =>
          let (next, further) := state.watch staging deadline progress
          watchFor staging deadline bound next further

/-- Waits until all sequences have come to their ends, or for at most `limit` milliseconds. -/
def settle (state : State) (staging : Staging) (limit : Option Nat) (bound : Nat) :
    Option (State × Report) :=
  watchFor staging (limit.map (state.clock + ·)) bound state .seeking

end State

end NarrativePlayer.Session
