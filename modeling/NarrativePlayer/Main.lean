import NarrativePlayer.CommandLine

/-!
Contract: the program.

Reads files and lines, makes the writes that cues are, and lets time pass when the clock of a session
does. Decides nothing.
-/

namespace NarrativePlayer.Main

open CommandLine Player Session

partial def pause (milliseconds : Nat) : IO Unit := do
  let most := 1000000000
  IO.sleep (min milliseconds most).toUInt32
  if most < milliseconds then pause (milliseconds - most)

/-- Writes cues in their order, each with its pause. -/
def writeCues (cues : List Cue) : IO Unit := do
  for cue in cues do
    let stream ←
      match cue.channel with
      | .output => IO.getStdout
      | .errors => IO.getStderr
    stream.putStr cue.text
    stream.flush
    pause cue.pause

/-- Reads octets up to a line feed or the end of the input; `begun` holds those read before, latest
first. -/
partial def readOctets (stream : IO.FS.Stream) (begun : List UInt8) : IO (List UInt8) := do
  match (← stream.read 1).toList with
  | [] => return begun.reverse
  | octet :: _ => if octet = 10 then return (octet :: begun).reverse else readOctets stream (octet :: begun)

def readContent (path : String) : IO Content := do
  try
    return .ok (← IO.FS.readBinFile path).toList
  catch trouble =>
    match trouble with
    | .noFileOrDirectory .. => return .error .absent
    | .inappropriateType .. => return .error .directory
    | other => return .error (.other (toString other))

/-- Waits until nothing goes on in a session, while time passes. -/
partial def watchSession (options : Options) (staging : Staging) (shown : Show) (watch : Watch) :
    IO (Show × Report) := do
  match watch with
  | .reported report => return (shown, report)
  | _ =>
      let (next, further) := shown.session.watch staging none watch
      let (presented, cues) := present options next shown.prompted
      writeCues cues
      pause (next.clock - shown.session.clock)
      watchSession options staging presented further

/-- Plays on from a turn. -/
partial def playOn (options : Options) (staging : Staging) (turn : Turn) : IO Nat := do
  match turn with
  | .closed exit => return exit
  | .waiting shown =>
      let (settled, report) ← watchSession options staging shown .seeking
      let (next, cues) := afterSettling options settled.prompted settled.session report
      writeCues cues
      playOn options staging next
  | .reading shown =>
      let octets ← readOctets (← IO.getStdin) []
      let line := if octets.isEmpty then none else some (readLine octets)
      let (next, cues) := takeLine options staging shown line
      writeCues cues
      playOn options staging next

/-- Carries out what is to be done. -/
def carryOut (order : Order) : IO Nat := do
  match order with
  | .explain exit complaint =>
      writeCues (usageCues complaint)
      return exit
  | .check path =>
      let (exit, cues) := checkFile path (← readContent path)
      writeCues cues
      return exit
  | .play path options =>
      match load path (← readContent path) with
      | .error reason =>
          writeCues (loadFailureCues path reason)
          return 1
      | .ok story =>
          let (turn, cues) := openStory options story
          writeCues cues
          playOn options (stagingFor options story) turn

end NarrativePlayer.Main

/-- Carries out the command that the arguments give. -/
def main (arguments : List String) : IO UInt32 := do
  return (← NarrativePlayer.Main.carryOut (NarrativePlayer.CommandLine.orderOf arguments)).toUInt32
