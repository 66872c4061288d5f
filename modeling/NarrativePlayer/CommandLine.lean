import NarrativePlayer.Player.Basic

/-!
Contract: the command line.

Owns the commands with their options, what is said about wrong ones, the loading of a story file and
what is said when that fails, the report of a check, and the division of input into lines. Files and
channels themselves belong to whoever runs a command.
-/

namespace NarrativePlayer.CommandLine

open Player

/-- What is said about how to use the program. -/
def usage : String :=
  "termtale - Scripted terminal narrative player\n"
    ++ "\n"
    ++ "USAGE:\n"
    ++ "    termtale play <story.json> [--debug] [--speed <ms>]\n"
    ++ "    termtale check <story.json>\n"
    ++ "\n"
    ++ "COMMANDS:\n"
    ++ "    play <file>     Play a story in the terminal\n"
    ++ "    check <file>    Lint a story and report issues\n"
    ++ "    --help, -h      Show this help message\n"
    ++ "\n"
    ++ "OPTIONS:\n"
    ++ "    --debug         Log interpreter activity to stderr\n"
    ++ "    --speed <ms>    Typewriter delay per character for lines without a speed\n"

inductive Order where
  | play (path : String) (options : Options)
  | check (path : String)
  /-- Say how to use the program, after a complaint if there was a mistake. -/
  | explain (exit : Nat) (complaint : Option String)
deriving DecidableEq, Repr

/-- Reads the options of a player, given those before. -/
def playOptions (options : Options) : List String → Except String Options
  | [] => .ok options
  | "--debug" :: rest => playOptions { options with debug := true } rest
  | ["--speed"] => .error "--speed needs a value"
  | "--speed" :: value :: rest =>
      match number? value with
      | some speed => playOptions { options with speed := some speed } rest
      | none => .error s!"invalid --speed value '{value}'"
  | other :: _ => .error s!"unknown option '{other}'"

def orderOf : List String → Order
  | [] => .explain 1 none
  | ["play"] | ["check"] => .explain 1 (some "Missing story file path")
  | "check" :: path :: _ => .check path
  | "play" :: path :: rest =>
      match playOptions ⟨false, none⟩ rest with
      | .ok options => .play path options
      | .error complaint => .explain 1 (some complaint)
  | "--help" :: _ | "-h" :: _ => .explain 0 none
  | other :: _ => .explain 1 (some s!"Unknown command '{other}'")

inductive FileTrouble where
  | absent
  | directory
  | other (reason : String)
deriving DecidableEq, Repr

def FileTrouble.message : FileTrouble → String
  | .absent => "No such file or directory (os error 2)"
  | .directory => "Is a directory (os error 21)"
  | .other reason => reason

abbrev Content := Except FileTrouble (List UInt8)

/-- The story in a file, or the reason why there is none. -/
def load (path : String) (content : Content) : Except String Story :=
  match content with
  | .error trouble => .error s!"failed to read story file {path}: {trouble.message}"
  | .ok octets =>
      match Text.Utf8.decode octets with
      | .error _ => .error s!"failed to read story file {path}: stream did not contain valid UTF-8"
      | .ok text =>
          match Story.ofText text with
          | .error refusal =>
              .error s!"failed to load story from {path}: {refusal.fullMessage}"
          | .ok story => .ok story

/-- What is said when a story could not be loaded. -/
def loadFailureCues (path reason : String) : List Cue :=
  [.plain .errors s!"Error: Failed to load story '{path}'\nReason: {reason}\n"]

def findingText (finding : Review.Finding) : String :=
  let scene := finding.scene?.getD "-"
  s!"{finding.severity.word}\t{finding.topic.word}\t{scene}\t{finding.message}\n"

def reportText (findings : List Review.Finding) : String :=
  let errors := Review.count .error findings
  let warnings := Review.count .warning findings
  let infos := Review.count .info findings
  String.join (findings.map findingText)
    ++ s!"{errors} error(s), {warnings} warning(s), {infos} info\n"

/-- Checks a story: the exit code and the report. -/
def checkStory (story : Story) : Nat × List Cue :=
  let findings := Review.review .standard story
  (if Review.hasErrors findings then 1 else 0, [.plain .output (reportText findings)])

def checkFile (path : String) (content : Content) : Nat × List Cue :=
  match load path content with
  | .error reason => (1, loadFailureCues path reason)
  | .ok story => checkStory story

/-- What is said about how to use the program, after a complaint if there was a mistake. -/
def usageCues (complaint : Option String) : List Cue :=
  (complaint.map fun complaint => Cue.plain .errors s!"Error: {complaint}\n\n").toList
    ++ [.plain .output usage]

/-! ### Lines -/

/-- Cuts octets behind every line feed, given those since the last one, latest first. -/
def cutLines (begun : List UInt8) : List UInt8 → List (List UInt8)
  | [] => if begun.isEmpty then [] else [begun.reverse]
  | octet :: rest =>
      if octet = 10 then (octet :: begun).reverse :: cutLines [] rest
      else cutLines (octet :: begun) rest

/-- A line without its end: a line feed, or a carriage return and a line feed. -/
def withoutEnd (line : String) : String :=
  match line.toList.reverse with
  | '\n' :: '\r' :: rest => String.ofList rest.reverse
  | '\n' :: rest => String.ofList rest.reverse
  | _ => line

def readLine (octets : List UInt8) : ReadLine :=
  (Text.Utf8.decode octets).map withoutEnd

def readLines (octets : List UInt8) : List ReadLine :=
  (cutLines [] octets).map readLine

/-! ### Whole runs -/

/-- Plays a story with given input, in a bounded number of steps. -/
def playStory (options : Options) (story : Story) (input : List UInt8) (bound : Nat) :
    Option (Nat × List Cue) :=
  let (turn, cues) := openStory options story
  (play options (stagingFor options story) bound bound turn (readLines input)).map
    fun (exit, rest) => (exit, cues ++ rest)

/-- Plays the story in a file with given input, in a bounded number of steps. -/
def playFile (options : Options) (path : String) (content : Content) (input : List UInt8)
    (bound : Nat) : Option (Nat × List Cue) :=
  match load path content with
  | .error reason => some (1, loadFailureCues path reason)
  | .ok story => playStory options story input bound

/-- Runs the program on arguments, files and input, in a bounded number of steps: the exit code and
all cues. -/
def run (arguments : List String) (contentOf : String → Content) (input : List UInt8)
    (bound : Nat) : Option (Nat × List Cue) :=
  match orderOf arguments with
  | .explain exit complaint => some (exit, usageCues complaint)
  | .check path => some (checkFile path (contentOf path))
  | .play path options => playFile options path (contentOf path) input bound

end NarrativePlayer.CommandLine
