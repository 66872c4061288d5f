import NarrativePlayer.Proofs.Session.Frame
import NarrativePlayer.Proofs.Story.Chain
import NarrativePlayer.Session.Command

/-!
Contract: stories told in sequence.

An account is what a session shows of itself. Owns an interpreter of accounts that knows of no
activities, generations, gates or steps: a command is obeyed, and whatever follows from it without
another command is told to its end, one scene after the other, before the next command is looked at.
It says what a session must come to; that sessions do is not owned here.
-/

namespace NarrativePlayer.Session

/-- What a session shows of itself. -/
structure Account where
  mode : Mode
  current : Option String
  pending : Option Pending
  store : Table
  clock : Nat
  /-- The calls of the terminal so far, in their order. -/
  calls : List Event
deriving DecidableEq, Repr

/-- What came of entering a scene, up to the first line. -/
inductive Arrival where
  | refused (trouble : Trouble)
  /-- Nothing follows by itself. -/
  | still
  /-- The lines of a sequence follow. -/
  | telling (body : Sequence)
deriving DecidableEq, Repr

def Arrival.reply : Arrival → Reply
  | .refused trouble => .failed trouble
  | _ => .done

/-- The id from which a story goes on by itself. -/
def Arrival.beginning? : Arrival → Option String
  | .telling body => some body.id
  | _ => none

/-- The report on a sequence that led to an arrival. -/
def Arrival.report : Arrival → Report
  | .refused trouble => .failed trouble
  | _ => .settled

/-- What is known of a command and of the waiting after it. -/
structure Record where
  reply : Reply
  obeyed : Account
  report : Report
  settled : Account
deriving DecidableEq, Repr

namespace Account

def opening (story : Story) : Account :=
  ⟨.idle, none, none, story.store, 0, []⟩

def call (account : Account) (event : Event) : Account :=
  { account with calls := account.calls ++ [event] }

/-- Comes to a scene in a mode, and announces it. -/
def turn (account : Account) (scene : String) (mode : Mode) (pending : Option Pending) : Account :=
  { account with mode := mode, current := some scene, pending := pending }.call (.changed scene mode)

/-- Waits for an interaction with a scene. -/
def park (account : Account) (interaction : Interaction) (scene : String) : Account :=
  account.turn scene (.waiting interaction) (some ⟨interaction, scene⟩)

/-- Applies actions to the variables. -/
def act (account : Account) (submitted : Option String) (actions : List Action) : Account :=
  { account with store := applyActions submitted actions account.store }

/-- Enters a scene, up to the first line. -/
def arrive (account : Account) (story : Story) (id : String) : Account × Arrival :=
  match story.find? id with
  | none => (account, .refused (.undeclared id))
  | some (.sequence body) =>
      if body.terminal then (account.turn id .ended none, .still)
      else ((account.turn id .running none).act none body.actions, .telling body)
  | some (.question body) => ((account.park .answer id).call (.showInput body.field), .still)
  | some (.choice body) =>
      ((account.park .choice id).call
        (.showChoices (Template.fill body.prompt account.store) body.offers), .still)

def printed (account : Account) (line : Line) : Account :=
  account.call
    (.print account.clock (Template.fill line.text account.store) line.instant line.speed)

def pass (account : Account) (delay : Nat) : Account :=
  { account with clock := account.clock + delay }

/-- Prints lines, each with the pause after it. -/
def recite (account : Account) : List Line → Account
  | [] => account
  | line :: rest => recite ((account.printed line).pass line.delay) rest

/-- What comes after the last line of a sequence, up to the first line of the next. -/
def close (account : Account) (story : Story) (body : Sequence) : Account × Arrival :=
  if body.awaits.isSome then (account.park .enter body.id, .still)
  else
    match body.next with
    | none => (account.turn body.id .ended none, .still)
    | some target => account.arrive story target

/-- Tells a sequence and what follows from it, with at most `more` sequences behind it. -/
def proceed (story : Story) : Nat → Sequence → Account → Account × Report
  | more, body, account =>
      match (account.recite body.lines).close story body with
      | (closed, .telling next) =>
          match more with
          | 0 => (closed, .settled)
          | more + 1 => proceed story more next closed
      | (closed, arrival) => (closed, arrival.report)

/-- Tells what follows from an arrival. A chain of sequences that visits none twice is told to its end,
as it has no more of them than there are scenes. -/
def conclude (story : Story) : Account × Arrival → Account × Report
  | (account, .telling body) => proceed story story.scenes.length body account
  | (account, _) => (account, .settled)

/-- The scene with which an interaction is waited for. -/
def awaited? (account : Account) (story : Story) (interaction : Interaction) : Option Scene :=
  match account.pending with
  | some pending =>
      if pending.interaction = interaction then story.find? pending.scene else none
  | none => none

/-- Leaves a scene for a target, if that is declared. -/
def depart (account : Account) (story : Story) (clearing : List Event) (submitted : Option String)
    (actions : List Action) (target : String) : Account × Arrival :=
  match story.find? target with
  | none => (account, .refused (.undeclared target))
  | some _ =>
      arrive
        { account.act submitted actions with
          pending := none, calls := account.calls ++ clearing } story target

/-- Obeys a command, up to the first line. -/
def obey (account : Account) (story : Story) : Command → Account × Arrival
  | .start => ({ account with pending := none }.call .clear).arrive story story.start
  | .stop =>
      ({ account with mode := .ended, pending := none }.call
        (.changed (account.current.getD "") .ended), .still)
  | .submit raw =>
      match account.awaited? story .answer with
      | some (.question question) =>
          let answer := question.field.normalize raw
          match question.submission? with
          | none => (account, .still)
          | some transition =>
              match complaint? transition.guards answer with
              | some message => (account.call (.invalid message), .still)
              | none =>
                  account.depart story [.clear] (some answer) transition.actions transition.target
      | _ => (account, .still)
  | .choose offer =>
      match account.awaited? story .choice with
      | some (.choice choice) =>
          match choice.offer? offer with
          | none => (account, .still)
          | some chosen => account.depart story [.clear] none chosen.actions chosen.target
      | _ => (account, .still)
  | .enter =>
      match account.awaited? story .enter with
      | some (.sequence body) =>
          match body.events.find? enterEvent with
          | some target => account.depart story [] none [] target
          | none => (account.turn body.id .ended none, .still)
      | _ => (account, .still)

/-- The records of commands, each of them obeyed and followed to its end. -/
def tell (story : Story) : Account → List Command → List Record
  | _, [] => []
  | account, command :: rest =>
      let obeyed := account.obey story command
      let settled := conclude story obeyed
      ⟨obeyed.2.reply, obeyed.1, settled.2, settled.1⟩ :: tell story settled.1 rest

/-- The ids from which a story goes on by itself while commands are obeyed. -/
def beginnings (story : Story) : Account → List Command → List String
  | _, [] => []
  | account, command :: rest =>
      let obeyed := account.obey story command
      obeyed.2.beginning?.toList ++ beginnings story (conclude story obeyed).1 rest

/-! ## Sequences that are told -/

/-- A sequence of a story is being told. -/
structure Tells (story : Story) (body : Sequence) (account : Account) : Prop where
  found : story.find? body.id = some (.sequence body)
  goesOn : body.terminal = false
  running : account.mode = .running
  here : account.current = some body.id
  unawaited : account.pending = none

theorem tells_of_arrive {story : Story} {account arrived : Account} {id : String} {body : Sequence}
    (arrives : account.arrive story id = (arrived, .telling body)) :
    arrived.Tells story body ∧ body.id = id := by
  unfold arrive at arrives
  split at arrives
  · cases arrives
  · rename_i sequence found
    split at arrives
    · cases arrives
    · rename_i goesOn
      cases arrives
      have same : body.id = id := Story.id_of_find? found
      refine ⟨⟨?_, by simpa using goesOn, rfl, congrArg some same.symm, rfl⟩, same⟩
      rw [same]
      exact found
  · cases arrives
  · cases arrives

theorem tells_of_depart {story : Story} {account arrived : Account} {clearing : List Event}
    {submitted : Option String} {actions : List Action} {target : String} {body : Sequence}
    (departs : account.depart story clearing submitted actions target = (arrived, .telling body)) :
    arrived.Tells story body := by
  unfold depart at departs
  split at departs
  · cases departs
  · exact (tells_of_arrive departs).1

theorem tells_of_obey {story : Story} {account obeyed : Account} {command : Command}
    {body : Sequence} (obeys : account.obey story command = (obeyed, .telling body)) :
    obeyed.Tells story body := by
  cases command with
  | start => exact (tells_of_arrive obeys).1
  | stop => cases obeys
  | submit raw =>
      simp only [obey] at obeys
      split at obeys
      · split at obeys
        · cases obeys
        · split at obeys
          · cases obeys
          · exact tells_of_depart obeys
      · cases obeys
  | choose offer =>
      simp only [obey] at obeys
      split at obeys
      · split at obeys
        · cases obeys
        · exact tells_of_depart obeys
      · cases obeys
  | enter =>
      simp only [obey] at obeys
      split at obeys
      · split at obeys
        · exact tells_of_depart obeys
        · cases obeys
      · cases obeys

/-- Another sequence is told next only where the story leads on to it by itself. -/
theorem onward?_of_close {story : Story} {account closed : Account} {body next : Sequence}
    (found : story.find? body.id = some (.sequence body)) (goesOn : body.terminal = false)
    (closes : account.close story body = (closed, .telling next)) :
    closed.Tells story next ∧ story.onward? body.id = some next.id := by
  unfold close at closes
  split at closes
  · cases closes
  · rename_i unawaited
    split at closes
    · cases closes
    · rename_i target leads
      obtain ⟨tells, same⟩ := tells_of_arrive closes
      refine ⟨tells, ?_⟩
      rw [Story.onward?_of_find? found, Sequence.onward?, same]
      simp [goesOn, unawaited, leads]

/-- Where the story leads no further by itself, no other sequence is told. -/
theorem beginning?_of_close {story : Story} {account closed : Account} {body : Sequence}
    {arrival : Arrival} (found : story.find? body.id = some (.sequence body))
    (goesOn : body.terminal = false) (stops : story.onward? body.id = none)
    (closes : account.close story body = (closed, arrival)) : arrival.beginning? = none := by
  cases arrival with
  | refused => rfl
  | still => rfl
  | telling heir =>
      have leads := (onward?_of_close found goesOn closes).2
      rw [stops] at leads
      cases leads

theorem proceed_of_last {story : Story} (more : Nat) {account closed : Account} {body : Sequence}
    {arrival : Arrival} (closes : (account.recite body.lines).close story body = (closed, arrival))
    (last : arrival.beginning? = none) :
    proceed story more body account = (closed, arrival.report) := by
  cases arrival with
  | telling => cases last
  | refused trouble => rw [proceed, closes]
  | still => rw [proceed, closes]

theorem proceed_of_heir {story : Story} (more : Nat) {account closed : Account}
    {body next : Sequence}
    (closes : (account.recite body.lines).close story body = (closed, .telling next)) :
    proceed story (more + 1) body account = proceed story more next closed := by
  rw [proceed, closes]

/-- A chain that is over within a number of sequences is told the same with any greater number. -/
theorem proceed_of_endsWithin {story : Story} {enough more : Nat} (atLeast : enough ≤ more)
    {account : Account} {body : Sequence} (found : story.find? body.id = some (.sequence body))
    (goesOn : body.terminal = false) (ends : story.EndsWithin enough body.id) :
    proceed story more body account = proceed story enough body account := by
  induction enough generalizing more account body with
  | zero =>
      generalize closes : (account.recite body.lines).close story body = closed
      obtain ⟨after, arrival⟩ := closed
      have last := beginning?_of_close found goesOn ends closes
      rw [proceed_of_last more closes last, proceed_of_last 0 closes last]
  | succ enough inductionHypothesis =>
      obtain ⟨further, rfl⟩ : ∃ further, more = further + 1 := ⟨more - 1, by omega⟩
      generalize closes : (account.recite body.lines).close story body = closed
      obtain ⟨after, arrival⟩ := closed
      by_cases last : arrival.beginning? = none
      · rw [proceed_of_last _ closes last, proceed_of_last _ closes last]
      · cases arrival with
        | refused => exact absurd rfl last
        | still => exact absurd rfl last
        | telling heir =>
            obtain ⟨tells, leads⟩ := onward?_of_close found goesOn closes
            rw [proceed_of_heir _ closes, proceed_of_heir _ closes]
            exact inductionHypothesis (by omega) tells.found tells.goesOn (ends heir.id leads)

/-- On a chain that visits no scene twice, a sequence is followed by all that its heir is followed by. -/
theorem conclude_of_heir {story : Story} {account closed : Account} {body next : Sequence}
    (found : story.find? body.id = some (.sequence body)) (goesOn : body.terminal = false)
    (straight : story.Straight body.id)
    (closes : (account.recite body.lines).close story body = (closed, .telling next)) :
    conclude story (account, .telling body) = conclude story (closed, .telling next) := by
  obtain ⟨tells, leads⟩ := onward?_of_close found goesOn closes
  have ends := Story.endsWithin_of_straight straight
  have scenes : 0 < story.scenes.length := List.length_pos_of_mem (Story.mem_scenes_of_find? found)
  obtain ⟨fewer, count⟩ : ∃ fewer, story.scenes.length = fewer + 1 :=
    ⟨story.scenes.length - 1, by omega⟩
  rw [count] at ends
  show proceed story story.scenes.length body account = proceed story story.scenes.length next closed
  rw [count, proceed_of_heir _ closes]
  exact (proceed_of_endsWithin (Nat.le_succ fewer) tells.found tells.goesOn
    (ends next.id leads)).symm

/-! ## When lines are printed -/

@[simp] theorem store_pass (account : Account) (delay : Nat) :
    (account.pass delay).store = account.store := rfl

@[simp] theorem store_printed (account : Account) (line : Line) :
    (account.printed line).store = account.store := rfl

/-- The pauses of the lines together. -/
def pauseOf : List Line → Nat
  | [] => 0
  | line :: rest => line.delay + pauseOf rest

theorem clock_recite (account : Account) (lines : List Line) :
    (account.recite lines).clock = account.clock + pauseOf lines := by
  induction lines generalizing account with
  | nil => rfl
  | cons line rest inductionHypothesis =>
      rw [recite, inductionHypothesis, pauseOf, ← Nat.add_assoc]
      rfl

/-- Every line is printed once the pauses of all lines before it are over. -/
theorem calls_recite (account : Account) (lines : List Line) :
    (account.recite lines).calls = account.calls ++ lines.zipIdx.map fun (line, index) =>
      .print (account.clock + pauseOf (lines.take index))
        (Template.fill line.text account.store) line.instant line.speed := by
  induction lines generalizing account with
  | nil => simp [recite]
  | cons line rest inductionHypothesis =>
      rw [recite, inductionHypothesis, List.zipIdx_cons, List.map_cons, List.zipIdx_succ,
        List.map_map]
      have first : ((account.printed line).pass line.delay).calls = account.calls ++
          [.print account.clock (Template.fill line.text account.store) line.instant line.speed] := rfl
      have later : ((account.printed line).pass line.delay).clock = account.clock + line.delay := rfl
      simp [first, later, pauseOf, Function.comp_def, Nat.add_assoc]

end Account

end NarrativePlayer.Session
