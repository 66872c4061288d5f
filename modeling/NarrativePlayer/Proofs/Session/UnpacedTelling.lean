import NarrativePlayer.Proofs.Session.SequentialTelling
import NarrativePlayer.Proofs.Story.UnpacedStory

/-!
Contract: tellings without their pace.

Owns the account that is left without times, pauses and speeds, and that a story without its pace is told as
the story is, apart from these: every part of the telling in sequence comes to the same with them and without.
-/

namespace NarrativePlayer.Session

/-- A call without the time and the pace of a line. -/
def Event.unpaced : Event → Event
  | .print _ text _ _ => .print 0 text false none
  | other => other

def Arrival.unpaced : Arrival → Arrival
  | .telling body => .telling body.unpaced
  | .still => .still
  | .refused trouble => .refused trouble

@[simp] theorem Arrival.beginning?_unpaced (arrival : Arrival) :
    arrival.unpaced.beginning? = arrival.beginning? := by
  cases arrival <;> rfl

@[simp] theorem Arrival.reply_unpaced (arrival : Arrival) : arrival.unpaced.reply = arrival.reply := by
  cases arrival <;> rfl

namespace Account

/-- An account without times and paces. -/
def unpaced (account : Account) : Account :=
  { account with clock := 0, calls := account.calls.map Event.unpaced }

/-- What entering a scene comes to, without times and paces. -/
def unpacedArrival (arrived : Account × Arrival) : Account × Arrival :=
  (arrived.1.unpaced, arrived.2.unpaced)

variable (account : Account) (story : Story)

/-! ## Scenes -/

theorem call_unpaced (event : Event) :
    (account.call event).unpaced = account.unpaced.call event.unpaced := by
  simp [call, unpaced]

theorem turn_unpaced (scene : String) (mode : Mode) (pending : Option Pending) :
    (account.turn scene mode pending).unpaced = account.unpaced.turn scene mode pending :=
  call_unpaced _ _

theorem arrive_unpaced (id : String) :
    account.unpaced.arrive story.unpaced id = unpacedArrival (account.arrive story id) := by
  unfold arrive
  rw [Story.find?_unpaced]
  cases found : story.find? id with
  | none => rfl
  | some scene =>
      cases scene with
      | sequence body =>
          cases terminal : body.terminal with
          | true =>
              simp only [Option.map_some, Scene.unpaced, Sequence.unpaced, terminal, if_true,
                unpacedArrival, turn_unpaced, Arrival.unpaced]
          | false =>
              have acted : ((account.turn id .running none).act none body.actions).unpaced =
                  (account.unpaced.turn id .running none).act none body.actions := by
                rw [← turn_unpaced]
                rfl
              simp only [Option.map_some, Scene.unpaced, Sequence.unpaced, terminal, unpacedArrival,
                acted, Arrival.unpaced, Bool.false_eq_true, if_false]
      | question body =>
          simp only [Option.map_some, Scene.unpaced, unpacedArrival, park, call_unpaced, turn_unpaced,
            Event.unpaced, Arrival.unpaced]
      | choice body =>
          simp only [Option.map_some, Scene.unpaced, unpacedArrival, park, call_unpaced, turn_unpaced,
            Event.unpaced, Arrival.unpaced]
          rfl

theorem depart_unpaced {clearing : List Event} (clears : clearing.map Event.unpaced = clearing)
    (submitted : Option String) (actions : List Action) (target : String) :
    account.unpaced.depart story.unpaced clearing submitted actions target =
      unpacedArrival (account.depart story clearing submitted actions target) := by
  unfold depart
  rw [Story.find?_unpaced]
  cases story.find? target with
  | none => rfl
  | some scene =>
      have left : { account.unpaced.act submitted actions with
            pending := none, calls := account.unpaced.calls ++ clearing } =
          ({ account.act submitted actions with
            pending := none, calls := account.calls ++ clearing } : Account).unpaced := by
        simp [unpaced, act, clears]
      simp only [Option.map_some, left]
      exact arrive_unpaced _ _ target

theorem awaited?_unpaced (interaction : Interaction) :
    account.unpaced.awaited? story.unpaced interaction =
      (account.awaited? story interaction).map Scene.unpaced := by
  have same : account.unpaced.pending = account.pending := rfl
  unfold awaited?
  rw [same]
  cases account.pending with
  | none => rfl
  | some pending =>
      dsimp only
      split
      · exact story.find?_unpaced pending.scene
      · rfl

theorem obey_unpaced (command : Command) :
    account.unpaced.obey story.unpaced command = unpacedArrival (account.obey story command) := by
  cases command with
  | start =>
      have cleared : ({ account.unpaced with pending := none } : Account).call .clear =
          (({ account with pending := none } : Account).call .clear).unpaced := by
        rw [call_unpaced]
        rfl
      simp only [obey, cleared]
      exact arrive_unpaced _ _ story.start
  | stop =>
      simp only [obey, unpacedArrival, call_unpaced]
      rfl
  | submit raw =>
      simp only [obey, awaited?_unpaced]
      cases account.awaited? story .answer with
      | none => rfl
      | some scene =>
          cases scene with
          | sequence => rfl
          | choice => rfl
          | question question =>
              simp only [Option.map_some, Scene.unpaced]
              cases question.submission? with
              | none => rfl
              | some transition =>
                  dsimp only
                  cases complaint? transition.guards (question.field.normalize raw) with
                  | some message =>
                      simp only [unpacedArrival, call_unpaced]
                      rfl
                  | none => exact depart_unpaced account story rfl _ _ _
  | choose offer =>
      simp only [obey, awaited?_unpaced]
      cases account.awaited? story .choice with
      | none => rfl
      | some scene =>
          cases scene with
          | sequence => rfl
          | question => rfl
          | choice choice =>
              simp only [Option.map_some, Scene.unpaced]
              cases choice.offer? offer with
              | none => rfl
              | some chosen => exact depart_unpaced account story rfl _ _ _
  | enter =>
      simp only [obey, awaited?_unpaced]
      cases account.awaited? story .enter with
      | none => rfl
      | some scene =>
          cases scene with
          | question => rfl
          | choice => rfl
          | sequence body =>
              simp only [Option.map_some, Scene.unpaced, Sequence.unpaced]
              cases body.events.find? enterEvent with
              | some target => exact depart_unpaced account story rfl _ _ _
              | none =>
                  simp only [unpacedArrival, turn_unpaced]
                  rfl

/-! ## Sequences -/

theorem recite_unpaced (lines : List Line) :
    account.unpaced.recite (lines.map Line.unpaced) = (account.recite lines).unpaced := by
  induction lines generalizing account with
  | nil => rfl
  | cons line rest inductionHypothesis =>
      have printed : (account.unpaced.printed line.unpaced).pass line.unpaced.delay =
          ((account.printed line).pass line.delay).unpaced := by
        simp [Account.printed, pass, call, unpaced, Line.unpaced, Event.unpaced]
      rw [List.map_cons, recite, recite, printed, inductionHypothesis]

theorem close_unpaced (body : Sequence) :
    account.unpaced.close story.unpaced body.unpaced = unpacedArrival (account.close story body) := by
  unfold close
  have awaits : body.unpaced.awaits = body.awaits := rfl
  have next : body.unpaced.next = body.next := rfl
  rw [awaits, next]
  cases body.awaits with
  | some event =>
      simp only [Option.isSome_some, if_true, unpacedArrival, park, turn_unpaced]
      rfl
  | none =>
      simp only [Option.isSome_none, Bool.false_eq_true, if_false]
      cases body.next with
      | none =>
          simp only [unpacedArrival, turn_unpaced]
          rfl
      | some target => exact arrive_unpaced _ _ target

/-- A sequence is told the same, up to what comes after its last line. -/
theorem tell_unpaced (body : Sequence) :
    (account.unpaced.recite body.unpaced.lines).close story.unpaced body.unpaced =
      unpacedArrival ((account.recite body.lines).close story body) := by
  rw [← close_unpaced, ← recite_unpaced]
  rfl

theorem proceed_unpaced (more : Nat) (body : Sequence) :
    proceed story.unpaced more body.unpaced account.unpaced =
      ((proceed story more body account).1.unpaced, (proceed story more body account).2) := by
  induction more generalizing account body with
  | zero =>
      rw [proceed, proceed, tell_unpaced]
      obtain ⟨closed, arrival⟩ := (account.recite body.lines).close story body
      cases arrival <;> rfl
  | succ more inductionHypothesis =>
      rw [proceed, proceed, tell_unpaced]
      obtain ⟨closed, arrival⟩ := (account.recite body.lines).close story body
      cases arrival with
      | refused trouble => rfl
      | still => rfl
      | telling next => exact inductionHypothesis closed next

theorem conclude_unpaced (arrived : Account × Arrival) :
    conclude story.unpaced (unpacedArrival arrived) =
      ((conclude story arrived).1.unpaced, (conclude story arrived).2) := by
  obtain ⟨account, arrival⟩ := arrived
  cases arrival with
  | refused trouble => rfl
  | still => rfl
  | telling body =>
      have scenes : story.unpaced.scenes.length = story.scenes.length := List.length_map ..
      simp only [unpacedArrival, Arrival.unpaced, conclude, scenes]
      exact proceed_unpaced account story story.scenes.length body

end Account

end NarrativePlayer.Session
