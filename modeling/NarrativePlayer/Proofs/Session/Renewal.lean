import NarrativePlayer.Proofs.Session.AttainedStates
import NarrativePlayer.Proofs.Session.MirroredRuns
import NarrativePlayer.Proofs.Session.Supersession

/-!
Contract: a session that is started again is as good as new.

Whatever has become of a session, once it is started again it does the same, move by move, as a session
of the same story that is opened with the variables as they are and has its terminal in the same
condition. A start looks at nothing that is left of the past but the variables and the terminal, and from
then on the one session mirrors the other. Does not own waiting for sequences, which may still report
what was begun before.
-/

namespace NarrativePlayer.Session

/-- What is seen of a session after a move. -/
structure View where
  reply : Option Reply
  /-- All that was heard so far, in order. -/
  heard : List Event
  clock : Nat
  mode : Mode
  current : Option String
  pending : Option Pending
  store : Table
deriving DecidableEq, Repr

/-- The same view, later by a past. -/
def View.later (past : Past) (view : View) : View :=
  { view with
    reply := view.reply.map (Reply.later past)
    heard := view.heard.map (Event.later past)
    clock := view.clock + past.clock }

namespace State

/-- What is seen of a session that has a past when it is first looked at. What belongs to the past, such
as the end of a command that was given in it, is not seen. -/
def view (past : Past) (state : State) (reply : Option Reply) : View where
  reply := reply
  heard := ((state.trace.take (state.trace.length - past.trace.length)).filter
    (Event.isHeard past.tickets)).reverse
  clock := state.clock
  mode := state.position.mode
  current := state.position.current
  pending := state.position.pending
  store := state.position.store

/-- What is seen after each of some moves. -/
inductive Plays (staging : Staging) (past : Past) : State → List Move → List View → Prop
  | nothing (state : State) : Plays staging past state [] []
  | moves {state next : State} {move : Move} {reply : Option Reply} {rest : List Move}
      {views : List View} (makes : Makes staging state move next reply)
      (plays : Plays staging past next rest views) :
      Plays staging past state (move :: rest) (next.view past reply :: views)

variable {past : Past} {worn fresh : State}

/-! ## Moves that are mirrored -/

theorem makes_tick_iff {staging : Staging} {state next : State} {reply : Option Reply} :
    Makes staging state .tick next reply ↔ reply = none ∧ Runs staging none state next := by
  constructor
  · rintro ⟨bound, made⟩
    obtain ⟨drained, done, same⟩ := Option.map_eq_some_iff.mp made
    cases same
    exact ⟨rfl, runs_of_drain done⟩
  · rintro ⟨rfl, runs⟩
    obtain ⟨bound, done⟩ := drain_of_runs runs
    refine ⟨bound, ?_⟩
    rw [make, done]
    rfl

theorem makes_advance_iff {staging : Staging} {state next : State} {time : Nat}
    {reply : Option Reply} :
    Makes staging state (.advance time) next reply ↔
      reply = none ∧ Runs staging (some (state.clock + time)) state next := by
  constructor
  · rintro ⟨bound, made⟩
    obtain ⟨advanced, done, same⟩ := Option.map_eq_some_iff.mp made
    cases same
    exact ⟨rfl, runs_of_advanceTo done⟩
  · rintro ⟨rfl, runs⟩
    obtain ⟨bound, done⟩ := advanceTo_of_runs runs
    refine ⟨bound, ?_⟩
    rw [make, done]
    rfl

/-- A move that is made without delay. -/
theorem makes_iff_of_make {staging : Staging} {state after next : State} {move : Move}
    {answer reply : Option Reply}
    (atOnce : ∀ bound, make staging bound state move = some (after, answer)) :
    Makes staging state move next reply ↔ next = after ∧ reply = answer := by
  constructor
  · rintro ⟨bound, made⟩
    rw [atOnce] at made
    cases made
    exact ⟨rfl, rfl⟩
  · rintro ⟨rfl, rfl⟩
    exact ⟨0, atOnce 0⟩

/-- A move of both sessions is mirrored, and is made by both or by none. -/
structure MirrorsMove (staging : Staging) (past : Past) (worn fresh : State) (move : Move) : Prop where
  forth : ∀ {next reply}, Makes staging fresh move next reply → ∃ later,
    Makes staging worn move later (reply.map (Reply.later past)) ∧ Mirrors past later next
  back : ∀ {later reply}, Makes staging worn move later reply → ∃ next answer,
    Makes staging fresh move next answer ∧ reply = answer.map (Reply.later past) ∧
      Mirrors past later next

theorem mirrorsMove_of_make {staging : Staging} {move : Move} {wornAfter freshAfter : State}
    {wornReply freshReply : Option Reply}
    (wornMakes : ∀ bound, make staging bound worn move = some (wornAfter, wornReply))
    (freshMakes : ∀ bound, make staging bound fresh move = some (freshAfter, freshReply))
    (sameReply : wornReply = freshReply.map (Reply.later past))
    (mirrors : Mirrors past wornAfter freshAfter) : MirrorsMove staging past worn fresh move where
  forth makes := by
    obtain ⟨rfl, rfl⟩ := (makes_iff_of_make freshMakes).mp makes
    exact ⟨wornAfter, (makes_iff_of_make wornMakes).mpr ⟨rfl, sameReply.symm⟩, mirrors⟩
  back makes := by
    obtain ⟨rfl, rfl⟩ := (makes_iff_of_make wornMakes).mp makes
    exact ⟨freshAfter, freshReply, (makes_iff_of_make freshMakes).mpr ⟨rfl, rfl⟩, sameReply, mirrors⟩

/-- A move that lets both sessions go on by themselves. -/
theorem mirrorsMove_of_runs {staging : Staging} {move : Move} {horizon : Option Nat}
    (wornMakes : ∀ {next reply}, Makes staging worn move next reply ↔
      reply = none ∧ Runs staging (horizon.map (· + past.clock)) worn next)
    (freshMakes : ∀ {next reply}, Makes staging fresh move next reply ↔
      reply = none ∧ Runs staging horizon fresh next)
    (trails : Trails past horizon worn fresh) : MirrorsMove staging past worn fresh move where
  forth makes := by
    obtain ⟨rfl, runs⟩ := freshMakes.mp makes
    obtain ⟨later, runsToo, mirrored⟩ := Trails.runs runs trails
    exact ⟨later, wornMakes.mpr ⟨rfl, runsToo⟩, mirrored⟩
  back makes := by
    obtain ⟨rfl, runs⟩ := wornMakes.mp makes
    obtain ⟨next, runsToo, mirrored⟩ := Trails.runs_back rfl runs trails
    exact ⟨next, none, freshMakes.mpr ⟨rfl, runsToo⟩, rfl, mirrored⟩

theorem Mirrors.move (mirrors : Mirrors past worn fresh) (begun : 0 < fresh.position.generation)
    (staging : Staging) (move : Move) : MirrorsMove staging past worn fresh move := by
  cases move with
  | command told =>
      obtain ⟨executed, sameReply⟩ := mirrors.execute staging told
      exact mirrorsMove_of_make (fun _ => rfl) (fun _ => rfl) (congrArg some sameReply) executed
  | tick =>
      have trails : Trails past none worn fresh := .of_mirrors mirrors begun
      exact mirrorsMove_of_runs makes_tick_iff makes_tick_iff trails
  | advance time =>
      have trails : Trails past (some (fresh.clock + time)) worn fresh := .of_mirrors mirrors begun
      have sameHorizon : some (worn.clock + time) =
          (some (fresh.clock + time)).map (· + past.clock) := by
        rw [mirrors.clock, Option.map_some, Nat.add_right_comm]
      exact mirrorsMove_of_runs (sameHorizon ▸ makes_advance_iff) makes_advance_iff trails
  | shut gate =>
      exact mirrorsMove_of_make (fun _ => rfl) (fun _ => rfl) rfl (mirrors.setGate gate false)
  | lift gate =>
      exact mirrorsMove_of_make (fun _ => rfl) (fun _ => rfl) rfl (mirrors.openGate gate)
  | pulse gate =>
      exact mirrorsMove_of_make (fun _ => rfl) (fun _ => rfl) rfl (mirrors.release gate)
  | fault =>
      exact mirrorsMove_of_make (fun _ => rfl) (fun _ => rfl) rfl { mirrors with faulty := rfl }

/-- A session without a past. -/
def noPast : Past :=
  ⟨0, 0, 0, []⟩

theorem Mirrors.view (mirrors : Mirrors past worn fresh) (reply : Option Reply) :
    worn.view past (reply.map (Reply.later past)) = (fresh.view noPast reply).later past := by
  obtain ⟨recent, split, heard⟩ := mirrors.trace
  have own : worn.trace.take (worn.trace.length - past.trace.length) = recent := by
    rw [split, List.length_append, Nat.add_sub_cancel, List.take_left]
  have heardAll : (fresh.trace.take (fresh.trace.length - noPast.trace.length)).filter
      (Event.isHeard noPast.tickets) = fresh.trace.filter (Event.isHeard 0) := by
    rw [show noPast.trace.length = 0 from rfl, Nat.sub_zero, List.take_length]
    rfl
  simp only [State.view, View.later, own, heard, heardAll, mirrors.position, mirrors.clock,
    Position.later, List.map_reverse]

theorem Makes.begun {staging : Staging} {state next : State} {move : Move} {reply : Option Reply}
    (makes : Makes staging state move next reply) (begun : 0 < state.position.generation) :
    0 < next.position.generation := by
  obtain ⟨happenings, rfl⟩ := makes.reaches
  exact Nat.lt_of_lt_of_le begun (generation_le_course staging happenings state)

theorem Mirrors.plays {staging : Staging} {moves : List Move} {newer : List View} {fresh : State}
    (plays : Plays staging noPast fresh moves newer) :
    ∀ {worn : State}, Mirrors past worn fresh → 0 < fresh.position.generation →
      Plays staging past worn moves (newer.map (View.later past)) := by
  induction plays with
  | nothing => exact fun _ _ => .nothing _
  | moves makes _ inductionHypothesis =>
      intro worn mirrors begun
      obtain ⟨later, makesToo, mirrored⟩ := (mirrors.move begun staging _).forth makes
      rw [List.map_cons, ← mirrored.view]
      exact .moves makesToo (inductionHypothesis mirrored (makes.begun begun))

theorem Mirrors.plays_back {staging : Staging} {moves : List Move} {views : List View} {worn : State}
    (plays : Plays staging past worn moves views) :
    ∀ {fresh : State}, Mirrors past worn fresh → 0 < fresh.position.generation →
      ∃ newer, Plays staging noPast fresh moves newer ∧ views = newer.map (View.later past) := by
  induction plays with
  | nothing => exact fun _ _ => ⟨[], .nothing _, rfl⟩
  | moves makes _ inductionHypothesis =>
      intro fresh mirrors begun
      obtain ⟨next, answer, makesToo, rfl, mirrored⟩ := (mirrors.move begun staging _).back makes
      obtain ⟨newer, plays, rfl⟩ := inductionHypothesis mirrored (makesToo.begun begun)
      refine ⟨_, .moves makesToo plays, ?_⟩
      rw [List.map_cons, mirrored.view]

end State

/-! ## The story that is opened anew -/

/-- The same story with other variables at its beginning. -/
def Staging.stocked (staging : Staging) (store : Table) : Staging :=
  { staging with story := { staging.story with store := store } }

namespace State

theorem execute_stocked (state : State) (staging : Staging) (store : Table) (command : Command) :
    state.execute (staging.stocked store) command = state.execute staging command := by
  cases command <;> rfl

theorem pump_stocked (state : State) (staging : Staging) (store : Table) :
    state.pump (staging.stocked store) = state.pump staging := rfl

theorem drain_stocked (staging : Staging) (store : Table) (bound : Nat) (state : State) :
    drain (staging.stocked store) bound state = drain staging bound state := by
  induction bound generalizing state with
  | zero => rfl
  | succ bound inductionHypothesis =>
      rw [drain, drain, pump_stocked, inductionHypothesis]

theorem advanceTo_stocked (staging : Staging) (store : Table) (moment bound : Nat) (state : State) :
    advanceTo (staging.stocked store) moment bound state = advanceTo staging moment bound state := by
  induction bound generalizing state with
  | zero => rfl
  | succ bound inductionHypothesis =>
      simp only [advanceTo, pump_stocked, inductionHypothesis]

/-- What variables a story begins with matters only when it is opened. -/
theorem make_stocked (staging : Staging) (store : Table) (bound : Nat) (state : State) (move : Move) :
    make (staging.stocked store) bound state move = make staging bound state move := by
  cases move with
  | command told => simp only [make, execute_stocked]
  | tick => simp only [make, drain_stocked]
  | advance time => simp only [make, advanceTo_stocked]
  | _ => rfl

theorem plays_stocked {staging : Staging} {store : Table} {past : Past} {state : State}
    {moves : List Move} {views : List View} :
    Plays (staging.stocked store) past state moves views ↔ Plays staging past state moves views := by
  have sameMoves : ∀ {state next move reply},
      Makes (staging.stocked store) state move next reply ↔ Makes staging state move next reply := by
    intro state next move reply
    simp only [Makes, make_stocked]
  constructor
  · intro plays
    induction plays with
    | nothing state => exact .nothing state
    | moves makes _ inductionHypothesis => exact .moves (sameMoves.mp makes) inductionHypothesis
  · intro plays
    induction plays with
    | nothing state => exact .nothing state
    | moves makes _ inductionHypothesis => exact .moves (sameMoves.mpr makes) inductionHypothesis

/-- A session with its terminal in the condition of another's. -/
def furnished (state other : State) : State :=
  { state with
    printOpen := other.printOpen, displayOpen := other.displayOpen, faulty := other.faulty }

/-! ## Starting again -/

/-- A session that has forgotten where it stood. -/
def forget (state : State) : State :=
  { state with position := { state.position with mode := .idle, current := none, pending := none } }

/-- To enter a declared scene is to forget where one stood. -/
theorem enter_of_declared (state : State) {staging : Staging} {id : String} {scene : Scene}
    (found : staging.story.find? id = some scene) (mode : Mode) (current : Option String) :
    State.enter { state with position := { state.position with mode := mode, current := current } }
        staging id state.position.generation =
      state.enter staging id state.position.generation := by
  simp only [enter, Story.find_of_some found, note_eq, Position.isCurrent, decide_true, Bool.not_true,
    Bool.false_eq_true, if_false]
  split
  · simp only [finish, place]
  · cases scene <;> rfl

theorem start_forget {staging : Staging}
    (startDeclared : staging.story.declares staging.story.start = true) (state : State) :
    state.forget.start staging = state.start staging := by
  obtain ⟨scene, found⟩ := Story.exists_find?_of_declares startDeclared
  have entered := enter_of_declared
    { state with
      position := state.position.release.renew
      trace := .clear :: (journaled staging .engine .info
        s!"[Start] story '{staging.story.id}' v{staging.story.version} at '{staging.story.start}'" ++
          state.trace) }
    found .idle none
  simp only [start, note_eq, place, emit]
  exact congrArg reply entered

/-- Apart from where it stood, a session is to its past as an opened one is to none. -/
theorem Attained.mirrors_forget {staging : Staging} {worn : State} (attained : Attained staging worn) :
    Mirrors worn.past worn.forget ((initial worn.position.store).furnished worn) := by
  obtain ⟨first, opened, happenings, rfl⟩ := attained.comes
  have orderly := orderly_course (orderly_of_opening opened) happenings
  have listed := attained.listed
  generalize first.course staging happenings = worn at orderly listed ⊢
  refine ⟨?_, ?_, rfl, rfl, rfl, ⟨worn.activities, rfl, ?_, ?_⟩, ?_, ⟨[], rfl, rfl⟩⟩
  · simp [forget, furnished, initial, Position.initial, Position.later, past]
  · simp [forget, furnished, initial, past]
  · intro activity member
    obtain ⟨ticket, here⟩ := List.mem_iff_getElem?.mp member
    cases activity with
    | performance sequence generation stage => exact orderly.notAhead here
    | call released finished => trivial
  · exact (List.append_nil _).symm
  · refine List.filter_eq_nil_iff.mpr fun ticket member => ?_
    have inside := listed ticket member
    show ¬ decide (worn.activities.length ≤ ticket) = true
    rw [decide_eq_true_eq]
    omega

theorem Attained.mirrors_start {staging : Staging} {worn : State} (attained : Attained staging worn) :
    Mirrors worn.past (worn.start staging).1
        (((initial worn.position.store).furnished worn).start staging).1 ∧
      (worn.start staging).2 =
        (((initial worn.position.store).furnished worn).start staging).2.later worn.past := by
  obtain ⟨first, opened, -⟩ := attained.comes
  obtain ⟨-, startDeclared⟩ := initial_of_opening opened
  have started := attained.mirrors_forget.start staging
  rw [start_forget startDeclared] at started
  exact started

theorem generation_start_pos (state : State) (staging : Staging) :
    0 < (state.start staging).1.position.generation := by
  have supersedes : Supersedes staging state (.command .start) := .start
  exact Nat.lt_of_le_of_lt (Nat.zero_le _) supersedes.generation_lt

theorem plays_start_iff {staging : Staging} {past : Past} {state : State} {moves : List Move}
    {views : List View} :
    Plays staging past state (.command .start :: moves) views ↔
      ∃ rest, Plays staging past (state.start staging).1 moves rest ∧
        views = (state.start staging).1.view past (some (state.start staging).2) :: rest := by
  have atOnce : ∀ bound, make staging bound state (.command .start) =
      some ((state.start staging).1, some (state.start staging).2) := fun _ => rfl
  constructor
  · intro plays
    cases plays with
    | moves makes plays =>
        obtain ⟨rfl, rfl⟩ := (makes_iff_of_make atOnce).mp makes
        exact ⟨_, plays, rfl⟩
  · rintro ⟨rest, plays, rfl⟩
    exact .moves ((makes_iff_of_make atOnce).mpr ⟨rfl, rfl⟩) plays

/-- A restart is as good as new. From whatever state a session has come into, a start and any moves after
it are seen in the same way as on a session of the same story that is opened with the variables as they
are then, and with its terminal in the same condition: after each move there is the same reply, the same
was heard at the same moments, and mode, current scene, awaited interaction and variables are the same,
where moments and tickets count from the restart. The one can be played to its end if and only if the
other can. -/
theorem restart_as_good_as_new (staging : Staging) {worn : State}
    (attained : Attained staging worn) :
    ∃ opened, opening (staging.stocked worn.position.store).story = .ok opened ∧
      ∀ moves views,
        Plays staging worn.past worn (.command .start :: moves) views ↔
          ∃ newer,
            Plays (staging.stocked worn.position.store) opened.past (opened.furnished worn)
              (.command .start :: moves) newer ∧
            views = newer.map (View.later worn.past) := by
  obtain ⟨first, opened, -⟩ := attained.comes
  obtain ⟨-, startDeclared⟩ := initial_of_opening opened
  obtain ⟨started, sameReply⟩ := attained.mirrors_start
  have begun := ((initial worn.position.store).furnished worn).generation_start_pos staging
  refine ⟨initial worn.position.store, ?_, fun moves views => ?_⟩
  · exact opening_of_declared startDeclared
  · have seen := started.view
      (some (((initial worn.position.store).furnished worn).start staging).2)
    rw [Option.map_some, ← sameReply] at seen
    simp only [plays_stocked]
    rw [plays_start_iff]
    constructor
    · rintro ⟨rest, plays, rfl⟩
      obtain ⟨newer, playsToo, rfl⟩ := Mirrors.plays_back plays started begun
      refine ⟨_, plays_start_iff.mpr ⟨newer, playsToo, rfl⟩, ?_⟩
      rw [seen]
      rfl
    · rintro ⟨all, plays, rfl⟩
      obtain ⟨newer, playsToo, rfl⟩ := plays_start_iff.mp plays
      refine ⟨_, Mirrors.plays playsToo started begun, ?_⟩
      rw [seen]
      rfl

/-- The story is started again in the pause after its first line, and then told on. -/
theorem sample_renewal :
    let staging : Staging := ⟨.sample, .silent⟩
    let worn := (initial .empty).course staging [.command .start, .step 0, .step 0, .clock 2]
    ∃ opened views newer,
      opening (staging.stocked worn.position.store).story = .ok opened ∧
      Plays staging worn.past worn [.command .start, .advance 6] views ∧
      Plays (staging.stocked worn.position.store) opened.past (opened.furnished worn)
        [.command .start, .advance 6] newer ∧
      views = newer.map (View.later worn.past) := by
  intro staging worn
  have listed : ∀ ticket ∈ worn.queue, ticket < worn.activities.length := by decide +kernel
  have opened : opening staging.story = .ok (initial .empty) := rfl
  have attained : Attained staging worn := ⟨⟨initial .empty, opened, _, rfl⟩, listed⟩
  have passes : (advanceTo staging ((worn.start staging).1.clock + 6) 30 (worn.start staging).1).isSome =
      true := by decide +kernel
  obtain ⟨told, done⟩ := Option.isSome_iff_exists.mp passes
  have advances : Makes staging (worn.start staging).1 (.advance 6) told none := by
    refine ⟨30, ?_⟩
    rw [make, done]
    rfl
  have plays : ∃ views, Plays staging worn.past worn [.command .start, .advance 6] views :=
    ⟨_, plays_start_iff.mpr ⟨_, .moves advances (.nothing told), rfl⟩⟩
  obtain ⟨views, plays⟩ := plays
  obtain ⟨opened, opens, asNew⟩ := restart_as_good_as_new staging attained
  obtain ⟨newer, playsToo, same⟩ := (asNew [.advance 6] views).mp plays
  exact ⟨opened, views, newer, opens, plays, playsToo, same⟩

end State

end NarrativePlayer.Session
