import NarrativePlayer.Proofs.Session.FinishedWaits
import NarrativePlayer.Proofs.Session.Widgets

/-!
Contract: what is told on the way to the next prompt.

Between what is left and what is waited for next, lines are printed and scenes announced, and last of all
the widget is shown that is then asked with, if there is one. Owns this for everything that follows by
itself, in chains of sequences of any length. What a widget looks like is not owned here.
-/

namespace NarrativePlayer.Session

/-- Whether a call tells something, and neither asks nor takes anything away. -/
def Event.tells : Event → Bool
  | .print _ _ _ _ => true
  | .changed _ _ => true
  | _ => false

theorem Arrival.eq_refused_of_reply {arrival : Arrival} {trouble : Trouble}
    (failed : arrival.reply = .failed trouble) : arrival = .refused trouble := by
  cases arrival with
  | refused other =>
      cases failed
      rfl
  | still => cases failed
  | telling body => cases failed

namespace Account

/-- The widget that an account asks with. -/
def widget? (account : Account) (story : Story) : Option Event :=
  Position.widget? story ⟨account.mode, account.current, account.pending, account.store, 0⟩

variable {story : Story} {account : Account}

theorem widget?_of_unawaited (nothing : account.pending = none) : account.widget? story = none :=
  Position.widget?_of_unawaited nothing

theorem uncalled (nothing : account.calls = []) : { account with calls := [] } = account := by
  rw [← nothing]

/-- From one account to another, some calls tell something, and then the widget is shown that the other asks
with. -/
def Unfolds (story : Story) (account later : Account) : Prop :=
  ∃ telling, (∀ call ∈ telling, Event.tells call = true) ∧
    later.calls = account.calls ++ telling ++ (later.widget? story).toList

namespace Unfolds

theorem itself (nothing : account.pending = none) : Unfolds story account account := by
  refine ⟨[], fun _ => nofun, ?_⟩
  rw [widget?_of_unawaited nothing, List.append_nil]
  exact (List.append_nil _).symm

theorem trans {between later : Account} (first : Unfolds story account between)
    (nothing : between.pending = none) (second : Unfolds story between later) :
    Unfolds story account later := by
  obtain ⟨telling, tells, calls⟩ := first
  obtain ⟨tellingLater, tellsLater, callsLater⟩ := second
  rw [widget?_of_unawaited nothing, Option.toList_none, List.append_nil] at calls
  refine ⟨telling ++ tellingLater, fun call member => ?_, ?_⟩
  · exact (List.mem_append.mp member).elim (tells call) (tellsLater call)
  · rw [callsLater, calls, List.append_assoc account.calls]

/-- Something that is told where nothing is asked for. -/
theorem of_call {later : Account} {event : Event} (tells : event.tells = true)
    (calls : later.calls = account.calls ++ [event]) (unasked : later.widget? story = none) :
    Unfolds story account later := by
  refine ⟨[event], fun call member => ?_, ?_⟩
  · rw [List.mem_singleton.mp member]
    exact tells
  · rw [calls, unasked, Option.toList_none, List.append_nil]

/-- A scene that is announced and then asks. -/
theorem of_widget {later : Account} {event widget : Event} (tells : event.tells = true)
    (calls : later.calls = account.calls ++ [event] ++ [widget])
    (asks : later.widget? story = some widget) : Unfolds story account later := by
  refine ⟨[event], fun call member => ?_, ?_⟩
  · rw [List.mem_singleton.mp member]
    exact tells
  · rw [calls, asks, Option.toList_some]

end Unfolds

/-! ## What follows by itself -/

theorem unfolds_arrive (nothing : account.pending = none) (id : String) :
    Unfolds story account (account.arrive story id).1 := by
  unfold arrive
  split
  · exact .itself nothing
  · split
    · exact .of_call rfl rfl (widget?_of_unawaited rfl)
    · exact .of_call rfl rfl (widget?_of_unawaited rfl)
  · rename_i body found
    refine .of_widget rfl rfl ?_
    simp [widget?, Position.widget?, call, park, turn, Story.question?, found]
  · rename_i body found
    refine .of_widget rfl rfl ?_
    simp [widget?, Position.widget?, call, park, turn, Story.choice?, found]

theorem unfolds_recite (story : Story) {account : Account} (nothing : account.pending = none) (lines : List Line) :
    (account.recite lines).pending = none ∧ Unfolds story account (account.recite lines) := by
  induction lines generalizing account with
  | nil => exact ⟨nothing, .itself nothing⟩
  | cons line rest inductionHypothesis =>
      have still : ((account.printed line).pass line.delay).pending = none := nothing
      have printed : Unfolds story account ((account.printed line).pass line.delay) :=
        .of_call rfl rfl (widget?_of_unawaited nothing)
      obtain ⟨nothingLater, recited⟩ := inductionHypothesis still
      exact ⟨nothingLater, printed.trans still recited⟩

theorem unfolds_close (nothing : account.pending = none) (body : Sequence) :
    Unfolds story account (account.close story body).1 := by
  unfold close
  split
  · exact .of_call rfl rfl rfl
  · split
    · exact .of_call rfl rfl (widget?_of_unawaited rfl)
    · exact unfolds_arrive nothing _

theorem unfolds_last (story : Story) {account : Account} (nothing : account.pending = none) (body : Sequence) :
    Unfolds story account ((account.recite body.lines).close story body).1 := by
  obtain ⟨still, recited⟩ := unfolds_recite story nothing body.lines
  exact recited.trans still (unfolds_close still body)

/-- However many sequences follow each other, they are told up to what is asked for next. -/
theorem unfolds_proceed {more : Nat} {body : Sequence} (nothing : account.pending = none)
    (found : story.find? body.id = some (.sequence body)) (goesOn : body.terminal = false) :
    Unfolds story account (proceed story more body account).1 := by
  induction more generalizing account body with
  | zero =>
      have told := unfolds_last story nothing body
      rw [proceed]
      split
      · rename_i closes
        rw [closes] at told
        exact told
      · rename_i closes
        rw [closes] at told
        exact told
  | succ more inductionHypothesis =>
      have told := unfolds_last story nothing body
      rw [proceed]
      split
      · rename_i closed next closes
        obtain ⟨tells, -⟩ := onward?_of_close found goesOn closes
        rw [closes] at told
        exact told.trans tells.unawaited (inductionHypothesis tells.unawaited tells.found tells.goesOn)
      · rename_i closes
        rw [closes] at told
        exact told

/-! ## Commands -/

theorem depart_of_find? {target : String} {scene : Scene} (found : story.find? target = some scene)
    (clearing : List Event) (submitted : Option String) (actions : List Action) :
    account.depart story clearing submitted actions target =
      arrive { account.act submitted actions with pending := none, calls := account.calls ++ clearing }
        story target := by
  rw [depart, found]

theorem arrive_ne_refused {id : String} {scene : Scene} (found : story.find? id = some scene)
    (trouble : Trouble) : (account.arrive story id).2 ≠ .refused trouble := by
  rw [arrive, found]
  cases scene with
  | sequence body => cases terminal : body.terminal <;> simp [terminal]
  | question body => exact Arrival.noConfusion
  | choice body => exact Arrival.noConfusion

theorem current_arrive {id : String} {scene : Scene} (found : story.find? id = some scene) :
    (account.arrive story id).1.current = some id := by
  rw [arrive, found]
  cases scene with
  | sequence body => cases terminal : body.terminal <;> simp [terminal, turn, call, act]
  | question body => rfl
  | choice body => rfl

theorem arrive_asks_iff {id : String} {scene : Scene} (found : story.find? id = some scene) :
    (account.arrive story id).1.mode = .waiting .answer ↔ ∃ next, scene = .question next := by
  rw [arrive, found]
  cases scene with
  | sequence body => cases terminal : body.terminal <;> simp [terminal, turn, call, act]
  | question body => simp [park, turn, call]
  | choice body => simp [park, turn, call]

theorem awaited?_eq_some_iff {interaction : Interaction} {scene : Scene} :
    account.awaited? story interaction = some scene ↔
      ∃ id, account.pending = some ⟨interaction, id⟩ ∧ story.find? id = some scene := by
  unfold awaited?
  constructor
  · intro awaited
    split at awaited
    · rename_i pending here
      split at awaited
      · rename_i same
        exact ⟨pending.scene, by rw [here, ← same], awaited⟩
      · cases awaited
    · cases awaited
  · rintro ⟨id, pending, found⟩
    rw [pending]
    exact (if_pos rfl).trans found

theorem widget?_of_answer {question : Question}
    (awaited : account.awaited? story .answer = some (.question question)) :
    account.widget? story = some (.showInput question.field) := by
  obtain ⟨id, pending, found⟩ := awaited?_eq_some_iff.mp awaited
  simp [widget?, Position.widget?, pending, Story.question?, found]

theorem widget?_of_choice {choice : Choice}
    (awaited : account.awaited? story .choice = some (.choice choice)) :
    account.widget? story =
      some (.showChoices (Template.fill choice.prompt account.store) choice.offers) := by
  obtain ⟨id, pending, found⟩ := awaited?_eq_some_iff.mp awaited
  simp [widget?, Position.widget?, pending, Story.choice?, found]

theorem widget?_of_enter {scene : Scene} (awaited : account.awaited? story .enter = some scene) :
    account.widget? story = none := by
  obtain ⟨id, pending, -⟩ := awaited?_eq_some_iff.mp awaited
  rw [widget?, Position.widget?, pending]

/-- What becomes of an account by a command: it stays as it is, there is something to be said against an
answer, or it is left for what unfolds from there, once what was shown has been taken away. -/
inductive Takes (story : Story) (account : Account) : Account × Arrival → Prop
  | stays : Takes story account (account, .still)
  | refuses (trouble : Trouble) : Takes story account (account, .refused trouble)
  | rejects {id : String} (answers : account.pending = some ⟨.answer, id⟩) (message : String) :
      Takes story account (account.call (.invalid message), .still)
  | leaves {base : Account} {arrived : Account × Arrival}
      (clears : base.calls = account.calls ++ [.clear] ∨
        base.calls = account.calls ∧ account.widget? story = none)
      (unfolds : Unfolds story base arrived.1) : Takes story account arrived

theorem takes_depart {clearing : List Event} (submitted : Option String) (actions : List Action)
    (target : String)
    (clears : clearing = [.clear] ∨ clearing = [] ∧ account.widget? story = none) :
    Takes story account (account.depart story clearing submitted actions target) := by
  unfold depart
  split
  · exact .refuses _
  · refine .leaves ?_ (unfolds_arrive rfl target)
    rcases clears with rfl | ⟨rfl, unasked⟩
    · exact .inl rfl
    · exact .inr ⟨List.append_nil _, unasked⟩

theorem takes_obey (story : Story) (account : Account) {command : Command} (goesOn : command ≠ .stop) :
    Takes story account (account.obey story command) := by
  cases command with
  | start => exact .leaves (.inl rfl) (unfolds_arrive rfl story.start)
  | stop => exact absurd rfl goesOn
  | submit raw =>
      rw [obey]
      split
      · rename_i question awaited
        obtain ⟨id, pending, -⟩ := awaited?_eq_some_iff.mp awaited
        dsimp only
        split
        · exact .stays
        · split
          · exact .rejects pending _
          · exact takes_depart _ _ _ (.inl rfl)
      · exact .stays
  | choose offer =>
      rw [obey]
      split
      · split
        · exact .stays
        · exact takes_depart _ _ _ (.inl rfl)
      · exact .stays
  | enter =>
      rw [obey]
      split
      · rename_i body awaited
        have unasked := widget?_of_enter awaited
        split
        · exact takes_depart _ _ _ (.inr ⟨rfl, unasked⟩)
        · exact .leaves (.inr ⟨rfl, unasked⟩) (.of_call rfl rfl (widget?_of_unawaited rfl))
      · exact .stays

end Account

namespace State

variable {staging : Staging} {state : State}

/-- A command comes to what obeying it comes to. -/
theorem execute_of_obey (prompt : state.Prompt) (steady : state.Steady staging.story) {command : Command}
    {arrived : Account × Arrival} (obeys : state.account.obey staging.story command = arrived) :
    (state.execute staging command).1.account = arrived.1 ∧
      (state.execute staging command).2 = arrived.2.reply := by
  obtain ⟨arrival, responds, obeyed⟩ := responds_execute prompt steady command
  rw [← obeys, obeyed]
  exact ⟨rfl, responds.reply_eq⟩

/-- A scene is left without trouble for every target that is declared. -/
theorem unfailed_of_depart (prompt : state.Prompt) (steady : state.Steady staging.story) {command : Command}
    {clearing : List Event} {submitted : Option String} {actions : List Action} {target : String}
    {scene : Scene}
    (obeys : state.account.obey staging.story command =
      state.account.depart staging.story clearing submitted actions target)
    (found : staging.story.find? target = some scene) (trouble : Trouble) :
    (state.execute staging command).2 ≠ .failed trouble := by
  intro failed
  rw [(execute_of_obey prompt steady obeys).2, Account.depart_of_find? found] at failed
  exact Account.arrive_ne_refused found trouble (Arrival.eq_refused_of_reply failed)

/-- Waiting leaves a session as it is, or tells what is under way up to what is asked for next. -/
theorem Underway.unmoved_or_unfolds {session final : State} {arrival : Arrival} {report : Report}
    (underway : Underway staging session arrival)
    (startDeclared : staging.story.declares staging.story.start = true) {bound : Nat}
    (done : session.settle staging none bound = some (final, report)) :
    final.account = session.account ∨
      session.account.mode = .running ∧ session.account.pending = none ∧
        session.account.Unfolds staging.story final.account := by
  obtain ⟨-, concluded⟩ := underway.of_settle startDeclared done
  have same : final.account = (Account.conclude staging.story (session.account, arrival)).1 :=
    congrArg Prod.fst concluded
  rw [same]
  cases arrival with
  | refused trouble => exact absurd rfl (underway.unrefused trouble)
  | still => exact .inl rfl
  | telling body =>
      have tells := underway.tells body rfl
      exact .inr ⟨tells.running, tells.unawaited,
        Account.unfolds_proceed tells.unawaited tells.found tells.goesOn⟩

end State

end NarrativePlayer.Session
