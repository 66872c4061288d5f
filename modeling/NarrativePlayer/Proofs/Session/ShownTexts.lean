import NarrativePlayer.Proofs.Review.Variables
import NarrativePlayer.Proofs.Session.History
import NarrativePlayer.Proofs.Story.Tables

/-!
Contract: the texts that a session shows, and the variables in them.

A text is a line that is printed or the prompt of a choice. Owns that the variables of a session are among
those that its story begins with or sets and never fewer than those that it begins with, that what is shown
is a template of the current scene filled in with the variables, and so that a review which checks
variables reports the tokens that come out empty and no others, apart from those that were not set yet.
-/

namespace NarrativePlayer

/-! ## Filling in without a variable -/

namespace Template

/-- A template with its tokens filled in, but for those of one name, which are left out. -/
def fillWithout (name template : String) (store : Table) : String :=
  String.ofList (((pieces template).filter fun piece => piece.name? ≠ some name).flatMap (Piece.fill store))

/-- A token of an unset variable becomes nothing. -/
theorem Piece.fill_eq_nil {piece : Piece} {name : String} {store : Table} (named : piece.name? = some name)
    (unset : store.find? name = none) : piece.fill store = [] := by
  cases piece with
  | literal character => cases named
  | token characters =>
      rw [Piece.name?, Option.some.injEq] at named
      rw [Piece.fill, named, unset]
      rfl

private theorem flatMap_fill_filter {name : String} {store : Table} (unset : store.find? name = none)
    (pieces : List Piece) :
    (pieces.filter fun piece => piece.name? ≠ some name).flatMap (Piece.fill store) =
      pieces.flatMap (Piece.fill store) := by
  induction pieces with
  | nil => rfl
  | cons piece rest inductionHypothesis =>
      rw [List.flatMap_cons]
      by_cases named : piece.name? = some name
      · rw [List.filter_cons_of_neg (by simp [named]), inductionHypothesis, Piece.fill_eq_nil named unset,
          List.nil_append]
      · rw [List.filter_cons_of_pos (by simp [named]), List.flatMap_cons, inductionHypothesis]

theorem fill_eq_fillWithout {name : String} {store : Table} (unset : store.find? name = none)
    (template : String) : fill template store = fillWithout name template store := by
  rw [fill, fillWithout, flatMap_fill_filter unset]

end Template

/-! ## The variables there are -/

theorem mem_keys_applyActions {submitted : Option String} {actions : List Action} {store : Table}
    {name : String} :
    name ∈ (applyActions submitted actions store).keys ↔
      name ∈ store.keys ∨ ∃ action ∈ actions, Review.variableOf? action = some name := by
  induction actions generalizing store with
  | nil => simp [applyActions]
  | cons action rest inductionHypothesis =>
      show name ∈ (applyActions submitted rest (action.apply submitted store)).keys ↔ _
      rw [inductionHypothesis]
      cases action with
      | set key literal fromAnswer =>
          simp only [Action.apply, Table.mem_keys_insert, List.mem_cons, exists_eq_or_imp,
            Review.variableOf?, Option.some.injEq]
          rw [eq_comm, or_assoc, or_left_comm]
      | unknown => simp [Action.apply, Review.variableOf?]

namespace Session

/-- A deed applies actions of a declared scene. -/
theorem Deed.apply_eq (story : Story) (store : Table) (deed : Deed) :
    ∃ submitted actions, deed.apply story store = applyActions submitted actions store ∧
      ∀ action ∈ actions, ∃ scene ∈ story.scenes, action ∈ Review.actionsOf scene := by
  have nothing : ∃ submitted actions, store = applyActions submitted actions store ∧
      ∀ action ∈ actions, ∃ scene ∈ story.scenes, action ∈ Review.actionsOf scene :=
    ⟨none, [], rfl, fun _ member => absurd member List.not_mem_nil⟩
  cases deed with
  | answered id raw =>
      simp only [Deed.apply, Story.question?]
      cases found : story.find? id with
      | none => exact nothing
      | some scene =>
          cases scene with
          | question question =>
              cases taken : question.submission? with
              | none => simpa [taken] using nothing
              | some transition =>
                  simp only [taken]
                  refine ⟨_, _, rfl, fun action member => ⟨_, Story.mem_scenes_of_find? found, ?_⟩⟩
                  exact List.mem_flatMap.mpr ⟨transition, List.mem_of_find?_eq_some taken, member⟩
          | _ => exact nothing
  | chose id offer =>
      simp only [Deed.apply, Story.choice?]
      cases found : story.find? id with
      | none => exact nothing
      | some scene =>
          cases scene with
          | choice choice =>
              cases taken : choice.offer? offer with
              | none => simpa [taken] using nothing
              | some chosen =>
                  simp only [Option.bind_some, taken]
                  refine ⟨_, _, rfl, fun action member => ⟨_, Story.mem_scenes_of_find? found, ?_⟩⟩
                  exact List.mem_flatMap.mpr ⟨chosen, List.mem_of_find?_eq_some taken, member⟩
          | _ => exact nothing
  | ran id =>
      simp only [Deed.apply, Story.sequence?]
      cases found : story.find? id with
      | none => exact nothing
      | some scene =>
          cases scene with
          | sequence sequence =>
              exact ⟨_, _, rfl, fun action member => ⟨_, Story.mem_scenes_of_find? found, member⟩⟩
          | _ => exact nothing

/-- Variables among those that a story begins with or sets, and no fewer than it begins with. -/
structure Within (story : Story) (store : Table) : Prop where
  seeded : ∀ name ∈ story.store.keys, name ∈ store.keys
  assigned : ∀ name ∈ store.keys, name ∈ Review.assignedVariables story

theorem within_seed (story : Story) : Within story story.store where
  seeded _ member := member
  assigned _ member := Review.mem_assignedVariables.mpr (.inl member)

theorem Within.apply {story : Story} {store : Table} (within : Within story store) (deed : Deed) :
    Within story (deed.apply story store) := by
  obtain ⟨submitted, actions, same, acts⟩ := deed.apply_eq story store
  rw [same]
  refine ⟨fun name member => mem_keys_applyActions.mpr (.inl (within.seeded name member)), ?_⟩
  intro name member
  rcases mem_keys_applyActions.mp member with before | ⟨action, here, sets⟩
  · exact within.assigned name before
  · obtain ⟨scene, declared, own⟩ := acts action here
    exact Review.mem_assignedVariables.mpr (.inr ⟨scene, declared, action, own, sets⟩)

theorem Within.replay {story : Story} (deeds : List Deed) {store : Table} (within : Within story store) :
    Within story (replay story deeds store) := by
  induction deeds generalizing store with
  | nil => exact within
  | cons deed rest inductionHypothesis => exact inductionHypothesis (within.apply deed)

theorem within_course {staging : Staging} {initial : State}
    (opened : State.opening staging.story = .ok initial) (happenings : List Happening) :
    Within staging.story (initial.course staging happenings).position.store := by
  rw [State.store_course]
  obtain ⟨rfl, -⟩ := State.initial_of_opening opened
  exact (within_seed staging.story).replay _

theorem Within.find?_eq_none {story : Story} {store : Table} (within : Within story store) {name : String}
    (unset : Review.NeverSet story name) : store.find? name = none :=
  Table.find?_eq_none_iff.mpr fun member => Review.neverSet_iff.mp unset (within.assigned name member)

/-- What is unset is set later by some action, or never. -/
theorem Within.setBySome_or_neverSet {story : Story} {store : Table} (within : Within story store)
    {name : String} (unset : store.find? name = none) :
    Review.SetBySome story name ∨ Review.NeverSet story name := by
  by_cases sets : Review.SetBySome story name
  · exact .inl sets
  · exact .inr ⟨fun member => Table.find?_eq_none_iff.mp unset (within.seeded name member), sets⟩

/-! ## What is shown -/

/-- The text that a call shows: a line, or the prompt of a choice. -/
def Event.text? : Event → Option String
  | .print _ text _ _ => some text
  | .showChoices prompt _ => some prompt
  | _ => none

/-- The texts that the entries of a trace show, in order. -/
def textsOf (trace : List Event) : List String :=
  (trace.filterMap Event.text?).reverse

theorem textsOf_cons (event : Event) (trace : List Event) :
    textsOf (event :: trace) = textsOf trace ++ event.text?.toList :=
  reverse_filterMap_cons Event.text? event trace

theorem textsOf_cons_of_none {event : Event} (wordless : event.text? = none) (trace : List Event) :
    textsOf (event :: trace) = textsOf trace := by
  rw [textsOf_cons, wordless, Option.toList_none, List.append_nil]

theorem Silent.textsOf_append {notes : List Event} (silent : Silent notes) (trace : List Event) :
    textsOf (notes ++ trace) = textsOf trace := by
  have unshown : notes.filterMap Event.text? = [] := by
    refine silent.filterMap_eq_nil fun event uncalled => ?_
    cases event with
    | print time text instant speed => cases uncalled
    | showChoices prompt offers => cases uncalled
    | _ => rfl
  rw [textsOf, List.filterMap_append, unshown, List.nil_append, textsOf]

/-- Whether a text is a template of the current scene, filled in with the variables. -/
def Position.Words (story : Story) (position : Position) (template text : String) : Prop :=
  ∃ id scene, position.current = some id ∧ story.find? id = some scene ∧
    template ∈ Review.templatesOf scene ∧ text = Template.fill template position.store

namespace State

def texts (state : State) : List String :=
  textsOf state.trace

/-- What a step shows: nothing, or one text, which is worded by where the session stands after the step. -/
inductive Shows (story : Story) (state later : State) : Prop
  | nothing (same : later.texts = state.texts)
  | once {template text : String} (added : later.texts = state.texts ++ [text])
      (words : later.position.Words story template text)

theorem Shows.of_silent {story : Story} {state later : State} {added : List Event} (silent : Silent added)
    (trace : later.trace = added ++ state.trace) : Shows story state later := by
  refine .nothing ?_
  rw [texts, trace, silent.textsOf_append, texts]

theorem Shows.of_wordless {story : Story} {state later : State} {event : Event} {notes : List Event}
    (silent : Silent notes) (wordless : event.text? = none)
    (trace : later.trace = event :: (notes ++ state.trace)) : Shows story state later := by
  refine .nothing ?_
  rw [texts, trace, textsOf_cons_of_none wordless, silent.textsOf_append, texts]

theorem Shows.reply {story : Story} {state : State} {result : State × Entrance}
    (showing : Shows story state result.1) : Shows story state (State.reply result).1 := by
  cases showing with
  | nothing same =>
      refine .nothing ?_
      rw [texts, trace_reply]
      exact same
  | once added words =>
      refine .once ?_ (position_reply result ▸ words)
      rw [texts, trace_reply]
      exact added

end State

/-- Of the scenes that are entered, a choice shows its prompt. -/
theorem Enters.shows {staging : Staging} {id : String} {before state : State} {result : State × Entrance}
    (enters : Enters staging id before result) (same : before.texts = state.texts) :
    State.Shows staging.story state result.1 := by
  have still : ∀ {trace : List Event}, textsOf trace = before.texts → textsOf trace = state.texts :=
    fun equal => equal.trans same
  cases enters with
  | undeclared => exact .nothing same
  | ends found terminal silent =>
      refine .nothing (still ?_)
      exact (textsOf_cons_of_none rfl _).trans (silent.textsOf_append _)
  | begins found goesOn silent silentLater =>
      refine .nothing (still ?_)
      exact (silentLater.textsOf_append _).trans
        ((textsOf_cons_of_none rfl _).trans (silent.textsOf_append _))
  | asks found silent =>
      refine .nothing (still ?_)
      exact (textsOf_cons_of_none rfl _).trans
        ((textsOf_cons_of_none rfl _).trans (silent.textsOf_append _))
  | @offers body found notes silent =>
      refine .once ?_ ⟨id, _, rfl, found, List.mem_singleton_self _, rfl⟩
      rw [State.texts, textsOf_cons, textsOf_cons_of_none rfl, silent.textsOf_append]
      exact congrArg (· ++ _) same

theorem Obeys.shows {staging : Staging} {state : State} {command : Command} {result : State × Reply}
    (obeys : Obeys staging state command result) : State.Shows staging.story state result.1 := by
  cases obeys with
  | starts silent enters =>
      refine (enters.shows ?_).reply
      exact (textsOf_cons_of_none rfl _).trans (silent.textsOf_append _)
  | stops silent => exact .of_wordless silent rfl rfl
  | ignores ignored silent => exact .of_silent silent rfl
  | misfits => exact .of_silent .nil rfl
  | rejects awaited found taken complaint silent => exact .of_wordless silent rfl rfl
  | refuses => exact .of_silent .nil rfl
  | @moves command _ _ _ leaves _ found notes silent _ enters =>
      refine (enters.shows ?_).reply
      show textsOf (command.clearing ++ (notes ++ state.trace)) = textsOf state.trace
      rcases command.clearing_cases with clears | clears
      · rw [clears, List.nil_append, silent.textsOf_append]
      · rw [clears, List.singleton_append, textsOf_cons_of_none rfl, silent.textsOf_append]
  | closes awaited found noWay silent => exact .of_wordless silent rfl rfl

namespace State

variable {staging : Staging} {state : State}

/-- A line is printed by the sequence in force, and that is the current scene. -/
theorem Steady.shows_advance (steady : state.Steady staging.story) {ticket : Nat} {sequence : Sequence}
    {generation : Nat} {stage reached : Stage} {next : State}
    (performs : state.Performs ticket sequence generation stage)
    (advances : Advances staging sequence generation state stage (next, reached)) :
    Shows staging.story state next := by
  cases advances with
  | givesUp stale silent => exact .of_silent silent rfl
  | givesUpPrinted stale here silent => exact .of_silent silent rfl
  | @prints index line current here intact notes silent =>
      rw [← current] at performs
      obtain ⟨found, -⟩ := steady.orderly.declared performs
      obtain ⟨-, atScene⟩ := steady.underWay performs rfl
      have own : line.text ∈ Review.templatesOf (.sequence sequence) :=
        List.mem_map_of_mem (List.mem_of_getElem? here)
      refine .once ?_ ⟨sequence.id, _, atScene, found, own, rfl⟩
      rw [texts, textsOf_cons, silent.textsOf_append]
      rfl
  | breaksOff current here faulty silent => exact .of_silent silent rfl
  | waits current beyond awaited silent => exact .of_wordless silent rfl rfl
  | ends current beyond unawaited last silent => exact .of_wordless silent rfl rfl
  | leads current beyond unawaited onward enters => exact enters.shows rfl
  | presents current beyond unawaited onward enters => exact enters.shows rfl
  | fails current beyond unawaited onward enters =>
      obtain ⟨rfl, -, -⟩ := enters.of_failed
      exact .of_wordless .nil rfl rfl
  | _ => exact .of_silent .nil rfl

theorem Steady.shows_after (steady : state.Steady staging.story) (happening : Happening) :
    Shows staging.story state (state.after staging happening) := by
  cases happening with
  | command command => exact (state.obeys_execute staging command).shows
  | step ticket =>
      show Shows staging.story state (state.goOn staging ticket)
      have goesOn := state.goesOn_goOn staging ticket
      generalize state.goOn staging ticket = later at goesOn ⊢
      cases goesOn with
      | performs here advances =>
          cases steady.shows_advance here advances with
          | nothing same => exact .nothing same
          | once added words => exact .once added words
      | returns here => exact .of_wordless .nil rfl rfl
      | rests => exact .of_silent .nil rfl
  | turn gate opened => cases gate <;> exact .of_silent .nil rfl
  | _ => exact .of_silent .nil rfl

/-- What a review that checks variables is worth. If it reports a variable, no session ever has it, and
all texts are shown without its tokens. Whatever a session shows is a template of the scene that its
current id stands for, filled in; and if a variable that this template mentions is unset then, every such
review reports it for that id, or some declared scene has an action that sets it. A variable that neither
the story begins with nor any action sets is reported once for each declaration that mentions it, and no
other variable is ever reported. -/
theorem unset_tokens_reported (staging : Staging) {initial : State}
    (opened : opening staging.story = .ok initial) (happenings : List Happening) :
    let state := initial.course staging happenings
    (∀ settings id name, .unsetVariable id name ∈ Review.review settings staging.story →
      state.position.store.find? name = none ∧
      ∀ template, Template.fill template state.position.store =
        Template.fillWithout name template state.position.store) ∧
    (∀ happening, let later := state.after staging happening
      later.texts = state.texts ∨
      ∃ id scene template, later.position.current = some id ∧ staging.story.find? id = some scene ∧
        template ∈ Review.templatesOf scene ∧
        later.texts = state.texts ++ [Template.fill template later.position.store] ∧
        ∀ name ∈ Template.tokens template, later.position.store.find? name = none →
          (∀ settings : Review.Settings, settings.checksVariables = true →
            .unsetVariable id name ∈ Review.review settings staging.story) ∨
          Review.SetBySome staging.story name) ∧
    ∀ (settings : Review.Settings) (id name : String),
      (settings.checksVariables = true → Review.NeverSet staging.story name →
        (Review.review settings staging.story).count (.unsetVariable id name) =
          staging.story.scenes.countP fun scene => scene.id = id ∧ name ∈ Review.mentioned scene) ∧
      (¬ Review.NeverSet staging.story name →
        .unsetVariable id name ∉ Review.review settings staging.story) := by
  intro state
  have within := within_course opened happenings
  refine ⟨fun settings id name reported => ?_, fun happening => ?_, fun settings id name => ⟨?_, ?_⟩⟩
  · obtain ⟨-, unset⟩ := Review.neverSet_of_mem_review reported
    have absent := within.find?_eq_none unset
    exact ⟨absent, Template.fill_eq_fillWithout absent⟩
  · intro later
    have withinLater : Within staging.story later.position.store := by
      have longer := within_course opened (happenings ++ [happening])
      rwa [course_concat] at longer
    cases (steady_course opened happenings).shows_after happening with
    | nothing same => exact .inl same
    | @once template text added words =>
        obtain ⟨id, scene, here, found, own, rfl⟩ := words
        refine .inr ⟨id, scene, template, here, found, own, added, fun name token unset => ?_⟩
        rcases withinLater.setBySome_or_neverSet unset with sets | never
        · exact .inr sets
        · left
          intro settings checked
          rw [← Story.id_of_find? found]
          exact Review.mem_review_of_neverSet checked never (Story.mem_scenes_of_find? found)
            (List.mem_flatMap.mpr ⟨template, own, token⟩)
  · exact fun checked unset => Review.count_review_of_neverSet checked unset id
  · exact fun isSet reported => isSet (Review.neverSet_of_mem_review reported).2

end State

end Session

/-- A story that greets whoever is `name`, which nothing sets. -/
def Story.anonymous : Story where
  id := "anonymous"
  version := "1"
  store := Table.empty
  start := "greeting"
  scenes := [
    .sequence ⟨"greeting", [⟨"Hello, {name}, {name}.", 0, true, none⟩], [], none, none, Table.empty,
      false⟩]

namespace Session.State

theorem anonymous_reported :
    ∃ initial, opening .anonymous = .ok initial ∧
      (Review.review .standard .anonymous).count (.unsetVariable "greeting" "name") = 1 ∧
      ∀ happenings,
        Template.fill "Hello, {name}, {name}."
          (initial.course ⟨.anonymous, .silent⟩ happenings).position.store = "Hello, , ." := by
  have opened : opening .anonymous = .ok (.initial Table.empty) := opening_of_declared (by decide)
  have reported : .unsetVariable "greeting" "name" ∈ Review.review .standard .anonymous := by decide
  refine ⟨_, opened, by decide, fun happenings => ?_⟩
  obtain ⟨unset, -, -⟩ := unset_tokens_reported ⟨.anonymous, .silent⟩ opened happenings
  rw [(unset .standard "greeting" "name" reported).2]
  rfl

end Session.State

end NarrativePlayer
