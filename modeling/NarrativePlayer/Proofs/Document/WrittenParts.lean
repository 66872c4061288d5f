import NarrativePlayer.Proofs.Document.RecordSpelling
import NarrativePlayer.Proofs.Document.SoundStories

/-!
Contract: parts of a story that are written and read again.

Every sound part is written as a plain value that is read as the part, wherever a faithful medium presents
it. Tables are written in any order. Owns one such law for every part from an action up to a scene.
-/

namespace NarrativePlayer.Document

open NarrativePlayer.Decimal NarrativePlayer.Json

variable {Source : Type} {medium : Medium Source} {present : Value → Source} {room : Nat}

theorem Faithful.optionalText (faithful : Faithful medium present) {fields : List (Field Source)}
    {contents : Contents fields} {members : List (String × Value)} {name : String} {held : Option String}
    (rest : Spells room present fields contents members) :
    Spells room present (.defaulted name (readOptional medium (readText medium)) none :: fields)
      (held, contents) (optionalMember name (held.map .string) ++ members) :=
  faithful.optionalField (fun _ => Value.noConfusion) (fun text _ => faithful.text text) rest

theorem Faithful.optionalCount (faithful : Faithful medium present) {fields : List (Field Source)}
    {contents : Contents fields} {members : List (String × Value)} {name wanted : String}
    {held : Option Nat} (bounded : ∀ count, held = some count → count < wordBound)
    (rest : Spells room present fields contents members) :
    Spells room present (.defaulted name (readOptional medium (readCount medium wanted)) none :: fields)
      (held, contents) (optionalMember name (held.map .natural) ++ members) :=
  faithful.optionalField (fun _ => Value.noConfusion) (fun _ here => faithful.count (bounded _ here)) rest

/-! ## Actions and guards -/

/-- Of an unknown kind nothing is written but a tag that is not known either. -/
theorem unknown_beside {Carrier : Type} (name : String) (unknown : Carrier) :
    Beside room name (readUnknown unknown) (.object [(tagKey, .string name)]) unknown :=
  Spells.beside List.not_mem_nil List.nodup_nil .nothing rfl

theorem set_beside (name : String) (literal : Option String) (fromAnswer : Bool) :
    Beside room "set" readSet (writeAction (.set name literal fromAnswer))
      (.set name literal fromAnswer) := by
  have held := faithful_heldBack
  have origin : Spells room id
      [.defaulted "from" (readOptional Medium.heldBack (readName Medium.heldBack [("input", ())])) none]
      (if fromAnswer then some () else none, ())
      (optionalMember "from" (if fromAnswer then some (.string "input") else none)) := by
    cases fromAnswer with
    | false => exact .leftOut rfl .nothing
    | true => exact .given (held.optional Value.noConfusion (held.name rfl)) .nothing
  unfold writeAction
  simp only [List.cons_append, List.nil_append]
  refine Spells.beside (by decide) (by decide) (.given (held.text name) (held.optionalText origin)) ?_
  -- That the value comes from an answer is read off the presence of its origin.
  cases fromAnswer <;> rfl

theorem minLength_beside {least : Nat} (bounded : least < wordBound) :
    Beside room "minLength" readMinLength (writeGuard (.minLength least)) (.minLength least) :=
  Spells.beside (by decide) (by decide) (.given (faithful_heldBack.count bounded) .nothing) rfl

theorem Faithful.action (faithful : Faithful medium present) (within : room ≤ heldRoom)
    (action : Action) : Writes (room + 1) present (readAction medium) (writeAction action) action := by
  cases action with
  | set name literal fromAnswer =>
      obtain ⟨plain, content, tagged, reads⟩ :=
        faithful.tagged (.ok ∘ Tag.isOnly "set") rfl within (set_beside name literal fromAnswer)
      refine ⟨plain, ?_⟩
      rw [readAction, tagged]
      exact reads
  | unknown =>
      have beside : Beside room "unknown" (readUnknown Action.unknown) (writeAction .unknown) .unknown :=
        unknown_beside "unknown" Action.unknown
      obtain ⟨plain, content, tagged, reads⟩ :=
        faithful.tagged (.ok ∘ Tag.isOnly "set") rfl within beside
      refine ⟨plain, ?_⟩
      rw [readAction, tagged]
      exact reads

theorem Faithful.guard (faithful : Faithful medium present) (within : room ≤ heldRoom) {guard : Guard}
    (sound : guard.Sound) : Writes (room + 1) present (readGuard medium) (writeGuard guard) guard := by
  cases guard with
  | minLength least =>
      obtain ⟨plain, content, tagged, reads⟩ :=
        faithful.tagged (.ok ∘ Tag.isOnly "minLength") rfl within (minLength_beside sound)
      refine ⟨plain, ?_⟩
      rw [readGuard, tagged]
      exact reads
  | unknown =>
      have beside : Beside room "Unknown" (readUnknown Guard.unknown) (writeGuard .unknown) .unknown :=
        unknown_beside "Unknown" Guard.unknown
      obtain ⟨plain, content, tagged, reads⟩ :=
        faithful.tagged (.ok ∘ Tag.isOnly "minLength") rfl within beside
      refine ⟨plain, ?_⟩
      rw [readGuard, tagged]
      exact reads

/-! ## Records -/

theorem Faithful.line (faithful : Faithful medium present) {line : Line} (sound : line.Sound) :
    Writes (room + 1) present (readLine medium) (writeLine line) line := by
  have speed : Spells room present [.defaulted "speed" (readOptional medium (readCount medium "u64")) none]
      (line.speed, ()) (optionalMember "speed" (line.speed.map .natural)) :=
    faithful.lastOptionalField (fun _ => Value.noConfusion) fun _ here => faithful.count (sound.speed _ here)
  exact faithful.record (show ["text", "delay", "instant", "speed"].Nodup by decide)
    (.given (faithful.text line.text) <|
      .given (faithful.pause sound.delay.1 sound.delay.2) <|
      .given (faithful.flag line.instant) speed) rfl

theorem Faithful.field (faithful : Faithful medium present) {field : AnswerField} (sound : field.Sound) :
    Writes (room + 1) present (readAnswerField medium) (writeAnswerField field) field := by
  unfold writeAnswerField
  simp only [List.append_assoc, List.cons_append, List.nil_append]
  exact faithful.record
    (show ["id", "label", "placeholder", "minLength", "maxLength", "trim"].Nodup by decide)
    (.given (faithful.text field.id) <|
      .given (faithful.text field.label) <|
      faithful.optionalText <|
      faithful.optionalCount sound.minLength <|
      faithful.optionalCount sound.maxLength <|
      .given (faithful.flag field.trim) .nothing) rfl

theorem Faithful.transition (faithful : Faithful medium present) {transition : Transition}
    (sound : transition.Sound) :
    Writes 3 present (readTransition medium) (writeTransition transition) transition :=
  faithful.record (show ["event", "guards", "actions", "to"].Nodup by decide)
    (.given (faithful.text transition.event) <|
      .given (faithful.each fun guard among => faithful.guard (Nat.zero_le _) (sound guard among)) <|
      .given (faithful.each fun action _ => faithful.action (Nat.zero_le _) action) <|
      .given (faithful.text transition.target) .nothing) rfl

theorem Faithful.offer (faithful : Faithful medium present) (offer : Offer) :
    Writes 3 present (readOffer medium) (writeOffer offer) offer :=
  faithful.record (show ["id", "label", "actions", "to"].Nodup by decide)
    (.given (faithful.text offer.id) <|
      .given (faithful.text offer.label) <|
      .given (faithful.each fun action _ => faithful.action (Nat.zero_le _) action) <|
      .given (faithful.text offer.target) .nothing) rfl

/-! ## Scenes -/

/-- Whether a value writes a scene down, its table of events in some order. -/
inductive WritesScene : Scene → Value → Prop
  | sequence (body : Sequence) {events : List (String × String)} (perm : events.Perm body.events.entries) :
      WritesScene (.sequence body) (writeSequence body events)
  | question (body : Question) : WritesScene (.question body) (writeQuestion body)
  | choice (body : Choice) : WritesScene (.choice body) (writeChoice body)

theorem writesScene_writeScene (scene : Scene) : WritesScene scene (writeScene scene) := by
  cases scene with
  | sequence body => exact .sequence body (.refl _)
  | question body => exact .question body
  | choice body => exact .choice body

/-- An empty table of events is left out. -/
theorem sequence_beside {body : Sequence} (sound : ∀ line ∈ body.lines, line.Sound)
    {events : List (String × String)} (perm : events.Perm body.events.entries) :
    Beside 4 "sequence" (readSequence Medium.heldBack) (writeSequence body events) body := by
  have held := faithful_heldBack
  have terminal : Spells 4 id [.defaulted "terminal" (readFlag Medium.heldBack) false]
      (body.terminal, ()) [("terminal", .bool body.terminal)] := .given (held.flag _) .nothing
  have table : Spells 4 id
      [.defaulted "on" (readTable Medium.heldBack) Table.empty,
        .defaulted "terminal" (readFlag Medium.heldBack) false]
      (body.events, body.terminal, ())
      (optionalMember "on" (if events.isEmpty then none else some (writeEntries events)) ++
        [("terminal", .bool body.terminal)]) := by
    cases events with
    | nil =>
        have absent : Table.empty = body.events := Table.ofList_of_perm perm
        exact .leftOut (congrArg some absent) terminal
    | cons entry rest => exact .given (held.table perm) terminal
  unfold writeSequence
  simp only [List.append_assoc, List.cons_append, List.nil_append]
  exact Spells.beside (by decide) (by decide)
    (.given (held.text body.id) <|
      .given (held.each fun line among => held.line (sound line among)) <|
      .given (held.each fun action _ => held.action (by decide) action) <|
      held.optionalText <|
      held.optionalText table) rfl

theorem question_beside {body : Question} (field : body.field.Sound)
    (sound : ∀ transition ∈ body.transitions, transition.Sound) :
    Beside 4 "input" (readQuestion Medium.heldBack) (writeQuestion body) body := by
  have held := faithful_heldBack
  exact Spells.beside (by decide) (by decide)
    (.given (held.text body.id) <|
      .given (held.field field) <|
      .given (held.each fun transition among => held.transition (sound transition among)) .nothing) rfl

theorem choice_beside (body : Choice) :
    Beside 4 "choice" (readChoice Medium.heldBack) (writeChoice body) body := by
  have held := faithful_heldBack
  exact Spells.beside (by decide) (by decide)
    (.given (held.text body.id) <|
      .given (held.text body.prompt) <|
      .given (held.each fun offer _ => held.offer offer) .nothing) rfl

theorem Faithful.scene (faithful : Faithful medium present) {scene : Scene} (sound : scene.Sound)
    {value : Value} (written : WritesScene scene value) :
    Writes 5 present (readScene medium) value scene := by
  have within : 4 ≤ heldRoom := by decide
  cases written with
  | sequence body perm =>
      obtain ⟨plain, content, tagged, reads⟩ :=
        faithful.tagged sceneKind rfl within (sequence_beside sound perm)
      refine ⟨plain, ?_⟩
      rw [readScene, tagged]
      exact congrArg (Except.map Scene.sequence) reads
  | question body =>
      obtain ⟨plain, content, tagged, reads⟩ :=
        faithful.tagged sceneKind rfl within (question_beside sound.1 sound.2)
      refine ⟨plain, ?_⟩
      rw [readScene, tagged]
      exact congrArg (Except.map Scene.question) reads
  | choice body =>
      obtain ⟨plain, content, tagged, reads⟩ := faithful.tagged sceneKind rfl within (choice_beside body)
      refine ⟨plain, ?_⟩
      rw [readScene, tagged]
      exact congrArg (Except.map Scene.choice) reads

end NarrativePlayer.Document
