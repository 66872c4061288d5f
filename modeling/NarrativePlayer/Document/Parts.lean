import NarrativePlayer.Document.Tagged
import NarrativePlayer.Story.Graph

/-!
Contract: the parts of a story document, each with its fields in declaration order.

Owns the names, the types and the defaults of the fields of every part from an action up to the story.
Does not own what the fields of a well shaped story must hold.
-/

namespace NarrativePlayer.Document

open NarrativePlayer.Json

variable {Source : Type}

/-- Reads what stands beside a tag that is not known: nothing that anyone asks for. -/
def readUnknown {Carrier : Type} (unknown : Carrier) (content : Value) : Except Fault Carrier :=
  (readRecord Medium.heldBack "unit" [] content).map fun _ => unknown

/-- Reads what stands beside the tag of an action that sets a variable. -/
def readSet (content : Value) : Except Fault Action :=
  let held := Medium.heldBack
  let fields : List (Field Value) :=
    [.required "var" (readText held),
      .defaulted "value" (readOptional held (readText held)) none,
      .defaulted "from" (readOptional held (readName held [("input", ())])) none]
  (readRecord held "struct variant Action::Set" fields content).map
    fun (name, literal, source, ()) => .set name literal source.isSome

def readAction (medium : Medium Source) (source : Source) : Except Fault Action :=
  match readTagged medium "internally tagged enum Action" (.ok ∘ Tag.isOnly "set") source with
  | .error fault => .error fault
  | .ok (false, content) => readUnknown .unknown content
  | .ok (true, content) => readSet content

/-- Reads what stands beside the tag of a condition on the length of an answer. -/
def readMinLength (content : Value) : Except Fault Guard :=
  let held := Medium.heldBack
  let fields : List (Field Value) := [.required "value" (readCount held "usize")]
  (readRecord held "struct variant Guard::MinLength" fields content).map
    fun (least, ()) => .minLength least

def readGuard (medium : Medium Source) (source : Source) : Except Fault Guard :=
  match readTagged medium "internally tagged enum Guard" (.ok ∘ Tag.isOnly "minLength") source with
  | .error fault => .error fault
  | .ok (false, content) => readUnknown .unknown content
  | .ok (true, content) => readMinLength content

def readLine (medium : Medium Source) (source : Source) : Except Fault Line :=
  let fields : List (Field Source) :=
    [.required "text" (readText medium),
      .defaulted "delay" (readPause medium) 0,
      .defaulted "instant" (readFlag medium) false,
      .defaulted "speed" (readOptional medium (readCount medium "u64")) none]
  (readRecord medium "struct Line" fields source).map
    fun (text, delay, instant, speed, ()) => ⟨text, delay, instant, speed⟩

def readAnswerField (medium : Medium Source) (source : Source) : Except Fault AnswerField :=
  let fields : List (Field Source) :=
    [.required "id" (readText medium),
      .required "label" (readText medium),
      .defaulted "placeholder" (readOptional medium (readText medium)) none,
      .defaulted "minLength" (readOptional medium (readCount medium "usize")) none,
      .defaulted "maxLength" (readOptional medium (readCount medium "usize")) none,
      .defaulted "trim" (readFlag medium) false]
  (readRecord medium "struct InputSpec" fields source).map
    fun (id, label, placeholder, minLength, maxLength, trim, ()) =>
      ⟨id, label, placeholder, minLength, maxLength, trim⟩

def readTransition (medium : Medium Source) (source : Source) : Except Fault Transition :=
  let fields : List (Field Source) :=
    [.required "event" (readText medium),
      .defaulted "guards" (readList medium (readGuard medium)) [],
      .defaulted "actions" (readList medium (readAction medium)) [],
      .required "to" (readText medium)]
  (readRecord medium "struct Transition" fields source).map
    fun (event, guards, actions, target, ()) => ⟨event, guards, actions, target⟩

def readOffer (medium : Medium Source) (source : Source) : Except Fault Offer :=
  let fields : List (Field Source) :=
    [.required "id" (readText medium),
      .required "label" (readText medium),
      .defaulted "actions" (readList medium (readAction medium)) [],
      .required "to" (readText medium)]
  (readRecord medium "struct ChoiceOption" fields source).map
    fun (id, label, actions, target, ()) => ⟨id, label, actions, target⟩

def readSequence (medium : Medium Source) (source : Source) : Except Fault Sequence :=
  let fields : List (Field Source) :=
    [.required "id" (readText medium),
      .defaulted "lines" (readList medium (readLine medium)) [],
      .defaulted "actions" (readList medium (readAction medium)) [],
      .defaulted "next" (readOptional medium (readText medium)) none,
      .defaulted "await" (readOptional medium (readText medium)) none,
      .defaulted "on" (readTable medium) Table.empty,
      .defaulted "terminal" (readFlag medium) false]
  (readRecord medium "struct SequenceState" fields source).map
    fun (id, lines, actions, next, awaits, events, terminal, ()) =>
      ⟨id, lines, actions, next, awaits, events, terminal⟩

def readQuestion (medium : Medium Source) (source : Source) : Except Fault Question :=
  let fields : List (Field Source) :=
    [.required "id" (readText medium),
      .required "input" (readAnswerField medium),
      .defaulted "transitions" (readList medium (readTransition medium)) []]
  (readRecord medium "struct InputState" fields source).map
    fun (id, field, transitions, ()) => ⟨id, field, transitions⟩

def readChoice (medium : Medium Source) (source : Source) : Except Fault Choice :=
  let fields : List (Field Source) :=
    [.required "id" (readText medium),
      .required "prompt" (readText medium),
      .defaulted "choices" (readList medium (readOffer medium)) []]
  (readRecord medium "struct ChoiceState" fields source).map
    fun (id, prompt, offers, ()) => ⟨id, prompt, offers⟩

def sceneKinds : List (String × SceneKind) :=
  [SceneKind.sequence, .question, .choice].map fun kind => (kind.word, kind)

/-- The kind of scene that a tag stands for. -/
def sceneKind : Tag → Except Fault SceneKind
  | .named name => ofName sceneKinds name
  | .counted position =>
      match sceneKinds[position]? with
      | some (_, kind) => .ok kind
      | none => .error (.wrongValue (.integer position) "variant index 0 <= i < 3")

def readScene (medium : Medium Source) (source : Source) : Except Fault Scene :=
  match readTagged medium "internally tagged enum StateDef" sceneKind source with
  | .error fault => .error fault
  | .ok (.sequence, content) => (readSequence Medium.heldBack content).map .sequence
  | .ok (.question, content) => (readQuestion Medium.heldBack content).map .question
  | .ok (.choice, content) => (readChoice Medium.heldBack content).map .choice

/-- Reads what a story begins with. -/
def readContext (medium : Medium Source) (source : Source) : Except Fault Table :=
  let fields : List (Field Source) := [.defaulted "vars" (readTable medium) Table.empty]
  (readRecord medium "struct StoryContext" fields source).map fun (store, ()) => store

def readStory (medium : Medium Source) (source : Source) : Except Fault Story :=
  let fields : List (Field Source) :=
    [.required "id" (readText medium),
      .required "version" (readText medium),
      .defaulted "context" (readContext medium) Table.empty,
      .required "start" (readText medium),
      .required "states" (readList medium (readScene medium))]
  (readRecord medium "struct Story" fields source).map
    fun (id, version, store, start, scenes, ()) => ⟨id, version, store, start, scenes⟩

end NarrativePlayer.Document
