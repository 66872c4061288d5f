import NarrativePlayer.Proofs.Player.ScreenPrompts
import NarrativePlayer.Proofs.Story.Answers

/-!
Contract: what a typed number chooses.

Options stand on the screen by number, and are taken by id. Owns which option a line takes that is typed
where a choice is waited for: the first listed one with the id of the one that stands under its number. So
the numbers do what they say exactly where no earlier option has the same id. What is written on the way to
the next prompt is not owned here.
-/

namespace NarrativePlayer

/-- An option stands at a place of a list, and none with its id before it. -/
structure Choice.IsFirst (choice : Choice) (first : Nat) (chosen : Offer) : Prop where
  listed : choice.offers[first]? = some chosen
  fresh : ∀ {earlier other}, earlier < first → choice.offers[earlier]? = some other → other.id ≠ chosen.id

/-- Behind the id of an option is the first one of that id. -/
theorem Choice.exists_isFirst {choice : Choice} {index : Nat} {offer : Offer}
    (listed : choice.offers[index]? = some offer) :
    ∃ first chosen, first ≤ index ∧ choice.IsFirst first chosen ∧ chosen.id = offer.id ∧
      choice.offer? offer.id = some chosen := by
  obtain ⟨within, here⟩ := List.getElem?_eq_some_iff.mp listed
  have found : (choice.offer? offer.id).isSome = true := by
    refine List.find?_isSome.mpr ⟨offer, List.mem_of_getElem? listed, ?_⟩
    exact decide_eq_true rfl
  obtain ⟨chosen, taken⟩ := Option.isSome_iff_exists.mp found
  obtain ⟨alike, first, before, same, fresh⟩ := List.find?_eq_some_iff_getElem.mp taken
  have sameId : chosen.id = offer.id := of_decide_eq_true alike
  refine ⟨first, chosen, ?_, ⟨?_, ?_⟩, sameId, taken⟩
  · by_contra later
    have other := fresh index (by omega)
    rw [here] at other
    simp at other
  · rw [List.getElem?_eq_getElem before, same]
  · intro earlier other sooner place
    obtain ⟨inside, atPlace⟩ := List.getElem?_eq_some_iff.mp place
    have apart := fresh earlier sooner
    rw [atPlace] at apart
    rw [sameId]
    simpa using apart

/-- Of two options with one id, at most one is the first of it. -/
theorem Choice.IsFirst.eq {choice : Choice} {first index : Nat} {chosen offer : Offer}
    (isFirst : choice.IsFirst first chosen) (isFirstToo : choice.IsFirst index offer)
    (sameId : chosen.id = offer.id) : chosen = offer := by
  rcases Nat.lt_trichotomy first index with before | rfl | behind
  · exact absurd sameId (isFirstToo.fresh before isFirst.listed)
  · exact Option.some.inj (isFirst.listed.symm.trans isFirstToo.listed)
  · exact absurd sameId.symm (isFirst.fresh behind isFirstToo.listed)

namespace Player

open Session

/-! ## Numbers -/

/-- Options stand below each other, each behind its number. -/
theorem numberedFrom_eq_join (number : Nat) (offers : List Offer) :
    numberedFrom number offers =
      String.join (offers.mapIdx fun index offer => s!"  {number + index}. {offer.label}\n") := by
  induction offers generalizing number with
  | nil => rfl
  | cons offer rest inductionHypothesis =>
      rw [numberedFrom, inductionHypothesis, List.mapIdx_cons]
      simp [Nat.add_assoc, Nat.add_comm 1]

/-- A number is read as it stands on the screen. -/
theorem number?_trim_toString {number : Nat} (bounded : number < Decimal.wordBound) :
    number? (Text.trim (toString number)) = some number := by
  have untrimmed : Text.trim (toString number) = toString number := by
    refine trim_of_unblank fun character member => ?_
    rw [toList_toString] at member
    exact (plain_of_isDigit (Json.isDigit_of_mem_toDigits member)).1
  rw [untrimmed]
  exact number?_eq_some_iff.mpr ⟨⟨[], 0, .inl rfl, rfl⟩, bounded⟩

/-! ## Options -/

/-- An option is taken, whatever was typed for it: its actions are applied and its target is entered. If that
is not declared, the play is over and nothing is done. -/
inductive Chooses (story : Story) (shown : Show) (chosen : Offer) : Turn × List Cue → Prop
  | leaves {scene : Scene} {again : Show} {cues : List Cue}
      (found : story.find? chosen.target = some scene)
      (left : again.session.account =
        { (shown.session.account.depart story [.clear] none chosen.actions chosen.target).1 with calls := [] })
      (here : again.session.position.current = some chosen.target) :
      Chooses story shown chosen (.waiting again, cues)
  | astray {cues : List Cue} (absent : story.find? chosen.target = none)
      (text : written .output cues = "") : Chooses story shown chosen (.closed 1, cues)

theorem chooses_of_offer {options : Options} {story : Story} {shown : Show} {choice : Choice}
    {chosen : Offer} {line offer : String} (quiet : shown.session.Quiet)
    (steady : shown.session.Steady (stagingFor options story).story)
    (mode : shown.session.position.mode = .waiting .choice) (untold : shown.session.trace = [])
    (awaited : shown.session.account.awaited? story .choice = some (.choice choice))
    (goesOn : Text.trim line ≠ quitWord)
    (picked : chosenOffer? story shown.session.position line = some offer)
    (taken : choice.offer? offer = some chosen) :
    Chooses story shown chosen (takeLine options (stagingFor options story) shown (some (.ok line))) := by
  have obeys : shown.session.account.obey story (.choose offer) =
      shown.session.account.depart story [.clear] none chosen.actions chosen.target := by
    simp only [Account.obey, awaited, taken]
  obtain ⟨same, replies⟩ := State.execute_of_obey quiet.toPrompt steady obeys
  rw [takeLine_of_offer options (stagingFor options story) mode goesOn picked]
  cases found : story.find? chosen.target with
  | none =>
      rw [Account.depart, found] at same replies
      rw [afterCommand_of_failed options _ replies]
      refine .astray found ?_
      rw [written_append, written_present, same, calls_of_untold untold, written_failureCues]
      rfl
  | some scene =>
      have unfailed := State.unfailed_of_depart quiet.toPrompt steady obeys found
      rw [afterCommand_of_unfailed options _ unfailed, present_fst]
      refine .leaves found ?_ ?_
      · rw [account_untold, same]
      · show (shown.session.execute (stagingFor options story) (.choose offer)).1.account.current = _
        rw [same, Account.depart_of_find? found]
        exact Account.current_arrive found

/-- Wherever a choice is waited for in a play, its options stand on the screen, numbered from one. The number
of an option takes the first one with its id. That is the option itself unless one before it has the same id.
At every other line the session stays as it is, and the reader is asked for a number. -/
theorem number_takes_first_of_id {options : Options} {story : Story} {lines : List ReadLine} {shown : Show}
    {left : List ReadLine} {cues : List Cue}
    (plays : Plays options story lines ⟨.reading shown, left⟩ cues)
    (offered : shown.session.position.mode = .waiting .choice) :
    ∃ id choice, shown.session.position.pending = some ⟨.choice, id⟩ ∧
      story.find? id = some (.choice choice) ∧
      (∃ before reminders,
        written .output cues = before ++ (Template.fill choice.prompt shown.session.position.store ++ "\n" ++
            String.join (choice.offers.mapIdx fun index offer => s!"  {1 + index}. {offer.label}\n") ++ "> ") ++
              String.join reminders ∧
          ∀ reminder ∈ reminders, Reminds (.waiting .choice) reminder) ∧
      ∀ line, Text.trim line ≠ quitWord →
        let taken := takeLine options (stagingFor options story) shown (some (.ok line))
        (∀ index offer, number? (Text.trim line) = some (index + 1) → choice.offers[index]? = some offer →
          ∃ first chosen, first ≤ index ∧ choice.IsFirst first chosen ∧ chosen.id = offer.id ∧
            Chooses story shown chosen taken ∧ (choice.IsFirst index offer → chosen = offer)) ∧
        ((∀ index, number? (Text.trim line) = some (index + 1) → choice.offers[index]? = none) →
          taken = (.waiting shown, [.plain .output "Enter a number from the list > "])) := by
  obtain ⟨-, quiet, steady, -, asks⟩ := plays.reading
  obtain ⟨id, scene, pending, current, found, ofKind⟩ := steady.exists_pending offered
  cases scene with
  | sequence body => cases ofKind
  | question body => cases ofKind
  | choice choice =>
      have awaited : shown.session.account.awaited? story .choice = some (.choice choice) :=
        Account.awaited?_eq_some_iff.mpr ⟨id, pending, found⟩
      obtain ⟨before, reminders, text, remind⟩ := asks.ends
      have mode : shown.session.account.mode = .waiting .choice := offered
      rw [Account.widget?_of_choice awaited] at text
      rw [mode] at remind
      refine ⟨id, choice, pending, found, ⟨before, reminders, ?_, remind⟩, fun line goesOn => ⟨?_, ?_⟩⟩
      · rw [← numberedFrom_eq_join]
        exact text
      · intro index offer typed listed
        obtain ⟨first, chosen, within, isFirst, alike, taken⟩ := Choice.exists_isFirst listed
        exact ⟨first, chosen, within, isFirst, alike,
          chooses_of_offer quiet steady offered asks.untold awaited goesOn
            (chosenOffer?_of_listed current found typed listed) taken,
          fun isFirstToo => isFirst.eq isFirstToo alike⟩
      · intro unlisted
        exact takeLine_of_unlisted options _ offered goesOn (chosenOffer?_of_unlisted current found unlisted)

end Player

/-- A story whose only choice has two options of one id. -/
def Story.twins : Story where
  id := "twins"
  version := "1"
  store := Table.empty
  start := "fork"
  scenes := [
    .choice
      ⟨"fork", "Which way?", [⟨"way", "Left", [], "left"⟩, ⟨"way", "Right", [], "right"⟩]⟩,
    .sequence ⟨"left", [⟨"You went left.", 0, false, none⟩], [], none, none, Table.empty, false⟩,
    .sequence ⟨"right", [⟨"You went right.", 0, false, none⟩], [], none, none, Table.empty, false⟩]

namespace Player

open Session

/-- The ways are on the screen. -/
def twinsOffered : Show :=
  ⟨((State.initial .empty).start ⟨.twins, .silent⟩).1.untold, true⟩

theorem plays_twins (lines : List ReadLine) :
    ∃ cues, Plays ⟨false, none⟩ .twins lines ⟨.reading twinsOffered, lines⟩ cues := by
  have opened : (openStory ⟨false, none⟩ .twins).1 = .waiting twinsOffered := by decide +kernel
  have settled : twinsOffered.session.settle ⟨.twins, .silent⟩ none 2 =
      some (twinsOffered.session, .settled) := by
    decide +kernel
  have reads : (afterSettling ⟨false, none⟩ twinsOffered.prompted twinsOffered.session .settled).1 =
      .reading twinsOffered := by
    decide +kernel
  exact Plays.of_opened opened settled reads

/-- The way to the left stands first, and is taken by its number. -/
theorem twins_first_taken :
    ∃ cues choice chosen, Plays ⟨false, none⟩ .twins [.ok "1"] ⟨.reading twinsOffered, [.ok "1"]⟩ cues ∧
      Story.twins.find? "fork" = some (.choice choice) ∧ choice.offers[0]? = some chosen ∧
        Chooses .twins twinsOffered chosen
          (takeLine ⟨false, none⟩ ⟨.twins, .silent⟩ twinsOffered (some (.ok "1"))) := by
  obtain ⟨cues, plays⟩ := plays_twins [.ok "1"]
  obtain ⟨id, choice, pending, found, -, lines⟩ := number_takes_first_of_id plays (by decide +kernel)
  have fork : twinsOffered.session.position.pending = some ⟨.choice, "fork"⟩ := by decide +kernel
  cases pending.symm.trans fork
  cases found
  have onScreen : toString 1 = "1" := rfl
  have typed : number? (Text.trim "1") = some 1 := by
    rw [← onScreen]
    exact number?_trim_toString (by decide)
  obtain ⟨first, chosen, within, isFirst, -, chooses, -⟩ := (lines "1" (by decide +kernel)).1 0 _ typed rfl
  obtain rfl : first = 0 := Nat.le_zero.mp within
  exact ⟨cues, _, chosen, plays, rfl, isFirst.listed, chooses⟩

/-- The way to the right stands second, and its number takes the reader to the left. -/
theorem twins_second_lost :
    ∃ cues choice chosen, Plays ⟨false, none⟩ .twins [.ok "2"] ⟨.reading twinsOffered, [.ok "2"]⟩ cues ∧
      twinsOffered.session.position.pending = some ⟨.choice, "fork"⟩ ∧
      Story.twins.find? "fork" = some (.choice choice) ∧ number? (Text.trim "2") = some 2 ∧
      choice.offers[1]? = some chosen ∧ chosen.target = "right" ∧
      ∃ again, (takeLine ⟨false, none⟩ ⟨.twins, .silent⟩ twinsOffered (some (.ok "2"))).1 = .waiting again ∧
        again.session.position.current = some "left" := by
  obtain ⟨cues, plays⟩ := plays_twins [.ok "2"]
  refine ⟨cues, _, _, plays, by decide +kernel, rfl, by decide +kernel, rfl, rfl,
    ⟨((twinsOffered.session.choose ⟨.twins, .silent⟩ "way").1.untold), false⟩, by decide +kernel, ?_⟩
  decide +kernel

end Player

end NarrativePlayer
