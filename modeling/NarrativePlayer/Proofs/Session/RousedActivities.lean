import NarrativePlayer.Proofs.Session.Activities
import NarrativePlayer.Proofs.Session.MirroredSteps

/-!
Contract: gates and waking up, for a session with a past and the one that it mirrors.

What rouses activities looks at each by itself, and puts those that it changes behind the queue in the
order of their tickets. So it rouses the newer activities of both sessions alike, whatever it does to
those of the past, and the moment at which the next of them wakes up is later by the past.
-/

namespace NarrativePlayer.Session

namespace State

variable {past : Past} {worn fresh : State}

/-! ## Gates and waking up -/

theorem Mirrors.mem_queue (mirrors : Mirrors past worn fresh) (ticket : Nat) :
    ticket + past.tickets ∈ worn.queue ↔ ticket ∈ fresh.queue := by
  have listed : ticket + past.tickets ∈ worn.queue.filter (past.tickets ≤ ·) ↔
      ticket + past.tickets ∈ fresh.queue.map (· + past.tickets) := by
    rw [mirrors.queue]
  simpa using listed

/-- The tickets of a list of activities that a change affects, counted from some ticket on. -/
def affectedFrom (start : Nat) (list : List Activity) (change : Activity → Option Activity) : List Nat :=
  (list.zipIdx start).filterMap fun (activity, ticket) =>
    if (change activity).isSome then some ticket else none

theorem affected_eq (state : State) (change : Activity → Option Activity) :
    state.affected change = affectedFrom 0 state.activities change := rfl

theorem affectedFrom_cons (start : Nat) (activity : Activity) (rest : List Activity)
    (change : Activity → Option Activity) :
    affectedFrom start (activity :: rest) change =
      (if (change activity).isSome then [start] else []) ++ affectedFrom (start + 1) rest change := by
  unfold affectedFrom
  rw [List.zipIdx_cons, List.filterMap_cons]
  cases changed : change activity with
  | none => simp [changed]
  | some after => simp [changed]

theorem affectedFrom_append (start : Nat) (first second : List Activity)
    (change : Activity → Option Activity) :
    affectedFrom start (first ++ second) change =
      affectedFrom start first change ++ affectedFrom (start + first.length) second change := by
  unfold affectedFrom
  rw [List.zipIdx_append, List.filterMap_append]

theorem mem_affectedFrom {start : Nat} {list : List Activity} {change : Activity → Option Activity}
    {ticket : Nat} (member : ticket ∈ affectedFrom start list change) :
    start ≤ ticket ∧ ticket < start + list.length := by
  induction list generalizing start with
  | nil => cases member
  | cons activity rest inductionHypothesis =>
      rw [affectedFrom_cons] at member
      rw [List.length_cons]
      rcases List.mem_append.mp member with first | later
      · split at first
        · have same := List.mem_singleton.mp first
          omega
        · cases first
      · have within := inductionHypothesis later
        omega

theorem length_affectedFrom (start : Nat) (list : List Activity)
    (change : Activity → Option Activity) :
    (affectedFrom start list change).length =
      list.countP fun activity => (change activity).isSome := by
  induction list generalizing start with
  | nil => rfl
  | cons activity rest inductionHypothesis =>
      rw [affectedFrom_cons, List.length_append, inductionHypothesis, List.countP_cons]
      split
      · rw [List.length_singleton, Nat.add_comm]
      · rw [List.length_nil, Nat.add_comm]

theorem affectedFrom_later {change newer : Activity → Option Activity} {list : List Activity}
    (alike : ∀ activity ∈ list, change (activity.later past) = (newer activity).map (·.later past))
    (start : Nat) :
    affectedFrom (start + past.tickets) (list.map (Activity.later past)) change =
      (affectedFrom start list newer).map (· + past.tickets) := by
  induction list generalizing start with
  | nil => rfl
  | cons activity rest inductionHypothesis =>
      have alikeRest := fun other member => alike other (List.mem_cons_of_mem activity member)
      rw [List.map_cons, affectedFrom_cons, affectedFrom_cons, alike activity (by simp),
        Option.isSome_map, List.map_append, ← inductionHypothesis alikeRest,
        Nat.add_right_comm start 1]
      split
      · rfl
      · rfl

theorem map_later_of_alike {change newer : Activity → Option Activity} {list : List Activity}
    (alike : ∀ activity ∈ list, change (activity.later past) = (newer activity).map (·.later past)) :
    (list.map (Activity.later past)).map (fun activity => (change activity).getD activity) =
      (list.map fun activity => (newer activity).getD activity).map (Activity.later past) := by
  rw [List.map_map, List.map_map]
  refine List.map_congr_left fun activity member => ?_
  show (change (activity.later past)).getD _ = ((newer activity).getD activity).later past
  rw [alike activity member]
  cases newer activity <;> rfl

/-- What rouses activities of the newer session in the same way, and leaves the past a past. -/
theorem Mirrors.rouse (mirrors : Mirrors past worn fresh) {change newer : Activity → Option Activity}
    (alike : ∀ activity ∈ fresh.activities,
      change (activity.later past) = (newer activity).map (·.later past))
    (keeps : ∀ activity after, activity.IsOf past → change activity = some after →
      after.IsOf past) :
    Mirrors past (worn.rouse change) (fresh.rouse newer) := by
  obtain ⟨stale, asMany, isOf, split⟩ := mirrors.activities
  refine { mirrors with
    activities := ⟨stale.map fun activity => (change activity).getD activity, ?_, ?_, ?_⟩
    queue := ?_ }
  · rw [List.length_map, asMany]
  · intro activity member
    obtain ⟨before, within, rfl⟩ := List.mem_map.mp member
    cases changed : change before with
    | none => exact isOf before within
    | some after => exact keeps before after (isOf before within) changed
  · simp only [State.rouse, split, List.map_append]
    rw [map_later_of_alike alike]
  · have staleOut : ((affectedFrom 0 stale change).filter fun ticket =>
        !worn.queue.contains ticket).filter (past.tickets ≤ ·) = [] := by
      refine List.filter_eq_nil_iff.mpr fun ticket member => ?_
      have within := (mem_affectedFrom (List.mem_filter.mp member).1).2
      simp only [decide_eq_true_eq]
      omega
    have unlisted : ∀ ticket,
        (decide (past.tickets ≤ ticket + past.tickets) &&
          !worn.queue.contains (ticket + past.tickets)) = !fresh.queue.contains ticket := by
      intro ticket
      have listed := mirrors.mem_queue ticket
      by_cases here : ticket ∈ fresh.queue
      · simp [here, listed]
      · simp [here, listed]
    simp only [State.rouse, affected_eq, split, List.filter_append, mirrors.queue, List.map_append,
      affectedFrom_append, staleOut, List.nil_append]
    rw [asMany, affectedFrom_later alike, List.filter_filter, List.filter_map]
    congr 2
    exact List.filter_congr fun ticket _ => unlisted ticket

theorem rouse_of_unaffected (state : State) {change : Activity → Option Activity}
    (unaffected : ∀ activity ∈ state.activities, change activity = none) : state.rouse change = state := by
  have noTickets : ∀ (list : List Activity) (start : Nat),
      (∀ activity ∈ list, change activity = none) → affectedFrom start list change = [] := by
    intro list
    induction list with
    | nil => exact fun _ _ => rfl
    | cons activity rest inductionHypothesis =>
        intro start unaffected
        rw [affectedFrom_cons, unaffected activity List.mem_cons_self,
          inductionHypothesis _ fun other member => unaffected other (List.mem_cons_of_mem activity member)]
        rfl
  have unchanged : state.activities.map (fun activity => (change activity).getD activity) =
      state.activities := by
    rw [List.map_congr_left fun activity member => by rw [unaffected activity member, Option.getD_none],
      List.map_id']
  rw [State.rouse, affected_eq, noTickets state.activities 0 unaffected, unchanged, List.filter_nil,
    List.append_nil]

theorem released?_later (gate : Gate) (activity : Activity) :
    released? gate (activity.later past) = (released? gate activity).map (·.later past) := by
  cases activity with
  | call released finished =>
      cases released with
      | true => rfl
      | false => cases gate <;> rfl
  | performance sequence generation stage =>
      cases stage with
      | printing index released =>
          cases released with
          | true => rfl
          | false => cases gate <;> rfl
      | presenting released =>
          cases released with
          | true => rfl
          | false => cases gate <;> rfl
      | _ => rfl

theorem isOf_of_released? {gate : Gate} {activity after : Activity} (isOf : activity.IsOf past)
    (released : released? gate activity = some after) : after.IsOf past := by
  cases after with
  | call => trivial
  | performance sequence generation stage =>
      rcases before_of_released? released with ⟨index, rfl, -⟩ | ⟨rfl, -⟩
      · exact isOf
      · exact isOf

theorem Mirrors.release (mirrors : Mirrors past worn fresh) (gate : Gate) :
    Mirrors past (worn.release gate) (fresh.release gate) :=
  mirrors.rouse (fun activity _ => released?_later gate activity)
    fun _ _ isOf released => isOf_of_released? isOf released

theorem Mirrors.setGate (mirrors : Mirrors past worn fresh) (gate : Gate) (opened : Bool) :
    Mirrors past (worn.setGate gate opened) (fresh.setGate gate opened) := by
  cases gate with
  | print => exact { mirrors with printOpen := rfl }
  | display => exact { mirrors with displayOpen := rfl }

theorem Mirrors.openGate (mirrors : Mirrors past worn fresh) (gate : Gate) :
    Mirrors past (worn.openGate gate) (fresh.openGate gate) :=
  (mirrors.setGate gate true).release gate

theorem awakened?_later (moment : Nat) (activity : Activity) :
    awakened? (moment + past.clock) (activity.later past) =
      (awakened? moment activity).map (·.later past) := by
  cases activity with
  | call => rfl
  | performance sequence generation stage =>
      cases stage with
      | resting index due =>
          simp only [awakened?, Activity.later, Stage.later, Nat.add_le_add_iff_right]
          split
          · rfl
          · rfl
      | _ => rfl

theorem isOf_of_awakened? {moment : Nat} {activity after : Activity} (isOf : activity.IsOf past)
    (awakened : awakened? moment activity = some after) : after.IsOf past := by
  cases after with
  | call => trivial
  | performance sequence generation stage =>
      obtain ⟨index, due, rfl, -⟩ := before_of_awakened? awakened
      exact isOf

theorem Mirrors.moveTo (mirrors : Mirrors past worn fresh) (moment : Nat) :
    Mirrors past (worn.moveTo (moment + past.clock)) (fresh.moveTo moment) := by
  have moved : Mirrors past { worn with clock := moment + past.clock } { fresh with clock := moment } :=
    { mirrors with clock := rfl }
  exact moved.rouse (fun activity _ => awakened?_later moment activity)
    fun _ _ isOf awakened => isOf_of_awakened? isOf awakened

/-! ## When the next activity wakes up -/

theorem wakingTime?_later (activity : Activity) :
    wakingTime? (activity.later past) = (wakingTime? activity).map (· + past.clock) := by
  cases activity with
  | call => rfl
  | performance sequence generation stage => cases stage <;> rfl

theorem nextWaking?_eq_none {state : State} (nothing : state.nextWaking? = none) {activity : Activity}
    (member : activity ∈ state.activities) : wakingTime? activity = none := by
  have noTimes := List.min?_eq_none_iff.mp nothing
  exact List.filterMap_eq_nil_iff.mp noTimes activity member

theorem nextWaking?_eq_some {state : State} {due : Nat} (next : state.nextWaking? = some due) :
    (∃ activity ∈ state.activities, wakingTime? activity = some due) ∧
      ∀ activity ∈ state.activities, ∀ other, wakingTime? activity = some other → due ≤ other := by
  obtain ⟨member, least⟩ := List.min?_eq_some_iff.mp next
  refine ⟨List.mem_filterMap.mp member, fun activity within other wakes => ?_⟩
  exact least other (List.mem_filterMap.mpr ⟨activity, within, wakes⟩)

/-- An activity that wakes up later is not awakened. -/
theorem awakened?_eq_none {moment : Nat} {activity : Activity}
    (later : ∀ due, wakingTime? activity = some due → moment < due) :
    awakened? moment activity = none := by
  cases activity with
  | call => rfl
  | performance sequence generation stage =>
      cases stage with
      | resting index due =>
          have asleep := later due rfl
          simp only [awakened?, if_neg (Nat.not_le_of_lt asleep)]
      | _ => rfl

theorem isSome_awakened? {moment : Nat} {activity : Activity}
    (wakes : wakingTime? activity = some moment) : (awakened? moment activity).isSome = true := by
  cases activity with
  | call => cases wakes
  | performance sequence generation stage =>
      cases stage with
      | resting index due =>
          cases wakes
          simp [awakened?]
      | _ => cases wakes

end State

end NarrativePlayer.Session
