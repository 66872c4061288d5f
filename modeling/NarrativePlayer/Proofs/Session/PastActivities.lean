import NarrativePlayer.Proofs.Session.RousedActivities

/-!
Contract: what the schedule does to a session with a past, and to the one that it mirrors.

The activities of a past take turns with the newer ones and wake up at moments of their own. Each such
turn leaves what is mirrored alone and takes the past nearer to its end, so after finitely many of them
both sessions do the same again. While the past wakes up between two moments of the newer session, the
clocks are apart; nothing newer goes on then.
-/

namespace NarrativePlayer.Session

/-! ## How much is left of a past -/

/-- How often a sequence that was superseded still goes on or wakes up, at most. -/
def Stage.effort : Stage → Nat
  | .ready _ => 1
  | .printing _ _ => 2
  | .resting _ _ => 3
  | .presenting _ => 1
  | .finished _ => 0

def Activity.effort : Activity → Nat
  | .performance _ _ stage => stage.effort
  | .call _ finished => if finished then 0 else 1

def effortOf : List Activity → Nat
  | [] => 0
  | activity :: rest => activity.effort + effortOf rest

theorem effortOf_set_lt {list : List Activity} {ticket : Nat} {before after : Activity}
    (here : list[ticket]? = some before) (less : after.effort < before.effort) :
    effortOf (list.set ticket after) < effortOf list := by
  induction list generalizing ticket with
  | nil => cases here
  | cons first rest inductionHypothesis =>
      cases ticket with
      | zero =>
          cases here
          simp only [effortOf, List.set_cons_zero]
          omega
      | succ ticket =>
          have fewer := inductionHypothesis (List.getElem?_cons_succ ▸ here)
          simp only [effortOf, List.set_cons_succ]
          omega

/-- To wake up takes more effort off than it takes to go on once. -/
theorem effortOf_awakened (moment : Nat) (list : List Activity) :
    effortOf (list.map fun activity => (State.awakened? moment activity).getD activity) +
        2 * (list.countP fun activity => (State.awakened? moment activity).isSome) =
      effortOf list := by
  induction list with
  | nil => rfl
  | cons first rest inductionHypothesis =>
      have firstOne : ((State.awakened? moment first).getD first).effort +
          2 * (if (State.awakened? moment first).isSome then 1 else 0) = first.effort := by
        unfold State.awakened?
        split
        · split
          · rfl
          · rfl
        · rfl
      simp only [effortOf, List.map_cons, List.countP_cons]
      omega

namespace State

variable {past : Past} {worn fresh : State}

/-- What is left of a past: the turns of its activities, and their places in the queue. -/
def rank (past : Past) (worn : State) : Nat :=
  effortOf (worn.activities.take past.tickets) + worn.queue.countP (· < past.tickets)

/-! ## A turn of the past -/

/-- An activity of the past that goes on is not heard and leaves the rest alone. -/
structure Fades (past : Past) (worn next : State) (ticket : Nat) (before after : Activity)
    (notes : List Event) : Prop where
  next_eq : next =
    { worn with
      activities := worn.activities.set ticket after
      trace := notes ++ worn.trace }
  unheard : notes.filter (Event.isHeard past.tickets) = []
  isOf : after.IsOf past
  less : after.effort < before.effort

/-- A sequence that was superseded gives up wherever it can go on. -/
theorem perform_stale (past : Past) {state : State} (staging : Staging) (sequence : Sequence) {generation : Nat}
    {stage : Stage} (stale : state.position.isCurrent generation = false)
    (canGoOn : (Activity.performance sequence generation stage).canGoOn = true) :
    ∃ notes reached, notes.filter (Event.isHeard past.tickets) = [] ∧
      state.perform staging sequence generation stage =
        ({ state with trace := notes ++ state.trace }, reached) ∧
      reached.effort < stage.effort := by
  have silent := filter_isHeard_journaled past.tickets staging
  cases stage with
  | ready index =>
      simp only [perform]
      split
      · simp only [beginLine, abandon, note_eq, stale, Bool.not_false, if_true, ← List.append_assoc]
        refine ⟨_, _, ?_, rfl, Nat.lt_succ_self 0⟩
        rw [List.filter_append, silent, silent]
        rfl
      · simp only [conclude, abandon, note_eq, stale, Bool.not_false, if_true]
        exact ⟨_, _, silent _ _ _, rfl, Nat.lt_succ_self 0⟩
  | printing index released =>
      cases canGoOn
      simp only [perform]
      split
      · simp only [endLine, abandon, note_eq, stale, Bool.not_false, if_true]
        exact ⟨_, _, silent _ _ _, rfl, Nat.zero_lt_two⟩
      · exact ⟨[], _, rfl, rfl, Nat.lt_succ_self 1⟩
  | resting index due => cases canGoOn
  | presenting released =>
      cases canGoOn
      exact ⟨[], _, rfl, rfl, Nat.lt_succ_self 0⟩
  | finished outcome => cases canGoOn

theorem goOn_stale (staging : Staging) {ticket : Nat} (old : ticket < past.tickets)
    {activity : Activity} (here : worn.activities[ticket]? = some activity)
    (isOf : activity.IsOf past) (superseded : past.generation < worn.position.generation)
    (canGoOn : activity.canGoOn = true) :
    ∃ after notes, Fades past worn (worn.goOn staging ticket) ticket activity after notes := by
  unfold goOn
  rw [here]
  cases activity with
  | performance sequence generation stage =>
      have stale : worn.position.isCurrent generation = false := by
        have notAhead : generation ≤ past.generation := isOf
        simp only [Position.isCurrent, decide_eq_false_iff_not]
        omega
      obtain ⟨notes, reached, unheard, performed, less⟩ :=
        perform_stale past staging sequence stale canGoOn
      simp only [performed]
      exact ⟨.performance sequence generation reached, notes, rfl, unheard, isOf, less⟩
  | call released finished =>
      have open_ : released = true ∧ finished = false := by simpa [Activity.canGoOn] using canGoOn
      obtain ⟨rfl, rfl⟩ := open_
      refine ⟨.call true true, [.done ticket], rfl, ?_, trivial, Nat.lt_succ_self 0⟩
      simp [Event.isHeard, old]

theorem Fades.mirrors {next : State} {ticket : Nat} {before after : Activity} {notes : List Event}
    (fades : Fades past worn next ticket before after notes) (old : ticket < past.tickets)
    {clock : Nat} (mirrors : Mirrors past { worn with clock := clock } fresh) :
    Mirrors past { next with clock := clock } fresh := by
  rw [fades.next_eq]
  exact mirrors.replaceStale old fades.isOf fades.unheard

theorem Fades.rank_lt {next : State} {ticket : Nat} {before after : Activity} {notes : List Event}
    (fades : Fades past worn next ticket before after notes) (old : ticket < past.tickets)
    (here : worn.activities[ticket]? = some before) : rank past next < rank past worn := by
  have within : (worn.activities.take past.tickets)[ticket]? = some before := by
    rw [List.getElem?_take_of_lt old, here]
  have less := effortOf_set_lt within fades.less
  rw [fades.next_eq]
  simp only [rank, List.take_set]
  omega

/-- A turn of the past at the head of the queue is not mirrored, and there are fewer left. -/
theorem Mirrors.pump_stale {clock : Nat} (mirrors : Mirrors past { worn with clock := clock } fresh)
    (begun : 0 < fresh.position.generation) (staging : Staging) {ticket : Nat} {rest : List Nat}
    (first : worn.queue = ticket :: rest) (old : ticket < past.tickets) :
    Mirrors past { worn.pump staging with clock := clock } fresh ∧
      (worn.pump staging).clock = worn.clock ∧ rank past (worn.pump staging) < rank past worn := by
  obtain ⟨stale, asMany, isOf, split⟩ := mirrors.activities
  have inside : ticket < stale.length := asMany ▸ old
  have here : worn.activities[ticket]? = some stale[ticket] := by
    change worn.activities = _ at split
    rw [split, List.getElem?_append_left inside, List.getElem?_eq_getElem inside]
  have pumped : worn.pump staging =
      if stale[ticket].canGoOn then worn.goOn staging ticket else { worn with queue := rest } := by
    simp only [pump, first, here]
  by_cases canGoOn : stale[ticket].canGoOn = true
  · have superseded : past.generation < worn.position.generation := by
      have position := congrArg Position.generation mirrors.position
      simp only [Position.later] at position
      omega
    obtain ⟨after, notes, fades⟩ := goOn_stale staging old here (isOf _ (List.getElem_mem inside))
      superseded canGoOn
    rw [pumped, if_pos canGoOn]
    exact ⟨fades.mirrors old mirrors, by rw [fades.next_eq], fades.rank_lt old here⟩
  · rw [pumped, if_neg canGoOn]
    refine ⟨?_, rfl, ?_⟩
    · have listed := mirrors.queue
      simp only [first, List.filter_cons] at listed
      have without : rest.filter (past.tickets ≤ ·) = fresh.queue.map (· + past.tickets) := by
        simpa [Nat.not_le_of_lt old] using listed
      exact mirrors.rearrange without
    · simp only [rank, first, List.countP_cons]
      simp [old]

/-- A turn of the newer session is mirrored. -/
theorem Mirrors.pump (mirrors : Mirrors past worn fresh) (staging : Staging) {ticket : Nat}
    {rest : List Nat} (first : worn.queue = ticket :: rest) (new : past.tickets ≤ ticket) :
    fresh.queue ≠ [] ∧ Mirrors past (worn.pump staging) (fresh.pump staging) := by
  have listed := mirrors.queue
  rw [first, List.filter_cons_of_pos (by simpa using new)] at listed
  cases here : fresh.queue with
  | nil => simp [here] at listed
  | cons head others =>
      rw [here, List.map_cons] at listed
      obtain ⟨rfl, restListed⟩ := List.cons.inj listed
      refine ⟨List.cons_ne_nil _ _, ?_⟩
      have without := mirrors.rearrange restListed
      unfold State.pump
      rw [first, here]
      dsimp only
      rw [mirrors.getElem?_activities]
      cases fresh.activities[head]? with
      | none => exact without
      | some activity =>
          simp only [Option.map_some, Activity.canGoOn_later]
          split
          · exact mirrors.goOn staging head
          · exact without

/-- Nothing newer is awakened before the moment at which the first of it wakes up. -/
theorem awakened?_later_eq_none {due : Nat}
    (later : ∀ other, fresh.nextWaking? = some other → due < other + past.clock)
    {activity : Activity} (member : activity ∈ fresh.activities) :
    awakened? due (activity.later past) = none := by
  refine awakened?_eq_none fun other wakes => ?_
  rw [wakingTime?_later] at wakes
  obtain ⟨moment, wakesFresh, rfl⟩ := Option.map_eq_some_iff.mp wakes
  cases least : fresh.nextWaking? with
  | none =>
      rw [nextWaking?_eq_none least member] at wakesFresh
      cases wakesFresh
  | some earliest =>
      have notBefore := (nextWaking?_eq_some least).2 activity member moment wakesFresh
      have after := later earliest least
      omega

/-- A ticket of the past comes into an idle queue only with an activity that is awakened. -/
theorem countP_queue_moveTo_le {stale newer : List Activity}
    (split : worn.activities = stale ++ newer) (asMany : stale.length = past.tickets)
    (idle : worn.queue = []) (due : Nat) :
    (worn.moveTo due).queue.countP (· < past.tickets) ≤
      stale.countP fun activity => (awakened? due activity).isSome := by
  have behind : ((affectedFrom (0 + stale.length) newer (awakened? due)).filter fun ticket =>
      !worn.queue.contains ticket).countP (· < past.tickets) = 0 := by
    refine List.countP_eq_zero.mpr fun ticket listed => ?_
    have notBefore := (mem_affectedFrom (List.mem_filter.mp listed).1).1
    simp only [decide_eq_true_eq]
    omega
  simp only [State.moveTo, State.rouse, affected_eq, split, affectedFrom_append, idle,
    List.nil_append, List.filter_append, List.countP_append]
  rw [idle] at behind
  rw [behind, ← length_affectedFrom 0]
  exact Nat.le_trans List.countP_le_length (List.length_filter_le _ _)

theorem take_activities_moveTo {stale newer : List Activity}
    (split : worn.activities = stale ++ newer) (due : Nat) :
    (worn.moveTo due).activities.take stale.length =
      stale.map fun activity => (awakened? due activity).getD activity := by
  simp only [State.moveTo, State.rouse, split, List.map_append]
  rw [← List.length_map (f := fun activity => (awakened? due activity).getD activity),
    List.take_left]

/-- An awakening of the past alone is not mirrored, and there is less left of it. -/
theorem Mirrors.moveTo_stale {clock : Nat} (mirrors : Mirrors past { worn with clock := clock } fresh)
    (idle : worn.queue = []) {due : Nat} (next : worn.nextWaking? = some due)
    (later : ∀ other, fresh.nextWaking? = some other → due < other + past.clock) :
    Mirrors past { worn.moveTo due with clock := clock } fresh ∧
      rank past (worn.moveTo due) < rank past worn := by
  constructor
  · have roused : Mirrors past ({ worn with clock := clock }.rouse (awakened? due))
        (fresh.rouse fun _ => none) :=
      mirrors.rouse (fun _ member => awakened?_later_eq_none later member)
        fun _ _ isOf awakened => isOf_of_awakened? isOf awakened
    rw [rouse_of_unaffected fresh fun _ _ => rfl] at roused
    exact roused
  · obtain ⟨stale, asMany, isOf, split⟩ := mirrors.activities
    change worn.activities = _ at split
    obtain ⟨⟨activity, member, wakes⟩, -⟩ := nextWaking?_eq_some next
    have awakes := isSome_awakened? wakes
    -- The one that wakes up is of the past, and takes more effort off than its place in the queue adds.
    have oneAwakens : 0 < stale.countP fun activity => (awakened? due activity).isSome := by
      refine List.countP_pos_iff.mpr ⟨activity, ?_, awakes⟩
      rw [split] at member
      rcases List.mem_append.mp member with ofPast | newer
      · exact ofPast
      · obtain ⟨other, within, rfl⟩ := List.mem_map.mp newer
        rw [awakened?_later_eq_none later within] at awakes
        cases awakes
    have effort := effortOf_awakened due stale
    have places := countP_queue_moveTo_le split asMany idle due
    have ofPast := take_activities_moveTo split due
    have before : worn.activities.take past.tickets = stale := by
      rw [split, ← asMany, List.take_left]
    rw [asMany] at ofPast
    simp only [rank, ofPast, before, idle, List.countP_nil]
    omega

/-! ## One thing after the other -/

/-- What a session does next by itself: the activity at the head of the queue goes on, or else time moves
on to where the next one wakes up, if that is not after the horizon. Without one time stands still. -/
def proceed? (staging : Staging) (horizon : Option Nat) (state : State) : Option State :=
  if state.queue.isEmpty then
    state.nextWaking?.bind fun due =>
      if horizon.any (due ≤ ·) then some (state.moveTo due) else none
  else some (state.pump staging)

/-- The clock once nothing happens any more up to the horizon. -/
def arrive (horizon : Option Nat) (state : State) : State :=
  { state with clock := horizon.getD state.clock }

theorem proceed?_of_cons {staging : Staging} {horizon : Option Nat} {state : State} {ticket : Nat}
    {rest : List Nat} (first : state.queue = ticket :: rest) :
    proceed? staging horizon state = some (state.pump staging) := by
  rw [proceed?, first]
  rfl

theorem proceed?_of_busy {staging : Staging} {horizon : Option Nat} {state : State}
    (busy : (!state.queue.isEmpty) = true) :
    proceed? staging horizon state = some (state.pump staging) := by
  rw [proceed?, if_neg (by simpa using busy)]

theorem proceed?_of_waking {staging : Staging} {horizon : Option Nat} {state : State} {due : Nat}
    (idle : state.queue = []) (next : state.nextWaking? = some due)
    (early : horizon.any (due ≤ ·) = true) :
    proceed? staging horizon state = some (state.moveTo due) := by
  simp only [proceed?, idle, List.isEmpty_nil, if_true, next, Option.bind_some, early]

theorem proceed?_eq_none {staging : Staging} {horizon : Option Nat} {state : State}
    (idle : state.queue = [])
    (late : ∀ due, state.nextWaking? = some due → horizon.any (due ≤ ·) = false) :
    proceed? staging horizon state = none := by
  simp only [proceed?, idle, List.isEmpty_nil, if_true]
  cases next : state.nextWaking? with
  | none => rfl
  | some due => simp [late due next]

theorem of_proceed?_eq_none {staging : Staging} {horizon : Option Nat} {state : State}
    (rests : proceed? staging horizon state = none) :
    state.queue = [] ∧
      ∀ due, state.nextWaking? = some due → horizon.any (due ≤ ·) = false := by
  cases first : state.queue with
  | nil =>
      refine ⟨rfl, fun due next => Bool.eq_false_iff.mpr fun early => ?_⟩
      rw [proceed?_of_waking first next early] at rests
      cases rests
  | cons ticket rest =>
      rw [proceed?_of_cons first] at rests
      cases rests

theorem of_proceed?_eq_some {staging : Staging} {horizon : Option Nat} {state next : State}
    (proceeds : proceed? staging horizon state = some next) :
    (state.queue ≠ [] ∧ next = state.pump staging) ∨
      (state.queue = [] ∧ ∃ due, state.nextWaking? = some due ∧
        horizon.any (due ≤ ·) = true ∧ next = state.moveTo due) := by
  cases first : state.queue with
  | nil =>
      simp only [proceed?, first, List.isEmpty_nil, if_true] at proceeds
      obtain ⟨due, waking, moved⟩ := Option.bind_eq_some_iff.mp proceeds
      split at moved
      · rename_i early
        cases moved
        exact .inr ⟨rfl, due, waking, early, rfl⟩
      · cases moved
  | cons ticket rest =>
      rw [proceed?_of_cons first] at proceeds
      cases proceeds
      exact .inl ⟨List.cons_ne_nil ticket rest, rfl⟩

/-- A session mirrors another but for its clock, which may have gone ahead while nothing newer goes on. -/
structure Trails (past : Past) (horizon : Option Nat) (worn fresh : State) : Prop where
  mirrors : ∃ clock, Mirrors past { worn with clock := clock } fresh
  begun : 0 < fresh.position.generation
  inTime : worn.clock = fresh.clock + past.clock ∨ fresh.queue = [] ∧ horizon.isSome = true

theorem Trails.of_mirrors {horizon : Option Nat} (mirrors : Mirrors past worn fresh)
    (begun : 0 < fresh.position.generation) : Trails past horizon worn fresh :=
  ⟨⟨worn.clock, mirrors⟩, begun, .inl mirrors.clock⟩

/-- How the next thing that a session with a past does goes with what the other does. -/
inductive Keeps (staging : Staging) (past : Past) (horizon : Option Nat) (worn fresh : State) : Prop
  /-- It is of the past. -/
  | stale {next : State}
      (proceeds : proceed? staging (horizon.map (· + past.clock)) worn = some next)
      (trails : Trails past horizon next fresh) (less : rank past next < rank past worn)
  /-- Both do the same. -/
  | both {next other : State}
      (proceeds : proceed? staging (horizon.map (· + past.clock)) worn = some next)
      (mirrored : proceed? staging horizon fresh = some other)
      (trails : Trails past horizon next other)
  /-- Both have nothing left to do. -/
  | ended (rests : proceed? staging (horizon.map (· + past.clock)) worn = none)
      (mirrored : proceed? staging horizon fresh = none)
      (mirrors : Mirrors past (arrive (horizon.map (· + past.clock)) worn) (arrive horizon fresh))

theorem Trails.aligned {horizon : Option Nat} (trails : Trails past horizon worn fresh)
    (busy : fresh.queue ≠ []) : Mirrors past worn fresh := by
  obtain ⟨clock, mirrors⟩ := trails.mirrors
  rcases trails.inTime with same | ⟨idle, -⟩
  · exact { mirrors with clock := same }
  · exact absurd idle busy

theorem generation_pump_le (state : State) (staging : Staging) :
    state.position.generation ≤ (state.pump staging).position.generation := by
  obtain ⟨happenings, reached⟩ := state.reaches_pump staging
  rw [reached]
  exact generation_le_course staging happenings state

theorem Trails.busy {horizon : Option Nat} (trails : Trails past horizon worn fresh)
    (staging : Staging) {ticket : Nat} {rest : List Nat} (first : worn.queue = ticket :: rest) :
    Keeps staging past horizon worn fresh := by
  obtain ⟨clock, mirrors⟩ := trails.mirrors
  by_cases old : ticket < past.tickets
  · obtain ⟨still, sameClock, less⟩ := mirrors.pump_stale trails.begun staging first old
    refine .stale (proceed?_of_cons first) ⟨⟨clock, still⟩, trails.begun, ?_⟩ less
    rw [sameClock]
    exact trails.inTime
  · have new := Nat.le_of_not_lt old
    obtain ⟨busy, -⟩ := mirrors.pump staging first new
    obtain ⟨-, pumped⟩ := (trails.aligned busy).pump staging first new
    obtain ⟨head, others, here⟩ := List.exists_cons_of_ne_nil busy
    exact .both (proceed?_of_cons first) (proceed?_of_cons here)
      (.of_mirrors pumped (Nat.lt_of_lt_of_le trails.begun (fresh.generation_pump_le staging)))

/-- Nothing newer wakes up before whatever wakes up next. -/
theorem Mirrors.nextWaking?_le {clock : Nat} (mirrors : Mirrors past { worn with clock := clock } fresh)
    {moment : Nat} (next : fresh.nextWaking? = some moment) :
    ∃ due, worn.nextWaking? = some due ∧ due ≤ moment + past.clock := by
  obtain ⟨stale, -, -, split⟩ := mirrors.activities
  change worn.activities = _ at split
  obtain ⟨⟨activity, member, wakes⟩, -⟩ := nextWaking?_eq_some next
  have within : activity.later past ∈ worn.activities := by
    rw [split]
    exact List.mem_append_right stale (List.mem_map_of_mem member)
  have wakesLater : wakingTime? (activity.later past) = some (moment + past.clock) := by
    rw [wakingTime?_later, wakes]
    rfl
  cases earliest : worn.nextWaking? with
  | none =>
      rw [nextWaking?_eq_none earliest within] at wakesLater
      cases wakesLater
  | some due => exact ⟨due, rfl, (nextWaking?_eq_some earliest).2 _ within _ wakesLater⟩

theorem Trails.arrive {horizon : Option Nat} (trails : Trails past horizon worn fresh) :
    Mirrors past (State.arrive (horizon.map (· + past.clock)) worn) (State.arrive horizon fresh) := by
  obtain ⟨clock, mirrors⟩ := trails.mirrors
  cases horizon with
  | some moment => exact { mirrors with clock := rfl }
  | none =>
      rcases trails.inTime with same | ⟨-, impossible⟩
      · exact { mirrors with clock := same }
      · cases impossible

theorem any_later (horizon : Option Nat) (moment clock : Nat) :
    (horizon.map (· + clock)).any (moment + clock ≤ ·) = horizon.any (moment ≤ ·) := by
  cases horizon with
  | none => rfl
  | some latest => simp

/-- What is not after something within a horizon lies within it too. -/
theorem any_of_le {horizon : Option Nat} {due later : Nat} (notAfter : due ≤ later)
    (early : horizon.any (later ≤ ·) = true) : horizon.any (due ≤ ·) = true := by
  cases horizon with
  | none => cases early
  | some latest =>
      simp only [Option.any_some, decide_eq_true_eq] at early ⊢
      omega

theorem Trails.idle {horizon : Option Nat} (trails : Trails past horizon worn fresh)
    (staging : Staging) (idle : worn.queue = []) : Keeps staging past horizon worn fresh := by
  obtain ⟨clock, mirrors⟩ := trails.mirrors
  have idleToo : fresh.queue = [] := by
    have listed := mirrors.queue
    simpa [idle] using listed.symm
  by_cases early : ∃ due, worn.nextWaking? = some due ∧
      (horizon.map (· + past.clock)).any (due ≤ ·) = true
  · obtain ⟨due, next, soon⟩ := early
    by_cases own : ∃ moment, fresh.nextWaking? = some moment ∧ due = moment + past.clock
    · obtain ⟨moment, nextOwn, rfl⟩ := own
      rw [any_later] at soon
      refine .both (proceed?_of_waking idle next ?_) (proceed?_of_waking idleToo nextOwn soon) ?_
      · rw [any_later, soon]
      · exact .of_mirrors (mirrors.moveTo moment) trails.begun
    · have later : ∀ other, fresh.nextWaking? = some other → due < other + past.clock := by
        intro other nextOwn
        obtain ⟨least, same, notAfter⟩ := mirrors.nextWaking?_le nextOwn
        cases next.symm.trans same
        exact Nat.lt_of_le_of_ne notAfter fun equal => own ⟨other, nextOwn, equal⟩
      obtain ⟨still, less⟩ := mirrors.moveTo_stale idle next later
      refine .stale (proceed?_of_waking idle next soon) ⟨⟨clock, still⟩, trails.begun, .inr ?_⟩ less
      refine ⟨idleToo, ?_⟩
      cases horizon with
      | none => cases soon
      | some latest => rfl
  · have late : ∀ due, worn.nextWaking? = some due →
        (horizon.map (· + past.clock)).any (due ≤ ·) = false :=
      fun due next => Bool.eq_false_iff.mpr fun soon => early ⟨due, next, soon⟩
    refine .ended (proceed?_eq_none idle late) (proceed?_eq_none idleToo ?_) trails.arrive
    intro moment next
    obtain ⟨due, nextOfAll, notAfter⟩ := mirrors.nextWaking?_le next
    refine Bool.eq_false_iff.mpr fun soon => early ⟨due, nextOfAll, any_of_le notAfter ?_⟩
    rw [any_later, soon]

theorem Trails.keeps {horizon : Option Nat} (trails : Trails past horizon worn fresh)
    (staging : Staging) : Keeps staging past horizon worn fresh := by
  cases first : worn.queue with
  | nil => exact trails.idle staging first
  | cons ticket rest => exact trails.busy staging first

end State

end NarrativePlayer.Session
