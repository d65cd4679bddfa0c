/-
The meter hears of every request exactly once, in the step that finishes it.

The stopwatch of a request is out of the client's sight, so what it should do is said in
terms of what the client does and hears.  A request is unfinished from its call on, until
its name is called anew or dropped, or a poll is answered with a failure, a broken body or
the end of the body; polls after that are answered, but they finish nothing.  `unfinished`
keeps the names of such requests, and looks at no stopwatch.

`Agrees` is the invariant: the running stopwatches are those of the unfinished requests.
Each step keeps it and stops a stopwatch exactly if it finishes a request.  Calls open an
unfinished request each and finishing steps close one each, which is the count.
-/
import RequestMeter.Exchange.Traffic
import Mathlib.Data.Finset.Card

namespace RequestMeter

/-- Does an action start a request? -/
def TrafficAction.isCall : TrafficAction → Bool
  | call .. => true
  | _ => false

/-- Does the client hear that a request is over? -/
def TrafficAnswer.isOver : TrafficAnswer → Bool
  | progress (.failed _) => true
  | progress (.broken _) => true
  | progress .ended => true
  | _ => false

private theorem TrafficAnswer.isOver_progress (p : Progress) : (progress p).isOver = p.isFinal := by
  cases p <;> rfl

/-- An action and what the client hears of it. -/
structure TrafficStep where
  action : TrafficAction
  /-- What the stopwatch shows, if one stops. -/
  elapsed : Duration
  answer : TrafficAnswer

namespace TrafficStep

/-- The names of unfinished requests after a step. -/
def unfinished (names : Finset String) (s : TrafficStep) : Finset String :=
  match s.action with
  | .call name _ => insert name names
  | .poll name => if s.answer.isOver then names.erase name else names
  | .drop name => names.erase name
  | _ => names

/-- Does a step finish a request?  A call finishes the request whose name it takes. -/
def finishes (names : Finset String) (s : TrafficStep) : Bool :=
  match s.action with
  | .call name _ => decide (name ∈ names)
  | .poll name => decide (name ∈ names) && s.answer.isOver
  | .drop name => decide (name ∈ names)
  | _ => false

/-- What a step should be to the meter: an update, if it finishes a request. -/
def meterEvents (names : Finset String) (s : TrafficStep) : List MeterEvent :=
  match s.action with
  | .event e => [e]
  | _ => if s.finishes names then [.record s.elapsed] else []

private theorem toNat_mem_add_card_erase (names : Finset String) (name : String) :
    (decide (name ∈ names)).toNat + (names.erase name).card = names.card := by
  by_cases h : name ∈ names
  · have hcard := Finset.card_erase_add_one h
    rw [decide_eq_true h, Bool.toNat_true]
    omega
  · rw [decide_eq_false h, Bool.toNat_false, Finset.erase_eq_of_notMem h, Nat.zero_add]

/-- Calls open a request each, and finishing steps close one each. -/
theorem finishes_add_card (names : Finset String) (s : TrafficStep) :
    (s.finishes names).toNat + (s.unfinished names).card =
      names.card + s.action.isCall.toNat := by
  obtain ⟨action, elapsed, answer⟩ := s
  cases action with
  | call name script =>
      show (decide (name ∈ names)).toNat + (insert name names).card = names.card + 1
      by_cases h : name ∈ names
      · rw [decide_eq_true h, Finset.insert_eq_of_mem h]
        exact Nat.add_comm ..
      · rw [decide_eq_false h, Finset.card_insert_of_notMem h]
        exact Nat.zero_add _
  | poll name =>
      show (decide (name ∈ names) && answer.isOver).toNat
        + (if answer.isOver then names.erase name else names).card = names.card
      cases answer.isOver with
      | true => rw [Bool.and_true, if_pos rfl, toNat_mem_add_card_erase]
      | false => rw [Bool.and_false, if_neg Bool.false_ne_true, Bool.toNat_false, Nat.zero_add]
  | drop name => exact toNat_mem_add_card_erase names name
  | ready inner => exact Nat.zero_add _
  | event e => exact Nat.zero_add _

end TrafficStep

namespace Traffic

/-- The steps of a run. -/
def steps (t : Traffic) (actions : List (TrafficAction × Duration)) : List TrafficStep :=
  List.zipWith (fun a answer => ⟨a.1, a.2, answer⟩) actions (t.run actions).1

/-- In which steps of a run the meter hears of a request. -/
def recordings (t : Traffic) : List (TrafficAction × Duration) → List Bool
  | [] => []
  | (a, elapsed) :: rest => (respond t.held a).2.2 :: (t.act elapsed a).2.recordings rest

/-- The names of unfinished requests after some steps. -/
def unfinished (names : Finset String) (steps : List TrafficStep) : Finset String :=
  steps.foldl TrafficStep.unfinished names

/-- Which steps finish a request. -/
def finishing (names : Finset String) : List TrafficStep → List Bool
  | [] => []
  | s :: rest => s.finishes names :: finishing (s.unfinished names) rest

/-- What the steps should be to the meter. -/
def meterEvents (names : Finset String) : List TrafficStep → List MeterEvent
  | [] => []
  | s :: rest => s.meterEvents names ++ meterEvents (s.unfinished names) rest

/-- How many requests are started. -/
def calls (actions : List (TrafficAction × Duration)) : Nat :=
  actions.countP fun a => a.1.isCall

/-! ### Stopwatches

Of all that is held under a name one bit matters here: whether a stopwatch is running.  Slots and
polls are described by what they do to it, and no body is looked into after this.
-/

/-- Is a stopwatch running under a name? -/
def isRunning (held : Slots TimedExchange) (name : String) : Bool :=
  (held.get? name).any TimedExchange.running

theorem isRunning_put (held : Slots TimedExchange) (name other : String) (t : TimedExchange) :
    isRunning (held.put name t) other =
      if other = name then t.running else isRunning held other := by
  unfold isRunning
  rw [Slots.get?_put]
  split <;> rfl

theorem isRunning_erase (held : Slots TimedExchange) (name other : String) :
    isRunning (held.erase name) other =
      if other = name then false else isRunning held other := by
  unfold isRunning
  rw [Slots.get?_erase]
  split <;> rfl

/-- A poll that leaves nothing was answered with a failure. -/
private theorem isFinal_of_poll_eq_none {t : TimedExchange} (h : t.poll.2.1 = none) :
    t.poll.1.isFinal = true := by
  obtain ⟨exchange, running⟩ := t
  cases exchange with
  | waiting polls outcome =>
      cases polls with
      | zero =>
          cases outcome with
          | error f => rfl
          | ok r => simp [TimedExchange.poll, Exchange.poll] at h
      | succ polls => simp [TimedExchange.poll, Exchange.poll] at h
  | reading body => simp [TimedExchange.poll, Exchange.poll] at h

/-- A stopwatch runs on as long as the answers are not final. -/
private theorem running_of_poll_eq_some {t rest : TimedExchange} (h : t.poll.2.1 = some rest) :
    rest.running = (t.running && !t.poll.1.isFinal) := by
  rw [TimedExchange.poll_fst]
  unfold TimedExchange.poll at h
  obtain ⟨e, -, hrest⟩ := Option.map_eq_some_iff.mp h
  rw [← hrest]

private theorem isRunning_update_poll (held : Slots TimedExchange) (name other : String)
    (t : TimedExchange) :
    isRunning (held.update name t.poll.2.1) other =
      if other = name then t.running && !t.poll.1.isFinal else isRunning held other := by
  unfold isRunning
  rw [Slots.get?_update]
  by_cases h : other = name
  · rw [if_pos h, if_pos h]
    cases hrest : t.poll.2.1 with
    | none => simp [isFinal_of_poll_eq_none hrest]
    | some rest => simp [running_of_poll_eq_some hrest]
  · rw [if_neg h, if_neg h]

/-! ### The invariant -/

/-- The running stopwatches are those of the unfinished requests. -/
def Agrees (held : Slots TimedExchange) (names : Finset String) : Prop :=
  ∀ name, isRunning held name = decide (name ∈ names)

theorem empty_agrees : Agrees .empty ∅ := by
  intro name
  simp [isRunning]

/-- One step. -/
def step (t : Traffic) (elapsed : Duration) (a : TrafficAction) : TrafficStep :=
  ⟨a, elapsed, (t.act elapsed a).1⟩

/-- The meter hears of a request exactly if the step finishes one. -/
theorem respond_stops {t : Traffic} {names : Finset String} (h : Agrees t.held names)
    (elapsed : Duration) (a : TrafficAction) :
    (respond t.held a).2.2 = (t.step elapsed a).finishes names := by
  cases a with
  | call name script =>
      show (respond t.held (.call name script)).2.2 = decide (name ∈ names)
      rw [← h name]
      cases hget : t.held.get? name with
      | none => simp [respond, isRunning, hget]
      | some e => simp [respond, isRunning, hget, TimedExchange.drop]
  | poll name =>
      show _ = (decide (name ∈ names) && (t.act elapsed (.poll name)).1.isOver)
      rw [← h name]
      cases hget : t.held.get? name with
      | none => simp [respond, isRunning, hget]
      | some e =>
          simp [respond, act, isRunning, hget, TrafficAnswer.isOver_progress,
            TimedExchange.poll_stops, TimedExchange.poll_fst]
  | drop name =>
      show (respond t.held (.drop name)).2.2 = decide (name ∈ names)
      rw [← h name]
      cases hget : t.held.get? name with
      | none => simp [respond, isRunning, hget]
      | some e => simp [respond, isRunning, hget, TimedExchange.drop]
  | ready inner => rfl
  | event e => rfl

theorem act_agrees {t : Traffic} {names : Finset String} (h : Agrees t.held names)
    (elapsed : Duration) (a : TrafficAction) :
    Agrees (t.act elapsed a).2.held ((t.step elapsed a).unfinished names) := by
  intro other
  have hother := h other
  cases a with
  | call name script =>
      show isRunning (t.held.put name (.start script)) other = decide (other ∈ insert name names)
      rw [isRunning_put, hother]
      by_cases heq : other = name
      · simp [heq, TimedExchange.start]
      · simp [heq]
  | poll name =>
      have hname := h name
      unfold isRunning at hname
      show _ = decide (other ∈ if (t.act elapsed (.poll name)).1.isOver then names.erase name
        else names)
      cases hget : t.held.get? name with
      | none => simpa [act, respond, hget, TrafficAnswer.isOver] using hother
      | some e =>
          rw [hget] at hname
          simp only [act, respond, hget, TrafficAnswer.isOver_progress]
          rw [isRunning_update_poll, hother]
          by_cases heq : other = name
          · subst heq
            by_cases hfinal : e.poll.1.isFinal = true
            · simp [hfinal]
            · simpa [hfinal] using hname
          · by_cases hfinal : e.poll.1.isFinal = true
            · simp [heq, hfinal]
            · simp [heq, hfinal]
  | drop name =>
      have hname := h name
      unfold isRunning at hname
      show _ = decide (other ∈ names.erase name)
      cases hget : t.held.get? name with
      | none =>
          -- nothing is held under the name, so nothing was unfinished under it
          rw [hget] at hname
          have habsent : name ∉ names := of_decide_eq_false hname.symm
          rw [Finset.erase_eq_of_notMem habsent]
          simpa [act, respond, hget] using hother
      | some e =>
          simp only [act, respond, hget]
          rw [isRunning_erase, hother]
          by_cases heq : other = name
          · simp [heq]
          · simp [heq]
  | ready inner => exact hother
  | event e => exact hother

/-- The meter is told what the step should be to it. -/
theorem act_clocked {t : Traffic} {names : Finset String} (h : Agrees t.held names)
    (elapsed : Duration) (a : TrafficAction) :
    (t.act elapsed a).2.clocked = t.clocked.run ((t.step elapsed a).meterEvents names) := by
  show told t.clocked (respond t.held a).2.2 elapsed a = _
  rw [respond_stops h elapsed a]
  unfold TrafficStep.meterEvents
  cases (t.step elapsed a).finishes names <;> cases a <;> rfl

/-! ### Whole runs

Which steps are recorded, what is unfinished and what the meter was told each follow from the
invariant by induction.  The count does not need it: it is a fact about steps, whoever took them.
-/

theorem steps_cons (t : Traffic) (a : TrafficAction) (elapsed : Duration)
    (rest : List (TrafficAction × Duration)) :
    t.steps ((a, elapsed) :: rest) = t.step elapsed a :: (t.act elapsed a).2.steps rest := rfl

theorem recordings_eq_finishing :
    ∀ (actions : List (TrafficAction × Duration)) (t : Traffic) (names : Finset String),
      Agrees t.held names → t.recordings actions = finishing names (t.steps actions) := by
  intro actions
  induction actions with
  | nil => intro t names _; rfl
  | cons action rest ih =>
      obtain ⟨a, elapsed⟩ := action
      intro t names h
      rw [steps_cons]
      show _ :: _ = _ :: _
      rw [respond_stops h elapsed a, ih _ _ (act_agrees h elapsed a)]

theorem run_agrees :
    ∀ (actions : List (TrafficAction × Duration)) (t : Traffic) (names : Finset String),
      Agrees t.held names →
      Agrees (t.run actions).2.held (unfinished names (t.steps actions)) := by
  intro actions
  induction actions with
  | nil => intro t names h; exact h
  | cons action rest ih =>
      obtain ⟨a, elapsed⟩ := action
      intro t names h
      exact ih _ _ (act_agrees h elapsed a)

theorem run_clocked :
    ∀ (actions : List (TrafficAction × Duration)) (t : Traffic) (names : Finset String),
      Agrees t.held names →
      (t.run actions).2.clocked = t.clocked.run (meterEvents names (t.steps actions)) := by
  intro actions
  induction actions with
  | nil => intro t names _; rfl
  | cons action rest ih =>
      obtain ⟨a, elapsed⟩ := action
      intro t names h
      show ((t.act elapsed a).2.run rest).2.clocked = _
      rw [ih _ _ (act_agrees h elapsed a), act_clocked h elapsed a, steps_cons]
      exact (List.foldl_append ..).symm

private theorem calls_eq_countP :
    ∀ (actions : List (TrafficAction × Duration)) (t : Traffic),
      calls actions = (t.steps actions).countP fun s => s.action.isCall := by
  intro actions
  induction actions with
  | nil => intro t; rfl
  | cons action rest ih =>
      obtain ⟨a, elapsed⟩ := action
      intro t
      rw [steps_cons, List.countP_cons, ← ih]
      exact List.countP_cons ..

/-- What the steps open and do not close is what is unfinished in the end. -/
private theorem count_finishing_add_card :
    ∀ (steps : List TrafficStep) (names : Finset String),
      (finishing names steps).count true + (unfinished names steps).card =
        names.card + steps.countP fun s => s.action.isCall := by
  intro steps
  induction steps with
  | nil => intro names; simp [finishing, unfinished]
  | cons s rest ih =>
      intro names
      have hrest := ih (s.unfinished names)
      have hstep := s.finishes_add_card names
      have hcount : (finishing names (s :: rest)).count true
          = (finishing (s.unfinished names) rest).count true + (s.finishes names).toNat := by
        rw [finishing, List.count_cons]
        cases s.finishes names <;> rfl
      have hcalls : ((s :: rest).countP fun s => s.action.isCall)
          = (rest.countP fun s => s.action.isCall) + s.action.isCall.toNat := by
        rw [List.countP_cons]
        cases s.action.isCall <;> rfl
      have hcard : (unfinished names (s :: rest)).card
          = (unfinished (s.unfinished names) rest).card := rfl
      omega

/--
**Every request is recorded exactly once, in the step that finishes it.**  At every point
of a run the recordings and the unfinished requests, which are those with a running
stopwatch, add up to the calls, and the meter is as if it had been updated by hand in each
finishing step.
-/
theorem run_records_once (c : ClockedMeter) (actions : List (TrafficAction × Duration)) :
    let t : Traffic := ⟨c, .empty⟩
    let steps := t.steps actions
    t.recordings actions = finishing ∅ steps ∧
    (t.recordings actions).count true + (unfinished ∅ steps).card = calls actions ∧
    (∀ name, name ∈ unfinished ∅ steps ↔
      ∃ e, (t.run actions).2.held.get? name = some e ∧ e.running = true) ∧
    (t.run actions).2.clocked = c.run (meterEvents ∅ steps) := by
  intro t steps
  have hempty : Agrees t.held ∅ := empty_agrees
  have hrecordings : t.recordings actions = finishing ∅ steps :=
    recordings_eq_finishing actions t ∅ hempty
  refine ⟨hrecordings, ?_, ?_, run_clocked actions t ∅ hempty⟩
  · rw [hrecordings, count_finishing_add_card, calls_eq_countP actions t, Finset.card_empty,
      Nat.zero_add]
  · intro name
    have hname := run_agrees actions t ∅ hempty name
    rw [← decide_eq_true_iff (p := name ∈ unfinished ∅ steps), ← hname]
    exact Option.any_eq_true ..

/-- A reply that comes at once, with a body in one piece. -/
def promptScript : Script := ⟨0, .ok ⟨200, .bytes 1, [.chunk "x"]⟩⟩

/-- A request whose name is taken over, one that is polled after its end, one that is given up and
one that is left unfinished. -/
def takenOverRun : List (TrafficAction × Duration) :=
  [(.call "a" promptScript, .zero), (.poll "a", .zero), (.call "a" promptScript, .second),
   (.poll "a", .zero), (.poll "a", .zero), (.poll "a", .longest), (.poll "a", .second),
   (.call "b" promptScript, .zero), (.drop "b", .zero), (.drop "b", .second),
   (.call "c" promptScript, .zero), (.poll "c", .zero)]

/-- Four requests are started, and three recorded. -/
theorem run_records_once_takenOverRun :
    let t : Traffic := ⟨⟨.standard, .epoch⟩, .empty⟩
    t.recordings takenOverRun =
      [false, false, true, false, false, true, false, false, true, false, false, false] ∧
    calls takenOverRun = 4 ∧ unfinished ∅ (t.steps takenOverRun) = {"c"} ∧
    (t.recordings takenOverRun).count true + 1 = calls takenOverRun ∧
    (∃ e, (t.run takenOverRun).2.held.get? "c" = some e ∧ e.running = true) ∧
    (t.run takenOverRun).2.clocked =
      t.clocked.run [.record .second, .record .longest, .record .zero] := by
  intro t
  obtain ⟨hrecordings, hcount, hheld, hmeter⟩ := run_records_once ⟨.standard, .epoch⟩ takenOverRun
  have hunfinished : unfinished ∅ (t.steps takenOverRun) = {"c"} := by decide
  rw [hunfinished, Finset.card_singleton] at hcount
  have hc : "c" ∈ unfinished ∅ (t.steps takenOverRun) := by
    rw [hunfinished]
    exact Finset.mem_singleton_self "c"
  exact ⟨hrecordings, rfl, hunfinished, hcount, (hheld "c").mp hc, hmeter⟩

end Traffic

end RequestMeter
