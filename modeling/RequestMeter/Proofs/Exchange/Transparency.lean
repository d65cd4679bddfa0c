/-
The meter cannot be noticed by those it measures.

What a client should hear is said without stopwatches and without a meter.  An unmetered
service holds bare requests, and `Unmetered.respond` says what it answers.  Forgetting the
stopwatches commutes with every action (`respond_unmetered`), whether or not the action stops
one, so the answers of a whole run are those of the unmetered service (`run_answers_unmetered`).

Two facts say what those answers are.  Each name has a request of its own, so a client under one
name hears what it would hear if it were alone with the service (`heard_eq_runAlone`).  And
polling a request tells its script item by item, in the order of the script, and then says for
good that it is over (`runAlone_polls`); `poll_tells` is the step of that.
-/
import RequestMeter.Proofs.Exchange.Recording
import Mathlib.Logic.Function.Basic

namespace RequestMeter

/-- The name that an action goes by. -/
def TrafficAction.name? : TrafficAction → Option String
  | call name _ | poll name | drop name => some name
  | ready _ | event _ => none

/-! ### A service without a meter

This is what the answers are measured against.  It is said first for a client that is alone and has
one request at most, and then for all names side by side.
-/

/-- What a service without a meter holds under each name. -/
abbrev Unmetered := String → Option Exchange

namespace Unmetered

/-- One action of a client that is alone with the service: the answer, and what is left of its
request. -/
def respondAlone (held : Option Exchange) : TrafficAction → TrafficAnswer × Option Exchange
  | .call _ script => (.called, some (.ofScript script))
  | .poll _ =>
    match held with
    | none => (.gone, none)
    | some e => (.progress e.poll.1, e.poll.2)
  | .drop _ =>
    match held with
    | none => (.gone, none)
    | some _ => (.dropped, none)
  | .ready inner => (.readiness inner, held)
  | .event _ => (.nothing, held)

/-- The answers to a client that is alone with the service. -/
def runAlone (held : Option Exchange) : List TrafficAction → List TrafficAnswer
  | [] => []
  | a :: rest => (respondAlone held a).1 :: runAlone (respondAlone held a).2 rest

/-- One action of any client.  Each name has a request of its own. -/
def respond (held : Unmetered) (a : TrafficAction) : TrafficAnswer × Unmetered :=
  match a.name? with
  | none => ((respondAlone none a).1, held)
  | some name =>
    let (answer, left) := respondAlone (held name) a
    (answer, Function.update held name left)

/-- The answers to all clients. -/
def run (held : Unmetered) : List TrafficAction → List TrafficAnswer
  | [] => []
  | a :: rest => (held.respond a).1 :: run (held.respond a).2 rest

/-- A name is answered from its own request. -/
theorem respond_answer {a : TrafficAction} {name : String} (h : a.name? = some name)
    (held : Unmetered) : (held.respond a).1 = (respondAlone (held name) a).1 := by
  unfold respond
  rw [h]

theorem respond_held {a : TrafficAction} {name : String} (h : a.name? = some name)
    (held : Unmetered) :
    (held.respond a).2 = Function.update held name (respondAlone (held name) a).2 := by
  unfold respond
  rw [h]

/-- What goes on under other names, or under none, is not seen. -/
private theorem respond_held_of_ne {a : TrafficAction} {name : String} (h : a.name? ≠ some name)
    (held : Unmetered) : (held.respond a).2 name = held name := by
  cases hother : a.name? with
  | none =>
      unfold respond
      rw [hother]
  | some other =>
      have hne : name ≠ other := by
        rintro rfl
        exact h hother
      rw [respond_held hother, Function.update_of_ne hne]

/-- What is held, without its stopwatches. -/
def ofSlots (held : Slots TimedExchange) : Unmetered :=
  fun name => (held.get? name).map TimedExchange.exchange

private theorem ofSlots_of_none {held : Slots TimedExchange} {name : String}
    (h : held.get? name = none) : ofSlots held name = none := by
  rw [ofSlots, h, Option.map_none]

private theorem ofSlots_of_some {held : Slots TimedExchange} {name : String} {t : TimedExchange}
    (h : held.get? name = some t) : ofSlots held name = some t.exchange := by
  rw [ofSlots, h, Option.map_some]

theorem ofSlots_update (held : Slots TimedExchange) (name : String) (t : Option TimedExchange) :
    ofSlots (held.update name t) =
      Function.update (ofSlots held) name (t.map TimedExchange.exchange) := by
  funext other
  unfold ofSlots
  rw [Slots.get?_update]
  by_cases h : other = name
  · subst h
    rw [if_pos rfl, Function.update_self]
  · rw [if_neg h, Function.update_of_ne h]

/-- Where nothing is held, nothing needs to be let go of. -/
private theorem ofSlots_update_none {held : Slots TimedExchange} {name : String}
    (h : held.get? name = none) :
    ofSlots held = Function.update (ofSlots held) name none := by
  rw [← ofSlots_of_none h, Function.update_eq_self]

end Unmetered

namespace Traffic

open Unmetered

/-- The traffic without its stopwatches and without the meter. -/
def unmetered (t : Traffic) : Unmetered := ofSlots t.held

/-- What is heard under a name in a run. -/
def heard (t : Traffic) (actions : List (TrafficAction × Duration)) (name : String) :
    List TrafficAnswer :=
  ((t.steps actions).filter fun s => s.action.name? = some name).map TrafficStep.answer

/-- What is done under a name. -/
def doneUnder (name : String) (actions : List (TrafficAction × Duration)) :
    List TrafficAction :=
  (actions.map Prod.fst).filter fun a => a.name? = some name

/-! ### Forgetting the stopwatches -/

/-- Whether or not an action stops a stopwatch, the answer and what is left are those of the
service without a meter. -/
theorem respond_unmetered (held : Slots TimedExchange) (a : TrafficAction) :
    (respond held a).1 = ((ofSlots held).respond a).1 ∧
      ofSlots (respond held a).2.1 = ((ofSlots held).respond a).2 := by
  cases a with
  | call name script => exact ⟨rfl, ofSlots_update held name (some (.start script))⟩
  | poll name =>
      rw [respond_answer rfl, respond_held rfl]
      cases hget : held.get? name with
      | none =>
          simp only [respond, hget, ofSlots_of_none hget, respondAlone, true_and]
          exact ofSlots_update_none hget
      | some t =>
          simp only [respond, hget, ofSlots_of_some hget, respondAlone]
          rw [ofSlots_update, TimedExchange.poll_exchange, TimedExchange.poll_fst]
          exact ⟨rfl, rfl⟩
  | drop name =>
      rw [respond_answer rfl, respond_held rfl]
      cases hget : held.get? name with
      | none =>
          simp only [respond, hget, ofSlots_of_none hget, respondAlone, true_and]
          exact ofSlots_update_none hget
      | some t =>
          simp only [respond, hget, ofSlots_of_some hget, respondAlone, true_and]
          exact ofSlots_update held name none
  | ready inner => exact ⟨rfl, rfl⟩
  | event e => exact ⟨rfl, rfl⟩

theorem act_answer (t : Traffic) (elapsed : Duration) (a : TrafficAction) :
    (t.act elapsed a).1 = (t.unmetered.respond a).1 := (respond_unmetered t.held a).1

theorem act_unmetered (t : Traffic) (elapsed : Duration) (a : TrafficAction) :
    (t.act elapsed a).2.unmetered = (t.unmetered.respond a).2 := (respond_unmetered t.held a).2

/-- The answers of a run are those of the service without a meter. -/
theorem run_answers_unmetered :
    ∀ (actions : List (TrafficAction × Duration)) (t : Traffic),
      (t.run actions).1 = t.unmetered.run (actions.map Prod.fst) := by
  intro actions
  induction actions with
  | nil => intro t; rfl
  | cons action rest ih =>
      obtain ⟨a, elapsed⟩ := action
      intro t
      show (t.act elapsed a).1 :: ((t.act elapsed a).2.run rest).1 = _ :: _
      rw [ih, act_answer, act_unmetered]

/-! ### One name among many -/

private theorem heard_cons (t : Traffic) (a : TrafficAction) (elapsed : Duration)
    (rest : List (TrafficAction × Duration)) (name : String) :
    t.heard ((a, elapsed) :: rest) name =
      if a.name? = some name then (t.act elapsed a).1 :: (t.act elapsed a).2.heard rest name
      else (t.act elapsed a).2.heard rest name := by
  have hname : (t.step elapsed a).action.name? = a.name? := rfl
  unfold heard
  rw [steps_cons, List.filter_cons, hname]
  by_cases h : a.name? = some name
  · rw [if_pos h, if_pos (decide_eq_true h)]
    rfl
  · rw [if_neg h, if_neg (by simpa using h)]

private theorem doneUnder_cons (name : String) (a : TrafficAction) (elapsed : Duration)
    (rest : List (TrafficAction × Duration)) :
    doneUnder name ((a, elapsed) :: rest) =
      if a.name? = some name then a :: doneUnder name rest else doneUnder name rest := by
  unfold doneUnder
  rw [List.map_cons, List.filter_cons]
  by_cases h : a.name? = some name <;> simp [h]

/-- A client under one name hears what it would hear alone. -/
theorem heard_eq_runAlone (name : String) :
    ∀ (actions : List (TrafficAction × Duration)) (t : Traffic),
      t.heard actions name = runAlone (t.unmetered name) (doneUnder name actions) := by
  intro actions
  induction actions with
  | nil => intro t; rfl
  | cons action rest ih =>
      obtain ⟨a, elapsed⟩ := action
      intro t
      rw [heard_cons, doneUnder_cons, ih, act_unmetered]
      by_cases h : a.name? = some name
      · rw [if_pos h, if_pos h, act_answer, respond_answer h, respond_held h,
          Function.update_self, runAlone]
      · rw [if_neg h, if_neg h, respond_held_of_ne h]

end Traffic

/-! ### What a script has to tell

A transcript is made from the script before anything is polled.  It has every item in its place, but
for the failures after the first: a body that has failed once passes over any further failure.
-/

namespace BodyItem

/-- What an item of a body gives when it is polled. -/
def progress : BodyItem → Progress
  | chunk data => .chunk data
  | pending => .pending
  | failure message => .broken message

/-- The items of a body that are heard: all but the failures after the first. -/
def heard (hasFailed : Bool) : List BodyItem → List BodyItem
  | [] => []
  | item :: rest =>
    if hasFailed && item.isFailure then heard hasFailed rest
    else item :: heard (hasFailed || item.isFailure) rest

private theorem heard_cons_of_not {hasFailed : Bool} {item : BodyItem}
    (h : (hasFailed && item.isFailure) = false) (rest : List BodyItem) :
    heard hasFailed (item :: rest) = item :: heard (hasFailed || item.isFailure) rest := by
  rw [heard, h, if_neg Bool.false_ne_true]

private theorem heard_dropWhile (items : List BodyItem) :
    heard true (items.dropWhile isFailure) = heard true items := by
  induction items with
  | nil => rfl
  | cons item rest ih =>
      by_cases h : item.isFailure = true
      · rw [List.dropWhile_cons_of_pos h, ih, heard, h, Bool.and_self, if_pos rfl]
      · rw [List.dropWhile_cons_of_neg h]

end BodyItem

/-- What polling the body of a reply gives until it is at its end. -/
def Reply.transcript (r : Reply) : List Progress :=
  if r.size = .none then [] else (BodyItem.heard false r.items).map BodyItem.progress

/-- What polling gives, first for a reply and then for its body, until there is no more. -/
def Script.transcript (s : Script) : List Progress :=
  List.replicate s.delay .pending ++
    match s.outcome with
    | .error f => [.failed f]
    | .ok r => .started r.status r.size :: r.transcript

/-- What polling gives after that. -/
def Script.closing (s : Script) : TrafficAnswer :=
  match s.outcome with
  | .error _ => .gone
  | .ok _ => .progress .ended

namespace Body

/-- What polling a body gives until it is at its end. -/
def transcript (b : Body) : List Progress :=
  if b.size = .none then []
  else (BodyItem.heard b.hasFailed b.items).map BodyItem.progress

private theorem heard_remaining (b : Body) :
    BodyItem.heard b.hasFailed b.remaining = BodyItem.heard b.hasFailed b.items := by
  unfold remaining
  cases b.hasFailed with
  | false => rfl
  | true => exact BodyItem.heard_dropWhile b.items

/-- What comes next is no failure after the first. -/
private theorem not_isFailure_of_remaining {b : Body} {item : BodyItem} {rest : List BodyItem}
    (h : b.remaining = item :: rest) : (b.hasFailed && item.isFailure) = false := by
  unfold remaining at h
  cases hfailed : b.hasFailed with
  | false => rfl
  | true =>
      rw [hfailed, if_pos rfl] at h
      have hnext := List.head?_dropWhile_not BodyItem.isFailure b.items
      rw [h] at hnext
      exact hnext

theorem poll_of_remaining_nil {b : Body} (hsize : b.size ≠ .none) (h : b.remaining = []) :
    b.poll = (.ended, { b with items := [] }) := by
  unfold poll
  rw [if_neg hsize, h]

theorem poll_of_remaining_cons {b : Body} (hsize : b.size ≠ .none) {item : BodyItem}
    {rest : List BodyItem} (h : b.remaining = item :: rest) :
    b.poll = (item.progress,
      { b with items := rest, hasFailed := b.hasFailed || item.isFailure }) := by
  unfold poll
  rw [if_neg hsize, h]
  cases item <;> simp [BodyItem.progress, BodyItem.isFailure]

/-- A poll of a body tells the next of what there is to tell, and leaves the rest. -/
theorem poll_tells (b : Body) :
    b.poll.1 = b.transcript.headD .ended ∧ b.poll.2.transcript = b.transcript.tail := by
  by_cases hsize : b.size = .none
  · simp [poll, transcript, hsize]
  have hheard := b.heard_remaining
  cases hnext : b.remaining with
  | nil =>
      rw [hnext] at hheard
      rw [poll_of_remaining_nil hsize hnext]
      unfold transcript
      rw [if_neg hsize, if_neg hsize, ← hheard]
      exact ⟨rfl, rfl⟩
  | cons item rest =>
      rw [hnext, BodyItem.heard_cons_of_not (not_isFailure_of_remaining hnext)] at hheard
      rw [poll_of_remaining_cons hsize hnext]
      unfold transcript
      rw [if_neg hsize, if_neg hsize, ← hheard]
      exact ⟨rfl, rfl⟩

end Body

namespace Exchange

/-- What polling a request gives until there is no more. -/
def transcript : Exchange → List Progress
  | waiting polls outcome => (Script.mk polls outcome).transcript
  | reading body => body.transcript

/-- What polling it gives after that. -/
def closing : Exchange → TrafficAnswer
  | waiting polls outcome => (Script.mk polls outcome).closing
  | reading _ => .progress .ended

end Exchange

namespace Unmetered

/-- What polling tells of what is held, until there is no more. -/
def transcript (held : Option Exchange) : List TrafficAnswer :=
  held.elim [] fun e => e.transcript.map .progress

/-- What polling tells after that. -/
def closing (held : Option Exchange) : TrafficAnswer := held.elim .gone Exchange.closing

/-- A poll tells the next of what there is to tell, and leaves the rest. -/
theorem poll_tells (held : Option Exchange) (name : String) :
    (respondAlone held (.poll name)).1 = (transcript held).headD (closing held) ∧
      transcript (respondAlone held (.poll name)).2 = (transcript held).tail ∧
      closing (respondAlone held (.poll name)).2 = closing held := by
  cases held with
  | none => exact ⟨rfl, rfl, rfl⟩
  | some e =>
      cases e with
      | waiting polls outcome =>
          cases polls with
          | succ polls => exact ⟨rfl, rfl, rfl⟩
          | zero => cases outcome <;> exact ⟨rfl, rfl, rfl⟩
      | reading body =>
          obtain ⟨hprogress, hrest⟩ := body.poll_tells
          refine ⟨?_, ?_, rfl⟩
          · show TrafficAnswer.progress body.poll.1
              = (body.transcript.map TrafficAnswer.progress).headD (.progress .ended)
            rw [hprogress]
            cases body.transcript <;> rfl
          · show body.poll.2.transcript.map TrafficAnswer.progress = _
            rw [hrest]
            exact List.map_tail

/-- The i-th poll tells the i-th of what there is to tell, or that there is no more. -/
theorem runAlone_polls (name : String) :
    ∀ (polls : Nat) (held : Option Exchange),
      runAlone held (List.replicate polls (.poll name)) =
        (List.range polls).map fun i => (transcript held).getD i (closing held) := by
  intro polls
  induction polls with
  | zero => intro held; rfl
  | succ polls ih =>
      intro held
      obtain ⟨hanswer, hrest, hclosing⟩ := poll_tells held name
      rw [List.replicate_succ, runAlone, hanswer, ih, hrest, hclosing, List.range_succ_eq_map,
        List.map_cons, List.map_map]
      cases transcript held <;> rfl

end Unmetered

namespace Traffic

open Unmetered

/--
**The meter cannot be noticed**, whatever it holds, whatever requests are on their way and
however long they take.  Every answer of a run, and whether requests are taken, is that of the
service without a meter; a client under one name hears what it would hear alone; and one that
calls and then polls hears the transcript of its script, nothing of it lost, doubled, moved or
changed.
-/
theorem run_transparent (t : Traffic) (actions : List (TrafficAction × Duration)) :
    (t.run actions).1 = t.unmetered.run (actions.map Prod.fst) ∧
    (∀ name, t.heard actions name = runAlone (t.unmetered name) (doneUnder name actions)) ∧
    ∀ (name : String) (script : Script) (polls : Nat),
      doneUnder name actions = .call name script :: List.replicate polls (.poll name) →
      t.heard actions name = .called ::
        (List.range polls).map fun i =>
          (script.transcript.map TrafficAnswer.progress).getD i script.closing := by
  refine ⟨run_answers_unmetered actions t, fun name => heard_eq_runAlone name actions t, ?_⟩
  intro name script polls hdone
  rw [heard_eq_runAlone, hdone, runAlone, respondAlone, runAlone_polls]
  rfl

/-- A reply that comes late, waits once and fails twice. -/
def haltingScript : Script :=
  ⟨1, .ok ⟨200, .stream, [.chunk "x", .pending, .failure "e", .failure "f", .chunk "y"]⟩⟩

/-- A request read past its end, while another is read and given up and the clock is set. -/
def crossingRun : List (TrafficAction × Duration) :=
  [(.call "a" haltingScript, .zero), (.poll "a", .zero), (.poll "b", .zero), (.poll "a", .second),
   (.event (.set .earliest), .zero), (.poll "a", .zero), (.poll "a", .second),
   (.drop "b", .longest), (.poll "a", .longest), (.ready .pending, .zero), (.poll "a", .zero),
   (.poll "a", .zero), (.poll "a", .zero)]

theorem run_transparent_crossingRun :
    let t : Traffic := ⟨⟨.standard, .epoch⟩, Slots.empty.put "b" (.start haltingScript)⟩
    doneUnder "a" crossingRun = .call "a" haltingScript :: List.replicate 8 (.poll "a") ∧
    t.heard crossingRun "a" =
      [.called, .progress .pending, .progress (.started 200 .stream), .progress (.chunk "x"),
        .progress .pending, .progress (.broken "e"), .progress (.chunk "y"), .progress .ended,
        .progress .ended] := by
  intro t
  have hdone : doneUnder "a" crossingRun =
      .call "a" haltingScript :: List.replicate 8 (.poll "a") := rfl
  exact ⟨hdone, (run_transparent t crossingRun).2.2 "a" haltingScript 8 hdone⟩

end Traffic

end RequestMeter
