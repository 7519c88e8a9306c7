import QueryImpact.Store.Lookup

/-!
# Time limits and cancellation

An analysis can be given a limit on its duration, over all its questions together, and can be
cancelled.  Before each question the cancellation is checked, then the deadline.  While the store
works on a question nothing is noticed, so an answer that it works out without a pause is taken,
however late it is.  A pause ends the analysis when the deadline has come before it; during the
pause the cancellation and the deadline are awaited, the cancellation first, and a store that goes
on at the deadline is still in time.  There are no partial results.  An analysis whose deadline is
beyond the clock does not begin.
-/

namespace QueryImpact

/-- A limit on an analysis. -/
structure Control where
  /-- How long it may take. -/
  timeout : Option Milliseconds
  /-- The number of started questions from which on it counts as cancelled: zero means from the
  beginning, one means from the start of the first question, and so on. -/
  cancelAt : Option Nat
deriving DecidableEq

namespace Control

/-- No limit. -/
def none : Control :=
  ⟨.none, .none⟩

/-- The control with a timeout in case it has none of its own. -/
def withDefaultTimeout (control : Control) (timeout : Option Milliseconds) : Control :=
  { control with timeout := control.timeout.or timeout }

/-- Whether the analysis counts as cancelled once so many questions have been started. -/
def isCancelled (control : Control) (started : Nat) : Bool :=
  control.cancelAt.any fun number => number ≤ started

end Control

/-- A control whose cancellation may also be requested at a point in time. -/
structure TimedControl extends Control where
  /-- The point in time from which on the analysis counts as cancelled. -/
  cancelTime : Option Milliseconds
deriving DecidableEq

namespace TimedControl

/-- No limit. -/
def none : TimedControl :=
  ⟨.none, .none⟩

/-- The control with a timeout in case it has none of its own. -/
def withDefaultTimeout (control : TimedControl) (timeout : Option Milliseconds) : TimedControl :=
  ⟨control.toControl.withDefaultTimeout timeout, control.cancelTime⟩

/-- Whether the analysis counts as cancelled, once so many questions have been started, at a point
in time. -/
def isCancelled (control : TimedControl) (started : Nat) (now : Milliseconds) : Bool :=
  control.toControl.isCancelled started || control.cancelTime.any (· ≤ now)

/-- When the cancellation is requested, seen from a question that is the last of so many and is
started now. -/
def requestedAt (control : TimedControl) (started : Nat) (now : Milliseconds) :
    Option Milliseconds :=
  if control.toControl.isCancelled started then some now else control.cancelTime

end TimedControl

/-- A pause in the work on a question. -/
structure Pause where
  /-- When it begins. -/
  begins : Milliseconds
  /-- When it ends; nothing when it never does. -/
  ends : Option Milliseconds
deriving DecidableEq

/-- How the store spends its time on a question. -/
inductive Course where
  /-- It works for a time and has the answer. -/
  | work (busy : Milliseconds)
  /-- It works for a time, pauses for a time and goes on. -/
  | pause (busy idle : Milliseconds) (later : Course)
  /-- It works for a time and never goes on. -/
  | hang (busy : Milliseconds)
deriving DecidableEq

/-- A store that takes time to answer. -/
structure TimedStore (σ : Type) where
  /-- How the store will spend its time on a question. -/
  course : σ → Lookup → Course
  /-- The answer when the time has come, and the store afterwards. -/
  answer : (question : Lookup) → σ → Except StoreError question.Answer × σ

/-- The state of a running analysis. -/
structure Progress (σ : Type) where
  /-- The time. -/
  now : Milliseconds
  /-- How many questions have been started. -/
  started : Nat
  /-- The store. -/
  store : σ

/-- How a question ends before its answer can be used. -/
inductive Waiting where
  /-- The answer comes at the given time. -/
  | answeredAt (time : Milliseconds)
  /-- The analysis is cancelled first. -/
  | cancelledAt (time : Milliseconds)
  /-- The deadline comes first. -/
  | expiredAt (time : Milliseconds)
  /-- Nothing ever happens. -/
  | forever
deriving DecidableEq

/-- What happens in a pause before the store goes on. -/
def Pause.interruption? (pause : Pause) (cancelTime deadline : Option Milliseconds) :
    Option Waiting :=
  if deadline.any (· ≤ pause.begins) then some (.expiredAt pause.begins)
  else
    let cancelled := cancelTime.filter fun time =>
      deadline.all (time ≤ ·) && pause.ends.all (time ≤ ·)
    let expired := deadline.filter fun limit => pause.ends.all (limit < ·)
    (cancelled.map fun time => .cancelledAt (max pause.begins time)).or (expired.map .expiredAt)

namespace Course

/-- A mere wait for the given time, or a wait that never ends. -/
def wait : Option Milliseconds → Course
  | some 0 => work 0
  | some span => pause 0 span (work 0)
  | none => hang 0

/-- What comes of a question that is asked at a point in time. -/
def outcome (cancelTime deadline : Option Milliseconds) : Course → Milliseconds → Waiting
  | work busy, now => .answeredAt (now + busy)
  | pause busy idle later, now =>
      ((⟨now + busy, some (now + busy + idle)⟩ : Pause).interruption? cancelTime deadline).getD
        (later.outcome cancelTime deadline (now + busy + idle))
  | hang busy, now =>
      ((⟨now + busy, none⟩ : Pause).interruption? cancelTime deadline).getD .forever

end Course

/-- How an analysis ends. -/
inductive Ending (α : Type) where
  /-- With a result. -/
  | returned (result : Except StoreError α)
  /-- Never. -/
  | never
  /-- Before it begins: its deadline is beyond the clock. -/
  | aborted

namespace Analysis

variable {σ α : Type}

/-- Run the rest of an analysis that has to be finished at its deadline. -/
def runUntil (store : TimedStore σ) (control : TimedControl) (deadline : Option Milliseconds) :
    Analysis α → Progress σ → Ending α × Progress σ
  | .done value, progress => (.returned (.ok value), progress)
  | .call question next, progress =>
      if control.isCancelled progress.started progress.now then
        (.returned (.error .cancelled), progress)
      else if deadline.any (· ≤ progress.now) then
        (.returned (.error (.timedOut (control.timeout.getD 0))), progress)
      else
        let begun := { progress with started := progress.started + 1 }
        match (store.course begun.store question).outcome
          (control.requestedAt begun.started begun.now) deadline begun.now with
        | .answeredAt time =>
            match store.answer question begun.store with
            | (.ok answer, after) =>
                runUntil store control deadline (next answer)
                  { begun with now := time, store := after }
            | (.error error, after) =>
                (.returned (.error error), { begun with now := time, store := after })
        | .cancelledAt time => (.returned (.error .cancelled), { begun with now := time })
        | .expiredAt time =>
            (.returned (.error (.timedOut (control.timeout.getD 0))), { begun with now := time })
        | .forever => (.never, begun)

/-- Run an analysis under a control, from a point in time on. -/
def runControlled (store : TimedStore σ) (control : TimedControl) (analysis : Analysis α)
    (now : Milliseconds) (state : σ) : Ending α × Progress σ :=
  let deadline := control.timeout.map (now + ·)
  if deadline.any (Duration.lastPoint < ·) then (.aborted, ⟨now, 0, state⟩)
  else analysis.runUntil store control deadline ⟨now, 0, state⟩

end Analysis

end QueryImpact
